import BleRemote.Timers.Pending

/-! What the sleeptimer service promises to whoever starts a timer. -/

set_option autoImplicit false
namespace BleRemote.Timers

open Ordered

variable {Handle : Type}

def Entry.starts : Entry Handle → Option (Request Handle × UInt32)
  | .startTimer request _ wakeupDelay => some (request, wakeupDelay)
  | .startPeriodicTimer request _ wakeupDelay => some (request, wakeupDelay)
  | _ => none

/-- When a timer is due that is started at a time: no sooner than the clocks can be restored. -/
def Request.deadline (request : Request Handle) (wakeupDelay : UInt32) (now : Nat) : Nat :=
  if request.optionFlags = 0 ∧ request.timeout < wakeupDelay then now + wakeupDelay.toNat
  else now + request.timeout.toNat

variable [DecidableEq Handle]

def lastUpdate (counter : Nat) (ticks : List (Tick Handle)) : Nat :=
  ((clockwork counter).after (clockwork counter).start ticks).updated

/-- A timer is started in a run, and neither stopped nor called in the rest of it. -/
structure Waits (counter : Nat) (first : List (Tick Handle)) (tick : Tick Handle)
    (rest : List (Tick Handle)) (request : Request Handle) (wakeupDelay : UInt32) : Prop where
  starts : tick.entry.starts = some (request, wakeupDelay)
  accepted : .returned .ok ∈ ((sleeptimer counter).step
    ((sleeptimer counter).after (sleeptimer counter).start first) tick).2
  positive : request.timeout ≠ 0
  hasCallback : request.hasCallback = true
  unstopped : ∀ t ∈ rest, t.entry ≠ .stopTimer request.handle
  uncalled : .callback request.handle ∉ (sleeptimer counter).trace
    ((sleeptimer counter).after (sleeptimer counter).start (first ++ [tick])) rest

def Pending (request : Request Handle) (d : Nat) (s : Schedule Handle) : Prop :=
  ∃ alarm, alarm.handle = request.handle ∧ alarm.hasCallback = request.hasCallback ∧
    alarm.priority = request.priority ∧ (alarm, d) ∈ s.alarms

section
variable {s : Schedule Handle} {request : Request Handle}

theorem start_pending {now : Nat} {timeoutPeriodic : UInt32} {refused : Status}
    {counter wakeupDelay : UInt32} (refuses : refused ≠ .ok) (positive : request.timeout ≠ 0)
    (accepted : .returned .ok ∈
      (deadlineQueue.start now request timeoutPeriodic refused counter wakeupDelay s).2) :
    Pending request (request.deadline wakeupDelay now)
      (deadlineQueue.start now request timeoutPeriodic refused counter wakeupDelay s).1 := by
  rw [Queue.start] at accepted ⊢
  split
  · next running =>
    rw [if_pos running] at accepted
    exact absurd (Happening.returned.inj (List.mem_singleton.mp accepted)).symm refuses
  · rw [Queue.createTimer, if_neg fun none => positive none.1, if_neg positive]
    refine ⟨_, rfl, rfl, rfl, (mem_insertTime ..).mpr (.inl (Prod.ext rfl ?_))⟩
    rw [Request.deadline, Alarm.restorable]
    split <;> rfl

theorem step_pending {tick : Tick Handle} {wakeupDelay : UInt32}
    (starts : tick.entry.starts = some (request, wakeupDelay)) (positive : request.timeout ≠ 0)
    (accepted : .returned .ok ∈ (deadlineQueue.step s tick).2) :
    Pending request (request.deadline wakeupDelay tick.now) (deadlineQueue.step s tick).1 := by
  obtain ⟨now, entry⟩ := tick
  cases entry with
  | startTimer own counter delay =>
    obtain ⟨rfl, rfl⟩ := Prod.mk.inj (Option.some.inj starts)
    exact start_pending (fun same => Status.noConfusion same) positive accepted
  | startPeriodicTimer own counter delay =>
    obtain ⟨rfl, rfl⟩ := Prod.mk.inj (Option.some.inj starts)
    exact start_pending (fun same => Status.noConfusion same) positive accepted
  | stopTimer | updateDeltaList | processExpired =>
    exact absurd starts (Option.some_ne_none _).symm

/-- The deltas up to a timer add up to the time that is left to it. -/
theorem addDeltas_times (handle : Handle) (time : UInt32) (timers : List (Alarm Handle × UInt32))
    (bounded : ∀ e ∈ times time.toNat (natural timers), e.2 < UInt32.size) :
    (addDeltas handle time timers).map UInt32.toNat =
      ((times time.toNat (natural timers)).find? fun e => e.1.handle = handle).map Prod.snd := by
  induction timers generalizing time with
  | nil => rfl
  | cons entry rest ih =>
    obtain ⟨current, delta⟩ := entry
    have fits : time.toNat + delta.toNat < UInt32.size := bounded _ (List.mem_cons_self ..)
    have sum : (time + delta).toNat = time.toNat + delta.toNat := by
      rw [UInt32.toNat_add, Nat.mod_eq_of_lt fits]
    rw [natural_cons, times, List.find?_cons, addDeltas]
    by_cases found : current.handle = handle
    · rw [if_pos found, decide_eq_true found]
      exact congrArg some sum
    · rw [if_neg found, decide_eq_false found, ← sum]
      refine ih (time + delta) fun e member => bounded e (List.mem_cons_of_mem _ ?_)
      rwa [← sum]

theorem Schedule.Unique.find (unique : s.Unique) {e : Alarm Handle × Nat} (member : e ∈ s.alarms) :
    s.alarms.find? (fun other => other.1.handle = e.1.handle) = some e := by
  cases found : s.alarms.find? fun other => other.1.handle = e.1.handle with
  | none => simpa using List.find?_eq_none.mp found e member
  | some other =>
    have same : other.1.handle = e.1.handle := by
      simpa using List.find?_some found
    rw [unique.same (List.mem_of_find?_eq_some found) member same]

theorem Stands.timeRemaining {c : Sleeptimer Handle} (stands : Stands c s) (unique : s.Unique)
    {alarm : Alarm Handle} {d : Nat} (pending : (alarm, d) ∈ s.alarms) {now reading : Nat}
    (later : s.updated ≤ now) (turn : now < s.updated + UInt32.size) (reads : now ≤ reading)
    (readTurn : reading < now + UInt32.size) :
    (getTimerTimeRemaining alarm.handle now (UInt32.ofNat reading) c).map UInt32.toNat =
      some (d - reading) := by
  have updated := stands.update later turn
  have since : (UInt32.ofNat reading - UInt32.ofNat now).toNat = reading - now := by
    rw [← UInt32.ofNat_sub reads]
    exact UInt32.toNat_ofNat_of_lt' (by omega)
  have left : (addDeltas alarm.handle 0 (updateDeltaList now c).timerHead).map UInt32.toNat =
      some (d - now) := by
    have sums := addDeltas_times alarm.handle 0 (updateDeltaList now c).timerHead
    rw [UInt32.toNat_zero, updated.left] at sums
    rw [sums updated.bounded, Schedule.left, List.find?_map]
    exact congrArg (fun found : Option (Alarm Handle × Nat) =>
      (found.map fun e => (e.1, e.2 - now)).map Prod.snd) (unique.find pending)
  obtain ⟨time, summed, value⟩ := Option.map_eq_some_iff.mp left
  rw [getTimerTimeRemaining, summed, Option.map_some, Option.map_some, updateDeltaList]
  refine congrArg some ?_
  split
  · next more =>
    rw [UInt32.toNat_sub_of_le _ _ (UInt32.le_of_lt more), since, value]
    omega
  · next less =>
    have below := UInt32.le_iff_toNat_le.mp (UInt32.not_lt.mp less)
    rw [since, value] at below
    rw [UInt32.toNat_zero]
    omega

theorem Pending.step {d : Nat} (pending : Pending request d s) (unique : s.Unique)
    (called : request.hasCallback = true) (tick : Tick Handle)
    (unstopped : tick.entry ≠ .stopTimer request.handle)
    (uncalled : .callback request.handle ∉ (deadlineQueue.step s tick).2) :
    Pending request d (deadlineQueue.step s tick).1 := by
  obtain ⟨alarm, handle, callback, priority, member⟩ := pending
  rw [← handle] at unstopped uncalled
  exact ⟨alarm, handle, callback, priority,
    step_keeps unique member (callback.trans called) tick unstopped uncalled⟩

theorem unique_start (counter : Nat) : (@clockwork Handle _ counter).start.Unique :=
  List.nodup_nil

theorem unique_run (counter : Nat) (unique : s.Unique) (ticks : List (Tick Handle)) :
    ((clockwork counter).after s ticks).Unique :=
  (clockwork counter).invariant (P := fun _ s => s.Unique) unique
    (fun _ _ tick before => before.step tick) ticks

theorem Pending.run (counter : Nat) {d : Nat} (pending : Pending request d s) (unique : s.Unique)
    (called : request.hasCallback = true) (rest : List (Tick Handle))
    (unstopped : ∀ t ∈ rest, t.entry ≠ .stopTimer request.handle)
    (uncalled : .callback request.handle ∉ (clockwork counter).trace s rest) :
    Pending request d ((clockwork counter).after s rest) := by
  induction rest generalizing s with
  | nil => exact pending
  | cons tick rest ih =>
    rw [Reactive.Machine.trace_cons, List.mem_append, not_or] at uncalled
    have next := pending.step unique called tick (unstopped tick (List.mem_cons_self ..)) uncalled.1
    exact ih next (unique.step tick) (fun t member => unstopped t (List.mem_cons_of_mem _ member))
      uncalled.2

end

section
variable {counter : Nat} {first : List (Tick Handle)} {tick : Tick Handle}
  {rest : List (Tick Handle)} {request : Request Handle} {wakeupDelay : UInt32}

/-- An entry in a paced run and the entries behind it give what they give over deadlines. -/
theorem Paced.outputs (paced : Paced counter (first ++ tick :: rest)) :
    ((sleeptimer counter).step
      ((sleeptimer counter).after (sleeptimer counter).start first) tick).2 =
        (deadlineQueue.step
          ((clockwork counter).after (clockwork counter).start first) tick).2 ∧
      (sleeptimer counter).trace ((sleeptimer counter).after (sleeptimer counter).start
        (first ++ [tick])) rest =
        (clockwork counter).trace ((clockwork counter).after (clockwork counter).start
          (first ++ [tick])) rest := by
  obtain ⟨before, now, behind⟩ := Reactive.Machine.Permits.append.mp paced
  have output := ((stands_run before).step tick now.1 now.2).1
  have stands := (sleeptimer_simulates counter).step _ _ tick (stands_run before) now
  rw [Reactive.Machine.after_concat, Reactive.Machine.after_concat]
  exact ⟨output, (sleeptimer_simulates counter).trace stands.1 behind⟩

theorem Waits.pending (waits : Waits counter first tick rest request wakeupDelay)
    (paced : Paced counter (first ++ tick :: rest)) :
    Pending request (request.deadline wakeupDelay tick.now)
      ((clockwork counter).after (clockwork counter).start (first ++ tick :: rest)) := by
  have accepted := waits.accepted
  have uncalled := waits.uncalled
  rw [paced.outputs.1] at accepted
  rw [paced.outputs.2, Reactive.Machine.after_concat] at uncalled
  have unique := unique_run counter (unique_start counter) first
  rw [Reactive.Machine.after_append]
  exact (step_pending waits.starts waits.positive accepted).run counter (unique.step tick)
    waits.hasCallback rest waits.unstopped uncalled

/-- Two timers around an overflow of the counter: the second, to last 30 ticks, and what follows. -/
def turnOver : List (Tick Nat) × Tick Nat × List (Tick Nat) :=
  ([⟨UInt32.size - 10, .startTimer ⟨1, 100, true, 0, 0⟩ (UInt32.ofNat (UInt32.size - 10)) 5⟩],
    ⟨UInt32.size - 4, .startTimer ⟨2, 30, true, 3, 0⟩ (UInt32.ofNat (UInt32.size - 4)) 5⟩,
    [⟨UInt32.size, .updateDeltaList⟩, ⟨UInt32.size + 8, .stopTimer 1⟩])

/-- A timer has the time left that it was started with, less what has passed, whatever other
timers are started, stopped and called. -/
theorem time_left (waits : Waits counter first tick rest request wakeupDelay)
    (paced : Paced counter (first ++ tick :: rest)) {now reading : Nat}
    (later : lastUpdate counter (first ++ tick :: rest) ≤ now)
    (turn : now < lastUpdate counter (first ++ tick :: rest) + UInt32.size)
    (reads : now ≤ reading) (readTurn : reading < now + UInt32.size) :
    (getTimerTimeRemaining request.handle now (UInt32.ofNat reading) ((sleeptimer counter).after
      (sleeptimer counter).start (first ++ tick :: rest))).map UInt32.toNat =
        some (request.deadline wakeupDelay tick.now - reading) := by
  obtain ⟨alarm, handle, -, -, member⟩ := waits.pending paced
  have stands := stands_run paced
  rw [← handle]
  exact stands.timeRemaining (unique_run counter (unique_start counter) _) member later turn reads
    readTurn

theorem time_left_turnOver :
    (getTimerTimeRemaining 2 (UInt32.size + 10) (UInt32.ofNat (UInt32.size + 12))
      ((sleeptimer (UInt32.size - 20)).after (sleeptimer (UInt32.size - 20)).start
        (turnOver.1 ++ turnOver.2.1 :: turnOver.2.2))).map UInt32.toNat = some 14 :=
  have waits : Waits (UInt32.size - 20) turnOver.1 turnOver.2.1 turnOver.2.2
      ⟨2, 30, true, 3, 0⟩ 5 :=
    ⟨rfl, by decide, by decide, rfl, by decide, by decide⟩
  time_left waits (by decide) (by decide) (by decide) (by decide) (by decide)

/-- Its callback is not called before it is due, and once an update finds it due, the compare
interrupt goes on and turns to no timer of a lower priority. -/
theorem called_when_due (waits : Waits counter first tick rest request wakeupDelay)
    (paced : Paced counter (first ++ tick :: rest)) :
    (∀ next : Tick Handle, Paced counter (first ++ tick :: rest ++ [next]) →
      .callback request.handle ∈ ((sleeptimer counter).step ((sleeptimer counter).after
        (sleeptimer counter).start (first ++ tick :: rest)) next).2 →
      request.deadline wakeupDelay tick.now ≤ lastUpdate counter (first ++ tick :: rest)) ∧
    (request.deadline wakeupDelay tick.now ≤ lastUpdate counter (first ++ tick :: rest) →
      ∃ alarm, deltaQueue.current ((sleeptimer counter).after (sleeptimer counter).start
        (first ++ tick :: rest)) = some alarm ∧ alarm.priority ≤ request.priority) := by
  obtain ⟨alarm, handle, -, priority, member⟩ := waits.pending paced
  have stands := stands_run paced
  have unique := unique_run counter (unique_start counter) (first ++ tick :: rest)
  constructor
  · intro next pacedNext called
    obtain ⟨-, turn, -⟩ := Reactive.Machine.Permits.append.mp pacedNext
    have output := (stands.step next turn.1 turn.2).1
    refine (step_called unique member next ?_).2.2
    rw [← output, handle]
    exact called
  · intro passed
    rw [stands.current, ← priority]
    exact current_of_due member passed

theorem called_when_due_turnOver : ∃ alarm, deltaQueue.current
    ((sleeptimer (UInt32.size - 20)).after (sleeptimer (UInt32.size - 20)).start
      (turnOver.1 ++ turnOver.2.1 ::
        (turnOver.2.2 ++ [⟨UInt32.size + 26, .updateDeltaList⟩]))) = some alarm ∧
    alarm.priority ≤ 3 :=
  have waits : Waits (UInt32.size - 20) turnOver.1 turnOver.2.1
      (turnOver.2.2 ++ [⟨UInt32.size + 26, .updateDeltaList⟩]) ⟨2, 30, true, 3, 0⟩ 5 :=
    ⟨rfl, by decide, by decide, rfl, by decide, by decide⟩
  (called_when_due waits (by decide)).2 (by decide)

end
end BleRemote.Timers
