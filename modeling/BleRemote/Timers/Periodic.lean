import BleRemote.Timers.Service

/-! Periodic timers do not drift.

A late turn of the loop shortens the next timeout, and a turn that is late by more than a period
leaves the timer due. The tick that it is expected at is a multiple of the period behind the start.
-/

set_option autoImplicit false
namespace BleRemote.Timers

open Ordered

variable {Handle : Type} [DecidableEq Handle]

/-- A turn of the loop reads the counter as the update did, with the clocks there, and finds no
timer overdue by half a turn of the counter. -/
def Prompt (s : Schedule Handle) (tick : Tick Handle) : Prop :=
  match tick.entry with
  | .processExpired counter wakeupDelay => counter = UInt32.ofNat s.updated ∧ wakeupDelay = 0 ∧
      ∀ e ∈ s.alarms, s.updated < e.2 + UInt32.size / 2
  | _ => True

omit [DecidableEq Handle] in
instance (s : Schedule Handle) (tick : Tick Handle) : Decidable (Prompt s tick) :=
  match tick with
  | ⟨_, .processExpired _ _⟩ => inferInstanceAs (Decidable (_ ∧ _ ∧ _))
  | ⟨_, .startTimer ..⟩ => isTrue trivial
  | ⟨_, .startPeriodicTimer ..⟩ => isTrue trivial
  | ⟨_, .stopTimer _⟩ => isTrue trivial
  | ⟨_, .updateDeltaList⟩ => isTrue trivial

omit [DecidableEq Handle] in
theorem periodicCorrection_eq {alarm : Alarm Handle} {expected reading : Nat}
    (expects : alarm.timeoutExpectedTc = UInt32.ofNat expected) (later : expected ≤ reading)
    (near : reading < expected + UInt32.size / 2) :
    alarm.periodicCorrection (UInt32.ofNat reading) = (reading - expected : Nat) := by
  have size : UInt32.size / 2 = 2147483648 := rfl
  rw [Alarm.periodicCorrection, expects, ← UInt32.ofNat_sub later, UInt32.toInt32_ofNat']
  exact Int32.toInt_ofNat_of_lt (by omega)

theorem toNat_ofInt_sub {period correction : Nat} (within : correction ≤ period)
    (fits : period < UInt32.size) :
    (UInt32.ofInt ((period : Int) - (correction : Int))).toNat = period - correction := by
  have size : UInt32.size = 4294967296 := rfl
  rw [UInt32.ofInt, UInt32.toNat_ofNat_of_lt' (by omega)]
  omega

/-- The list is not updated to a time that lies behind. -/
theorem step_updated (s : Schedule Handle) (tick : Tick Handle) (later : s.updated ≤ tick.now) :
    s.updated ≤ (deadlineQueue.step s tick).1.updated := by
  have started (now : Nat) (after : s.updated ≤ now) (request : Request Handle)
      (timeoutPeriodic : UInt32) (refused : Status) (counter wakeupDelay : UInt32) : s.updated ≤
        (deadlineQueue.start now request timeoutPeriodic refused counter wakeupDelay s).1.updated := by
    rw [Queue.start]
    split
    · exact Nat.le_refl _
    · rw [Queue.createTimer]
      split
      · exact Nat.le_refl _
      · exact after
  obtain ⟨now, entry⟩ := tick
  cases entry with
  | startTimer request counter wakeupDelay => exact started now later _ _ _ _ _
  | startPeriodicTimer request counter wakeupDelay => exact started now later _ _ _ _ _
  | stopTimer handle =>
    change s.updated ≤ (deadlineQueue.stopTimer now handle s).1.updated
    rw [Queue.stopTimer]
    split <;> exact later
  | updateDeltaList => exact later
  | processExpired counter wakeupDelay =>
    change s.updated ≤ (deadlineQueue.processExpired counter wakeupDelay s).1.updated
    rw [Queue.processExpired]
    cases deadlineQueue.current s with
    | none => exact Nat.le_refl _
    | some current =>
      dsimp only
      split
      · exact Nat.le_refl _
      · split <;> exact Nat.le_refl _

omit [DecidableEq Handle] in
theorem restorable_awake (alarm : Alarm Handle) (timeout : UInt32) :
    alarm.restorable timeout 0 = (timeout, []) := by
  rw [Alarm.restorable, if_neg fun sooner => UInt32.not_lt_zero sooner.2]

theorem processExpired_awake {s : Schedule Handle} {alarm : Alarm Handle} {counter : UInt32}
    (current : deadlineQueue.current s = some alarm) :
    (deadlineQueue.processExpired counter 0 s).2 = alarm.call := by
  rw [Queue.processExpired, current]
  dsimp only
  split
  · rfl
  · split
    · rfl
    · rw [Queue.insertTimer, restorable_awake]; rfl

/-- A periodic timer that has been called so often: it is due at the next period's end, unless it
is behind by more than a period. -/
structure Scheduled (request : Request Handle) (start calls : Nat) (s : Schedule Handle)
    (alarm : Alarm Handle) (d : Nat) : Prop where
  member : (alarm, d) ∈ s.alarms
  handle : alarm.handle = request.handle
  hasCallback : alarm.hasCallback = true
  period : alarm.timeoutPeriodic = request.timeout
  expects : alarm.timeoutExpectedTc =
    UInt32.ofNat (start + (calls + 1) * request.timeout.toNat)
  due : d = start + (calls + 1) * request.timeout.toNat ∨
    d ≤ start + (calls + 1) * request.timeout.toNat ∧
      start + (calls + 1) * request.timeout.toNat ≤ s.updated
  passed : start + calls * request.timeout.toNat ≤ s.updated

namespace Scheduled

variable {request : Request Handle} {start calls d : Nat} {s : Schedule Handle}
  {alarm : Alarm Handle} (scheduled : Scheduled request start calls s alarm d)
include scheduled

/-- When none is due, all periods that have passed were called. -/
theorem calls_eq (positive : request.timeout ≠ 0) (idle : deadlineQueue.current s = none) :
    calls = (s.updated - start) / request.timeout.toNat := by
  have later : ¬ d ≤ s.updated := by
    intro passed
    obtain ⟨turned, current, -⟩ := current_of_due scheduled.member passed
    rw [idle] at current
    exact Option.some_ne_none _ current.symm
  have next : s.updated < start + (calls + 1) * request.timeout.toNat := by
    have due := scheduled.due
    omega
  have period : 0 < request.timeout.toNat :=
    Nat.pos_of_ne_zero fun none => positive (UInt32.toNat_inj.mp none)
  have passed := scheduled.passed
  refine (Nat.div_eq_of_lt_le ?_ ?_).symm
  · omega
  · omega

/-- A turn of the loop for this timer. -/
theorem turn (current : deadlineQueue.current s = some alarm) (positive : request.timeout ≠ 0)
    (overdue : s.updated < d + UInt32.size / 2) (passed : d ≤ s.updated) :
    ∃ d', Scheduled request start (calls + 1)
      (deadlineQueue.processExpired (UInt32.ofNat s.updated) 0 s).1 alarm.expectNext d' := by
  have expected : start + (calls + 1) * request.timeout.toNat ≤ s.updated := by
    have due := scheduled.due
    omega
  have near : s.updated < start + (calls + 1) * request.timeout.toNat + UInt32.size / 2 := by
    have due := scheduled.due
    omega
  have correction := periodicCorrection_eq scheduled.expects expected near
  have sum : start + (calls + 1 + 1) * request.timeout.toNat =
      start + (calls + 1) * request.timeout.toNat + request.timeout.toNat := by
    rw [Nat.succ_mul (calls + 1), Nat.add_assoc]
  have expects : alarm.expectNext.timeoutExpectedTc =
      UInt32.ofNat (start + (calls + 1 + 1) * request.timeout.toNat) := by
    rw [sum, UInt32.ofNat_add, UInt32.ofNat_toNat, ← scheduled.expects, ← scheduled.period]
    rfl
  rw [Queue.processExpired, current]
  dsimp only
  rw [correction, scheduled.period, if_neg positive]
  split
  · next late =>
    refine ⟨d, ⟨?_, scheduled.handle, scheduled.hasCallback, scheduled.period, expects, .inr ?_,
      expected⟩⟩
    · exact List.mem_map.mpr ⟨_, scheduled.member, Prod.ext (if_pos rfl) rfl⟩
    · have due := scheduled.due
      change d ≤ _ ∧ _ ≤ s.updated
      rw [sum]
      omega
  · next early =>
    have within : s.updated - (start + (calls + 1) * request.timeout.toNat) ≤
        request.timeout.toNat := by omega
    have timeout := toNat_ofInt_sub within request.timeout.toNat_lt
    refine ⟨start + (calls + 1 + 1) * request.timeout.toNat, ⟨?_, scheduled.handle,
      scheduled.hasCallback, scheduled.period, expects, .inl rfl, expected⟩⟩
    refine (mem_insertTime ..).mpr (.inl (Prod.ext rfl ?_))
    dsimp only
    rw [restorable_awake, timeout, sum]
    change _ = s.updated + _
    omega

/-- The entries that do not call it. -/
theorem other (unique : s.Unique) (tick : Tick Handle) (later : s.updated ≤ tick.now)
    (unstopped : tick.entry ≠ .stopTimer request.handle)
    (uncalled : .callback request.handle ∉ (deadlineQueue.step s tick).2) :
    Scheduled request start calls (deadlineQueue.step s tick).1 alarm d := by
  have same := scheduled.handle
  have member := step_keeps unique scheduled.member scheduled.hasCallback tick
    (same ▸ unstopped) (same ▸ uncalled)
  have updated := step_updated s tick later
  refine ⟨member, same, scheduled.hasCallback, scheduled.period, scheduled.expects, ?_, ?_⟩
  · have due := scheduled.due
    omega
  · exact Nat.le_trans scheduled.passed updated

theorem step (unique : s.Unique) (positive : request.timeout ≠ 0) (tick : Tick Handle)
    (later : s.updated ≤ tick.now) (prompt : Prompt s tick)
    (unstopped : tick.entry ≠ .stopTimer request.handle) :
    ∃ alarm' d', Scheduled request start
      (calls + (deadlineQueue.step s tick).2.count (.callback request.handle))
      (deadlineQueue.step s tick).1 alarm' d' := by
  by_cases called : .callback request.handle ∈ (deadlineQueue.step s tick).2
  · obtain ⟨⟨counter, wakeupDelay, turns⟩, current, passed⟩ :=
      step_called unique scheduled.member tick (scheduled.handle ▸ called)
    obtain ⟨now, entry⟩ := tick
    obtain rfl : entry = .processExpired counter wakeupDelay := turns
    obtain ⟨rfl, rfl, overdue⟩ := prompt
    obtain ⟨d', next⟩ := scheduled.turn current positive (overdue _ scheduled.member) passed
    have once : (deadlineQueue.processExpired (UInt32.ofNat s.updated) 0 s).2.count
        (.callback request.handle) = 1 := by
      rw [processExpired_awake current, Alarm.call, if_pos scheduled.hasCallback, scheduled.handle]
      exact List.count_singleton_self
    refine ⟨alarm.expectNext, d', ?_⟩
    change Scheduled request start (calls + (deadlineQueue.processExpired _ 0 s).2.count _) _ _ _
    rw [once]
    exact next
  · rw [List.count_eq_zero.mpr called]
    exact ⟨alarm, d, scheduled.other unique tick later unstopped called⟩

theorem run (counter : Nat) (unique : s.Unique) (positive : request.timeout ≠ 0)
    (rest : List (Tick Handle))
    (paced : (clockwork counter).Permits InTurn s rest)
    (prompt : (clockwork counter).Permits Prompt s rest)
    (unstopped : ∀ t ∈ rest, t.entry ≠ .stopTimer request.handle) :
    ∃ alarm' d', Scheduled request start
      (calls + ((clockwork counter).trace s rest).count (.callback request.handle))
      ((clockwork counter).after s rest) alarm' d' := by
  induction rest generalizing s calls alarm d with
  | nil => exact ⟨alarm, d, scheduled⟩
  | cons tick rest ih =>
    obtain ⟨alarm', d', next⟩ := scheduled.step unique positive tick paced.1.1 prompt.1
      (unstopped tick (List.mem_cons_self ..))
    rw [Reactive.Machine.trace_cons, List.count_append, ← Nat.add_assoc]
    exact ih next (unique.step tick) paced.2 prompt.2
      fun t member => unstopped t (List.mem_cons_of_mem _ member)

end Scheduled

/-- A periodic timer is started in a run, with the counter read at the time of the update, and
not stopped in the rest of it, in which all turns of the loop are prompt. -/
structure Repeats (counter : Nat) (first : List (Tick Handle)) (tick : Tick Handle)
    (rest : List (Tick Handle)) (request : Request Handle) (wakeupDelay : UInt32) : Prop where
  starts : tick.entry = .startPeriodicTimer request (UInt32.ofNat tick.now) wakeupDelay
  accepted : .returned .ok ∈ ((sleeptimer counter).step
    ((sleeptimer counter).after (sleeptimer counter).start first) tick).2
  positive : request.timeout ≠ 0
  restored : request.optionFlags = 0 → wakeupDelay ≤ request.timeout
  hasCallback : request.hasCallback = true
  unstopped : ∀ t ∈ rest, t.entry ≠ .stopTimer request.handle
  prompt : (clockwork counter).Permits Prompt
    ((clockwork counter).after (clockwork counter).start (first ++ [tick])) rest

theorem start_scheduled {s : Schedule Handle} {now : Nat} {request : Request Handle}
    {wakeupDelay : UInt32} (positive : request.timeout ≠ 0)
    (restored : request.optionFlags = 0 → wakeupDelay ≤ request.timeout)
    (hasCallback : request.hasCallback = true) (accepted : .returned .ok ∈
      (deadlineQueue.startPeriodicTimer now request (UInt32.ofNat now) wakeupDelay s).2) :
    ∃ alarm d, Scheduled request now 0
      (deadlineQueue.startPeriodicTimer now request (UInt32.ofNat now) wakeupDelay s).1 alarm d := by
  have period : (0 + 1) * request.timeout.toNat = request.timeout.toNat := Nat.one_mul _
  rw [Queue.startPeriodicTimer, Queue.start] at accepted ⊢
  split
  · next running =>
    rw [if_pos running] at accepted
    exact Status.noConfusion (Happening.returned.inj (List.mem_singleton.mp accepted))
  · rw [Queue.createTimer, if_neg fun none => positive none.1, if_neg positive]
    refine ⟨_, now + request.timeout.toNat, ⟨(mem_insertTime ..).mpr (.inl (Prod.ext rfl ?_)), rfl,
      hasCallback, rfl, ?_, .inl ?_, ?_⟩⟩
    · rw [Alarm.restorable, if_neg fun sooner => UInt32.not_lt.mpr (restored sooner.1) sooner.2]
      rfl
    · rw [period, UInt32.ofNat_add, UInt32.ofNat_toNat]
    · rw [period]
    · rw [Nat.zero_mul]
      exact Nat.le_refl now

/-- Once the loop has ended, a periodic timer has been called as often as periods have passed. -/
theorem called_each_period {counter : Nat} {first : List (Tick Handle)} {tick : Tick Handle}
    {rest : List (Tick Handle)} {request : Request Handle} {wakeupDelay : UInt32}
    (repeats : Repeats counter first tick rest request wakeupDelay)
    (paced : Paced counter (first ++ tick :: rest))
    (idle : deltaQueue.current ((sleeptimer counter).after (sleeptimer counter).start
      (first ++ tick :: rest)) = none) :
    (((sleeptimer counter).trace ((sleeptimer counter).after (sleeptimer counter).start
      (first ++ [tick])) rest).count (.callback request.handle)) =
        (lastUpdate counter (first ++ tick :: rest) - tick.now) / request.timeout.toNat := by
  obtain ⟨now, entry⟩ := tick
  obtain rfl : entry = .startPeriodicTimer request (UInt32.ofNat now) wakeupDelay := repeats.starts
  have accepted := repeats.accepted
  rw [paced.outputs.1] at accepted
  have unique := unique_run counter (unique_start counter) first
  have prompt := repeats.prompt
  rw [Reactive.Machine.after_concat] at prompt
  obtain ⟨alarm, d, started⟩ :=
    start_scheduled repeats.positive repeats.restored repeats.hasCallback accepted
  have behind := unique.step ⟨now, .startPeriodicTimer request (UInt32.ofNat now) wakeupDelay⟩
  obtain ⟨alarm', d', last⟩ := started.run counter behind repeats.positive rest
    (Reactive.Machine.Permits.append.mp paced).2.2 prompt repeats.unstopped
  rw [(stands_run paced).current, Reactive.Machine.after_append] at idle
  have count := last.calls_eq repeats.positive idle
  rw [Nat.zero_add] at count
  rw [paced.outputs.2, Reactive.Machine.after_concat, lastUpdate, Reactive.Machine.after_append]
  exact count

/-- A timer of ten ticks, found late by more than two of its periods. -/
def lateTurns : Tick Nat × List (Tick Nat) :=
  (⟨UInt32.size - 5, .startPeriodicTimer ⟨1, 10, true, 0, 0⟩ (UInt32.ofNat (UInt32.size - 5)) 0⟩,
    [⟨UInt32.size + 27, .updateDeltaList⟩, ⟨UInt32.size + 27, .processExpired 27 0⟩,
      ⟨UInt32.size + 27, .processExpired 27 0⟩, ⟨UInt32.size + 27, .processExpired 27 0⟩])

theorem called_each_period_lateTurns :
    ((sleeptimer (UInt32.size - 9)).trace ((sleeptimer (UInt32.size - 9)).after
      (sleeptimer (UInt32.size - 9)).start ([] ++ [lateTurns.1])) lateTurns.2).count
        (.callback 1) = 3 :=
  have repeats : Repeats (UInt32.size - 9) [] lateTurns.1 lateTurns.2 ⟨1, 10, true, 0, 0⟩ 0 :=
    ⟨rfl, by decide, by decide, fun _ => UInt32.zero_le, rfl, by decide, by decide⟩
  called_each_period repeats (by decide) (by decide)

end BleRemote.Timers
