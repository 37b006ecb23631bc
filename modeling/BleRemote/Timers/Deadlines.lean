import BleRemote.Timers.Sleeptimer
import BleRemote.Ordered.Deltas
import BleRemote.Reactive.Simulation

/-! The service over deadlines.

The abstract store keeps when each timer is due, and time passes by the clock alone. The deltas
of the source stand for the time that is left until these deadlines.
-/

set_option autoImplicit false
namespace BleRemote.Timers

open Ordered

variable {Handle : Type}

structure Schedule (Handle : Type) where
  alarms : List (Alarm Handle × Nat)
  updated : Nat
deriving DecidableEq, Repr

def Schedule.left (s : Schedule Handle) : List (Alarm Handle × Nat) :=
  s.alarms.map fun e => (e.1, e.2 - s.updated)

def deadlineQueue [DecidableEq Handle] : Queue Handle (Schedule Handle) where
  running handle s := s.alarms.any fun e => e.1.handle = handle
  due s := (s.alarms.filter fun e => e.2 ≤ s.updated).map Prod.fst
  update now s := { s with updated := now }
  insert alarm timeout s :=
    { s with alarms := insertTime alarm (s.updated + timeout.toNat) s.alarms }
  remove handle s := { s with alarms := s.alarms.eraseP fun e => e.1.handle = handle }
  revise f s := { s with alarms := s.alarms.map fun e => (f e.1, e.2) }

def clockwork [DecidableEq Handle] (counter : Nat) :
    Reactive.Machine (Schedule Handle) (Tick Handle) (List (Happening Handle)) where
  start := { alarms := [], updated := counter }
  step := deadlineQueue.step

def natural (timers : List (Alarm Handle × UInt32)) : List (Alarm Handle × Nat) :=
  timers.map fun e => (e.1, e.2.toNat)

section
variable (timers : List (Alarm Handle × UInt32))

theorem natural_cons (alarm : Alarm Handle) (delta : UInt32) :
    natural ((alarm, delta) :: timers) = (alarm, delta.toNat) :: natural timers := rfl

theorem natural_insert (alarm : Alarm Handle) (timeout : UInt32) :
    natural (deltaListInsertTimer alarm timeout timers) =
      insertDelta alarm timeout.toNat (natural timers) := by
  induction timers generalizing timeout with
  | nil => rfl
  | cons entry rest ih =>
    obtain ⟨current, delta⟩ := entry
    rw [deltaListInsertTimer, natural_cons, insertDelta]
    -- the priority is looked at only where the deltas have decided already
    by_cases earlier : delta ≤ timeout
    · rw [if_pos (.inl earlier), if_pos (UInt32.le_iff_toNat_le.mp earlier), natural_cons, ih,
        UInt32.toNat_sub_of_le _ _ earlier]
    · have beyond : timeout ≤ delta := UInt32.le_of_lt (UInt32.not_le.mp earlier)
      have within : ¬ delta.toNat ≤ timeout.toNat := by rwa [← UInt32.le_iff_toNat_le]
      rw [if_neg, if_neg within, natural_cons, natural_cons, UInt32.toNat_sub_of_le _ _ beyond]
      rintro (le | none | ⟨same, -⟩)
      · exact earlier le
      · exact earlier (none ▸ UInt32.zero_le)
      · rw [UInt32.sub_eq_iff_eq_add.mp same, UInt32.zero_add] at earlier
        exact earlier (UInt32.le_refl _)

theorem natural_update (timeDiff : UInt32) :
    natural (updateDeltas timeDiff timers) = elapseDeltas timeDiff.toNat (natural timers) := by
  induction timers generalizing timeDiff with
  | nil => rfl
  | cons entry rest ih =>
    obtain ⟨timer, delta⟩ := entry
    rw [updateDeltas, natural_cons, elapseDeltas]
    by_cases passed : timeDiff > 0
    · rw [if_pos passed]
      by_cases within : timeDiff ≤ delta
      · rw [if_pos within, if_pos (UInt32.le_iff_toNat_le.mp within), natural_cons,
          UInt32.toNat_sub_of_le _ _ within]
      · have beyond : delta ≤ timeDiff := UInt32.le_of_lt (UInt32.not_le.mp within)
        have past : ¬ timeDiff.toNat ≤ delta.toNat := by rwa [← UInt32.le_iff_toNat_le]
        rw [if_neg within, if_neg past, natural_cons, ih, UInt32.toNat_sub_of_le _ _ beyond,
          UInt32.toNat_zero]
    · have none : timeDiff = 0 := UInt32.le_antisymm (UInt32.not_lt.mp passed) UInt32.zero_le
      rw [if_neg passed, none, UInt32.toNat_zero, if_pos (Nat.zero_le _), Nat.sub_zero,
        natural_cons]

theorem natural_remove [DecidableEq Handle] (handle : Handle) (start : Nat)
    (bounded : ∀ e ∈ times start (natural timers), e.2 < UInt32.size) :
    natural (deltaListRemoveTimer handle timers) =
      removeDelta (fun alarm => alarm.handle = handle) (natural timers) := by
  induction timers generalizing start with
  | nil => rfl
  | cons entry rest ih =>
    obtain ⟨current, delta⟩ := entry
    rw [deltaListRemoveTimer, natural_cons, removeDelta]
    by_cases found : current.handle = handle
    · rw [if_pos found, if_pos (decide_eq_true found)]
      cases rest with
      | nil => rfl
      | cons next rest =>
        have below : start + delta.toNat + next.2.toNat < UInt32.size :=
          bounded _ (List.mem_cons_of_mem _ (List.mem_cons_self ..))
        have fits : next.2.toNat + delta.toNat < 2 ^ 32 := by
          have size : UInt32.size = 2 ^ 32 := rfl
          omega
        rw [addToNext, natural_cons, natural_cons, carry, UInt32.toNat_add,
          Nat.mod_eq_of_lt fits]
    · rw [if_neg found, if_neg (by simpa using found), natural_cons,
        ih _ fun e member => bounded e (List.mem_cons_of_mem _ member)]

end

/-- The deltas are those of the deadlines. -/
structure Stands (c : Sleeptimer Handle) (s : Schedule Handle) : Prop where
  count : c.lastDeltaUpdateCount = UInt32.ofNat s.updated
  left : times 0 (natural c.timerHead) = s.left
  bounded : ∀ e ∈ s.left, e.2 < UInt32.size

namespace Stands

variable {c : Sleeptimer Handle} {s : Schedule Handle} (stands : Stands c s)
include stands

theorem alarms : c.timerHead.map Prod.fst = s.alarms.map Prod.fst := by
  have same := congrArg (List.map Prod.fst) stands.left
  rw [times_items, natural, Schedule.left, List.map_map, List.map_map] at same
  exact same

theorem update {now : Nat} (later : s.updated ≤ now) (turn : now < s.updated + UInt32.size) :
    Stands (updateDeltaList now c) { s with updated := now } := by
  have since : (UInt32.ofNat now - c.lastDeltaUpdateCount).toNat = now - s.updated := by
    rw [stands.count, ← UInt32.ofNat_sub later]
    exact UInt32.toNat_ofNat_of_lt' (by omega)
  have shorter : ({ s with updated := now } : Schedule Handle).left =
      s.left.map fun e => (e.1, e.2 - (now - s.updated)) := by
    rw [Schedule.left, Schedule.left, List.map_map]
    refine List.map_congr_left fun e _ => ?_
    have same : e.2 - now = e.2 - s.updated - (now - s.updated) := by omega
    rw [same]; rfl
  refine ⟨rfl, ?_, fun e member => ?_⟩
  · rw [updateDeltaList, natural_update, since, times_elapse, stands.left, shorter]
  · rw [shorter] at member
    obtain ⟨before, among, rfl⟩ := List.mem_map.mp member
    exact Nat.lt_of_le_of_lt (Nat.sub_le ..) (stands.bounded before among)

theorem insert [DecidableEq Handle] (alarm : Alarm Handle) (timeout : UInt32) :
    Stands (deltaQueue.insert alarm timeout c) (deadlineQueue.insert alarm timeout s) := by
  have left : (deadlineQueue.insert alarm timeout s).left =
      insertTime alarm timeout.toNat s.left := by
    refine (insertTime_map s.alarms alarm _ (fun d => d - s.updated) fun d => ?_).trans ?_
    · omega
    · rw [Nat.add_sub_cancel_left]; rfl
  refine ⟨stands.count, ?_, fun e member => ?_⟩
  · rw [left, ← stands.left, deltaQueue, natural_insert, times_insert, Nat.zero_add]
  · rw [left, mem_insertTime] at member
    obtain rfl | member := member
    · exact timeout.toNat_lt
    · exact stands.bounded e member

theorem remove [DecidableEq Handle] (handle : Handle) :
    Stands (deltaQueue.remove handle c) (deadlineQueue.remove handle s) := by
  have left : (deadlineQueue.remove handle s).left =
      s.left.eraseP fun e => e.1.handle = handle := by
    rw [Schedule.left, Schedule.left, List.eraseP_map]; rfl
  have bounded : ∀ e ∈ times 0 (natural c.timerHead), e.2 < UInt32.size := by
    rw [stands.left]; exact stands.bounded
  refine ⟨stands.count, ?_, fun e member => ?_⟩
  · rw [left, ← stands.left, deltaQueue, natural_remove _ handle 0 bounded, times_remove]
  · rw [left] at member
    exact stands.bounded e (List.mem_of_mem_eraseP member)

theorem revise [DecidableEq Handle] (f : Alarm Handle → Alarm Handle) :
    Stands (deltaQueue.revise f c) (deadlineQueue.revise f s) := by
  have left : (deadlineQueue.revise f s).left = s.left.map fun e => (f e.1, e.2) := by
    rw [Schedule.left, Schedule.left, List.map_map]
    exact List.map_map ..
  have revised : natural (deltaQueue.revise f c).timerHead =
      (natural c.timerHead).map fun e => (f e.1, e.2) := by
    rw [natural, natural, List.map_map]
    exact List.map_map ..
  refine ⟨stands.count, ?_, fun e member => ?_⟩
  · rw [left, ← stands.left, revised, times_map]
  · rw [left] at member
    obtain ⟨before, among, rfl⟩ := List.mem_map.mp member
    exact stands.bounded before among

variable [DecidableEq Handle]

theorem running (handle : Handle) :
    deltaQueue.running handle c = deadlineQueue.running handle s := by
  have same := congrArg (List.any · fun a => a.handle = handle) stands.alarms
  rwa [List.any_map, List.any_map] at same

theorem due : deltaQueue.due c = deadlineQueue.due s := by
  have same := times_due (natural c.timerHead)
  rw [stands.left, natural, List.takeWhile_map, List.map_map, Schedule.left, List.filter_map,
    List.map_map] at same
  have now : (fun e : Alarm Handle × Nat => decide (e.2 ≤ s.updated)) =
      (fun e => decide (e.2 = 0)) ∘ fun e => (e.1, e.2 - s.updated) := by
    funext e
    exact decide_eq_decide.mpr (Nat.sub_eq_zero_iff_le.symm)
  have none : (fun e : Alarm Handle × UInt32 => decide (e.2 = 0)) =
      (fun e => decide (e.2 = 0)) ∘ fun e => (e.1, e.2.toNat) := by
    funext e
    exact decide_eq_decide.mpr UInt32.toNat_inj.symm
  change (c.timerHead.takeWhile fun e => decide (e.2 = 0)).map Prod.fst =
    (s.alarms.filter fun e => decide (e.2 ≤ s.updated)).map Prod.fst
  rw [now, none]
  exact same.symm

theorem current : deltaQueue.current c = deadlineQueue.current s := by
  rw [Queue.current, Queue.current, stands.due]

theorem createTimer {now : Nat} (later : s.updated ≤ now) (turn : now < s.updated + UInt32.size)
    (alarm : Alarm Handle) (timeoutInitial wakeupDelay : UInt32) :
    (deltaQueue.createTimer now alarm timeoutInitial wakeupDelay c).2 =
      (deadlineQueue.createTimer now alarm timeoutInitial wakeupDelay s).2 ∧
    Stands (deltaQueue.createTimer now alarm timeoutInitial wakeupDelay c).1
      (deadlineQueue.createTimer now alarm timeoutInitial wakeupDelay s).1 := by
  rw [Queue.createTimer, Queue.createTimer]
  split
  · exact ⟨rfl, stands⟩
  · exact ⟨rfl, (stands.update later turn).insert ..⟩

theorem start {now : Nat} (later : s.updated ≤ now) (turn : now < s.updated + UInt32.size)
    (request : Request Handle) (timeoutPeriodic : UInt32) (refused : Status)
    (counter wakeupDelay : UInt32) :
    (deltaQueue.start now request timeoutPeriodic refused counter wakeupDelay c).2 =
      (deadlineQueue.start now request timeoutPeriodic refused counter wakeupDelay s).2 ∧
    Stands (deltaQueue.start now request timeoutPeriodic refused counter wakeupDelay c).1
      (deadlineQueue.start now request timeoutPeriodic refused counter wakeupDelay s).1 := by
  rw [Queue.start, Queue.start, stands.running]
  split
  · exact ⟨rfl, stands⟩
  · exact stands.createTimer later turn ..

theorem stopTimer {now : Nat} (later : s.updated ≤ now) (turn : now < s.updated + UInt32.size)
    (handle : Handle) :
    (deltaQueue.stopTimer now handle c).2 = (deadlineQueue.stopTimer now handle s).2 ∧
    Stands (deltaQueue.stopTimer now handle c).1 (deadlineQueue.stopTimer now handle s).1 := by
  have updated := stands.update later turn
  have same : deltaQueue.running handle (deltaQueue.update now c) =
      deadlineQueue.running handle (deadlineQueue.update now s) := updated.running handle
  rw [Queue.stopTimer, Queue.stopTimer, same]
  split
  · exact ⟨rfl, updated.remove handle⟩
  · exact ⟨rfl, updated⟩

theorem processExpired (counter wakeupDelay : UInt32) :
    (deltaQueue.processExpired counter wakeupDelay c).2 =
      (deadlineQueue.processExpired counter wakeupDelay s).2 ∧
    Stands (deltaQueue.processExpired counter wakeupDelay c).1
      (deadlineQueue.processExpired counter wakeupDelay s).1 := by
  rw [Queue.processExpired, Queue.processExpired, stands.current]
  cases deadlineQueue.current s with
  | none => exact ⟨rfl, stands⟩
  | some current =>
    dsimp only
    split
    · exact ⟨rfl, stands.remove _⟩
    · split
      · refine ⟨rfl, ?_⟩
        dsimp only
        exact stands.revise _
      · exact ⟨rfl, (stands.remove _).insert ..⟩

theorem step (tick : Tick Handle) (later : s.updated ≤ tick.now)
    (turn : tick.now < s.updated + UInt32.size) :
    (deltaQueue.step c tick).2 = (deadlineQueue.step s tick).2 ∧
      Stands (deltaQueue.step c tick).1 (deadlineQueue.step s tick).1 := by
  obtain ⟨now, entry⟩ := tick
  cases entry with
  | startTimer request counter wakeupDelay => exact stands.start later turn ..
  | startPeriodicTimer request counter wakeupDelay => exact stands.start later turn ..
  | stopTimer handle => exact stands.stopTimer later turn handle
  | updateDeltaList => exact ⟨rfl, stands.update later turn⟩
  | processExpired counter wakeupDelay => exact stands.processExpired counter wakeupDelay

end Stands

variable [DecidableEq Handle]

/-- Time does not go back, and the counter's overflow interrupt updates the list before the
counter comes round again. -/
def InTurn (s : Schedule Handle) (tick : Tick Handle) : Prop :=
  s.updated ≤ tick.now ∧ tick.now < s.updated + UInt32.size

omit [DecidableEq Handle] in
instance (s : Schedule Handle) (tick : Tick Handle) : Decidable (InTurn s tick) :=
  inferInstanceAs (Decidable (_ ∧ _))

def Paced (counter : Nat) (ticks : List (Tick Handle)) : Prop :=
  (clockwork counter).Permits InTurn (clockwork counter).start ticks

instance (counter : Nat) (ticks : List (Tick Handle)) : Decidable (Paced counter ticks) :=
  inferInstanceAs (Decidable (Reactive.Machine.Permits ..))

theorem stands_start (counter : Nat) :
    Stands (@sleeptimer Handle _ counter).start (clockwork counter).start :=
  ⟨rfl, rfl, fun _ member => absurd member List.not_mem_nil⟩

theorem sleeptimer_simulates (counter : Nat) :
    Reactive.Simulates (@sleeptimer Handle _ counter) (clockwork counter) InTurn Stands id where
  step _ _ tick stands turn := (stands.step tick turn.1 turn.2).symm

theorem stands_run {counter : Nat} {ticks : List (Tick Handle)} (paced : Paced counter ticks) :
    Stands ((sleeptimer counter).after (sleeptimer counter).start ticks)
      ((clockwork counter).after (clockwork counter).start ticks) :=
  (sleeptimer_simulates counter).after (stands_start counter) paced

end BleRemote.Timers
