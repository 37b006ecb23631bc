import BleRemote.Timers.Deadlines
import Mathlib.Data.List.Nodup

/-! Timers do not disturb each other.

A pending timer keeps its deadline until it is stopped or its callback is called.
-/

set_option autoImplicit false
namespace BleRemote.Timers

open Ordered

variable {Handle : Type}

/-- A timer is in the store at most once. -/
def Schedule.Unique (s : Schedule Handle) : Prop :=
  (s.alarms.map fun e => e.1.handle).Nodup

theorem Schedule.Unique.same {s : Schedule Handle} (unique : s.Unique)
    {first second : Alarm Handle × Nat} (one : first ∈ s.alarms) (other : second ∈ s.alarms)
    (same : first.1.handle = second.1.handle) : first = second :=
  List.inj_on_of_nodup_map unique one other same

theorem highestPriority_mem (alarm : Alarm Handle) (others : List (Alarm Handle)) :
    highestPriority alarm others ∈ alarm :: others := by
  induction others generalizing alarm with
  | nil => exact List.mem_singleton_self _
  | cons temp rest ih =>
    rw [highestPriority]
    have among := ih (if alarm.priority > temp.priority then temp else alarm)
    split at among
    · rw [if_pos ‹_›]; exact List.mem_cons_of_mem _ among
    · rw [if_neg ‹_›]
      obtain same | among := List.mem_cons.mp among
      · rw [same]; exact List.mem_cons_self ..
      · exact List.mem_cons_of_mem _ (List.mem_cons_of_mem _ among)

theorem highestPriority_le (alarm : Alarm Handle) (others : List (Alarm Handle)) :
    ∀ other ∈ alarm :: others, (highestPriority alarm others).priority ≤ other.priority := by
  induction others generalizing alarm with
  | nil =>
    intro other member
    rw [List.mem_singleton.mp member]
    exact UInt8.le_refl _
  | cons temp rest ih =>
    intro other member
    rw [highestPriority]
    have least := ih (if alarm.priority > temp.priority then temp else alarm)
    have first := least _ (List.mem_cons_self ..)
    have chosen : (if alarm.priority > temp.priority then temp else alarm).priority ≤
        alarm.priority ∧
      (if alarm.priority > temp.priority then temp else alarm).priority ≤ temp.priority := by
      split
      · next higher => exact ⟨UInt8.le_of_lt higher, UInt8.le_refl _⟩
      · next lower => exact ⟨UInt8.le_refl _, UInt8.not_lt.mp lower⟩
    obtain rfl | member := List.mem_cons.mp member
    · exact UInt8.le_trans first chosen.1
    · obtain rfl | member := List.mem_cons.mp member
      · exact UInt8.le_trans first chosen.2
      · exact least other (List.mem_cons_of_mem _ member)

variable [DecidableEq Handle]

section
variable {s : Schedule Handle}

theorem running_iff (handle : Handle) :
    deadlineQueue.running handle s = true ↔ handle ∈ s.alarms.map fun e => e.1.handle := by
  refine List.any_eq_true.trans (Iff.trans ?_ List.mem_map.symm)
  exact exists_congr fun e => and_congr_right fun _ => decide_eq_true_iff

theorem mem_due (alarm : Alarm Handle) :
    alarm ∈ deadlineQueue.due s ↔ ∃ d, (alarm, d) ∈ s.alarms ∧ d ≤ s.updated := by
  refine List.mem_map.trans ⟨?_, ?_⟩
  · rintro ⟨⟨same, d⟩, member, rfl⟩
    obtain ⟨among, passed⟩ := List.mem_filter.mp member
    exact ⟨d, among, of_decide_eq_true passed⟩
  · rintro ⟨d, among, passed⟩
    exact ⟨(alarm, d), List.mem_filter.mpr ⟨among, decide_eq_true passed⟩, rfl⟩

theorem current_due {alarm : Alarm Handle} (turned : deadlineQueue.current s = some alarm) :
    ∃ d, (alarm, d) ∈ s.alarms ∧ d ≤ s.updated := by
  rw [← mem_due]
  rw [Queue.current] at turned
  cases due : deadlineQueue.due s with
  | nil => rw [due] at turned; exact absurd turned (Option.some_ne_none _).symm
  | cons head rest =>
    rw [due] at turned
    obtain rfl := Option.some.inj turned
    obtain same | among := List.mem_cons.mp (highestPriority_mem head (head :: rest))
    · rw [same]; exact List.mem_cons_self ..
    · exact among

theorem current_of_due {alarm : Alarm Handle} {d : Nat} (member : (alarm, d) ∈ s.alarms)
    (passed : d ≤ s.updated) :
    ∃ turned, deadlineQueue.current s = some turned ∧ turned.priority ≤ alarm.priority := by
  have among := (mem_due alarm).mpr ⟨d, member, passed⟩
  rw [Queue.current]
  cases due : deadlineQueue.due s with
  | nil => rw [due] at among; exact absurd among List.not_mem_nil
  | cons head rest =>
    rw [due] at among
    exact ⟨_, rfl, highestPriority_le head _ alarm (List.mem_cons_of_mem _ among)⟩

namespace Schedule.Unique

variable (unique : s.Unique)
include unique

theorem insert (alarm : Alarm Handle) (timeout : UInt32)
    (fresh : alarm.handle ∉ s.alarms.map fun e => e.1.handle) :
    (deadlineQueue.insert alarm timeout s).Unique :=
  ((insertTime_perm s.alarms alarm _).map _).nodup_iff.mpr (List.nodup_cons.mpr ⟨fresh, unique⟩)

theorem remove (handle : Handle) : (deadlineQueue.remove handle s).Unique :=
  List.Nodup.sublist (List.eraseP_sublist.map _) unique

theorem removed (handle : Handle) :
    handle ∉ (deadlineQueue.remove handle s).alarms.map fun e => e.1.handle := by
  have erased : (deadlineQueue.remove handle s).alarms.map (fun e => e.1.handle) =
      (s.alarms.map fun e => e.1.handle).erase handle := by
    rw [List.erase_eq_eraseP', List.eraseP_map]
    rfl
  rw [erased]
  exact List.Nodup.not_mem_erase unique

theorem start (now : Nat) (request : Request Handle) (timeoutPeriodic : UInt32)
    (refused : Status) (counter wakeupDelay : UInt32) :
    (deadlineQueue.start now request timeoutPeriodic refused counter wakeupDelay s).1.Unique := by
  rw [Queue.start]
  split
  · exact unique
  · next idle =>
    rw [running_iff] at idle
    rw [Queue.createTimer]
    split
    · exact unique
    · exact Schedule.Unique.insert (s := { s with updated := now }) unique _ _ idle

theorem revise (f : Alarm Handle → Alarm Handle) (same : ∀ alarm, (f alarm).handle = alarm.handle) :
    (deadlineQueue.revise f s).Unique := by
  have handles : (deadlineQueue.revise f s).alarms.map (fun e => e.1.handle) =
      s.alarms.map fun e => e.1.handle :=
    List.map_map.trans (List.map_congr_left fun e _ => same e.1)
  rw [Schedule.Unique, handles]
  exact unique

theorem processExpired (counter wakeupDelay : UInt32) :
    (deadlineQueue.processExpired counter wakeupDelay s).1.Unique := by
  rw [Queue.processExpired]
  cases deadlineQueue.current s with
  | none => exact unique
  | some current =>
    dsimp only
    split
    · exact unique.remove _
    · split
      · dsimp only
        refine unique.revise _ fun alarm => ?_
        split <;> rfl
      · exact (unique.remove _).insert _ _ (unique.removed current.handle)

theorem stopTimer (now : Nat) (handle : Handle) :
    (deadlineQueue.stopTimer now handle s).1.Unique := by
  rw [Queue.stopTimer]
  split
  · exact Schedule.Unique.remove (s := { s with updated := now }) unique handle
  · exact unique

theorem step (tick : Tick Handle) : (deadlineQueue.step s tick).1.Unique := by
  obtain ⟨now, entry⟩ := tick
  cases entry with
  | startTimer request counter wakeupDelay => exact unique.start ..
  | startPeriodicTimer request counter wakeupDelay => exact unique.start ..
  | stopTimer handle => exact unique.stopTimer now handle
  | updateDeltaList => exact unique
  | processExpired counter wakeupDelay => exact unique.processExpired ..

end Schedule.Unique

theorem start_keeps (now : Nat) (request : Request Handle) (timeoutPeriodic : UInt32)
    (refused : Status) (counter wakeupDelay : UInt32) {e : Alarm Handle × Nat}
    (pending : e ∈ s.alarms) : e ∈ (deadlineQueue.start now request timeoutPeriodic refused
      counter wakeupDelay s).1.alarms := by
  rw [Queue.start]
  split
  · exact pending
  · rw [Queue.createTimer]
    split
    · exact pending
    · exact (mem_insertTime ..).mpr (.inr pending)

theorem remove_keeps {handle : Handle} {e : Alarm Handle × Nat} (pending : e ∈ s.alarms)
    (other : e.1.handle ≠ handle) : e ∈ (deadlineQueue.remove handle s).alarms :=
  (List.mem_eraseP_of_neg (by simpa using other)).mpr pending

theorem stopTimer_keeps (now : Nat) {handle : Handle} {e : Alarm Handle × Nat}
    (pending : e ∈ s.alarms) (other : e.1.handle ≠ handle) :
    e ∈ (deadlineQueue.stopTimer now handle s).1.alarms := by
  rw [Queue.stopTimer]
  split
  · exact remove_keeps (s := { s with updated := now }) pending other
  · exact pending

theorem processExpired_calls (counter wakeupDelay : UInt32) {alarm : Alarm Handle}
    (turned : deadlineQueue.current s = some alarm) (called : alarm.hasCallback = true) :
    .callback alarm.handle ∈ (deadlineQueue.processExpired counter wakeupDelay s).2 := by
  have call : .callback alarm.handle ∈ alarm.call := by
    rw [Alarm.call, if_pos called]; exact List.mem_singleton_self _
  rw [Queue.processExpired, turned]
  dsimp only
  split
  · exact call
  · split
    · exact call
    · exact List.mem_append_right _ call

theorem processExpired_keeps (counter wakeupDelay : UInt32) {e : Alarm Handle × Nat}
    (pending : e ∈ s.alarms)
    (other : ∀ alarm, deadlineQueue.current s = some alarm → e.1.handle ≠ alarm.handle) :
    e ∈ (deadlineQueue.processExpired counter wakeupDelay s).1.alarms := by
  rw [Queue.processExpired]
  cases turned : deadlineQueue.current s with
  | none => exact pending
  | some current =>
    have kept := remove_keeps pending (other current turned)
    dsimp only
    split
    · exact kept
    · split
      · exact List.mem_map.mpr ⟨e, pending, Prod.ext (if_neg (other current turned)) rfl⟩
      · exact (mem_insertTime ..).mpr (.inr kept)

/-- A pending timer keeps its deadline through the entries that neither stop it nor call it. -/
theorem step_keeps (unique : s.Unique) {alarm : Alarm Handle} {d : Nat}
    (pending : (alarm, d) ∈ s.alarms) (called : alarm.hasCallback = true) (tick : Tick Handle)
    (unstopped : tick.entry ≠ .stopTimer alarm.handle)
    (uncalled : .callback alarm.handle ∉ (deadlineQueue.step s tick).2) :
    (alarm, d) ∈ (deadlineQueue.step s tick).1.alarms := by
  obtain ⟨now, entry⟩ := tick
  cases entry with
  | startTimer request counter wakeupDelay => exact start_keeps _ _ _ _ _ _ pending
  | startPeriodicTimer request counter wakeupDelay => exact start_keeps _ _ _ _ _ _ pending
  | stopTimer handle =>
    exact stopTimer_keeps now pending fun same => unstopped (congrArg Entry.stopTimer same.symm)
  | updateDeltaList => exact pending
  | processExpired counter wakeupDelay =>
    refine processExpired_keeps _ _ pending fun current turned same => ?_
    obtain ⟨due, among, -⟩ := current_due turned
    obtain ⟨rfl, -⟩ := Prod.mk.inj (unique.same pending among same)
    exact uncalled (processExpired_calls counter wakeupDelay turned called)

omit [DecidableEq Handle] in
theorem restorable_uncalled (alarm : Alarm Handle) (timeout wakeupDelay : UInt32)
    (handle : Handle) : .callback handle ∉ (alarm.restorable timeout wakeupDelay).2 := by
  rw [Alarm.restorable]
  split <;> simp

omit [DecidableEq Handle] in
theorem call_own {alarm : Alarm Handle} {handle : Handle} (called : .callback handle ∈ alarm.call) :
    handle = alarm.handle := by
  rw [Alarm.call] at called
  split at called
  · exact Happening.callback.inj (List.mem_singleton.mp called)
  · exact absurd called List.not_mem_nil

theorem createTimer_calls {now : Nat} {alarm : Alarm Handle} {timeoutInitial wakeupDelay : UInt32}
    {handle : Handle} (called : .callback handle ∈
      (deadlineQueue.createTimer now alarm timeoutInitial wakeupDelay s).2) :
    handle = alarm.handle := by
  have first : .callback handle ∈ (if timeoutInitial = 0 then alarm.call else []) := by
    rw [Queue.createTimer] at called
    split at called
    · simpa using called
    · simpa [Queue.insertTimer, restorable_uncalled] using called
  split at first
  · exact call_own first
  · exact absurd first List.not_mem_nil

theorem start_uncalled {handle : Handle} (running : handle ∈ s.alarms.map fun e => e.1.handle)
    (now : Nat) (request : Request Handle) (timeoutPeriodic : UInt32) (refused : Status)
    (counter wakeupDelay : UInt32) : .callback handle ∉
      (deadlineQueue.start now request timeoutPeriodic refused counter wakeupDelay s).2 := by
  intro called
  rw [Queue.start] at called
  split at called
  · simp at called
  · next idle =>
    have own : handle = request.handle := createTimer_calls called
    exact idle ((running_iff request.handle).mpr (own ▸ running))

theorem stopTimer_uncalled (now : Nat) (stopped handle : Handle) :
    .callback handle ∉ (deadlineQueue.stopTimer now stopped s).2 := by
  rw [Queue.stopTimer]
  split <;> simp

theorem processExpired_current {counter wakeupDelay : UInt32} {handle : Handle}
    (called : .callback handle ∈ (deadlineQueue.processExpired counter wakeupDelay s).2) :
    ∃ alarm, deadlineQueue.current s = some alarm ∧ handle = alarm.handle := by
  rw [Queue.processExpired] at called
  cases turned : deadlineQueue.current s with
  | none => rw [turned] at called; exact absurd called List.not_mem_nil
  | some current =>
    rw [turned] at called
    refine ⟨current, rfl, call_own ?_⟩
    dsimp only at called
    split at called
    · exact called
    · split at called
      · exact called
      · exact (List.mem_append.mp called).resolve_left (restorable_uncalled _ _ _ _)

/-- A pending timer is called by the loop only, in its turn and no earlier than it is due. -/
theorem step_called (unique : s.Unique) {alarm : Alarm Handle} {d : Nat}
    (pending : (alarm, d) ∈ s.alarms) (tick : Tick Handle)
    (called : .callback alarm.handle ∈ (deadlineQueue.step s tick).2) :
    (∃ counter wakeupDelay, tick.entry = .processExpired counter wakeupDelay) ∧
      deadlineQueue.current s = some alarm ∧ d ≤ s.updated := by
  have running : alarm.handle ∈ s.alarms.map fun e => e.1.handle :=
    List.mem_map.mpr ⟨(alarm, d), pending, rfl⟩
  obtain ⟨now, entry⟩ := tick
  cases entry with
  | startTimer request counter wakeupDelay =>
    exact absurd called (start_uncalled running _ _ _ _ _ _)
  | startPeriodicTimer request counter wakeupDelay =>
    exact absurd called (start_uncalled running _ _ _ _ _ _)
  | stopTimer handle => exact absurd called (stopTimer_uncalled now handle _)
  | updateDeltaList => exact absurd called List.not_mem_nil
  | processExpired counter wakeupDelay =>
    obtain ⟨current, turned, own⟩ := processExpired_current called
    obtain ⟨due, among, passed⟩ := current_due turned
    obtain ⟨rfl, rfl⟩ := Prod.mk.inj (unique.same pending among own)
    exact ⟨⟨counter, wakeupDelay, rfl⟩, turned, passed⟩

end
end BleRemote.Timers
