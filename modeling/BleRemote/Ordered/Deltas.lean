import Mathlib.Data.List.Basic

/-! Lists of times in which every entry counts from the one before it.

An insertion and a removal touch two neighbours only, and time passes at the head. The times
that such a list stands for are its partial sums.
-/

set_option autoImplicit false
namespace BleRemote.Ordered

variable {Item : Type}

/-- The time of every entry, from a start. -/
def times (start : Nat) : List (Item × Nat) → List (Item × Nat)
  | [] => []
  | (item, delta) :: rest => (item, start + delta) :: times (start + delta) rest

/-- Behind the entries that are not later. -/
def insertDelta (item : Item) : Nat → List (Item × Nat) → List (Item × Nat)
  | time, [] => [(item, time)]
  | time, (other, delta) :: rest =>
    if delta ≤ time then (other, delta) :: insertDelta item (time - delta) rest
    else (item, time) :: (other, delta - time) :: rest

def carry (delta : Nat) : List (Item × Nat) → List (Item × Nat)
  | [] => []
  | (item, next) :: rest => (item, next + delta) :: rest

/-- Without the first entry of this kind, whose delta the next one takes over. -/
def removeDelta (kind : Item → Bool) : List (Item × Nat) → List (Item × Nat)
  | [] => []
  | (item, delta) :: rest =>
    if kind item = true then carry delta rest else (item, delta) :: removeDelta kind rest

def elapseDeltas : Nat → List (Item × Nat) → List (Item × Nat)
  | _, [] => []
  | ticks, (item, delta) :: rest =>
    if ticks ≤ delta then (item, delta - ticks) :: rest
    else (item, 0) :: elapseDeltas (ticks - delta) rest

/-- Behind the entries that are not later, by their times. -/
def insertTime (item : Item) (time : Nat) : List (Item × Nat) → List (Item × Nat)
  | [] => [(item, time)]
  | entry :: rest =>
    if entry.2 ≤ time then entry :: insertTime item time rest else (item, time) :: entry :: rest

section
variable (start : Nat) (entries : List (Item × Nat))

theorem times_shift : times start entries = (times 0 entries).map fun e => (e.1, start + e.2) := by
  suffices general : ∀ base, times (start + base) entries =
      (times base entries).map fun e => (e.1, start + e.2) from general 0
  induction entries with
  | nil => exact fun _ => rfl
  | cons entry rest ih =>
    intro base
    rw [times, times, List.map_cons, ← ih (base + entry.2), Nat.add_assoc]

theorem times_items : (times start entries).map Prod.fst = entries.map Prod.fst := by
  induction entries generalizing start with
  | nil => rfl
  | cons entry rest ih => exact congrArg (List.cons entry.1) (ih _)

theorem times_map (f : Item → Item) : times start (entries.map fun e => (f e.1, e.2)) =
    (times start entries).map fun e => (f e.1, e.2) := by
  induction entries generalizing start with
  | nil => rfl
  | cons entry rest ih => exact congrArg (List.cons (f entry.1, start + entry.2)) (ih _)

theorem times_carry (delta : Nat) :
    times start (carry delta entries) = times (start + delta) entries := by
  cases entries with
  | nil => rfl
  | cons entry rest =>
    have order : start + (entry.2 + delta) = start + delta + entry.2 := by omega
    rw [carry, times, times, order]

theorem times_insert (item : Item) (time : Nat) :
    times start (insertDelta item time entries) =
      insertTime item (start + time) (times start entries) := by
  induction entries generalizing start time with
  | nil => rfl
  | cons entry rest ih =>
    obtain ⟨other, delta⟩ := entry
    rw [insertDelta, times, insertTime]
    by_cases earlier : delta ≤ time
    · have same : start + delta + (time - delta) = start + time := by omega
      rw [if_pos earlier, if_pos (Nat.add_le_add_left earlier start), times, ih, same]
    · have same : start + time + (delta - time) = start + delta := by omega
      rw [if_neg earlier, if_neg (by omega), times, times, same]

theorem times_remove (kind : Item → Bool) :
    times start (removeDelta kind entries) = (times start entries).eraseP fun e => kind e.1 := by
  induction entries generalizing start with
  | nil => rfl
  | cons entry rest ih =>
    obtain ⟨item, delta⟩ := entry
    rw [removeDelta, times, List.eraseP_cons]
    cases kind item with
    | true => rw [if_pos rfl, times_carry, cond_true]
    | false => rw [if_neg Bool.false_ne_true, times, ih, cond_false]

theorem times_elapse (ticks : Nat) :
    times 0 (elapseDeltas ticks entries) = (times 0 entries).map fun e => (e.1, e.2 - ticks) := by
  induction entries generalizing ticks with
  | nil => rfl
  | cons entry rest ih =>
    obtain ⟨item, delta⟩ := entry
    rw [elapseDeltas, times, List.map_cons, times_shift (0 + delta) rest, List.map_map]
    split
    · next within =>
      rw [times, times_shift (0 + (delta - ticks)) rest, Nat.zero_add, Nat.zero_add]
      refine congrArg _ (List.map_congr_left fun e _ => ?_)
      have same : delta - ticks + e.2 = delta + e.2 - ticks := by omega
      rw [Function.comp, same]
    · next beyond =>
      have late : delta - ticks = 0 := by omega
      rw [times, Nat.add_zero, ih, Nat.zero_add, late]
      refine congrArg _ (List.map_congr_left fun e _ => ?_)
      have same : e.2 - (ticks - delta) = delta + e.2 - ticks := by omega
      rw [Function.comp, same]

theorem times_start : ∀ e ∈ times start entries, start ≤ e.2 := by
  rw [times_shift]
  intro e member
  obtain ⟨later, -, rfl⟩ := List.mem_map.mp member
  exact Nat.le_add_right ..

/-- The entries without time left are the first ones. -/
theorem times_due : ((times 0 entries).filter fun e => e.2 = 0).map Prod.fst =
    (entries.takeWhile fun e => e.2 = 0).map Prod.fst := by
  induction entries with
  | nil => rfl
  | cons entry rest ih =>
    obtain ⟨item, delta⟩ := entry
    cases delta with
    | zero => exact congrArg (List.cons item) ih
    | succ delta =>
      have none : (times 0 ((item, delta + 1) :: rest)).filter (fun e => e.2 = 0) = [] := by
        refine List.filter_eq_nil_iff.mpr fun e member => ?_
        obtain rfl | member := List.mem_cons.mp member
        · simp
        · have := times_start (0 + (delta + 1)) rest e member
          simp only [decide_eq_true_eq]
          omega
      rw [none]; rfl

theorem insertTime_perm (item : Item) (time : Nat) :
    (insertTime item time entries).Perm ((item, time) :: entries) := by
  induction entries with
  | nil => exact List.Perm.refl _
  | cons entry rest ih =>
    rw [insertTime]
    split
    · exact (ih.cons entry).trans (List.Perm.swap ..)
    · exact List.Perm.refl _

theorem mem_insertTime (item : Item) (time : Nat) (e : Item × Nat) :
    e ∈ insertTime item time entries ↔ e = (item, time) ∨ e ∈ entries :=
  (insertTime_perm entries item time).mem_iff.trans List.mem_cons

/-- A reading of the times that tells which are later than the new one. -/
theorem insertTime_map (item : Item) (time : Nat) (read : Nat → Nat)
    (keeps : ∀ d, read d ≤ read time ↔ d ≤ time) :
    (insertTime item time entries).map (fun e => (e.1, read e.2)) =
      insertTime item (read time) (entries.map fun e => (e.1, read e.2)) := by
  induction entries with
  | nil => rfl
  | cons entry rest ih =>
    rw [insertTime, List.map_cons, insertTime]
    by_cases earlier : entry.2 ≤ time
    · rw [if_pos earlier, if_pos ((keeps _).mpr earlier), List.map_cons, ih]
    · rw [if_neg earlier, if_neg (mt (keeps _).mp earlier), List.map_cons, List.map_cons]

end
end BleRemote.Ordered
