import Mathlib.Data.List.Range

/-! Maximal runs: the positions of a property, taken together as far as they are
neighbours. -/

set_option autoImplicit false
namespace BleRemote.Raster

/-- The maximal runs of a property between two positions, from left to right, each by its
first position and its length. -/
inductive Runs (p : Nat → Prop) (stop : Nat) : Nat → List (Nat × Nat) → Prop where
  | none {start : Nat} (nowhere : ∀ y, start ≤ y → y < stop → ¬ p y) : Runs p stop start []
  | run {start first count : Nat} {rest : List (Nat × Nat)} (ordered : start ≤ first)
      (clean : ∀ y, start ≤ y → y < first → ¬ p y) (nonempty : 0 < count)
      (throughout : ∀ y, first ≤ y → y < first + count → p y) (within : first + count ≤ stop)
      (maximal : first + count < stop → ¬ p (first + count))
      (behind : Runs p stop (first + count) rest) : Runs p stop start ((first, count) :: rest)

/-- All positions of some runs. -/
def positions (runs : List (Nat × Nat)) : List Nat := runs.flatMap fun r => List.range' r.1 r.2

section
variable {p : Nat → Prop} {start stop : Nat} {runs : List (Nat × Nat)}

/-- A position without the property may stand before the runs. -/
theorem Runs.skip (here : ¬ p start) (behind : Runs p stop (start + 1) runs) : Runs p stop start runs := by
  have earlier {first : Nat} (clean : ∀ y, start + 1 ≤ y → y < first → ¬ p y) :
      ∀ y, start ≤ y → y < first → ¬ p y := by
    intro y from_ before
    rcases Nat.eq_or_lt_of_le from_ with rfl | later
    · exact here
    · exact clean y later before
  cases behind with
  | none nowhere => exact .none (earlier nowhere)
  | run ordered clean nonempty throughout within maximal behind =>
    exact .run (by omega) (earlier clean) nonempty throughout within maximal behind

/-- Every run lies in its bounds, is not empty and has the property throughout. -/
theorem Runs.of_mem (runsOf : Runs p stop start runs) : ∀ r ∈ runs,
    start ≤ r.1 ∧ 0 < r.2 ∧ r.1 + r.2 ≤ stop ∧ ∀ y, r.1 ≤ y → y < r.1 + r.2 → p y := by
  induction runsOf with
  | none => nofun
  | run ordered _ nonempty throughout within _ _ ih =>
    rintro r (_ | ⟨_, member⟩)
    · exact ⟨ordered, nonempty, within, throughout⟩
    · obtain ⟨later, rest⟩ := ih r member
      exact ⟨by omega, rest⟩

/-- Between two runs there is a position without the property. -/
theorem Runs.apart (runsOf : Runs p stop start runs) : runs.Pairwise fun r s => r.1 + r.2 < s.1 := by
  induction runsOf with
  | none => exact .nil
  | @run start first count rest _ _ _ _ _ maximal behind ih =>
    refine .cons (fun s member => ?_) ih
    obtain ⟨later, nonempty, within, throughout⟩ := behind.of_mem s member
    have here : p s.1 := throughout s.1 le_rfl (by omega)
    have other : s.1 ≠ first + count := by
      rintro same
      exact maximal (by omega) (same ▸ here)
    exact Nat.lt_of_le_of_ne later other.symm

theorem range'_split {a b c : Nat} (ordered : a ≤ b) (ordered' : b ≤ c) :
    List.range' a (c - a) = List.range' a (b - a) ++ List.range' b (c - b) := by
  have append := @List.range'_append_1 a (b - a) (c - b)
  rw [show a + (b - a) = b by omega, show b - a + (c - b) = c - a by omega] at append
  exact append.symm

/-- The runs hold every position of the property once, in order, and no other. -/
theorem Runs.positions_eq [DecidablePred p] (runsOf : Runs p stop start runs) :
    positions runs = (List.range' start (stop - start)).filter p := by
  have nothing {a b : Nat} (clean : ∀ y, a ≤ y → y < b → ¬ p y) :
      (List.range' a (b - a)).filter p = [] := by
    rw [List.filter_eq_nil_iff]
    intro y member
    rw [List.mem_range'_1] at member
    rw [decide_eq_true_iff]
    exact clean y member.1 (by omega)
  induction runsOf with
  | none nowhere => exact (nothing nowhere).symm
  | @run start first count rest ordered clean nonempty throughout within maximal behind ih =>
    have whole : (List.range' first count).filter p = List.range' first count := by
      rw [List.filter_eq_self]
      intro y member
      rw [List.mem_range'_1] at member
      exact decide_eq_true (throughout y member.1 member.2)
    rw [range'_split ordered (by omega : first ≤ stop), List.filter_append, nothing clean,
      List.nil_append, range'_split (Nat.le_add_right first count) within, List.filter_append,
      Nat.add_sub_cancel_left, whole, ← ih]
    rfl

end
end BleRemote.Raster
