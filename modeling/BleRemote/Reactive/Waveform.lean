import Mathlib.Data.List.Infix
import Mathlib.Logic.Function.Basic

/-! Writes to named wires: the levels they leave, the pulses of a wire, and the moments at which
two wires are high together. -/

set_option autoImplicit false
namespace BleRemote.Reactive

variable {Wire : Type} [DecidableEq Wire]

/-- The levels after writes, oldest write first. -/
def drive (levels : Wire → Bool) (writes : List (Wire × Bool)) : Wire → Bool :=
  writes.foldl (fun levels w => Function.update levels w.1 w.2) levels

/-- The rising edges of a wire. -/
def pulses (wire : Wire) (levels : Wire → Bool) : List (Wire × Bool) → Nat
  | [] => 0
  | w :: rest => (if w.1 = wire ∧ w.2 = true ∧ levels wire = false then 1 else 0) +
      pulses wire (Function.update levels w.1 w.2) rest

/-- At some moment, the start included, both wires are high. -/
def Together (a b : Wire) (levels : Wire → Bool) (writes : List (Wire × Bool)) : Prop :=
  ∃ first, first <+: writes ∧ drive levels first a = true ∧ drive levels first b = true

section
variable (levels : Wire → Bool) (first rest : List (Wire × Bool))

@[simp] theorem drive_nil : drive levels [] = levels := rfl

@[simp] theorem drive_cons (w : Wire × Bool) :
    drive levels (w :: rest) = drive (Function.update levels w.1 w.2) rest := rfl

theorem drive_append : drive levels (first ++ rest) = drive (drive levels first) rest := List.foldl_append

theorem drive_of_unwritten {wire : Wire} {writes : List (Wire × Bool)}
    (unwritten : ∀ w ∈ writes, w.1 ≠ wire) : drive levels writes wire = levels wire := by
  induction writes generalizing levels with
  | nil => rfl
  | cons w rest ih =>
    obtain ⟨other, later⟩ := List.forall_mem_cons.mp unwritten
    rw [drive_cons, ih _ later, Function.update_of_ne other.symm]

theorem update_congr {wire : Wire} {levels' : Wire → Bool} (same : levels wire = levels' wire)
    (w : Wire × Bool) :
    Function.update levels w.1 w.2 wire = Function.update levels' w.1 w.2 wire := by
  simp only [Function.update_apply, same]

/-- A wire is driven by its own level and writes. -/
theorem drive_congr {wire : Wire} {levels' : Wire → Bool} (same : levels wire = levels' wire)
    (writes : List (Wire × Bool)) : drive levels writes wire = drive levels' writes wire := by
  induction writes generalizing levels levels' with
  | nil => exact same
  | cons w rest ih => exact ih _ (update_congr levels same w)

@[simp] theorem pulses_nil (wire : Wire) : pulses wire levels [] = 0 := rfl

theorem pulses_append (wire : Wire) : pulses wire levels (first ++ rest) =
    pulses wire levels first + pulses wire (drive levels first) rest := by
  induction first generalizing levels with
  | nil => simp
  | cons w first ih => simp [pulses, ih, Nat.add_assoc]

theorem pulses_congr {wire : Wire} {levels' : Wire → Bool} (same : levels wire = levels' wire)
    (writes : List (Wire × Bool)) : pulses wire levels writes = pulses wire levels' writes := by
  induction writes generalizing levels levels' with
  | nil => rfl
  | cons w rest ih => rw [pulses, pulses, same, ih _ (update_congr levels same w)]

theorem pulses_of_unwritten {wire : Wire} {writes : List (Wire × Bool)}
    (unwritten : ∀ w ∈ writes, w.1 ≠ wire) : pulses wire levels writes = 0 := by
  induction writes generalizing levels with
  | nil => rfl
  | cons w rest ih =>
    obtain ⟨other, later⟩ := List.forall_mem_cons.mp unwritten
    rw [pulses, ih _ later, if_neg fun rising => other rising.1]

theorem together_congr {a b : Wire} {levels' : Wire → Bool} (same : levels a = levels' a)
    (same' : levels b = levels' b) (writes : List (Wire × Bool)) :
    Together a b levels writes ↔ Together a b levels' writes := by
  apply exists_congr
  intro first
  rw [drive_congr levels same first, drive_congr levels same' first]

theorem together_nil (a b : Wire) :
    Together a b levels [] ↔ levels a = true ∧ levels b = true := by
  simp [Together]

theorem together_cons (a b : Wire) (w : Wire × Bool) : Together a b levels (w :: rest) ↔
    (levels a = true ∧ levels b = true) ∨ Together a b (Function.update levels w.1 w.2) rest := by
  constructor
  · rintro ⟨_ | ⟨v, first⟩, early, high⟩
    · exact .inl high
    · obtain ⟨rfl, later⟩ := List.cons_prefix_cons.mp early
      exact .inr ⟨first, later, high⟩
  · rintro (high | ⟨first, early, high⟩)
    · exact ⟨[], List.nil_prefix, high⟩
    · exact ⟨w :: first, List.cons_prefix_cons.mpr ⟨rfl, early⟩, high⟩

theorem together_append (a b : Wire) : Together a b levels (first ++ rest) ↔
    Together a b levels first ∨ Together a b (drive levels first) rest := by
  induction first generalizing levels with
  | nil =>
    rw [List.nil_append, drive_nil, together_nil]
    exact ⟨.inr, fun or => or.elim (fun high => ⟨[], List.nil_prefix, high⟩) id⟩
  | cons w first ih =>
    rw [List.cons_append, together_cons, together_cons, ih, drive_cons, or_assoc]

end

/-! ## Writes that are left out or not -/

section
variable {levels : Wire → Bool} (c : Bool) (writes : List (Wire × Bool))

theorem drive_optional (closed : drive levels writes = levels) :
    drive levels (if c then writes else []) = levels := by
  cases c with
  | false => rfl
  | true => exact closed

theorem pulses_optional (wire : Wire) : pulses wire levels (if c then writes else []) =
    pulses wire levels writes * c.toNat := by
  cases c with
  | false => rfl
  | true => exact (Nat.mul_one _).symm

theorem together_optional {a b : Wire} (off : levels a = false) :
    Together a b levels (if c then writes else []) ↔ c = true ∧ Together a b levels writes := by
  cases c with
  | false => simp [together_nil, off]
  | true => simp

end

/-! ## A pass repeated -/

section
variable {levels : Wire → Bool} {pass : List (Wire × Bool)} (closed : drive levels pass = levels)
include closed

theorem drive_repeat (n : Nat) : drive levels (List.replicate n pass).flatten = levels := by
  induction n with
  | zero => rfl
  | succ n ih => rw [List.replicate_succ, List.flatten_cons, drive_append, closed, ih]

theorem pulses_repeat (wire : Wire) (n : Nat) :
    pulses wire levels (List.replicate n pass).flatten = n * pulses wire levels pass := by
  induction n with
  | zero => simp
  | succ n ih =>
    rw [List.replicate_succ, List.flatten_cons, pulses_append, closed, ih, Nat.succ_mul, Nat.add_comm]

theorem together_repeat (a b : Wire) (n : Nat) :
    Together a b levels (List.replicate (n + 1) pass).flatten ↔ Together a b levels pass := by
  induction n with
  | zero => simp
  | succ n ih =>
    rw [List.replicate_succ, List.flatten_cons, together_append, closed, ih, or_self]

end
end BleRemote.Reactive
