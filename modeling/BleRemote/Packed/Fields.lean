import Mathlib.Init

/-! Registers that are packed from fields of one width. A field is written by clearing its bits
and setting them again, and read by a shift; what was written is read back, and no other field
changes. -/

set_option autoImplicit false
namespace BleRemote.Packed

variable {w k : Nat}

def put (r : BitVec w) (i : Nat) (v : BitVec k) : BitVec w :=
  (r &&& ~~~((BitVec.allOnes k).setWidth w <<< (i * k))) ||| (v.setWidth w <<< (i * k))

def get (k : Nat) (r : BitVec w) (i : Nat) : BitVec k := (r >>> (i * k)).setWidth k

theorem put_getLsbD (r : BitVec w) (i : Nat) (v : BitVec k) (b : Nat) : (put r i v).getLsbD b =
    if i * k ≤ b ∧ b < i * k + k then decide (b < w) && v.getLsbD (b - i * k) else r.getLsbD b := by
  simp only [put, BitVec.getLsbD_or, BitVec.getLsbD_and, BitVec.getLsbD_not, BitVec.getLsbD_shiftLeft,
    BitVec.getLsbD_setWidth, BitVec.getLsbD_allOnes]
  by_cases stored : b < w
  · -- below the field, in it, or above it
    rcases Nat.lt_or_ge b (i * k) with below | reached
    · simp [below, stored, Nat.not_le_of_lt below]
    · rcases Nat.lt_or_ge b (i * k + k) with inside | above
      · have offset : b - i * k < k ∧ b - i * k < w := by omega
        simp [stored, reached, inside, offset, Nat.not_lt_of_le reached]
      · have beyond : ¬b - i * k < k := by omega
        have clear : v.getLsbD (b - i * k) = false := BitVec.getLsbD_of_ge _ _ (Nat.le_of_not_lt beyond)
        simp [stored, beyond, clear, Nat.not_lt_of_le above]
  · have clear : r.getLsbD b = false := BitVec.getLsbD_of_ge _ _ (Nat.le_of_not_lt stored)
    simp [stored, clear]

theorem get_getLsbD (r : BitVec w) (i b : Nat) :
    (get k r i).getLsbD b = (decide (b < k) && r.getLsbD (i * k + b)) := by
  rw [get, BitVec.getLsbD_setWidth, BitVec.getLsbD_ushiftRight]

theorem get_put {r : BitVec w} {i : Nat} {v : BitVec k} (fits : i * k + k ≤ w) :
    get k (put r i v) i = v := by
  apply BitVec.eq_of_getLsbD_eq
  intro b inside
  have within : i * k ≤ i * k + b ∧ i * k + b < i * k + k := by omega
  have stored : i * k + b < w := by omega
  rw [get_getLsbD, put_getLsbD, if_pos within]
  simp [inside, stored]

theorem get_put_of_ne (r : BitVec w) {i j : Nat} (v : BitVec k) (ne : j ≠ i) :
    get k (put r i v) j = get k r j := by
  apply BitVec.eq_of_getLsbD_eq
  intro b inside
  have apart : ¬(i * k ≤ j * k + b ∧ j * k + b < i * k + k) := by
    rcases Nat.lt_or_gt_of_ne ne with before | after
    · have step : (j + 1) * k ≤ i * k := Nat.mul_le_mul_right k before
      rw [Nat.succ_mul] at step
      omega
    · have step : (i + 1) * k ≤ j * k := Nat.mul_le_mul_right k after
      rw [Nat.succ_mul] at step
      omega
  rw [get_getLsbD, get_getLsbD, put_getLsbD, if_neg apart]

/-! ## Fields of one bit -/

theorem set_getLsbD (r : BitVec w) {i : Nat} (fits : i < w) (j : Nat) :
    (r ||| (1#w <<< i)).getLsbD j = if j = i then true else r.getLsbD j := by
  rw [BitVec.getLsbD_or, ← BitVec.twoPow_eq, BitVec.getLsbD_twoPow]
  by_cases same : j = i
  · simp [same, fits]
  · simp [same, Ne.symm same]

theorem clear_getLsbD (r : BitVec w) (i j : Nat) :
    (r &&& ~~~(1#w <<< i)).getLsbD j = if j = i then false else r.getLsbD j := by
  rw [BitVec.getLsbD_and, BitVec.getLsbD_not, ← BitVec.twoPow_eq, BitVec.getLsbD_twoPow]
  by_cases stored : j < w
  · by_cases same : j = i
    · simp [same]
    · simp [same, Ne.symm same, stored]
  · have clear : r.getLsbD j = false := BitVec.getLsbD_of_ge _ _ (Nat.le_of_not_lt stored)
    simp [clear]

end BleRemote.Packed
