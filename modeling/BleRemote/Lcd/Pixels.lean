import BleRemote.Lcd.Dmd
import BleRemote.Raster.Paints
import Mathlib.Order.Interval.Set.LinearOrder
import Mathlib.Tactic.SplitIfs

/-! What the writes of the driver do to the pixels: each sets a run of pixels to black or
white and leaves the others. -/

set_option autoImplicit false
namespace BleRemote.Lcd

open Raster

/-- The pixels in the order of the framebuffer, line after line; a set bit is white. -/
def pixels (fb : Framebuffer) (i : Nat) : Bool := (fb (i / 8)).getLsbD (i % 8)

/-- The byte of eight pixels of one colour. -/
def level (white : Bool) : BitVec 8 := if white then 0xFF else 0x00

@[simp] theorem level_getLsbD (white : Bool) (n : Nat) :
    (level white).getLsbD n = (decide (n < 8) && white) := by
  unfold level
  cases white
  · simp
  · by_cases below : n < 8
    · have bits : ∀ k : Fin 8, (0xFF#8).getLsbD k = true := by decide
      simpa [below] using bits ⟨n, below⟩
    · simp [below, BitVec.getLsbD_of_ge _ _ (by omega : 8 ≤ n)]

theorem level_ne_zero (white : Bool) : (level white != 0) = white := by
  cases white <;> rfl

theorem pixels_store (fb : Framebuffer) (p : Nat) (byte : BitVec 8) (i : Nat) :
    pixels (store fb p byte) i =
      if i / 8 = p then byte.getLsbD (i % 8) else pixels fb i := by
  simp only [pixels, store, Function.update_apply]
  split <;> rfl

theorem pixels_byte (fb : Framebuffer) (b : Nat) {k : Nat} (below : k < 8) :
    pixels fb (8 * b + k) = (fb b).getLsbD k := by
  rw [pixels, show (8 * b + k) / 8 = b by omega, show (8 * b + k) % 8 = k by omega]

theorem byte_eq {fb : Framebuffer} {b : Nat} {byte : BitVec 8}
    (same : ∀ k < 8, pixels fb (8 * b + k) = byte.getLsbD k) : fb b = byte := by
  apply BitVec.eq_of_getLsbD_eq
  intro k below
  rw [← pixels_byte fb b below]
  exact same k below

theorem bit_getLsbD (n : Nat) {m : Nat} (below : m < 8) : (1#8 <<< n).getLsbD m = decide (m = n) := by
  rw [BitVec.getLsbD_shiftLeft, BitVec.getLsbD_one]
  by_cases same : m = n
  · simp [same, same ▸ below]
  · have apart : m < n ∨ m - n ≠ 0 := by omega
    rcases apart with less | more
    · simp [less, same]
    · simp [more, same]

theorem setBit_getLsbD (byte : BitVec 8) (on : Bool) {n m : Nat} (below : m < 8) :
    (setBit byte n on).getLsbD m = if m = n then on else byte.getLsbD m := by
  cases on <;>
    simp only [setBit, if_true, Bool.false_eq_true, if_false, BitVec.getLsbD_and, BitVec.getLsbD_or,
      BitVec.getLsbD_not, bit_getLsbD n below, below, decide_true, Bool.true_and] <;>
    by_cases same : m = n <;> simp [same]

theorem lowMask_getLsbD {n m : Nat} (small : n < 8) (below : m < 8) :
    ((1#8 <<< n) - 1).getLsbD m = decide (m < n) := by
  have bits : ∀ n m : Fin 8, ((1#8 <<< (n : Nat)) - 1).getLsbD m = decide (m < n) := by decide
  exact bits ⟨n, small⟩ ⟨m, below⟩

/-- A run of pixels of one colour. -/
def Fills (start stop : Nat) (white : Bool) (before after : Framebuffer) : Prop :=
  Paints (Set.Ico start stop) (fun _ => white) (pixels before) (pixels after)

section
variable {start middle stop : Nat} {white : Bool} {fb between after : Framebuffer}

theorem fills_of_ite (bits : ∀ i, pixels after i =
    if start ≤ i ∧ i < stop then white else pixels fb i) : Fills start stop white fb after := by
  constructor
  · intro i member
    exact (bits i).trans (if_pos member)
  · intro i other
    exact (bits i).trans (if_neg other)

theorem Fills.nothing (fb : Framebuffer) (start : Nat) (white : Bool) :
    Fills start start white fb fb :=
  fills_of_ite fun i => by rw [if_neg (by omega)]

theorem Fills.trans (first : Fills start middle white fb between)
    (rest : Fills middle stop white between after) (ordered : start ≤ middle)
    (ordered' : middle ≤ stop) : Fills start stop white fb after := by
  have both := Paints.union first rest
  rwa [Set.Ico_union_Ico_eq_Ico ordered ordered'] at both

end

section
variable (p : Nat) (white : Bool) (fb : Framebuffer)

theorem fillPixels_fills (x n : Nat) :
    Fills (8 * p + x) (8 * p + x + n) white fb (fillPixels p x n (level white) fb) := by
  induction n with
  | zero => exact Fills.nothing fb _ white
  | succ n ih =>
    refine ih.trans ?_ (by omega) (by omega)
    unfold fillPixels
    rw [List.range_succ, List.foldl_append, List.foldl_cons, List.foldl_nil, level_ne_zero]
    apply fills_of_ite
    intro i
    have below : i % 8 < 8 := Nat.mod_lt i (by decide)
    rw [pixels_store, setBit_getLsbD _ _ below]
    -- the one pixel that changes
    by_cases here : i = 8 * p + x + n
    · rw [if_pos (by omega), if_pos (by omega), if_pos (by omega)]
    · rw [if_neg (c := _ ∧ _) (by omega)]
      split
      · next byte =>
        rw [if_neg (by omega), ← byte]
        rfl
      · rfl

theorem fillFrom_fills {n : Nat} (small : n < 8) :
    Fills (8 * p + n) (8 * p + 8) white fb (fillFrom p n (level white) fb) := by
  apply fills_of_ite
  intro i
  have below : i % 8 < 8 := Nat.mod_lt i (by decide)
  rw [fillFrom, pixels_store]
  by_cases here : i / 8 = p
  · simp only [here, if_true, BitVec.getLsbD_or, BitVec.getLsbD_and, BitVec.getLsbD_not,
      level_getLsbD, lowMask_getLsbD small below, below, decide_true, Bool.true_and]
    by_cases upper : n ≤ i % 8
    · simp [show 8 * p + n ≤ i ∧ i < 8 * p + 8 by omega, show ¬ i % 8 < n by omega]
    · simp [show ¬ (8 * p + n ≤ i ∧ i < 8 * p + 8) by omega, show i % 8 < n by omega, pixels, here]
  · rw [if_neg here, if_neg (by omega)]

theorem fillUpto_fills {n : Nat} (small : n < 8) :
    Fills (8 * p) (8 * p + n) white fb (fillUpto p n (level white) fb) := by
  apply fills_of_ite
  intro i
  have below : i % 8 < 8 := Nat.mod_lt i (by decide)
  rw [fillUpto, pixels_store]
  by_cases here : i / 8 = p
  · simp only [here, if_true, BitVec.getLsbD_or, BitVec.getLsbD_and, BitVec.getLsbD_not,
      level_getLsbD, lowMask_getLsbD small below, below, decide_true, Bool.true_and]
    by_cases lower : i % 8 < n
    · simp [show 8 * p ≤ i ∧ i < 8 * p + n by omega, lower]
    · simp [show ¬ (8 * p ≤ i ∧ i < 8 * p + n) by omega, lower, pixels, here]
  · rw [if_neg here, if_neg (by omega)]

theorem memset_fills (count : Nat) :
    Fills (8 * p) (8 * (p + count)) white fb (memset p (level white) count fb) := by
  apply fills_of_ite
  intro i
  have below : i % 8 < 8 := Nat.mod_lt i (by decide)
  simp only [pixels, memset]
  by_cases inside : p ≤ i / 8 ∧ i / 8 < p + count
  · rw [if_pos inside, if_pos (by omega), level_getLsbD, decide_eq_true below, Bool.true_and]
  · rw [if_neg inside, if_neg (by omega)]

theorem fillAligned_fills (n : Nat) :
    Fills (8 * p) (8 * p + n) white fb (fillAligned p n (level white) fb) := by
  have whole := memset_fills p white fb (n / 8)
  unfold fillAligned
  split
  · have last := fillUpto_fills (p + n / 8) white (memset p (level white) (n / 8) fb)
      (Nat.mod_lt n (by decide))
    have stop : 8 * (p + n / 8) + n % 8 = 8 * p + n := by omega
    rw [stop] at last
    exact whole.trans last (by omega) (by omega)
  · have stop : 8 * (p + n / 8) = 8 * p + n := by omega
    rwa [stop] at whole

/-- A line is filled from the first pixel on, however the run lies across its bytes. -/
theorem fillRow_fills (x n : Nat) :
    Fills (8 * p + x) (8 * p + x + n) white fb (fillRow p x n (level white) fb) := by
  unfold fillRow
  split
  · exact fillPixels_fills p white fb x n
  · split
    · have first := fillFrom_fills (p + x / 8) white fb (Nat.mod_lt x (by decide))
      have rest := fillAligned_fills (p + x / 8 + 1) white
        (fillFrom (p + x / 8) (x % 8) (level white) fb) (n - (8 - x % 8))
      rw [show 8 * (p + x / 8) + x % 8 = 8 * p + x by omega] at first
      rw [show 8 * (p + x / 8 + 1) + (n - (8 - x % 8)) = 8 * p + x + n by omega] at rest
      exact first.trans rest (by omega) (by omega)
    · have aligned := fillAligned_fills (p + x / 8) white fb n
      rwa [show 8 * (p + x / 8) = 8 * p + x by omega] at aligned

end

/-! ## The driver -/

/-- The driver is initialised and clips to the whole panel. -/
structure Dmd.Open (d : Dmd) : Prop where
  memlcd : d.memlcd = true
  dimensions : d.dimensions = ⟨displaySize, displaySize, 0, 0, displaySize, displaySize⟩

section
variable {d : Dmd}

theorem writeColorRows_nothing (pixelData : BitVec 8) (rowsLeft x y : Nat) (d : Dmd) :
    writeColorRows pixelData rowsLeft x y 0 d = (dmdOk, d) := by
  cases rowsLeft <;> rfl

theorem clipRoom {x : Nat} (column : x < displaySize) : uint32 (displaySize - x) = displaySize - x := by
  unfold displaySize uint32 at *
  omega

/-- A run may go on over the ends of lines. -/
theorem writeColorRows_fills (white : Bool) (opened : d.Open) {rowsLeft x : Nat} (y : Nat) {n : Nat}
    (column : x < displaySize) (fits : x + n ≤ displaySize * rowsLeft) :
    let r := writeColorRows (level white) rowsLeft x y n d
    r.1 = dmdOk ∧ r.2.Open ∧
      Fills (displaySize * y + x) (displaySize * y + x + n) white d.framebuffer r.2.framebuffer := by
  -- on the lines left; what is over at the end of a line goes on at the start of the next
  induction rowsLeft generalizing d x y n with
  | zero =>
    obtain rfl : n = 0 := by omega
    exact ⟨rfl, opened, Fills.nothing _ _ _⟩
  | succ rowsLeft ih =>
    rcases Nat.eq_zero_or_pos n with rfl | some
    · rw [writeColorRows_nothing]
      exact ⟨rfl, opened, Fills.nothing _ _ _⟩
    have start : uint16 (x + (0 : Nat)) = x := by
      unfold displaySize at column
      unfold uint16
      omega
    have line (count : Nat) : Fills (displaySize * y + x) (displaySize * y + x + count) white
        d.framebuffer (fillRow (y * bytesPerRow) x count (level white) d.framebuffer) := by
      have fills := fillRow_fills (y * bytesPerRow) white d.framebuffer x count
      rwa [show 8 * (y * bytesPerRow) = displaySize * y by unfold bytesPerRow displaySize; omega] at fills
    obtain ⟨memlcd, dimensions, fb, sized⟩ := d
    obtain ⟨rfl, rfl⟩ := opened
    simp only [writeColorRows, if_neg (Nat.pos_iff_ne_zero.mp some), clipRoom column, start]
    by_cases wraps : displaySize - x < n
    · obtain ⟨status, stays, rest⟩ := ih (d := ⟨true, _, _, sized⟩) ⟨rfl, rfl⟩ (y + 1)
        (n := n - (displaySize - x)) (by decide : 0 < displaySize)
        (by rw [Nat.mul_succ] at fits; omega)
      rw [if_pos wraps]
      refine ⟨status, stays, (line (displaySize - x)).trans ?_ (by omega) (by omega)⟩
      have contiguous : displaySize * (y + 1) + 0 = displaySize * y + x + (displaySize - x) := by
        rw [Nat.mul_succ]; omega
      rw [contiguous] at rest
      rwa [show displaySize * y + x + (displaySize - x) + (n - (displaySize - x)) =
        displaySize * y + x + n by omega] at rest
    · rw [if_neg wraps, Nat.sub_self, writeColorRows_nothing]
      exact ⟨rfl, ⟨rfl, rfl⟩, line n⟩

theorem dmdWriteColor_fills {x y n : Nat} (red green blue : BitVec 8) (opened : d.Open)
    (column : x < displaySize) (some : 0 < n) (fits : displaySize * y + x + n ≤ displaySize * displaySize) :
    let r := dmdWriteColor x y red green blue n d
    r.1 = dmdOk ∧ r.2.Open ∧
      Fills (displaySize * y + x) (displaySize * y + x + n) (green != 0) d.framebuffer
        r.2.framebuffer := by
  have line : y < displaySize := by
    unfold displaySize at *
    omega
  have bottom : uint16 ((0 : Nat) + displaySize) = displaySize := rfl
  have top : uint16 ((0 : Nat) + y) = y := by
    unfold displaySize uint16 at *
    omega
  have white : (if green ≠ 0 then 0xFF else 0x00 : BitVec 8) = level (green != 0) := by
    unfold level
    by_cases none : green = 0 <;> simp [none]
  have rows := writeColorRows_fills (green != 0) opened y column
    (show x + n ≤ displaySize * (displaySize - y) by unfold displaySize at *; omega)
  simp only [dmdWriteColor, opened.memlcd, opened.dimensions, Bool.true_eq_false, if_false, bottom, top,
    white]
  exact rows

theorem wholePanel_fills (red green blue : BitVec 8) (opened : d.Open) :
    let r := dmdWriteColor 0 0 red green blue (displaySize * displaySize) d
    r.1 = dmdOk ∧ r.2.Open ∧
      Fills 0 (displaySize * displaySize) (green != 0) d.framebuffer r.2.framebuffer := by
  have fills := dmdWriteColor_fills (x := 0) (y := 0) red green blue opened (by decide)
    (by unfold displaySize; omega : 0 < displaySize * displaySize) (by omega)
  rwa [show displaySize * 0 + 0 + displaySize * displaySize = displaySize * displaySize by omega] at fills

theorem opened_whole (fb : Framebuffer) : (Dmd.whole fb).Open := ⟨rfl, rfl⟩

theorem dmdInit_memlcd {memlcdStatus : UInt32}
    (succeeds : (dmdInit memlcdStatus d).1 = dmdOk) : (dmdInit memlcdStatus d).2.memlcd = true := by
  have failed : dmdErrorDriverNotInitialized ≠ dmdOk := by decide
  unfold dmdInit at succeeds ⊢
  split_ifs at succeeds ⊢ with already error
  · exact already
  · exact absurd succeeds failed
  · dsimp only
    exact (wholePanel_fills _ _ _ (opened_whole d.framebuffer)).2.1.memlcd

theorem dmdSetClippingArea_whole (memlcd : d.memlcd = true) :
    ∃ after : Dmd, dmdSetClippingArea 0 0 displaySize displaySize d = (dmdOk, after) ∧ after.Open := by
  obtain ⟨_, ⟨_, _, _, _, _, _⟩, fb, sized⟩ := d
  obtain rfl : _ = true := memlcd
  obtain ⟨rfl, rfl⟩ := sized rfl
  exact ⟨_, rfl, rfl, rfl⟩

end
end BleRemote.Lcd
