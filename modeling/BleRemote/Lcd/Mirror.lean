import BleRemote.Lcd.Driver
import Mathlib.Logic.Relation

/-! The glass and the framebuffer agree on every line that is not dirty, over all calls of the
driver, and on the whole panel after an update. -/

set_option autoImplicit false
namespace BleRemote.Lcd

/-- The calls of the driver that the graphics library and the application make. -/
inductive DmdCall where
  | init
  | getDisplayGeometry
  | setClippingArea (xStart yStart width height : Nat)
  | writeColor (x y : Nat) (red green blue : BitVec 8) (numPixels : Nat)
  | updateDisplay

namespace Driver

/-- Nothing comes of a call that follows the pointer to a device that is not there. -/
def perform (d : Driver) : DmdCall → Option Driver
  | .init => some d.dmdInit.2
  | .getDisplayGeometry => some d.dmdGetDisplayGeometry.2
  | .setClippingArea xStart yStart width height =>
    some (d.dmdSetClippingArea xStart yStart width height).2
  | .writeColor x y red green blue numPixels => some (d.dmdWriteColor x y red green blue numPixels).2
  | .updateDisplay => d.dmdUpdateDisplay.map Prod.snd

/-- The driver relies on its callers for the column a write starts in. -/
def Permits (d : Driver) : DmdCall → Prop
  | .writeColor x _ _ _ _ _ => x ≤ d.dmd.dimensions.clipWidth
  | _ => True

def Step (d next : Driver) : Prop := ∃ c, d.Permits c ∧ d.perform c = some next

/-- The lines that are not dirty are on the glass. -/
def Mirrors (d : Driver) : Prop :=
  ∀ i, i / displaySize < displaySize → ¬ isDirty d.dirtyRows (i / displaySize) →
    pixels d.glass i = pixels d.dmd.framebuffer i

structure Sound (d : Driver) : Prop where
  xClipped : d.dmd.dimensions.xClipStart + d.dmd.dimensions.clipWidth ≤ displaySize
  yClipped : d.dmd.dimensions.yClipStart + d.dmd.dimensions.clipHeight ≤ displaySize
  mirrors : d.dmd.memlcd = true → d.Mirrors

/-- The memory behind the arrays of the driver is as it was. -/
structure Confined (d next : Driver) : Prop where
  framebuffer (i : Nat) : displaySize * bytesPerRow ≤ i → next.dmd.framebuffer i = d.dmd.framebuffer i
  dirtyRows (word : Nat) : 4 ≤ word → next.dirtyRows word = d.dirtyRows word

theorem Confined.refl (d : Driver) : d.Confined d := ⟨fun _ _ => rfl, fun _ _ => rfl⟩

theorem Confined.trans {d between next : Driver} (first : d.Confined between)
    (rest : between.Confined next) : d.Confined next :=
  ⟨fun i behind => (rest.framebuffer i behind).trans (first.framebuffer i behind),
    fun word behind => (rest.dirtyRows word behind).trans (first.dirtyRows word behind)⟩

/-! ## One line -/

section
variable {d : Driver}

/-- The driver after a line of the framebuffer was written. -/
def lineWritten (d : Driver) (fb : Framebuffer) (y : Nat) : Driver :=
  { d with dmd := { d.dmd with framebuffer := fb }, dirtyRows := setLineDirty y d.dirtyRows }

theorem Sound.lineWritten (sound : d.Sound) {fb : Framebuffer} {y : Nat}
    (elsewhere : ∀ i, i / displaySize ≠ y → pixels fb i = pixels d.dmd.framebuffer i) :
    (d.lineWritten fb y).Sound := by
  refine ⟨sound.xClipped, sound.yClipped, fun device i onPanel clean => ?_⟩
  have others := mt (isDirty_setLineDirty y (i / displaySize)).mpr clean
  rw [not_or] at others
  exact (sound.mirrors device i onPanel others.2).trans (elsewhere i others.1).symm

theorem lineWritten_confined {fb : Framebuffer} {y : Nat} (onPanel : y < displaySize)
    (elsewhere : ∀ i, i / displaySize ≠ y → pixels fb i = pixels d.dmd.framebuffer i) :
    d.Confined (d.lineWritten fb y) := by
  constructor
  · intro i behind
    apply byte_eq
    intro k below
    rw [← pixels_byte d.dmd.framebuffer i below]
    apply elsewhere
    simp only [bytesPerRow, displaySize] at *
    omega
  · intro word behind
    have other : word ≠ y / 32 := by
      unfold displaySize at onPanel
      omega
    exact Function.update_of_ne other _ _

/-- A run of pixels that starts in the clipping area and is no longer than the rest of its
line stays in its line. -/
theorem fillRow_elsewhere (white : Bool) (fb : Framebuffer) {x y count xClipStart clipWidth : Nat}
    (clipped : xClipStart + clipWidth ≤ displaySize) (inClip : x ≤ clipWidth)
    (room : count ≤ uint32 (clipWidth - x)) {i : Nat} (other : i / displaySize ≠ y) :
    pixels (fillRow (y * bytesPerRow) (uint16 (x + xClipStart)) count (level white) fb) i =
      pixels fb i := by
  apply (fillRow_fills (y * bytesPerRow) white fb (uint16 (x + xClipStart)) count).outside
  have start : uint16 (x + xClipStart) = x + xClipStart := by
    unfold uint16 displaySize at *
    omega
  have left : uint32 (clipWidth - x) = clipWidth - x := by
    unfold uint32 displaySize at *
    omega
  rw [left] at room
  rw [start, Set.mem_Ico]
  simp only [bytesPerRow, displaySize] at *
  omega

end

/-! ## Writing colors -/

section
variable {d : Driver} {rowsLeft x y n : Nat}

/-- How many pixels of a write go on a line. -/
def rowPixels (d : Driver) (x n : Nat) : Nat :=
  if uint32 (d.dmd.dimensions.clipWidth - x) < n then uint32 (d.dmd.dimensions.clipWidth - x) else n

theorem writeColorRows_succ (pixelData : BitVec 8) (some : n ≠ 0) :
    writeColorRows pixelData (rowsLeft + 1) x y n d =
      writeColorRows pixelData rowsLeft 0 (y + 1) (n - d.rowPixels x n)
        (d.lineWritten (fillRow (y * bytesPerRow) (uint16 (x + d.dmd.dimensions.xClipStart))
          (d.rowPixels x n) pixelData d.dmd.framebuffer) y) := by
  rw [writeColorRows, if_neg some]
  rfl

/-- The framebuffer comes to what it comes to without dirty rows. -/
theorem writeColorRows_dmd (pixelData : BitVec 8) :
    (writeColorRows pixelData rowsLeft x y n d).1 = (Lcd.writeColorRows pixelData rowsLeft x y n d.dmd).1 ∧
      (writeColorRows pixelData rowsLeft x y n d).2.dmd =
        (Lcd.writeColorRows pixelData rowsLeft x y n d.dmd).2 := by
  induction rowsLeft generalizing x y n d with
  | zero => exact ⟨rfl, rfl⟩
  | succ rowsLeft ih =>
    simp only [writeColorRows, Lcd.writeColorRows]
    split
    · exact ⟨rfl, rfl⟩
    · exact ih

theorem writeColorRows_kept (white : Bool) (clipped : d.dmd.dimensions.xClipStart +
      d.dmd.dimensions.clipWidth ≤ displaySize) (inClip : x ≤ d.dmd.dimensions.clipWidth)
    (lines : ∀ k < rowsLeft, y + k < displaySize) :
    let next := (writeColorRows (level white) rowsLeft x y n d).2
    d.Confined next ∧ (d.Sound → next.Sound) := by
  induction rowsLeft generalizing x y n d with
  | zero => exact ⟨.refl d, id⟩
  | succ rowsLeft ih =>
    by_cases nothing : n = 0
    · rw [writeColorRows, if_pos nothing]
      exact ⟨.refl d, id⟩
    · have onPanel : y < displaySize := lines 0 (Nat.succ_pos _)
      have shorter : d.rowPixels x n ≤ uint32 (d.dmd.dimensions.clipWidth - x) := by
        unfold rowPixels
        split <;> omega
      have below : ∀ k < rowsLeft, y + 1 + k < displaySize := by
        intro k less
        have := lines (k + 1) (by omega)
        omega
      have elsewhere (i : Nat) (other : i / displaySize ≠ y) :=
        fillRow_elsewhere white d.dmd.framebuffer clipped inClip shorter other
      rw [writeColorRows_succ _ nothing]
      obtain ⟨confined, kept⟩ := ih (d := d.lineWritten (fillRow (y * bytesPerRow)
        (uint16 (x + d.dmd.dimensions.xClipStart)) (d.rowPixels x n) (level white) d.dmd.framebuffer) y)
        (n := n - d.rowPixels x n) clipped (Nat.zero_le _) below
      exact ⟨(lineWritten_confined onPanel elsewhere).trans confined,
        fun sound => kept (sound.lineWritten elsewhere)⟩

/-- Whole lines from the first column on: each of them is marked. -/
theorem writeColorRows_marks (pixelData : BitVec 8) (wide : d.dmd.dimensions.clipWidth = displaySize)
    {z : Nat} (here : y ≤ z ∧ z < y + rowsLeft ∨ isDirty d.dirtyRows z) :
    isDirty (writeColorRows pixelData rowsLeft 0 y (displaySize * rowsLeft) d).2.dirtyRows z := by
  induction rowsLeft generalizing d y with
  | zero => exact here.resolve_left (by omega)
  | succ rowsLeft ih =>
    have some : displaySize * (rowsLeft + 1) ≠ 0 := by
      unfold displaySize
      omega
    have line : d.rowPixels 0 (displaySize * (rowsLeft + 1)) = displaySize := by
      rw [rowPixels, wide, clipRoom (by decide)]
      unfold displaySize
      split <;> omega
    rw [writeColorRows_succ _ some, line, Nat.mul_succ, Nat.add_sub_cancel]
    apply ih
    · exact wide
    · rcases here with ⟨top, bottom⟩ | dirty
      · rcases Nat.eq_or_lt_of_le top with rfl | later
        · exact .inr ((isDirty_setLineDirty _ _).mpr (.inl rfl))
        · exact .inl ⟨later, by omega⟩
      · exact .inr ((isDirty_setLineDirty _ _).mpr (.inr dirty))

theorem dmdWriteColor_dmd (red green blue : BitVec 8) :
    (d.dmdWriteColor x y red green blue n).1 = (Lcd.dmdWriteColor x y red green blue n d.dmd).1 ∧
      (d.dmdWriteColor x y red green blue n).2.dmd = (Lcd.dmdWriteColor x y red green blue n d.dmd).2 := by
  unfold dmdWriteColor Lcd.dmdWriteColor
  split
  · exact ⟨rfl, rfl⟩
  · exact writeColorRows_dmd _

theorem dmdWriteColor_kept (red green blue : BitVec 8) (clipped : d.dmd.dimensions.xClipStart +
      d.dmd.dimensions.clipWidth ≤ displaySize)
    (yClipped : d.dmd.dimensions.yClipStart + d.dmd.dimensions.clipHeight ≤ displaySize)
    (inClip : x ≤ d.dmd.dimensions.clipWidth) :
    let next := (d.dmdWriteColor x y red green blue n).2
    d.Confined next ∧ (d.Sound → next.Sound) := by
  have white : (if green ≠ 0 then 0xFF else 0x00 : BitVec 8) = level (green != 0) := by
    unfold level
    by_cases none : green = 0 <;> simp [none]
  have lines : ∀ k < uint16 (d.dmd.dimensions.yClipStart + d.dmd.dimensions.clipHeight) -
      uint16 (d.dmd.dimensions.yClipStart + y), uint16 (d.dmd.dimensions.yClipStart + y) + k < displaySize := by
    intro k below
    have bottom : uint16 (d.dmd.dimensions.yClipStart + d.dmd.dimensions.clipHeight) ≤ displaySize := by
      unfold uint16 displaySize at *
      omega
    omega
  simp only [dmdWriteColor, white]
  split
  · exact ⟨.refl d, id⟩
  · exact writeColorRows_kept _ clipped inClip lines

theorem wholePanel_marks (red green blue : BitVec 8) (opened : d.dmd.Open) {z : Nat}
    (onPanel : z < displaySize) :
    isDirty (d.dmdWriteColor 0 0 red green blue (displaySize * displaySize)).2.dirtyRows z := by
  have top : uint16 ((0 : Nat) + (0 : Nat)) = 0 := rfl
  have bottom : uint16 ((0 : Nat) + displaySize) = displaySize := rfl
  have wide : d.dmd.dimensions.clipWidth = displaySize := by rw [opened.dimensions]
  simp only [dmdWriteColor, opened.memlcd, opened.dimensions, Bool.true_eq_false, if_false, top, bottom]
  exact writeColorRows_marks _ wide (.inl ⟨Nat.zero_le _, by omega⟩)

/-! ## Every call -/

theorem withDevice_cleared (d : Driver) :
    (d.withDevice.dmdWriteColor 0 0 0x00 0x00 0x00 (displaySize * displaySize)).2.dmd.Open := by
  have whole : d.withDevice.dmd.Open := opened_whole d.dmd.framebuffer
  obtain ⟨-, opened, -⟩ := wholePanel_fills 0x00 0x00 0x00 whole
  rwa [← (dmdWriteColor_dmd (d := d.withDevice) 0x00 0x00 0x00).2] at opened

theorem dmdInit_device (d : Driver) : d.dmdInit.2.dmd.memlcd = true := by
  have cleared := d.withDevice_cleared
  rw [dmdInit]
  generalize d.withDevice.dmdWriteColor 0 0 0x00 0x00 0x00 (displaySize * displaySize) = written at cleared ⊢
  split
  · next device => exact device
  · exact cleared.memlcd

theorem dmdInit_kept (sound : d.Sound) : d.Confined d.dmdInit.2 ∧ d.dmdInit.2.Sound := by
  rw [dmdInit]
  split
  · exact ⟨.refl d, sound⟩
  · have whole : d.withDevice.dmd.Open := opened_whole d.dmd.framebuffer
    have opened := d.withDevice_cleared
    obtain ⟨confined, -⟩ := dmdWriteColor_kept (d := d.withDevice) (x := 0) (y := 0)
      (n := displaySize * displaySize) 0x00 0x00 0x00 le_rfl le_rfl (Nat.zero_le _)
    have marks (z : Nat) := wholePanel_marks (d := d.withDevice) (z := z) 0x00 0x00 0x00 whole
    generalize d.withDevice.dmdWriteColor 0 0 0x00 0x00 0x00 (displaySize * displaySize) = written
      at opened confined marks ⊢
    refine ⟨⟨confined.framebuffer, confined.dirtyRows⟩, ?_, ?_, fun _ i onPanel clean => ?_⟩
    · rw [opened.dimensions]
      exact (Nat.zero_add _).le
    · rw [opened.dimensions]
      exact (Nat.zero_add _).le
    · exact absurd (marks _ onPanel) clean

theorem dmdSetClippingArea_kept (xStart yStart width height : Nat) (sound : d.Sound) :
    (d.dmdSetClippingArea xStart yStart width height).2.Sound := by
  unfold dmdSetClippingArea Lcd.dmdSetClippingArea
  split_ifs with none outside empty
  · exact sound
  · exact sound
  · exact sound
  · obtain ⟨wide, high⟩ := d.dmd.sized (by simpa using none)
    rw [wide, high, not_or, Nat.not_lt, Nat.not_lt] at outside
    exact ⟨outside.1, outside.2, sound.mirrors⟩

theorem update_device {result : EmStatus × Driver} (update : d.dmdUpdateDisplay = some result) :
    d.dmd.memlcd = true := by
  by_contra none
  rw [dmdUpdateDisplay, if_pos (by simpa using none)] at update
  exact absurd update nofun

/-- An update leaves the whole framebuffer on the glass. -/
theorem Sound.updated (sound : d.Sound) {status : EmStatus} {after : Driver}
    (update : d.dmdUpdateDisplay = some (status, after)) :
    after.dmd = d.dmd ∧ d.Confined after ∧
      ∀ i, i / displaySize < displaySize → pixels after.glass i = pixels after.dmd.framebuffer i := by
  have device := update_device update
  obtain ⟨-, _, sent, same, -, glass⟩ := update_sends_dirty device
  obtain ⟨-, rfl⟩ := Prod.mk.inj (Option.some.inj (sent.symm.trans update))
  refine ⟨same, ?_, fun i onPanel => ?_⟩
  · rw [dmdUpdateDisplay, if_neg (by simp [device])] at update
    obtain ⟨-, rfl⟩ := Prod.mk.inj (Option.some.inj update)
    exact ⟨fun _ _ => rfl, fun word behind => if_neg (by omega)⟩
  · have line : i / 8 / bytesPerRow = i / displaySize := by
      unfold bytesPerRow displaySize
      omega
    rw [pixels, pixels, glass, line, same]
    by_cases dirty : isDirty d.dirtyRows (i / displaySize)
    · rw [if_pos ⟨onPanel, dirty⟩]
    · rw [if_neg fun both => dirty both.2]
      exact sound.mirrors device i onPanel dirty

theorem Sound.step {next : Driver} (sound : d.Sound) (step : d.Step next) :
    d.Confined next ∧ next.Sound := by
  obtain ⟨c, permitted, performed⟩ := step
  cases c with
  | init =>
    obtain rfl := Option.some.inj performed
    exact dmdInit_kept sound
  | getDisplayGeometry =>
    obtain rfl := Option.some.inj performed
    have same : (Lcd.dmdGetDisplayGeometry d.dmd).2 = d.dmd := by
      unfold Lcd.dmdGetDisplayGeometry
      split <;> rfl
    rw [dmdGetDisplayGeometry, same]
    exact ⟨.refl d, sound⟩
  | setClippingArea xStart yStart width height =>
    obtain rfl := Option.some.inj performed
    have same : (Lcd.dmdSetClippingArea xStart yStart width height d.dmd).2.framebuffer =
        d.dmd.framebuffer := by
      unfold Lcd.dmdSetClippingArea
      split_ifs <;> rfl
    exact ⟨⟨fun i _ => congrFun (congrArg Framebuffer.byte same) i, fun _ _ => rfl⟩,
      dmdSetClippingArea_kept xStart yStart width height sound⟩
  | writeColor x y red green blue numPixels =>
    obtain rfl := Option.some.inj performed
    obtain ⟨confined, kept⟩ := dmdWriteColor_kept (y := y) (n := numPixels) red green blue
      sound.xClipped sound.yClipped permitted
    exact ⟨confined, kept sound⟩
  | updateDisplay =>
    obtain ⟨⟨status, after⟩, update, rfl⟩ := Option.map_eq_some_iff.mp performed
    obtain ⟨same, confined, mirrors⟩ := sound.updated update
    refine ⟨confined, ?_, ?_, fun _ i onPanel _ => mirrors i onPanel⟩
    · rw [same]
      exact sound.xClipped
    · rw [same]
      exact sound.yClipped

/-- After power-on, with anything on the glass. -/
def reset (glass : Framebuffer) : Driver := ⟨.reset, fun _ => 0, glass⟩

theorem reset_sound (glass : Framebuffer) : (reset glass).Sound :=
  ⟨Nat.zero_le _, Nat.zero_le _, nofun⟩

open Relation

/-- Over every sequence of calls from a sound state on, no line is lost: those that are not dirty
are on the glass, and nothing behind the arrays of the driver is written. -/
theorem Sound.run {next : Driver} (sound : d.Sound) (run : ReflTransGen Step d next) :
    d.Confined next ∧ next.Sound := by
  induction run with
  | refl => exact ⟨.refl d, sound⟩
  | tail _ step ih =>
    obtain ⟨confined, kept⟩ := ih.2.step step
    exact ⟨ih.1.trans confined, kept⟩

end
end Driver
end BleRemote.Lcd
