import BleRemote.Lcd.Memlcd
import BleRemote.Lcd.Pixels
import BleRemote.Raster.Runs

/-! The display driver with its dirty rows: every line that is written is marked, and
`DMD_updateDisplay` sends the marked ones to the panel.

The functions are those of `dmd_memlcd.c` again, on the whole of its statics. What they do to
the framebuffer is what the functions that know no dirty rows do.
-/

set_option autoImplicit false
namespace BleRemote.Lcd

open Raster

/-- The statics of the driver and the glass of the panel it has. -/
structure Driver where
  dmd : Dmd
  /-- The memory from the start of the array on, which is of four words. -/
  dirtyRows : Nat → BitVec 32
  glass : Framebuffer

def setLineDirty (line : Nat) (dirtyRows : Nat → BitVec 32) : Nat → BitVec 32 :=
  Function.update dirtyRows (line / 32) (dirtyRows (line / 32) ||| 1#32 <<< (line % 32))

def isDirty (dirtyRows : Nat → BitVec 32) (line : Nat) : Prop :=
  (dirtyRows (line / 32)).getLsbD (line % 32) = true

instance (dirtyRows : Nat → BitVec 32) : DecidablePred (isDirty dirtyRows) :=
  fun _ => inferInstanceAs (Decidable (_ = _))

/-- The scan over the dirty rows: the first row and the number of rows of each call of
`sl_memlcd_draw`, which never fails. A new word is loaded at the end of each, the last
one included. -/
def dirtyRuns (dirtyRows : Nat → BitVec 32) :
    (rowsLeft startRow consecutiveDirtyRows : Nat) → BitVec 32 → (dirtyWordCnt : Nat) → List (Nat × Nat)
  | 0, startRow, consecutiveDirtyRows, _, _ =>
    if consecutiveDirtyRows ≠ 0 then [(startRow, consecutiveDirtyRows)] else []
  | rowsLeft + 1, startRow, consecutiveDirtyRows, dirtyFlags, dirtyWordCnt =>
    let sameWord := (startRow + consecutiveDirtyRows + 1) % 32 ≠ 0
    let flags := if sameWord then dirtyFlags >>> 1 else dirtyRows dirtyWordCnt
    let wordCnt := if sameWord then dirtyWordCnt else dirtyWordCnt + 1
    if dirtyFlags.getLsbD 0 then
      dirtyRuns dirtyRows rowsLeft startRow (consecutiveDirtyRows + 1) flags wordCnt
    else if consecutiveDirtyRows ≠ 0 then
      (startRow, consecutiveDirtyRows) ::
        dirtyRuns dirtyRows rowsLeft (startRow + consecutiveDirtyRows + 1) 0 flags wordCnt
    else
      dirtyRuns dirtyRows rowsLeft (startRow + 1) 0 flags wordCnt

namespace Driver

/-- The driver functions that write to the framebuffer and mark what they wrote. -/
def writeColorRows (pixelData : BitVec 8) :
    (rowsLeft x currentY numPixels : Nat) → Driver → EmStatus × Driver
  | 0, _, _, numPixels, d => (if numPixels = 0 then dmdOk else dmdErrorPixelOutOfBounds, d)
  | rowsLeft + 1, x, currentY, numPixels, d =>
    if numPixels = 0 then (dmdOk, d)
    else
      let room := uint32 (d.dmd.dimensions.clipWidth - x)
      let rowPixels := if room < numPixels then room else numPixels
      let x := uint16 (x + d.dmd.dimensions.xClipStart)
      let framebuffer := fillRow (currentY * bytesPerRow) x rowPixels pixelData d.dmd.framebuffer
      writeColorRows pixelData rowsLeft 0 (currentY + 1) (numPixels - rowPixels)
        { d with
          dmd := { d.dmd with framebuffer := framebuffer }
          dirtyRows := setLineDirty currentY d.dirtyRows }

def dmdWriteColor (x y : Nat) (_red green _blue : BitVec 8) (numPixels : Nat) (d : Driver) :
    EmStatus × Driver :=
  if d.dmd.memlcd = false then (dmdErrorDriverNotInitialized, d)
  else
    let maxY := uint16 (d.dmd.dimensions.yClipStart + d.dmd.dimensions.clipHeight)
    let currentY := uint16 (d.dmd.dimensions.yClipStart + y)
    writeColorRows (if green ≠ 0 then 0xFF else 0x00) (maxY - currentY) x currentY numPixels d

def dmdGetDisplayGeometry (d : Driver) : EmStatus × Driver :=
  ((Lcd.dmdGetDisplayGeometry d.dmd).1, { d with dmd := (Lcd.dmdGetDisplayGeometry d.dmd).2 })

def dmdSetClippingArea (xStart yStart width height : Nat) (d : Driver) : EmStatus × Driver :=
  ((Lcd.dmdSetClippingArea xStart yStart width height d.dmd).1,
    { d with dmd := (Lcd.dmdSetClippingArea xStart yStart width height d.dmd).2 })

/-- When the driver gets its device: `sl_memlcd_init` clears the panel, and never fails. -/
def withDevice (d : Driver) : Driver :=
  ⟨.whole d.dmd.framebuffer, d.dirtyRows, transfer d.glass slMemlcdClear⟩

def dmdInit (d : Driver) : EmStatus × Driver :=
  if d.dmd.memlcd = true then (dmdOk, d)
  else (dmdOk, (dmdWriteColor 0 0 0x00 0x00 0x00 (displaySize * displaySize) d.withDevice).2)

/-- The calls of `sl_memlcd_draw` that an update makes. -/
def drawCalls (d : Driver) : List (Nat × Nat) :=
  dirtyRuns d.dirtyRows displaySize 0 0 (d.dirtyRows 0) 1

/-- `DMD_updateDisplay`. It asks the device for its height and does not look if there is one. -/
def dmdUpdateDisplay (d : Driver) : Option (EmStatus × Driver) :=
  if d.dmd.memlcd = false then none
  else
    some (dmdOk, { d with
      dirtyRows := fun word => if word < 4 then 0 else d.dirtyRows word
      glass := d.drawCalls.foldl (fun glass call => transfer glass
        (slMemlcdDraw (fun k => d.dmd.framebuffer (call.1 * bytesPerRow + k)) call.1 call.2)) d.glass })

end Driver

/-! ## The scan -/

section
variable {dirtyRows : Nat → BitVec 32}

theorem isDirty_setLineDirty (line other : Nat) :
    isDirty (setLineDirty line dirtyRows) other ↔ other = line ∨ isDirty dirtyRows other := by
  have bit : (1#32 <<< (line % 32)).getLsbD (other % 32) = decide (other % 32 = line % 32) := by
    have bits : ∀ n m : Fin 32, (1#32 <<< (n : Nat)).getLsbD m = decide (m = n) := by decide
    have same := bits ⟨line % 32, Nat.mod_lt _ (by decide)⟩ ⟨other % 32, Nat.mod_lt _ (by decide)⟩
    simpa [Fin.ext_iff] using same
  unfold isDirty setLineDirty
  rw [Function.update_apply]
  split
  · next word =>
    rw [BitVec.getLsbD_or, bit, Bool.or_eq_true, decide_eq_true_iff, word, or_comm]
    exact or_congr_left (by omega)
  · next word =>
    rw [or_iff_right]
    rintro rfl
    exact word rfl

/-- The scan moves on by one row: in its word, or to the next word. -/
theorem nextFlags (row : Nat) {flags : BitVec 32} {wordCnt : Nat}
    (shifted : flags = dirtyRows (row / 32) >>> (row % 32)) (word : wordCnt = row / 32 + 1) :
    (if (row + 1) % 32 ≠ 0 then flags >>> 1 else dirtyRows wordCnt) =
        dirtyRows ((row + 1) / 32) >>> ((row + 1) % 32) ∧
      (if (row + 1) % 32 ≠ 0 then wordCnt else wordCnt + 1) = (row + 1) / 32 + 1 := by
  by_cases last : (row + 1) % 32 = 0
  · have quotient : (row + 1) / 32 = row / 32 + 1 := by omega
    rw [if_neg (not_not_intro last), if_neg (not_not_intro last), last, quotient, word,
      BitVec.ushiftRight_zero]
    exact ⟨rfl, rfl⟩
  · have quotient : (row + 1) / 32 = row / 32 := by omega
    have remainder : (row + 1) % 32 = row % 32 + 1 := by omega
    rw [if_pos last, if_pos last, quotient, remainder, shifted, BitVec.shiftRight_add]
    exact ⟨rfl, word⟩

/-- From any place on, the flags of the word being shifted so that the row that is next comes
first, the scan finds the maximal runs; the one it is in counts from its start. -/
theorem dirtyRuns_runs {rowsLeft startRow consecutive : Nat} {flags : BitVec 32} {wordCnt : Nat}
    (left : startRow + consecutive + rowsLeft = displaySize)
    (shifted : flags = dirtyRows ((startRow + consecutive) / 32) >>> ((startRow + consecutive) % 32))
    (word : wordCnt = (startRow + consecutive) / 32 + 1)
    (inRun : ∀ y, startRow ≤ y → y < startRow + consecutive → isDirty dirtyRows y) :
    Runs (isDirty dirtyRows) displaySize startRow
      (dirtyRuns dirtyRows rowsLeft startRow consecutive flags wordCnt) := by
  induction rowsLeft generalizing startRow consecutive flags wordCnt with
  | zero =>
    rw [dirtyRuns]
    by_cases none : consecutive = 0
    · rw [if_neg (not_not_intro none)]
      exact .none fun y from_ below => by omega
    · rw [if_pos none]
      exact .run le_rfl (fun y from_ before => by omega) (Nat.pos_of_ne_zero none) inRun (by omega)
        (fun below => by omega) (.none fun y from_ below => by omega)
  | succ rowsLeft ih =>
    obtain ⟨flags', word'⟩ := nextFlags (startRow + consecutive) shifted word
    have here : flags.getLsbD 0 = true ↔ isDirty dirtyRows (startRow + consecutive) := by
      rw [shifted, BitVec.getLsbD_ushiftRight, Nat.add_zero]
      rfl
    rw [dirtyRuns]
    simp only [flags', word']
    by_cases dirty : isDirty dirtyRows (startRow + consecutive)
    · rw [if_pos (here.mpr dirty)]
      apply ih (by omega) rfl rfl
      intro y from_ below
      rcases Nat.lt_or_ge y (startRow + consecutive) with earlier | last
      · exact inRun y from_ earlier
      · rwa [show y = startRow + consecutive by omega]
    · rw [if_neg (mt here.mp dirty)]
      by_cases none : consecutive = 0
      · subst none
        rw [if_neg (not_not_intro rfl)]
        exact (ih (by omega) rfl rfl fun y from_ below => by omega).skip dirty
      · rw [if_pos none]
        have rest : Runs (isDirty dirtyRows) displaySize (startRow + consecutive + 1)
            (dirtyRuns dirtyRows rowsLeft (startRow + consecutive + 1) 0 _ _) :=
          ih (by omega) rfl rfl fun y from_ below => by omega
        exact .run le_rfl (fun y from_ before => by omega) (Nat.pos_of_ne_zero none) inRun (by omega)
          (fun _ => dirty) (rest.skip dirty)

/-- An update draws the maximal runs of dirty rows, whatever follows the array in memory. -/
theorem Driver.drawCalls_runs (d : Driver) : Runs (isDirty d.dirtyRows) displaySize 0 d.drawCalls :=
  dirtyRuns_runs rfl (BitVec.ushiftRight_zero _).symm rfl fun y from_ below => by omega

/-- What is on the glass after some draws out of the framebuffer. -/
theorem transfer_draws (fb : Framebuffer) {drawCalls : List (Nat × Nat)}
    (onPanel : ∀ call ∈ drawCalls, call.1 + call.2 ≤ displaySize) (glass : Framebuffer) (i : Nat) :
    drawCalls.foldl (fun glass call => transfer glass
        (slMemlcdDraw (fun k => fb (call.1 * bytesPerRow + k)) call.1 call.2)) glass i =
      if i / bytesPerRow ∈ positions drawCalls then fb i else glass i := by
  induction drawCalls generalizing glass with
  | nil => rfl
  | cons call rest ih =>
    obtain ⟨fits, later⟩ := List.forall_mem_cons.mp onPanel
    have here : i / bytesPerRow ∈ positions (call :: rest) ↔
        (call.1 ≤ i / bytesPerRow ∧ i / bytesPerRow < call.1 + call.2) ∨
          i / bytesPerRow ∈ positions rest := by
      rw [← List.mem_range'_1]
      exact List.mem_append
    rw [List.foldl_cons, ih later, transfer_draw glass _ fits]
    by_cases again : i / bytesPerRow ∈ positions rest
    · rw [if_pos again, if_pos (here.mpr (.inr again))]
    · rw [if_neg again]
      by_cases inside : call.1 ≤ i / bytesPerRow ∧ i / bytesPerRow < call.1 + call.2
      · rw [if_pos (here.mpr (.inl inside))]
        refine (if_pos inside).trans (congrArg fb ?_)
        unfold bytesPerRow displaySize at *
        omega
      · rw [if_neg (by rw [here]; exact not_or.mpr ⟨inside, again⟩)]
        exact if_neg inside

/-- An update sends every dirty row once, in order, and no other row; the glass has them then
and is as it was elsewhere, and no row is dirty any more. -/
theorem Driver.update_sends_dirty {d : Driver} (device : d.dmd.memlcd = true) :
    positions d.drawCalls = (List.range displaySize).filter (isDirty d.dirtyRows) ∧
      ∃ after, d.dmdUpdateDisplay = some (dmdOk, after) ∧ after.dmd = d.dmd ∧
        (∀ y < displaySize, ¬ isDirty after.dirtyRows y) ∧
        ∀ i, after.glass i = if i / bytesPerRow < displaySize ∧ isDirty d.dirtyRows (i / bytesPerRow)
          then d.dmd.framebuffer i else d.glass i := by
  have rows : positions d.drawCalls = (List.range displaySize).filter (isDirty d.dirtyRows) := by
    rw [d.drawCalls_runs.positions_eq, Nat.sub_zero, List.range_eq_range']
  refine ⟨rows, _, if_neg (by simp [device]), rfl,
    fun y onPanel => ?_, fun i => ?_⟩
  · have word : y / 32 < 4 := by
      unfold displaySize at onPanel
      omega
    simp [isDirty, word]
  · have onPanel : ∀ call ∈ d.drawCalls, call.1 + call.2 ≤ displaySize :=
      fun call member => (d.drawCalls_runs.of_mem call member).2.2.1
    simp only [transfer_draws d.dmd.framebuffer onPanel, rows, List.mem_filter, List.mem_range,
      decide_eq_true_iff]

/-- An update takes as few transfers as there can be: neighbouring dirty rows go together, no clean
row is sent, and no dirty one is left out, whatever stands behind the array. -/
theorem Driver.update_transfers_runs (d : Driver) :
    (∀ call ∈ d.drawCalls, 0 < call.2 ∧ call.1 + call.2 ≤ displaySize ∧
        ∀ y, call.1 ≤ y → y < call.1 + call.2 → isDirty d.dirtyRows y) ∧
      d.drawCalls.Pairwise (fun call next => call.1 + call.2 < next.1) ∧
        ∀ y < displaySize, isDirty d.dirtyRows y →
          ∃ call ∈ d.drawCalls, call.1 ≤ y ∧ y < call.1 + call.2 := by
  have runs := d.drawCalls_runs
  refine ⟨fun call member => (runs.of_mem call member).2, runs.apart, fun y onPanel dirty => ?_⟩
  have sent : y ∈ positions d.drawCalls := by
    rw [runs.positions_eq, List.mem_filter, List.mem_range'_1, decide_eq_true_iff]
    exact ⟨by omega, dirty⟩
  obtain ⟨call, member, inside⟩ := List.mem_flatMap.mp sent
  exact ⟨call, member, List.mem_range'_1.mp inside⟩

end
end BleRemote.Lcd
