import BleRemote.Lcd.Fresh
import BleRemote.Lcd.RowText

/-! The rows of the display are independent: what a sequence of `displayPrintf` leaves on
a row is the last text given for it, as on a display that was just initialised. -/

set_option autoImplicit false
namespace BleRemote.Lcd

open Imperative Raster Reactive
open Device (displayRowLen)

/-! ## One row -/

/-- The pixels that a row of text can use. -/
def rowBlock (row : UInt32) : Set Nat := block 4 (10 * row.toNat) 120 8

instance (row : UInt32) : DecidablePred (· ∈ rowBlock row) :=
  fun _ => inferInstanceAs (Decidable (_ ∈ block _ _ _ _))

/-- The text in the middle, spaces around it. -/
def rowPicture (row : UInt32) (text : String) (i : Nat) : Bool :=
  let length := (rowText text).length
  let x := 64 - 3 * length
  if i ∈ block x (10 * row.toNat) (6 * length) 8 then
    stringPicture (rowText text) x (10 * row.toNat) i
  else stringPicture strToErase 4 (10 * row.toNat) i

section
variable (env : LcdEnv) {d : Display} {row : UInt32} {text : String}

theorem drawOnRow_draws (step : String) {pString : List Char} (printable : ∀ c ∈ pString, Printable c)
    (nonempty : pString ≠ []) (fits : pString.length ≤ 20) (ready : Ready d)
    (within : row < displayNumberOfRows) :
    Draws (block (64 - 3 * pString.length) (10 * row.toNat) (6 * pString.length) 8)
      (stringPicture pString (64 - 3 * pString.length) (10 * row.toNat)) d
      ((drawOnRow step pString row).run env d).state := by
  have small : row.toNat < 13 := UInt32.lt_iff_toNat_lt.mp within
  have line : row.toUInt8.toNat = row.toNat := by
    rw [UInt32.toNat_toUInt8]
    omega
  obtain ⟨status, after, run, -, draws⟩ := run_glib env
    (glibDrawStringOnLine_draws printable nonempty fits ready (line.symm ▸ small))
  rw [line] at draws
  simp only [drawOnRow, Body.run_bind_state, Body.run_emit, run, run_logUnlessOk_state]
  exact draws

theorem rowText_ne_nil (text : String) : rowText text ≠ [] := by
  rw [rowText_eq]
  split
  · exact List.cons_ne_nil _ _
  · next nonempty =>
    apply List.ne_nil_of_length_pos
    rw [List.length_take, String.length_toList, displayRowLen]
    omega

theorem rowText_length (text : String) : (rowText text).length ≤ 20 := by
  rw [rowText_eq]
  split
  · decide
  · exact List.length_take_le 20 _

theorem rowText_printable (printable : ∀ c ∈ text.toList, Printable c) :
    ∀ c ∈ rowText text, Printable c := by
  rw [rowText_eq]
  split
  · rintro c member
    rw [List.mem_singleton.mp member]
    decide
  · exact fun c member => printable c (List.mem_of_mem_take member)

theorem strToErase_printable : ∀ c ∈ strToErase, Printable c := by
  intro c member
  rw [List.eq_of_mem_replicate member]
  decide

/-- The erasure covers every text that fits in a row. -/
theorem displayPrintf_draws (printable : ∀ c ∈ text.toList, Printable c) (ready : Ready d)
    (within : row < displayNumberOfRows) :
    Draws (rowBlock row) (rowPicture row text) d ((displayPrintf row text).run env d).state := by
  have erase := drawOnRow_draws env "Erase" strToErase_printable (by decide) (by decide) ready within
  have draw := drawOnRow_draws env "Draw" (rowText_printable printable) (rowText_ne_nil text)
    (rowText_length text) erase.ready within
  have fits := rowText_length text
  have covers : block (64 - 3 * (rowText text).length) (10 * row.toNat) (6 * (rowText text).length) 8 ⊆
      block 4 (10 * row.toNat) 120 8 := by
    intro i member
    rw [mem_block] at member ⊢
    omega
  have state : ((displayPrintf row text).run env d).state =
      ((drawOnRow "Draw" (rowText text) row).run env
        ((drawOnRow "Erase" strToErase row).run env d).state).state := by
    rw [displayPrintf, if_neg (UInt32.not_le.mpr within), rowText_eq]
    rfl
  rw [state]
  exact ⟨draw.ready, erase.paints.cover draw.paints covers⟩

/-! ## Sequences of calls -/

/-- A call of `displayPrintf`: the row, what the call finds, and the expanded text. -/
abbrev PrintCall := UInt32 × LcdEnv × String

def printed (d : Display) (printCall : PrintCall) : Display :=
  ((displayPrintf printCall.1 printCall.2.2).run printCall.2.1 d).state

/-- The row exists and the text is printable, of any length. -/
def Fits (printCall : PrintCall) : Prop :=
  printCall.1 < displayNumberOfRows ∧ ∀ c ∈ printCall.2.2.toList, Printable c

instance (printCall : PrintCall) : Decidable (Fits printCall) :=
  @instDecidableAnd _ _ _ (List.decidableBAll Printable printCall.2.2.toList)

theorem rowBlock_separate (j k : UInt32) (i : Nat) (first : i ∈ rowBlock j) (second : i ∈ rowBlock k) :
    j = k := by
  rw [rowBlock, mem_block] at first second
  apply UInt32.toNat_inj.mp
  omega

/-- What a call finds makes no difference to what it shows. -/
def shownPicture (row : UInt32) (shown : LcdEnv × String) : Nat → Bool := rowPicture row shown.2

theorem printed_paints (d : Display) (printCall : PrintCall) (ready : Ready d) (fits : Fits printCall) :
    Ready (printed d printCall) ∧ Paints (rowBlock printCall.1)
      (shownPicture printCall.1 printCall.2) d.picture (printed d printCall).picture := by
  have draws := displayPrintf_draws printCall.2.1 fits.2 ready fits.1
  exact ⟨draws.ready, draws.paints⟩

/-- What a sequence of calls leaves, pixel by pixel. -/
theorem foldl_printed (ready : Ready d) (printCalls : List PrintCall) (fit : ∀ c ∈ printCalls, Fits c) :
    Ready (printCalls.foldl printed d) ∧
      (∀ row, ∀ i ∈ rowBlock row, (printCalls.foldl printed d).picture i =
        ((lastWrite row printCalls).map fun shown => shownPicture row shown i).getD (d.picture i)) ∧
      ∀ i, (∀ row, i ∉ rowBlock row) → (printCalls.foldl printed d).picture i = d.picture i :=
  paints_writes rowBlock_separate printed_paints ready printCalls fit

end

/-! ## Lines of the framebuffer -/

/-- The bytes of a line. -/
def Display.line (d : Display) (y : Nat) : List (BitVec 8) :=
  (List.range bytesPerRow).map fun byte => d.dmd.framebuffer (y * bytesPerRow + byte)

/-- A line of the background color. -/
def blankLine : List (BitVec 8) := List.replicate bytesPerRow 0xFF

/-- The lines of a row. -/
def rowLines (row : UInt32) : Set Nat := {y | 10 * row.toNat ≤ y ∧ y ≤ 10 * row.toNat + 7}

/-- A display on which nothing but the last text for a row is drawn, if there is one. -/
def onlyLast (row : UInt32) (printCalls : List PrintCall) (d : Display) : Display :=
  match lastWrite row printCalls with
  | some shown => printed d (row, shown)
  | none => d

section
variable {d other : Display} {y : Nat}

theorem linePixel {byte k : Nat} (inside : byte < bytesPerRow) (below : k < 8) :
    (8 * (y * bytesPerRow + byte) + k) / displaySize = y := by
  simp only [bytesPerRow, displaySize] at *
  omega

theorem line_eq (same : ∀ i, i / displaySize = y → d.picture i = other.picture i) :
    d.line y = other.line y := by
  apply List.map_congr_left
  intro byte member
  apply byte_eq
  intro k below
  rw [← pixels_byte _ _ below]
  exact same _ (linePixel (List.mem_range.mp member) below)

theorem line_blank (background : ∀ i, i / displaySize = y → d.picture i = true) :
    d.line y = blankLine := by
  have bits : ∀ k < 8, (0xFF : BitVec 8).getLsbD k = true := by decide
  rw [blankLine, List.eq_replicate_iff, Display.line, List.length_map, List.length_range]
  refine ⟨rfl, fun byte member => ?_⟩
  obtain ⟨b, inside, rfl⟩ := List.mem_map.mp member
  apply byte_eq
  intro k below
  rw [bits k below]
  exact background _ (linePixel (List.mem_range.mp inside) below)

end

section
variable {fresh other : Display} {printCalls : List PrintCall} {row : UInt32}

theorem Initialised.ready (initialised : Initialised fresh) :
    Ready fresh ∧ ∀ i < displaySize * displaySize, fresh.picture i = true := by
  obtain ⟨env, before, succeeds, rfl⟩ := initialised
  exact displayInit_ready env before succeeds

/-- The pixels on the lines of a row, from what it shows. -/
def rowPixel (row : UInt32) (i : Nat) : Option (LcdEnv × String) → Bool
  | some shown => if i ∈ rowBlock row then shownPicture row shown i else true
  | none => true

/-- On the lines of a row no other row leaves anything. -/
theorem foldl_printed_row (initialised : Initialised fresh) (fit : ∀ c ∈ printCalls, Fits c)
    (within : row < displayNumberOfRows) {i : Nat} (line : i / displaySize ∈ rowLines row) :
    (printCalls.foldl printed fresh).picture i = rowPixel row i (lastWrite row printCalls) := by
  obtain ⟨ready, background⟩ := initialised.ready
  obtain ⟨-, inside, outside⟩ := foldl_printed ready printCalls fit
  have small : row.toNat < 13 := UInt32.lt_iff_toNat_lt.mp within
  have top : 10 * row.toNat ≤ i / displaySize := line.1
  have bottom : i / displaySize ≤ 10 * row.toNat + 7 := line.2
  have onPanel : fresh.picture i = true := by
    apply background
    unfold displaySize at *
    omega
  by_cases member : i ∈ rowBlock row
  · rw [inside row i member, onPanel]
    cases lastWrite row printCalls with
    | none => rfl
    | some shown => exact (if_pos member).symm
  · have elsewhere : ∀ drawn, i ∉ rowBlock drawn := by
      intro drawn also
      have same : drawn = row := by
        rw [rowBlock, mem_block] at also
        apply UInt32.toNat_inj.mp
        omega
      exact member (same ▸ also)
    rw [outside i elsewhere, onPanel]
    cases lastWrite row printCalls with
    | none => rfl
    | some shown => exact (if_neg member).symm

theorem onlyLast_row (initialised : Initialised other) (fit : ∀ c ∈ printCalls, Fits c)
    (within : row < displayNumberOfRows) {i : Nat} (line : i / displaySize ∈ rowLines row) :
    (onlyLast row printCalls other).picture i = rowPixel row i (lastWrite row printCalls) := by
  unfold onlyLast
  cases last : lastWrite row printCalls with
  | none =>
    have fits : ∀ c ∈ ([] : List PrintCall), Fits c := fun _ => nofun
    exact foldl_printed_row initialised fits within line
  | some shown =>
    have fits : ∀ c ∈ [(row, shown)], Fits c := by
      rintro c member
      rw [List.mem_singleton.mp member]
      exact fit _ (mem_of_lastWrite last)
    have alone : lastWrite row [(row, shown)] = some shown := by simp [lastWrite]
    have once := foldl_printed_row initialised fits within line
    rwa [alone] at once

/-- Rows are independent, and the last text of a row is all that its lines show. -/
theorem rows_independent (initialised : Initialised fresh) (initialised' : Initialised other)
    (fit : ∀ c ∈ printCalls, Fits c) :
    (∀ row < displayNumberOfRows, ∀ y ∈ rowLines row,
      (printCalls.foldl printed fresh).line y = (onlyLast row printCalls other).line y) ∧
    (∀ row < displayNumberOfRows, lastWrite row printCalls = none → ∀ y ∈ rowLines row,
      (printCalls.foldl printed fresh).line y = blankLine) ∧
    ∀ y < displaySize, (∀ row < displayNumberOfRows, y ∉ rowLines row) →
      (printCalls.foldl printed fresh).line y = blankLine := by
  refine ⟨fun row within y inside => ?_, fun row within nothing y inside => ?_, fun y onPanel outside => ?_⟩
  · apply line_eq
    rintro i rfl
    rw [foldl_printed_row initialised fit within inside, onlyLast_row initialised' fit within inside]
  · apply line_blank
    rintro i rfl
    rw [foldl_printed_row initialised fit within inside, nothing]
    rfl
  · apply line_blank
    rintro i rfl
    obtain ⟨ready, background⟩ := initialised.ready
    obtain ⟨-, -, elsewhere⟩ := foldl_printed ready printCalls fit
    have small : i < displaySize * displaySize := by
      unfold displaySize at *
      omega
    rw [elsewhere i, background i small]
    intro row member
    rw [rowBlock, mem_block] at member
    rcases UInt32.le_or_lt displayNumberOfRows row with beyond | within
    · have large : 13 ≤ row.toNat := UInt32.le_iff_toNat_le.mp beyond
      unfold displaySize at *
      omega
    · exact outside row within ⟨member.2.1, by omega⟩

end

def panelEnv : LcdEnv := ⟨0, 0, glibFontNarrow6x8⟩

-- A board that was just powered.
def powered : Display := (displayInit.run panelEnv .reset).state

-- A text that is too long for its row, erased after another row was drawn.
def texts : List PrintCall :=
  [(5, panelEnv, "Confirm with PB0 now!"), (4, panelEnv, "Connected"), (5, panelEnv, "")]

theorem powered_initialised : Initialised powered :=
  ⟨panelEnv, .reset, displayInit_succeeds panelEnv .reset rfl rfl, rfl⟩

theorem erased_row_blank :
    (texts.foldl printed powered).line 50 = (printed powered (5, panelEnv, "")).line 50 ∧
      (texts.foldl printed powered).line 58 = blankLine := by
  obtain ⟨rows, -, between⟩ :=
    rows_independent powered_initialised powered_initialised (by decide +kernel : ∀ c ∈ texts, Fits c)
  refine ⟨rows 5 (by decide) 50 ⟨by decide, by decide⟩, between 58 (by decide) ?_⟩
  rintro row - ⟨top, bottom⟩
  omega

end BleRemote.Lcd
