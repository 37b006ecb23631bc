import BleRemote.Lcd.Rows

/-! The texts that the firmware is taken to show are on the panel: the pixels of a row
follow the last text printed on it, over every sequence of effects. -/

set_option autoImplicit false
namespace BleRemote.Lcd

open Raster Reactive
open Device (DisplayRow Effect drawRow drawnText rowAfter)

/-- The enumeration `display_row`. -/
def rowIndex : DisplayRow → UInt32
  | .name => 0
  | .btaddr => 1
  | .btaddr2 => 2
  | .clientaddr => 3
  | .connection => 4
  | .passkey => 5
  | .action => 6
  | .tempvalue => 7
  | .row8 => 8
  | .row9 => 9
  | .row10 => 10
  | .row11 => 11
  | .assignment => 12

theorem rowIndex_lt (row : DisplayRow) : rowIndex row < displayNumberOfRows := by
  cases row <;> decide

theorem rowIndex_inj {row other : DisplayRow} (same : rowIndex row = rowIndex other) : row = other := by
  cases row <;> cases other <;> first | rfl | exact absurd same (by decide)

/-- What an effect of the firmware does to the panel. -/
def panelStep (env : LcdEnv) (d : Display) : Effect → Display
  | .displayInit => (displayInit.run env d).state
  | .displayPrintf row text => printed d (rowIndex row, env, text)
  | _ => d

/-- A display with these texts on its rows and nothing else. -/
structure Shows (d : Display) (texts : DisplayRow → String) : Prop where
  ready : Ready d
  onRow (row : DisplayRow) (i : Nat) : i ∈ rowBlock (rowIndex row) →
    d.picture i = rowPicture (rowIndex row) (texts row) i
  between (i : Nat) : i < displaySize * displaySize → (∀ row, i ∉ rowBlock (rowIndex row)) →
    d.picture i = true

/-! ## Blank rows -/

theorem charPixel_space {row : Nat} (inside : row < 8) (column : Nat) : charPixel ' ' column row = true := by
  have empty : ∀ r < 8, glibFontNarrow6x8.element (glibFontNarrow6x8.idx ' ' + 100 * r) = 0 := by
    decide +kernel
  rw [charPixel, empty row inside, Nat.zero_testBit, Bool.not_false]

theorem stringPicture_spaces {x y i : Nat} (inside : i / displaySize - y < 8) {pString : List Char}
    (spaces : ∀ c ∈ pString, c = ' ') : stringPicture pString x y i = true := by
  have space (k : Nat) : pString.getD k ' ' = ' ' := by
    rw [List.getD_eq_getElem?_getD]
    cases found : pString[k]? with
    | none => rfl
    | some c => exact spaces c (List.mem_of_getElem? found)
  rw [stringPicture, space]
  exact charPixel_space inside _

theorem rowPicture_empty {row : UInt32} {i : Nat} (member : i ∈ rowBlock row) :
    rowPicture row "" i = true := by
  rw [rowBlock, mem_block] at member
  have inside : i / displaySize - 10 * row.toNat < 8 := by omega
  simp only [rowPicture]
  split
  · exact stringPicture_spaces inside fun c member => List.mem_singleton.mp member
  · exact stringPicture_spaces inside fun c member => List.eq_of_mem_replicate member

theorem rowPicture_drawnText (row : UInt32) (text : String) :
    rowPicture row (drawnText text) = rowPicture row text := by
  have nonempty : (drawnText text).length ≠ 0 := by
    rw [← String.length_toList, ← rowText_drawnText]
    exact mt List.eq_nil_of_length_eq_zero (rowText_ne_nil text)
  have same : rowText (drawnText text) = rowText text := by
    rw [rowText_eq, if_neg nonempty, ← rowText_drawnText]
    exact List.take_of_length_le (rowText_length text)
  unfold rowPicture
  rw [same]

/-! ## Effects -/

section
variable {env : LcdEnv} {d : Display} {texts : DisplayRow → String}

theorem rowBlock_onPanel {row : DisplayRow} {i : Nat} (member : i ∈ rowBlock (rowIndex row)) :
    i < displaySize * displaySize := by
  have small : (rowIndex row).toNat < 13 := UInt32.lt_iff_toNat_lt.mp (rowIndex_lt row)
  rw [rowBlock, mem_block] at member
  unfold displaySize at *
  omega

theorem shows_displayInit (memlcdStatus : env.memlcdStatus = 0) (updateStatus : env.updateStatus = 0)
    (d : Display) : Shows (displayInit.run env d).state fun _ => "" := by
  have succeeds := displayInit_succeeds env d memlcdStatus updateStatus
  obtain ⟨ready, background⟩ := displayInit_ready env d succeeds
  constructor
  · exact ready
  · intro row i member
    rw [background i (rowBlock_onPanel member), rowPicture_empty member]
  · exact fun i onPanel _ => background i onPanel

theorem Shows.displayPrintf (shows : Shows d texts) (row : DisplayRow) {text : String}
    (printable : ∀ c ∈ text.toList, Printable c) :
    Shows (printed d (rowIndex row, env, text)) fun other =>
      if row = other then drawnText text else texts other := by
  have draws : Draws (rowBlock (rowIndex row)) (rowPicture (rowIndex row) text) d
      (printed d (rowIndex row, env, text)) :=
    displayPrintf_draws env printable shows.ready (rowIndex_lt row)
  constructor
  · exact draws.ready
  · intro other i member
    by_cases same : row = other
    · subst same
      rw [if_pos rfl, draws.paints.inside i member, rowPicture_drawnText]
    · have apart : i ∉ rowBlock (rowIndex row) := fun also =>
        same (rowIndex_inj (rowBlock_separate _ _ i also member))
      rw [if_neg same, draws.paints.outside i apart]
      exact shows.onRow other i member
  · intro i onPanel outside
    rw [draws.paints.outside i (outside row)]
    exact shows.between i onPanel outside

/-- The panel follows the texts that the rows are taken to show. -/
theorem shows_effects (memlcdStatus : env.memlcdStatus = 0) (updateStatus : env.updateStatus = 0)
    (shows : Shows d texts) (effects : List Effect)
    (printable : ∀ p ∈ Device.prints effects, ∀ c ∈ p.2.toList, Printable c) :
    Shows (effects.foldl (panelStep env) d) fun row => rowAfter row (texts row) effects := by
  induction effects generalizing d texts with
  | nil => exact shows
  | cons effect rest ih =>
    have later : ∀ p ∈ Device.prints rest, ∀ c ∈ p.2.toList, Printable c := by
      intro p member
      rw [Device.prints_cons] at printable
      exact printable p (List.mem_append_right _ member)
    have step : Shows (panelStep env d effect) fun row => drawRow row (texts row) effect := by
      cases effect with
      | displayInit => exact shows_displayInit memlcdStatus updateStatus d
      | displayPrintf row text =>
        exact shows.displayPrintf row (printable (row, text) List.mem_cons_self)
      | call | gpioPinOut | ledPatternOdd | ledPatternEven | log => exact shows
    exact ih step later

end
end BleRemote.Lcd
