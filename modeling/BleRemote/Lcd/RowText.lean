import BleRemote.Lcd.Printf

/-! What `displayPrintf` draws of a text, and when it warns that a text is cut. -/

set_option autoImplicit false
namespace BleRemote.Lcd

open Reactive
open Device (displayRowLen)

@[simp] def LcdEffect.drawing : LcdEffect → Option (List Char)
  | .drawStringOnLine pString _ => some pString
  | _ => none

/-- The texts of the calls of `GLIB_drawStringOnLine`, in order. -/
def drawings (effects : List LcdEffect) : List (List Char) := effects.filterMap LcdEffect.drawing

def Warned (row : UInt32) (effects : List LcdEffect) : Prop := truncationWarning row ∈ effects

/-- What should be drawn of a text: a space for the empty one, else its first 20 characters. -/
def rowText (text : String) : List Char :=
  if text.length = 0 then [' ']
  else if text.length ≤ 20 then text.toList
  else text.toList.take 20

structure RowContract (before : Display) (row : UInt32) (text : String)
    (o : Outcome Display LcdEffect Unit) : Prop where
  beyond : displayNumberOfRows ≤ row → drawings o.effects = [] ∧ o.state = before
  drawn : row < displayNumberOfRows → (drawings o.effects)[1]? = some (rowText text)
  /-- Of a text that is not drawn whole. -/
  warned : row < displayNumberOfRows →
    (Warned row o.effects ↔ (rowText text).length < text.length)

/-! ## When the contract holds -/

section
variable (env : LcdEnv) (before : Display)

@[simp] theorem drawings_cons (effect : LcdEffect) (rest : List LcdEffect) :
    drawings (effect :: rest) = effect.drawing.toList ++ drawings rest := by
  cases effect <;> rfl

@[simp] theorem drawings_append (first rest : List LcdEffect) :
    drawings (first ++ rest) = drawings first ++ drawings rest := List.filterMap_append

@[simp] theorem drawings_logUnlessOk (function : String) (status : EmStatus) :
    drawings ((logUnlessOk function status).run env before).effects = [] := by
  simp only [logUnlessOk, Body.run_emit]
  split <;> rfl

@[simp] theorem drawings_drawOnRow (step : String) (pString : List Char) (row : UInt32) :
    drawings ((drawOnRow step pString row).run env before).effects = [pString] := by
  simp [drawOnRow]

@[simp] theorem not_warned_nil (row : UInt32) : ¬ Warned row [] := List.not_mem_nil

@[simp] theorem warned_cons (row : UInt32) (effect : LcdEffect) (rest : List LcdEffect) :
    Warned row (effect :: rest) ↔ truncationWarning row = effect ∨ Warned row rest := List.mem_cons

@[simp] theorem warned_append (row : UInt32) (first rest : List LcdEffect) :
    Warned row (first ++ rest) ↔ Warned row first ∨ Warned row rest := List.mem_append

@[simp] theorem not_warned_logUnlessOk (row : UInt32) (function : String) (status : EmStatus) :
    ¬ Warned row ((logUnlessOk function status).run env before).effects := by
  simp only [logUnlessOk, Body.run_emit, Warned]
  split <;> simp [truncationWarning]

@[simp] theorem not_warned_drawOnRow (row : UInt32) (step : String) (pString : List Char) :
    ¬ Warned row ((drawOnRow step pString row).run env before).effects := by
  simp [drawOnRow, truncationWarning]

variable {row : UInt32} (text : String)

theorem displayPrintf_beyond (beyond : displayNumberOfRows ≤ row) :
    (displayPrintf row text).run env before =
      ⟨(), before, [.log .error "row parameter %d is greater than max row index %d"
        [.int row, .int (displayNumberOfRows - 1)]]⟩ := by
  rw [displayPrintf, if_pos beyond, Body.run_emit]

@[simp] theorem drawings_warnIfTruncated (strLen : Nat) (stored : List Char) :
    drawings ((warnIfTruncated row strLen stored).run env before).effects = [] := by
  simp only [warnIfTruncated, Body.run_emit]
  split <;> rfl

/-- The warning comes one character late. -/
@[simp] theorem warned_warnIfTruncated (strLen : Nat) (stored : List Char) :
    Warned row ((warnIfTruncated row strLen stored).run env before).effects ↔ 21 < strLen := by
  have late : strLen ≠ 0 ∧ displayRowLen < strLen - 1 ↔ 21 < strLen := by
    unfold displayRowLen
    omega
  simp only [warnIfTruncated, Body.run_emit, late]
  split <;> simp [truncationWarning, *]

theorem rowText_eq :
    rowText text = if text.length = 0 then [' '] else text.toList.take displayRowLen := by
  unfold rowText
  split
  · rfl
  · split
    · next fits => exact (List.take_of_length_le (String.length_toList ▸ fits)).symm
    · rfl

theorem drawings_displayPrintf (within : row < displayNumberOfRows) :
    drawings ((displayPrintf row text).run env before).effects = [strToErase, rowText text] := by
  rw [displayPrintf, if_neg (UInt32.not_le.mpr within), rowText_eq]
  simp [vsnprintf]

theorem warned_displayPrintf (within : row < displayNumberOfRows) :
    Warned row ((displayPrintf row text).run env before).effects ↔ 21 < text.length := by
  rw [displayPrintf, if_neg (UInt32.not_le.mpr within)]
  simp [vsnprintf, truncationWarning]

theorem rowText_shorter : (rowText text).length < text.length ↔ 20 < text.length := by
  rw [rowText_eq]
  split
  · next empty => simp [empty]
  · rw [List.length_take, String.length_toList, displayRowLen]
    omega

variable (row) in
/-- The one length at which a character is dropped without a warning. -/
theorem row_contract_iff :
    RowContract before row text ((displayPrintf row text).run env before) ↔
      displayNumberOfRows ≤ row ∨ text.length ≠ 21 := by
  constructor
  · intro contract
    rcases UInt32.le_or_lt displayNumberOfRows row with beyond | within
    · exact .inl beyond
    · right
      intro length
      have warned := (contract.warned within).mpr ((rowText_shorter text).mpr (by omega))
      have long := (warned_displayPrintf env before text within).mp warned
      omega
  · intro condition
    constructor
    · intro beyond
      rw [displayPrintf_beyond env before text beyond]
      exact ⟨rfl, rfl⟩
    · intro within
      rw [drawings_displayPrintf env before text within]
      rfl
    · intro within
      have length : text.length ≠ 21 := condition.resolve_left (UInt32.not_le.mpr within)
      rw [warned_displayPrintf env before text within, rowText_shorter]
      omega

/-- `displayPrintf(0, "Temperature: 21.5 deg")`. -/
theorem dropped_without_warning :
    ¬ RowContract .reset 0 "Temperature: 21.5 deg"
      ((displayPrintf 0 "Temperature: 21.5 deg").run ⟨0, 0, glibFontNarrow6x8⟩ .reset) := by
  intro contract
  have dropped : (rowText "Temperature: 21.5 deg").length < "Temperature: 21.5 deg".length := by decide
  have warned := (contract.warned (by decide)).mpr dropped
  rw [warned_displayPrintf _ _ _ (by decide)] at warned
  exact absurd warned (by decide)

/-- The text that the display is taken to show elsewhere is the one drawn here. -/
theorem rowText_drawnText : rowText text = (Device.drawnText text).toList := by
  rw [rowText_eq, Device.drawnText]
  by_cases empty : text = ""
  · simp [empty]
  · rw [if_neg empty, if_neg (by simpa using empty), String.toList_ofList]

end
end BleRemote.Lcd
