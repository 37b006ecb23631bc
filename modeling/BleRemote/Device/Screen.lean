import BleRemote.Device.Trace
import BleRemote.Reactive.Observer

/-! The texts on the display: what `displayPrintf` draws on a row stays there until
the row is drawn again or the display initialised. -/

set_option autoImplicit false
namespace BleRemote.Device

open Reactive Stack

/-! ## Texts printed -/

@[simp] def Effect.print : Effect → Option (DisplayRow × String)
  | .displayPrintf row text => some (row, text)
  | _ => none

/-- The calls of `displayPrintf` among some effects: row and expanded text. -/
def prints (effects : List Effect) : List (DisplayRow × String) := effects.filterMap Effect.print

@[simp] theorem prints_nil : prints [] = [] := rfl

@[simp] theorem prints_cons (effect : Effect) (rest : List Effect) :
    prints (effect :: rest) = effect.print.toList ++ prints rest := by
  cases effect <;> rfl

@[simp] theorem prints_append (first rest : List Effect) :
    prints (first ++ rest) = prints first ++ prints rest := List.filterMap_append

@[simp] theorem prints_ite (c : Prop) [Decidable c] (x y : List Effect) :
    prints (if c then x else y) = if c then prints x else prints y := by
  split <;> rfl

@[simp] theorem prints_logUnlessOk (command : String) (status : Status) (env : Env) (g : Globals) :
    prints ((logUnlessOk command status).run env g).effects = [] := by
  unfold logUnlessOk
  split <;> rfl

def Output.prints (o : Output) : List (DisplayRow × String) := Device.prints o.effects

/-! ## Texts shown -/

/-- `DISPLAY_ROW_LEN`. -/
def displayRowLen : Nat := 20

/-- What `displayPrintf` makes of an expanded text: a blank for the empty one, and no
more characters than fit in a row. -/
def drawnText (text : String) : String :=
  if text = "" then " " else String.ofList (text.toList.take displayRowLen)

/-- What an effect makes of the text of a row; `displayInit` clears the display. -/
@[simp] def drawRow (row : DisplayRow) (shown : String) : Effect → String
  | .displayInit => ""
  | .displayPrintf drawn text => if drawn = row then drawnText text else shown
  | _ => shown

/-- The text of a row after some effects, from what it showed before. -/
def rowAfter (row : DisplayRow) (shown : String) (effects : List Effect) : String :=
  effects.foldl (drawRow row) shown

@[simp] theorem rowAfter_nil (row : DisplayRow) (shown : String) : rowAfter row shown [] = shown :=
  rfl

@[simp] theorem rowAfter_cons (row : DisplayRow) (shown : String) (effect : Effect)
    (rest : List Effect) :
    rowAfter row shown (effect :: rest) = rowAfter row (drawRow row shown effect) rest := rfl

@[simp] theorem rowAfter_ite (row : DisplayRow) (shown : String) (c : Prop) [Decidable c]
    (x y : List Effect) :
    rowAfter row shown (if c then x else y) =
      if c then rowAfter row shown x else rowAfter row shown y := by
  split <;> rfl

@[simp] theorem rowAfter_append (row : DisplayRow) (shown : String) (first rest : List Effect) :
    rowAfter row shown (first ++ rest) = rowAfter row (rowAfter row shown first) rest :=
  List.foldl_append

@[simp] theorem rowAfter_logUnlessOk (row : DisplayRow) (shown : String) (command : String)
    (status : Status) (env : Env) (g : Globals) :
    rowAfter row shown ((logUnlessOk command status).run env g).effects = shown := by
  unfold logUnlessOk
  split <;> rfl

def rowObserver (row : DisplayRow) : Observer Handled String where
  start := ""
  observe shown t := rowAfter row shown t.output.effects

/-- The text of a row after a history. -/
def rowShown (row : DisplayRow) (h : List Handled) : String := (rowObserver row).seen h

@[simp] theorem rowShown_concat (row : DisplayRow) (h : List Handled) (t : Handled) :
    rowShown row (h ++ [t]) = rowAfter row (rowShown row h) t.output.effects :=
  (rowObserver row).seen_concat h t

end BleRemote.Device
