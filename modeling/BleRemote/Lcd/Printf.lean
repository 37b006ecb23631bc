import BleRemote.Device.Screen
import BleRemote.Lcd.Glib

/-! The display functions of `lcd.c`: `displayPrintf` and the part of `displayInit` that
sets up the display. -/

set_option autoImplicit false
namespace BleRemote.Lcd

open Imperative Reactive
open Device (LogLevel displayRowLen drawnText)

inductive LogArg where
  | int (n : UInt32)
  | text (s : List Char)
  deriving DecidableEq

inductive LcdEffect where
  | tempSensorOn
  | drawStringOnLine (pString : List Char) (line : UInt8)
  | updateDisplay (status : EmStatus)
  | log (level : LogLevel) (format : String) (args : List LogArg)
  deriving DecidableEq

structure LcdEnv where
  /-- What `sl_memlcd_init` returns. -/
  memlcdStatus : UInt32
  /-- What `DMD_updateDisplay` returns. -/
  updateStatus : EmStatus
  /-- `GLIB_DEFAULT_FONT`. -/
  defaultFont : GlibFont

abbrev LcdBody := Body LcdEnv Display LcdEffect

def Display.reset : Display := ⟨.reset, .zero⟩

def glib (x : Glib EmStatus) : LcdBody EmStatus := fun _ d =>
  match x d with
  | .ok status d | .error status d => ⟨status, d, []⟩

/-- `LOG_ERROR` for a status other than zero. -/
def logUnlessOk (function : String) (status : EmStatus) : LcdBody Unit :=
  Body.emit (if status = 0 then []
    else [.log .error (function ++ " returned non-zero error code=0x%04x") [.int status]])

def dmdUpdateDisplay : LcdBody EmStatus := do
  let env ← Body.environment
  Body.emit [.updateDisplay env.updateStatus]
  return env.updateStatus

def displayNumberOfRows : UInt32 := 13

/-- The length of the whole expansion, and what is stored of it before the terminator. -/
def vsnprintf (size : Nat) (text : String) : Nat × List Char :=
  (text.length, text.toList.take (size - 1))

def truncationWarning (row : UInt32) : LcdEffect :=
  .log .warn "Your formatted string for row=%d was truncated to (%d) characters"
    [.int row, .int 20]

/-- The source takes `strLen` to count the terminator, which `vsnprintf` does not. -/
def warnIfTruncated (row : UInt32) (strLen : Nat) (stored : List Char) : LcdBody Unit :=
  Body.emit (if strLen ≠ 0 ∧ displayRowLen < strLen - 1 then
    [truncationWarning row, .log .warn "  The truncated string is: %s" [.text stored]] else [])

def drawOnRow (step : String) (pString : List Char) (row : UInt32) : LcdBody Unit := do
  Body.emit [.drawStringOnLine pString row.toUInt8]
  let status ← glib (glibDrawStringOnLine pString row.toUInt8 .center 0 0 true)
  logUnlessOk (step ++ " GLIB_drawStringOnLine()") status

def strToErase : List Char := List.replicate displayRowLen ' '

/-- `displayPrintf`, for the text that its format and arguments expand to. -/
def displayPrintf (row : UInt32) (text : String) : LcdBody Unit := do
  if displayNumberOfRows ≤ row then
    Body.emit [.log .error "row parameter %d is greater than max row index %d"
      [.int row, .int (displayNumberOfRows - 1)]]
  else
    let (strLen, stored) := vsnprintf (displayRowLen + 1) text
    let strToDisplay := if strLen = 0 then [' '] else stored
    warnIfTruncated row strLen stored
    drawOnRow "Erase" strToErase row
    drawOnRow "Draw" strToDisplay row
    logUnlessOk "DMD_updateDisplay()" (← dmdUpdateDisplay)

/-- `displayInit`, up to the soft timer. -/
def displayInit : LcdBody Unit := do
  let env ← Body.environment
  Body.modify fun d => { d with glibContext := .zero }
  Body.emit [.tempSensorOn]
  logUnlessOk "DMD_init()" (← glib (onDmd (dmdInit env.memlcdStatus)))
  logUnlessOk "GLIB_contextInit()" (← glib (glibContextInit env.defaultFont))
  Body.modify fun d =>
    { d with glibContext := { d.glibContext with backgroundColor := white, foregroundColor := black } }
  logUnlessOk "GLIB_clear()" (← glib glibClear)
  logUnlessOk "GLIB_setFont()" (← glib (glibSetFont glibFontNarrow6x8))
  logUnlessOk "DMD_updateDisplay()" (← dmdUpdateDisplay)

section
variable (env : LcdEnv) (before : Display)

@[simp] theorem run_glib_effects (x : Glib EmStatus) : ((glib x).run env before).effects = [] := by
  simp only [glib, Body.run]
  split <;> rfl

@[simp] theorem run_logUnlessOk_state (function : String) (status : EmStatus) :
    ((logUnlessOk function status).run env before).state = before := rfl

@[simp] theorem run_warnIfTruncated_state (row : UInt32) (strLen : Nat) (stored : List Char) :
    ((warnIfTruncated row strLen stored).run env before).state = before := rfl

@[simp] theorem run_dmdUpdateDisplay :
    dmdUpdateDisplay.run env before = ⟨env.updateStatus, before, [.updateDisplay env.updateStatus]⟩ :=
  rfl

end
end BleRemote.Lcd
