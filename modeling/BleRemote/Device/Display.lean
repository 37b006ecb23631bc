import BleRemote.Device.Globals

/-! The functions of `lcd.c` that the handlers call. -/

set_option autoImplicit false
namespace BleRemote.Device

open Reactive Stack

def displayPrintf (row : DisplayRow) (text : String) : Handler Unit :=
  Body.emit [.displayPrintf row text]

/-- `displayInit`: power, driver and library setup, then the one-second soft
timer, whose handle argument is `handle_for_client`. -/
def displayInit : Handler Unit := do
  Body.modify fun g => { g with lastExtcominStateHigh := false }
  gpioPinOut tempSensorPin true
  Body.emit [.displayInit]
  let ble ← bleData
  let status ← call (.systemSetSoftTimer 32768 ble.handleForClient.toUInt8 0)
  logUnlessOk "sl_bt_system_set_soft_timer" status

def displayUpdate : Handler Unit := do
  Body.modify fun g => { g with lastExtcominStateHigh := !g.lastExtcominStateHigh }
  gpioPinOut extcominPin (← Body.get).lastExtcominStateHigh

def addressText (bytes : List UInt8) : String := String.join (bytes.map hexByte)

section
variable (env : Env) (g : Globals)

@[simp] theorem run_displayPrintf (row : DisplayRow) (text : String) :
    (displayPrintf row text).run env g = ⟨(), g, [.displayPrintf row text]⟩ := (rfl)

@[simp] theorem run_displayInit_state :
    (displayInit.run env g).state = { g with lastExtcominStateHigh := false } := (rfl)

@[simp] theorem calls_displayInit : calls (displayInit.run env g).effects =
    [(.systemSetSoftTimer 32768 g.bleData.handleForClient.toUInt8 0,
      env.status (.systemSetSoftTimer 32768 g.bleData.handleForClient.toUInt8 0))] := by
  simp [displayInit]

@[simp] theorem run_displayUpdate : displayUpdate.run env g =
    ⟨(), { g with lastExtcominStateHigh := !g.lastExtcominStateHigh },
      [.gpioPinOut extcominPin (!g.lastExtcominStateHigh)]⟩ := (rfl)

end

end BleRemote.Device
