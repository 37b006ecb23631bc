import BleRemote.Device.Display

/-! The two state machines of `scheduler.c`, which see every event after the
handler of `ble.c` has run on it. -/

set_option autoImplicit false
namespace BleRemote.Device

open Reactive Stack

def setKeypadState (state : KeypadState) : Handler Unit :=
  Body.modify fun g => { g with keypadState := state }

def setDiscoveryState (state : ClientState) : Handler Unit :=
  Body.modify fun g => { g with discoveryState := state }

@[simp] theorem run_setKeypadState (state : KeypadState) (env : Env) (g : Globals) :
    (setKeypadState state).run env g = ⟨(), { g with keypadState := state }, []⟩ := (rfl)

@[simp] theorem run_setDiscoveryState (state : ClientState) (env : Env) (g : Globals) :
    (setDiscoveryState state).run env g = ⟨(), { g with discoveryState := state }, []⟩ := (rfl)

def keypadServerStateMachine (msg : Msg) : Handler Unit := do
  let g ← Body.get
  match msg with
  | .systemExternalSignal extsignals =>
    if g.bleData.connectionOpen = true then
      match g.keypadState with
      | .stateIdle =>
        if extsignals = evtButtonEvenPressed ∨ extsignals = evtButtonOddPressed then
          setKeypadState .stateKeypadToGatt
      | .stateKeypadToGatt =>
        if g.bleData.okToSendHtmNotif = true then
          setKeypadState .stateIdle
          displayPrintf .tempvalue "Handling notif"
  | _ => pure ()

/-! ## `discovery_state_machine` -/

/-- `stateOPEN`: the only state that stays when its request is rejected. -/
def discoveryOpen (msg : Msg) : Handler Unit := do
  match msg with
  | .connectionOpened connection =>
    modifyBle fun ble => { ble with connectionHandle := connection }
    let ble ← bleData
    let sc ← call (.gattDiscoverPrimaryServicesByUuid ble.connectionHandle keypadServiceUuid)
    if sc ≠ statusOk then
      logError "sl_bt_gatt_discover_primary_services_by_uuid() returned != 0 status=0x%04x" [sc]
    else
      setDiscoveryState .stateDiscoverKeypadServices
      logInfo "To1" []
  | _ => pure ()

/-- The four states in between differ in what they do when their request has
completed; all fall back to `stateOPEN` when the connection closes. -/
def discoveryAwait (completed : Handler Unit) (msg : Msg) : Handler Unit :=
  match msg with
  | .gattProcedureCompleted _ _ => completed
  | .connectionClosed _ => setDiscoveryState .stateOpen
  | _ => pure ()

/-- Issue a request and enter the next state, whatever the request returned. -/
def discoveryRequest (command : String) (request : BleData → Call) (shown : Handler Unit)
    (next : ClientState) (log : String) : Handler Unit := do
  let ble ← bleData
  let sc ← call (request ble)
  logUnlessOk command sc
  shown
  setDiscoveryState next
  logInfo log []

def discoveryDiscoverKeypadServices : Msg → Handler Unit :=
  discoveryAwait (discoveryRequest "sl_bt_gatt_discover_primary_services_by_uuid"
    (fun ble => .gattDiscoverPrimaryServicesByUuid ble.connectionHandle ledServiceUuid)
    (pure ()) .stateDiscoverLedServices "To2")

def discoveryDiscoverLedServices : Msg → Handler Unit :=
  discoveryAwait (discoveryRequest "sl_bt_gatt_discover_characteristics_by_uuid"
    (fun ble => .gattDiscoverCharacteristicsByUuid ble.connectionHandle ble.keypadServiceHandle
      keypadCharacUuid)
    (pure ()) .stateDiscoverKeypadCharacteristics "To3")

def discoveryDiscoverKeypadCharacteristics : Msg → Handler Unit :=
  discoveryAwait (discoveryRequest "sl_bt_gatt_discover_characteristics_by_uuid"
    (fun ble => .gattDiscoverCharacteristicsByUuid ble.connectionHandle ble.ledServiceHandle
      ledCharacUuid)
    (pure ()) .stateDiscoverLedCharacteristics "To4")

def discoveryDiscoverLedCharacteristics : Msg → Handler Unit :=
  discoveryAwait (discoveryRequest "sl_bt_gatt_set_characteristic_notification"
    (fun ble => .gattSetCharacteristicNotification ble.connectionHandle
      ble.keypadCharacteristicsHandle gattNotification)
    (displayPrintf .tempvalue "Handling notif") .stateKeypadNotif "To5")

def discoveryKeypadNotif : Msg → Handler Unit :=
  discoveryAwait do
    modifyBle fun ble => { ble with buttonNotificationFlag := true }
    displayPrintf .tempvalue "Handling notif"
    setDiscoveryState .stateWait
    logInfo "To6" []

def discoveryWait (msg : Msg) : Handler Unit := do
  setDiscoveryState .stateWait
  match msg with
  | .connectionClosed _ =>
    setDiscoveryState .stateOpen
    logInfo "To0" []
  | _ => pure ()

def discoveryStateMachine (msg : Msg) : Handler Unit := do
  let g ← Body.get
  match g.discoveryState with
  | .stateOpen => discoveryOpen msg
  | .stateDiscoverKeypadServices => discoveryDiscoverKeypadServices msg
  | .stateDiscoverLedServices => discoveryDiscoverLedServices msg
  | .stateDiscoverKeypadCharacteristics => discoveryDiscoverKeypadCharacteristics msg
  | .stateDiscoverLedCharacteristics => discoveryDiscoverLedCharacteristics msg
  | .stateKeypadNotif => discoveryKeypadNotif msg
  | .stateWait => discoveryWait msg

end BleRemote.Device
