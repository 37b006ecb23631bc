import BleRemote.Device.Trace
import Mathlib.Tactic.SplitIfs

/-! What each case of the client's handler and the discovery machine change and call. -/

set_option autoImplicit false
namespace BleRemote.Client

open Reactive Stack Device

variable (db : GattDb) (env : Env) (g : Globals)

/-! ## The cases of the handler -/

@[simp] theorem clientSystemBoot_state : (clientSystemBoot.run env g).state =
    { g with
      bleData := { g.bleData with
        bondingFlag := false, passkeyFlag := false, buttonNotificationFlag := false,
        myAddress := env.identityAddress, myAddressType := env.identityAddressType }
      lastExtcominStateHigh := false } := (rfl)

@[simp] theorem clientSystemBoot_calls : calls (clientSystemBoot.run env g).effects =
    env.issued [.systemGetIdentityAddress, .scannerSetMode gapPhy1m 0, .scannerSetTiming gapPhy1m 80 40,
      .connectionSetDefaultParameters 60 60 4 825 0 4,
      .scannerStart gapPhy1m scannerDiscoverGeneric, .smDeleteBondings,
      .smConfigure 0x0f smIoCapabilityDisplayyesno,
      .systemSetSoftTimer 32768 g.bleData.handleForClient.toUInt8 0] := by
  simp [clientSystemBoot]

@[simp] theorem clientConnectionOpened_state : (clientConnectionOpened.run env g).state =
    { g with bleData := { g.bleData with connectionOpen := true } } := (rfl)

@[simp] theorem clientConnectionOpened_calls :
    calls (clientConnectionOpened.run env g).effects = [] := by
  simp [clientConnectionOpened]

@[simp] theorem clientConnectionClosed_state : (clientConnectionClosed.run env g).state =
    { g with bleData := { g.bleData with
        connectionOpen := false, bondingFlag := false, passkeyFlag := false } } := (rfl)

@[simp] theorem clientConnectionClosed_calls : calls (clientConnectionClosed.run env g).effects =
    env.issued [.scannerStart gapPhy1m scannerDiscoverGeneric, .smDeleteBondings] := by
  simp [clientConnectionClosed]

@[simp] theorem clientScannerScanReport_state (address : BdAddr) :
    ((clientScannerScanReport address).run env g).state =
      if addressCheckLoop address g.addressCheck = 6 then
        { g with
          bleData := { g.bleData with connectionHandle := env.connection }
          addressCheck := 0 }
      else { g with addressCheck := addressCheckLoop address g.addressCheck } := by
  simp [clientScannerScanReport]

@[simp] theorem clientScannerScanReport_calls (address : BdAddr) :
    calls ((clientScannerScanReport address).run env g).effects =
      if addressCheckLoop address g.addressCheck = 6 then
        env.issued [.scannerStop, .connectionOpen address gapPublicAddress gapPhy1m]
      else [] := by
  simp [clientScannerScanReport]

@[simp] theorem clientGattProcedureCompleted_state (result : UInt16) :
    ((clientGattProcedureCompleted result).run env g).state = g := by
  simp [clientGattProcedureCompleted]

@[simp] theorem clientGattProcedureCompleted_calls (result : UInt16) :
    calls ((clientGattProcedureCompleted result).run env g).effects =
      if result = 0x110F then env.issued [.smIncreaseSecurity g.bleData.connectionHandle]
      else [] := by
  simp [clientGattProcedureCompleted]

@[simp] theorem clientGattService_state (event : GattService) :
    ((clientGattService event).run env g).state =
      { g with bleData := { g.bleData with
          keypadServiceHandle := if uuidAgrees event.uuid keypadServiceUuid = true then
            event.service else g.bleData.keypadServiceHandle
          ledServiceHandle := if uuidAgrees event.uuid ledServiceUuid = true then
            event.service else g.bleData.ledServiceHandle } } := by
  simp [clientGattService]
  split_ifs <;> rfl

@[simp] theorem clientGattService_calls (event : GattService) :
    calls ((clientGattService event).run env g).effects = [] := by
  simp [clientGattService]

@[simp] theorem clientGattCharacteristic_state (event : GattCharacteristic) :
    ((clientGattCharacteristic event).run env g).state =
      { g with bleData := { g.bleData with
          keypadCharacteristicsHandle := if uuidAgrees event.uuid keypadCharacUuid = true then
            event.characteristic else g.bleData.keypadCharacteristicsHandle
          ledCharacteristicsHandle := if uuidAgrees event.uuid ledCharacUuid = true then
            event.characteristic else g.bleData.ledCharacteristicsHandle } } := by
  simp [clientGattCharacteristic]
  split_ifs <;> rfl

@[simp] theorem clientGattCharacteristic_calls (event : GattCharacteristic) :
    calls ((clientGattCharacteristic event).run env g).effects = [] := by
  simp [clientGattCharacteristic]

def writeLed (ledState : UInt8) : Call := .gattServerWriteAttributeValue db.ledOutput 0 [ledState]

@[simp] theorem ledStateToGatt_state (ledState : UInt8) :
    ((ledStateToGatt db ledState).run env g).state = g := by
  simp [ledStateToGatt]

@[simp] theorem ledStateToGatt_calls (ledState : UInt8) :
    calls ((ledStateToGatt db ledState).run env g).effects =
      env.issued [writeLed db ledState] := by
  simp [ledStateToGatt, writeLed]

/-- The values the handler reacts to: of the stored characteristic, read or notified. -/
def KeyValue (ble : BleData) (event : GattCharacteristicValue) : Prop :=
  event.characteristic = ble.keypadCharacteristicsHandle ∧
    (event.attOpcode = gattHandleValueNotification ∨ event.attOpcode = gattReadResponse)

instance (ble : BleData) (event : GattCharacteristicValue) : Decidable (KeyValue ble event) :=
  inferInstanceAs (Decidable (_ ∧ _))

def ledCodes (value : Uint8Array) : List UInt8 :=
  (if value.data 1 ≠ 0 then [1] else []) ++ (if value.data 2 ≠ 0 then [2] else []) ++
    (if value.data 0 ≠ 0 then [0] else [])

@[simp] theorem clientGattCharacteristicValue_state (event : GattCharacteristicValue) :
    ((clientGattCharacteristicValue db event).run env g).state = g := by
  simp [clientGattCharacteristicValue]

@[simp] theorem clientGattCharacteristicValue_calls (event : GattCharacteristicValue) :
    calls ((clientGattCharacteristicValue db event).run env g).effects =
      if KeyValue g.bleData event then
        env.issued (.gattReadCharacteristicValue g.bleData.connectionHandle
            g.bleData.keypadCharacteristicsHandle ::
          (ledCodes event.value).map (writeLed db))
      else [] := by
  by_cases key : KeyValue g.bleData event
  · rw [if_pos key]
    unfold KeyValue at key
    simp [clientGattCharacteristicValue, key, ledCodes]
    split_ifs <;> rfl
  · rw [if_neg key]
    unfold KeyValue at key
    simp [clientGattCharacteristicValue, key]

@[simp] theorem clientSmConfirmPasskey_state (passkey : UInt32) :
    ((clientSmConfirmPasskey passkey).run env g).state =
      { g with bleData := { g.bleData with passkeyFlag := true } } := (rfl)

@[simp] theorem clientSmConfirmPasskey_calls (passkey : UInt32) :
    calls ((clientSmConfirmPasskey passkey).run env g).effects = [] := by
  simp [clientSmConfirmPasskey]

@[simp] theorem clientSmBonded_state : (clientSmBonded.run env g).state =
    { g with bleData := { g.bleData with bondingFlag := true } } := (rfl)

@[simp] theorem clientSmBonded_calls : calls (clientSmBonded.run env g).effects = [] := by
  simp [clientSmBonded]

@[simp] theorem clientSmBondingFailed_state : (clientSmBondingFailed.run env g).state =
    { g with bleData := { g.bleData with bondingFlag := false, passkeyFlag := false } } := (rfl)

@[simp] theorem clientSmBondingFailed_calls :
    calls (clientSmBondingFailed.run env g).effects = [] := by
  simp [clientSmBondingFailed]

@[simp] theorem clientSystemExternalSignal_state (extsignals : UInt32) :
    ((clientSystemExternalSignal extsignals).run env g).state =
      { g with bleData := { g.bleData with
          buttonNotificationFlag := !g.bleData.buttonNotificationFlag } } := by
  cases flag : g.bleData.buttonNotificationFlag <;> simp [clientSystemExternalSignal, flag]

/-- The answer to the passkey: the signal is exactly the PB0 bit, PB0 is held,
and a passkey is shown on a link that is not bonded. -/
def ConfirmSignal (pinHigh : GpioPin → Bool) (ble : BleData) (extsignals : UInt32) : Prop :=
  extsignals = evtPb0Pressed ∧ pinHigh pb0ButtonPin = false ∧
    ble.passkeyFlag = true ∧ ble.bondingFlag = false

instance (pinHigh : GpioPin → Bool) (ble : BleData) (extsignals : UInt32) :
    Decidable (ConfirmSignal pinHigh ble extsignals) := inferInstanceAs (Decidable (_ ∧ _))

@[simp] theorem clientSystemExternalSignal_calls (extsignals : UInt32) :
    calls ((clientSystemExternalSignal extsignals).run env g).effects =
      (if ConfirmSignal env.pinHigh g.bleData extsignals then
        env.issued [.smPasskeyConfirm g.bleData.connectionHandle 1] else []) ++
      env.issued [.gattSetCharacteristicNotification g.bleData.connectionHandle
        g.bleData.keypadCharacteristicsHandle
        (if g.bleData.buttonNotificationFlag = false then gattNotification else gattDisable)] := by
  by_cases confirm : ConfirmSignal env.pinHigh g.bleData extsignals
  · rw [if_pos confirm]
    unfold ConfirmSignal at confirm
    cases flag : g.bleData.buttonNotificationFlag <;>
      simp [clientSystemExternalSignal, flag, confirm]
  · rw [if_neg confirm]
    unfold ConfirmSignal at confirm
    cases flag : g.bleData.buttonNotificationFlag <;>
      simp [clientSystemExternalSignal, flag, confirm]

/-! ## The discovery machine -/

def advance : ClientState → ClientState
  | .stateOpen => .stateOpen
  | .stateDiscoverKeypadServices => .stateDiscoverLedServices
  | .stateDiscoverLedServices => .stateDiscoverKeypadCharacteristics
  | .stateDiscoverKeypadCharacteristics => .stateDiscoverLedCharacteristics
  | .stateDiscoverLedCharacteristics => .stateKeypadNotif
  | .stateKeypadNotif | .stateWait => .stateWait

def firstRequest (connection : UInt8) : Call :=
  .gattDiscoverPrimaryServicesByUuid connection keypadServiceUuid

def nextRequests (ble : BleData) : ClientState → List Call
  | .stateDiscoverKeypadServices =>
    [.gattDiscoverPrimaryServicesByUuid ble.connectionHandle ledServiceUuid]
  | .stateDiscoverLedServices =>
    [.gattDiscoverCharacteristicsByUuid ble.connectionHandle ble.keypadServiceHandle
      keypadCharacUuid]
  | .stateDiscoverKeypadCharacteristics =>
    [.gattDiscoverCharacteristicsByUuid ble.connectionHandle ble.ledServiceHandle ledCharacUuid]
  | .stateDiscoverLedCharacteristics =>
    [.gattSetCharacteristicNotification ble.connectionHandle ble.keypadCharacteristicsHandle
      gattNotification]
  | .stateOpen | .stateKeypadNotif | .stateWait => []

def requests (g : Globals) : Msg → List Call
  | .connectionOpened connection =>
    if g.discoveryState = .stateOpen then [firstRequest connection] else []
  | .gattProcedureCompleted _ _ => nextRequests g.bleData g.discoveryState
  | _ => []

def nextState (env : Env) (g : Globals) : Msg → ClientState
  | .connectionOpened connection =>
    if g.discoveryState = .stateOpen ∧ env.status (firstRequest connection) = statusOk then
      .stateDiscoverKeypadServices
    else g.discoveryState
  | .gattProcedureCompleted _ _ => advance g.discoveryState
  | .connectionClosed _ => .stateOpen
  | _ => g.discoveryState

def discoveryBleData (g : Globals) : Msg → BleData
  | .connectionOpened connection =>
    if g.discoveryState = .stateOpen then { g.bleData with connectionHandle := connection }
    else g.bleData
  | .gattProcedureCompleted _ _ =>
    if g.discoveryState = .stateKeypadNotif then { g.bleData with buttonNotificationFlag := true }
    else g.bleData
  | _ => g.bleData

theorem discoveryStateMachine_state (msg : Msg) :
    ((discoveryStateMachine msg).run env g).state =
      { g with bleData := discoveryBleData g msg, discoveryState := nextState env g msg } := by
  rcases g with ⟨ble, addressCheck, keypadState, state, toggle⟩
  cases state <;> cases msg <;>
    simp [discoveryStateMachine, discoveryOpen, discoveryDiscoverKeypadServices,
      discoveryDiscoverLedServices, discoveryDiscoverKeypadCharacteristics,
      discoveryDiscoverLedCharacteristics, discoveryKeypadNotif, discoveryAwait, discoveryRequest,
      discoveryWait, discoveryBleData, nextState, advance, firstRequest]
  -- the guarded update of `stateOPEN`
  split <;> rfl

theorem discoveryStateMachine_calls (msg : Msg) :
    calls ((discoveryStateMachine msg).run env g).effects = env.issued (requests g msg) := by
  rcases g with ⟨ble, addressCheck, keypadState, state, toggle⟩
  cases state <;> cases msg <;>
    simp [discoveryStateMachine, discoveryOpen, discoveryDiscoverKeypadServices,
      discoveryDiscoverLedServices, discoveryDiscoverKeypadCharacteristics,
      discoveryDiscoverLedCharacteristics, discoveryKeypadNotif, discoveryAwait, discoveryRequest,
      discoveryWait, requests, nextRequests, firstRequest]

theorem requests_gatt (msg : Msg) : ∀ c ∈ requests g msg, c.isGattRequest = true := by
  cases msg <;> simp only [requests]
  case connectionOpened => split_ifs <;> simp [firstRequest, Call.isGattRequest]
  case gattProcedureCompleted =>
    cases g.discoveryState <;> simp [nextRequests, Call.isGattRequest]
  all_goals simp

/-! ## One step -/

theorem handleBleEventClient_discoveryState (msg : Msg) :
    ((handleBleEventClient db msg).run env g).state.discoveryState = g.discoveryState := by
  cases msg <;> simp [handleBleEventClient]
  split <;> rfl

variable (i : Input)

def handledState : Globals := ((handleBleEventClient db i.msg).run i.env g).state

theorem step_discoveryState :
    (slBtOnEvent db .client g i).1.discoveryState = nextState i.env g i.msg := by
  simp only [slBtOnEvent, handleBleEvent, stateMachine, discoveryStateMachine_state]
  rcases i with ⟨env, msg⟩
  cases msg <;> simp only [nextState, handleBleEventClient_discoveryState]

theorem step_bleData : (slBtOnEvent db .client g i).1.bleData =
    discoveryBleData (handledState db g i) i.msg := by
  simp only [slBtOnEvent, handleBleEvent, stateMachine, discoveryStateMachine_state, handledState]

theorem step_addressCheck : (slBtOnEvent db .client g i).1.addressCheck =
    match i.msg with
    | .scannerScanReport address =>
      if addressCheckLoop address g.addressCheck = 6 then 0
      else addressCheckLoop address g.addressCheck
    | _ => g.addressCheck := by
  simp only [slBtOnEvent, handleBleEvent, stateMachine, discoveryStateMachine_state]
  rcases i with ⟨env, msg⟩
  cases msg <;> simp [handleBleEventClient]
  split <;> rfl

theorem step_connectionHandle : (slBtOnEvent db .client g i).1.bleData.connectionHandle =
    match i.msg with
    | .connectionOpened connection =>
      if g.discoveryState = .stateOpen then connection else g.bleData.connectionHandle
    | .scannerScanReport address =>
      if addressCheckLoop address g.addressCheck = 6 then i.env.connection
      else g.bleData.connectionHandle
    | _ => g.bleData.connectionHandle := by
  rw [step_bleData, handledState]
  rcases i with ⟨env, msg⟩
  cases msg
  case connectionOpened =>
    by_cases idle : g.discoveryState = .stateOpen <;>
      simp [handleBleEventClient, discoveryBleData, idle]
  case scannerScanReport address =>
    by_cases full : addressCheckLoop address g.addressCheck = 6 <;>
      simp [handleBleEventClient, discoveryBleData, full]
  case gattProcedureCompleted =>
    by_cases last : g.discoveryState = .stateKeypadNotif <;>
      simp [handleBleEventClient, discoveryBleData, last]
  all_goals simp [handleBleEventClient, discoveryBleData]

-- What the machine requests in a step; a completion finds `ble_data` as the step found it.
theorem step_requests : calls (slBtOnEvent db .client g i).2.stateMachine =
    i.env.issued (requests g i.msg) := by
  simp only [slBtOnEvent, handleBleEvent, stateMachine, discoveryStateMachine_calls]
  rcases i with ⟨env, msg⟩
  cases msg <;> simp only [requests, handleBleEventClient_discoveryState]
  simp [handleBleEventClient]

theorem step_handler : (slBtOnEvent db .client g i).2.handler =
    ((handleBleEventClient db i.msg).run i.env g).effects := rfl

/-- The request with which a signal toggles the notifications. -/
def toggleRequest (ble : BleData) : Call :=
  .gattSetCharacteristicNotification ble.connectionHandle ble.keypadCharacteristicsHandle
    (if ble.buttonNotificationFlag = false then gattNotification else gattDisable)

/-- What a step asks of the stack besides GATT. -/
def controlCalls (pinHigh : GpioPin → Bool) : Msg → List Call
  | .systemBoot =>
    [.systemGetIdentityAddress, .scannerSetMode gapPhy1m 0, .scannerSetTiming gapPhy1m 80 40,
      .connectionSetDefaultParameters 60 60 4 825 0 4,
      .scannerStart gapPhy1m scannerDiscoverGeneric, .smDeleteBondings,
      .smConfigure 0x0f smIoCapabilityDisplayyesno,
      .systemSetSoftTimer 32768 g.bleData.handleForClient.toUInt8 0]
  | .connectionClosed _ => [.scannerStart gapPhy1m scannerDiscoverGeneric, .smDeleteBondings]
  | .scannerScanReport address =>
    if addressCheckLoop address g.addressCheck = 6 then
      [.scannerStop, .connectionOpen address gapPublicAddress gapPhy1m]
    else []
  | .gattProcedureCompleted _ result =>
    if result = 0x110F then [.smIncreaseSecurity g.bleData.connectionHandle] else []
  | .smConfirmBonding _ => [.smBondingConfirm g.bleData.handleForClient.toUInt8 1]
  | .systemExternalSignal extsignals =>
    if ConfirmSignal pinHigh g.bleData extsignals then
      [.smPasskeyConfirm g.bleData.connectionHandle 1]
    else []
  | _ => []

/-- The GATT requests of a step, and its writes of the LED. -/
def attributeCalls : Msg → List Call
  | .gattCharacteristicValue event =>
    if KeyValue g.bleData event then
      .gattReadCharacteristicValue g.bleData.connectionHandle
          g.bleData.keypadCharacteristicsHandle ::
        (ledCodes event.value).map (writeLed db)
    else []
  | .systemExternalSignal _ => [toggleRequest g.bleData]
  | msg => requests g msg

theorem step_calls : (slBtOnEvent db .client g i).2.calls =
    i.env.issued (controlCalls g i.env.pinHigh i.msg ++ attributeCalls db g i.msg) := by
  simp only [Output.calls, Output.effects, calls_append, step_handler, step_requests]
  rcases i with ⟨env, msg⟩
  cases msg
  case scannerScanReport address =>
    by_cases full : addressCheckLoop address g.addressCheck = 6 <;>
      simp [handleBleEventClient, controlCalls, attributeCalls, requests, full]
  case gattProcedureCompleted connection result =>
    by_cases encryption : result = 0x110F <;>
      simp [handleBleEventClient, controlCalls, attributeCalls, encryption]
  case gattCharacteristicValue event =>
    by_cases key : KeyValue g.bleData event <;>
      simp [handleBleEventClient, controlCalls, attributeCalls, requests, key]
  case systemExternalSignal extsignals =>
    by_cases confirm : ConfirmSignal env.pinHigh g.bleData extsignals <;>
      simp [handleBleEventClient, controlCalls, attributeCalls, requests, toggleRequest, confirm]
  all_goals simp [handleBleEventClient, controlCalls, attributeCalls, requests]

theorem attributeCalls_cases {msg : Msg} {c : Call} (asked : c ∈ attributeCalls db g msg) :
    c.isGattRequest = true ∨ ∃ ledState, c = writeLed db ledState := by
  cases msg
  case gattCharacteristicValue event =>
    simp only [attributeCalls] at asked
    split_ifs at asked
    · rcases List.mem_cons.mp asked with rfl | write
      · exact .inl rfl
      · obtain ⟨ledState, _, rfl⟩ := List.mem_map.mp write
        exact .inr ⟨ledState, rfl⟩
    · cases asked
  case systemExternalSignal extsignals =>
    rw [List.mem_singleton.mp asked]
    exact .inl rfl
  all_goals
    simp only [attributeCalls] at asked
    exact .inl (requests_gatt g _ c asked)

/-- The commands of a kind that is neither a GATT request nor a write of the LED. -/
theorem step_calls_filter {kind : Call → Bool} (gatt : ∀ c, kind c = true → c.isGattRequest = false)
    (led : ∀ ledState, kind (writeLed db ledState) = false) :
    (slBtOnEvent db .client g i).2.calls.filter (fun c => kind c.1) =
      i.env.issued ((controlCalls g i.env.pinHigh i.msg).filter kind) := by
  have none : (attributeCalls db g i.msg).filter kind = [] := by
    apply List.filter_eq_nil_iff.mpr
    intro c asked holds
    rcases attributeCalls_cases db g asked with request | ⟨ledState, rfl⟩
    · exact Bool.false_ne_true ((gatt c holds).symm.trans request)
    · exact Bool.false_ne_true ((led ledState).symm.trans holds)
  rw [step_calls, Env.issued_filter, List.filter_append, none, List.append_nil]

end BleRemote.Client
