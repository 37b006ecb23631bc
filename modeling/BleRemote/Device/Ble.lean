import BleRemote.Device.Display

/-! The event handlers of `ble.c`, one definition for each case of the two switches. -/

set_option autoImplicit false
namespace BleRemote.Device

open Reactive Stack

/-! ## GATT writes -/

section
variable (db : GattDb)

def ledStateToGatt (ledState : UInt8) : Handler Unit := do
  let status ← call (.gattServerWriteAttributeValue db.ledOutput 0 [ledState])
  logUnlessOk "sl_bt_gatt_server_write_attribute_value" status

def buttonStateToGatt (button : UInt8) : Handler Unit := do
  let status ← call (.gattServerWriteAttributeValue db.buttonInput 0 [button])
  logUnlessOk "sl_bt_gatt_server_write_attribute_value" status
  let ble ← bleData
  -- only a confirmation clears the flag again
  if ble.notifInFlight = false then
    let status ← call (.gattServerSendNotification ble.connectionHandle db.buttonInput [button])
    if status ≠ statusOk then
      logError "sl_bt_gatt_server_send_notification() returned != 0 status=0x%04x" [status]
    else
      modifyBle fun ble => { ble with notifInFlight := true }

/-! ## `handle_ble_event_server` -/

def serverSystemBoot : Handler Unit := do
  modifyBle fun ble => { ble with bondingFlag := false, passkeyFlag := false }
  let status ← call .systemGetIdentityAddress
  let env ← Body.environment
  modifyBle fun ble => { ble with
    myAddress := env.identityAddress, myAddressType := env.identityAddressType }
  logUnlessOk "sl_bt_system_get_identity_address" status
  let status ← call .advertiserCreateSet
  modifyBle fun ble => { ble with advertisingSetHandle := env.advertisingSet }
  logUnlessOk "sl_bt_advertiser_create_set" status
  let ble ← bleData
  let status ← call (.advertiserSetTiming ble.advertisingSetHandle 400 400 0 0)
  logUnlessOk "sl_bt_advertiser_set_timing" status
  let status ← call (.advertiserStart ble.advertisingSetHandle
    advertiserGeneralDiscoverable advertiserConnectableScannable)
  logUnlessOk "sl_bt_advertiser_start" status
  let status ← call .smDeleteBondings
  logUnlessOk "sl_bt_sm_delete_bondings" status
  let status ← call (.smConfigure 0x0f smIoCapabilityDisplayyesno)
  logUnlessOk "sl_bt_sm_configure" status
  displayInit
  displayPrintf .name "Server"
  displayPrintf .assignment "PROJECT"
  displayPrintf .connection "Advertising"
  displayPrintf .btaddr (addressText ble.myAddress.addr.toList)
  displayPrintf .passkey " "

def serverConnectionOpened (connection : UInt8) : Handler Unit := do
  modifyBle fun ble => { ble with connectionOpen := true }
  let ble ← bleData
  let _ ← call (.advertiserStop ble.advertisingSetHandle)
  modifyBle fun ble => { ble with handleForClient := connection.toUInt16 }
  let ble ← bleData
  let _ ← call (.connectionSetParameters ble.handleForClient.toUInt8 60 60 4 750 0 0)
  displayPrintf .connection "Connected"

def serverConnectionClosed : Handler Unit := do
  modifyBle fun ble => { ble with
    connectionOpen := false, bondingFlag := false, passkeyFlag := false,
    buttonNotificationFlag := false }
  let ble ← bleData
  let status ← call (.advertiserStart ble.advertisingSetHandle
    advertiserGeneralDiscoverable advertiserConnectableScannable)
  logUnlessOk "sl_bt_advertiser_start" status
  gpioPinOut led0Pin true
  gpioPinOut led0Pin false
  displayPrintf .connection "Advertising"
  displayPrintf .tempvalue ""
  displayPrintf .row9 " "
  displayPrintf .passkey " "
  displayPrintf .action " "
  let status ← call .smDeleteBondings
  logUnlessOk "sl_bt_sm_delete_bondings" status

def serverSystemExternalSignal (extsignals : UInt32) : Handler Unit := do
  let ble ← bleData
  -- this build compares `bonding_flag` with 1 and does not look at `passkey_flag`
  if ble.bondingFlag = true ∧ ble.buttonNotificationFlag = false ∧ extsignals = evtPb0Pressed then
    let status ← call (.smPasskeyConfirm ble.handleForClient.toUInt8 1)
    logUnlessOk "sl_bt_sm_passkey_confirm" status
  if ble.okToSendHtmNotif = true ∧
      (extsignals = evtButtonEvenPressed ∨ extsignals = evtButtonOddPressed) then
    if (← gpioPinInGet keypadGpioPin3) = false then
      buttonStateToGatt db 1
      displayPrintf .row9 "Button ODD"
    else if (← gpioPinInGet keypadGpioPin4) = false then
      buttonStateToGatt db 2
      displayPrintf .row9 "Button EVEN"
    else
      buttonStateToGatt db 0
      displayPrintf .row9 "No Button"

def serverCharacteristicStatus (event : CharacteristicStatus) : Handler Unit := do
  if event.characteristic = db.buttonInput then
    modifyBle fun ble => { ble with connectionHandle := event.connection }
    if event.statusFlags = gattServerClientConfig then
      if event.clientConfigFlags = gattDisable.toUInt16 then
        modifyBle fun ble => { ble with okToSendHtmNotif := false }
        displayPrintf .tempvalue ""
      else if event.clientConfigFlags = gattNotification.toUInt16 then
        modifyBle fun ble => { ble with okToSendHtmNotif := true }
  -- whatever characteristic the confirmation is for
  if event.statusFlags = gattServerConfirmation then
    modifyBle fun ble => { ble with notifInFlight := false }

def serverSmBonded : Handler Unit := do
  modifyBle fun ble => { ble with bondingFlag := true }
  displayPrintf .connection "Bonded"
  displayPrintf .passkey " "
  displayPrintf .action " "

-- `sl_bt_evt_sm_confirm_bonding_id`, the same text in both builds.
def smConfirmBonding : Handler Unit := do
  modifyBle fun ble => { ble with passkeyFlag := false }
  let ble ← bleData
  let status ← call (.smBondingConfirm ble.handleForClient.toUInt8 1)
  logUnlessOk "sl_bt_sm_bonding_confirm" status

@[simp] theorem smConfirmBonding_state (env : Env) (g : Globals) :
    (smConfirmBonding.run env g).state =
      { g with bleData := { g.bleData with passkeyFlag := false } } := (rfl)

@[simp] theorem smConfirmBonding_calls (env : Env) (g : Globals) :
    calls (smConfirmBonding.run env g).effects =
      [(.smBondingConfirm g.bleData.handleForClient.toUInt8 1,
        env.status (.smBondingConfirm g.bleData.handleForClient.toUInt8 1))] := by
  simp [smConfirmBonding]

def serverSmConfirmPasskey (passkey : UInt32) : Handler Unit := do
  modifyBle fun ble => { ble with passkeyFlag := true }
  displayPrintf .passkey (" " ++ decimal passkey)
  displayPrintf .action "Confirm with PB0"

def serverSmBondingFailed : Handler Unit := do
  modifyBle fun ble => { ble with bondingFlag := false, passkeyFlag := false }
  displayPrintf .connection "Failed"
  displayPrintf .passkey " "
  displayPrintf .action " "
  logError "sl_bt_evt_sm_bonding_failed_id \n\r" []

def handleBleEventServer : Msg → Handler Unit
  | .systemBoot => serverSystemBoot
  | .connectionOpened connection => serverConnectionOpened connection
  | .connectionClosed _ => serverConnectionClosed
  | .connectionParameters _ => pure ()
  | .systemExternalSignal extsignals => serverSystemExternalSignal db extsignals
  | .gattServerCharacteristicStatus event => serverCharacteristicStatus db event
  | .systemSoftTimer _ => displayUpdate
  | .smBonded _ => serverSmBonded
  | .smConfirmBonding _ => smConfirmBonding
  | .smConfirmPasskey _ passkey => serverSmConfirmPasskey passkey
  | .smBondingFailed _ => serverSmBondingFailed
  | _ => pure ()

/-! ## `handle_ble_event_client` -/

def clientSystemBoot : Handler Unit := do
  modifyBle fun ble => { ble with
    bondingFlag := false, passkeyFlag := false, buttonNotificationFlag := false }
  let status ← call .systemGetIdentityAddress
  let env ← Body.environment
  modifyBle fun ble => { ble with
    myAddress := env.identityAddress, myAddressType := env.identityAddressType }
  logUnlessOk "sl_bt_system_get_identity_address" status
  let status ← call (.scannerSetMode gapPhy1m 0)
  logUnlessOk "sl_bt_scanner_set_mode" status
  let status ← call (.scannerSetTiming gapPhy1m 80 40)
  logUnlessOk "sl_bt_scanner_set_timing" status
  let status ← call (.connectionSetDefaultParameters 60 60 4 825 0 4)
  logUnlessOk "sl_bt_connection_set_default_parameters" status
  let status ← call (.scannerStart gapPhy1m scannerDiscoverGeneric)
  logUnlessOk "sl_bt_scanner_start" status
  let status ← call .smDeleteBondings
  logUnlessOk "sl_bt_sm_delete_bondings" status
  let status ← call (.smConfigure 0x0f smIoCapabilityDisplayyesno)
  logUnlessOk "sl_bt_sm_configure" status
  displayInit
  displayPrintf .name "Client"
  displayPrintf .assignment "PROJECT"
  displayPrintf .connection "Discovering"
  let ble ← bleData
  displayPrintf .btaddr (addressText ble.myAddress.addr.toList.reverse)
  displayPrintf .tempvalue " "
  displayPrintf .btaddr2 " "

def clientConnectionOpened : Handler Unit := do
  modifyBle fun ble => { ble with connectionOpen := true }
  displayPrintf .connection "Connected"

def clientConnectionClosed : Handler Unit := do
  -- the handles of the finished connection stay
  modifyBle fun ble => { ble with connectionOpen := false, bondingFlag := false, passkeyFlag := false }
  let status ← call (.scannerStart gapPhy1m scannerDiscoverGeneric)
  logUnlessOk "sl_bt_scanner_start" status
  let status ← call .smDeleteBondings
  logUnlessOk "sl_bt_sm_delete_bondings" status
  displayPrintf .connection "Discovering"
  displayPrintf .tempvalue " "
  displayPrintf .btaddr2 " "
  displayPrintf .row9 " "

/-- The loop over the six address bytes: one increment for each byte that agrees. -/
def addressCheckLoop (address : BdAddr) (addressCheck : Int32) : Int32 :=
  (List.finRange 6).foldl (fun count i =>
    if address.addr[i] = serverBtAddress.addr[i] then count + 1 else count) addressCheck

def clientScannerScanReport (address : BdAddr) : Handler Unit := do
  -- the count goes on from where the last report left it
  Body.modify fun g => { g with addressCheck := addressCheckLoop address g.addressCheck }
  let g ← Body.get
  if g.addressCheck = 6 then
    let _ ← call .scannerStop
    let status ← call (.connectionOpen address gapPublicAddress gapPhy1m)
    let env ← Body.environment
    modifyBle fun ble => { ble with connectionHandle := env.connection }
    logUnlessOk "sl_bt_connection_open" status
    displayPrintf .btaddr2 (addressText serverBtAddress.addr.toList)
    Body.modify fun g => { g with addressCheck := 0 }

def clientGattProcedureCompleted (result : UInt16) : Handler Unit := do
  let ble ← bleData
  if result = 0x110F then
    let status ← call (.smIncreaseSecurity ble.connectionHandle)
    logUnlessOk "sl_bt_sm_increase_security" status

/-- The unrolled comparison of the leading bytes. It does not look at `len`. -/
def uuidAgrees (uuid : Uint8Array) (expected : List UInt8) : Bool :=
  (List.finRange expected.length).all fun i => uuid.data i == expected[i]

def clientGattService (event : GattService) : Handler Unit := do
  if uuidAgrees event.uuid keypadServiceUuid = true then
    modifyBle fun ble => { ble with keypadServiceHandle := event.service }
    logInfo "Keypad Servc found=%d" [event.service]
  if uuidAgrees event.uuid ledServiceUuid = true then
    modifyBle fun ble => { ble with ledServiceHandle := event.service }
    logInfo "LED Servc found=%d" [event.service]

def clientGattCharacteristic (event : GattCharacteristic) : Handler Unit := do
  logInfo "Char evt, h=%d, u=%x,%x"
    [event.characteristic.toUInt32, (event.uuid.data 0).toUInt32, (event.uuid.data 1).toUInt32]
  if uuidAgrees event.uuid keypadCharacUuid = true then
    modifyBle fun ble => { ble with keypadCharacteristicsHandle := event.characteristic }
    logInfo "Keypad Char found=%d" [event.characteristic.toUInt32]
  if uuidAgrees event.uuid ledCharacUuid = true then
    modifyBle fun ble => { ble with ledCharacteristicsHandle := event.characteristic }
    logInfo "LED Char found=%d" [event.characteristic.toUInt32]

-- The three tests are independent, each on a byte offset of its own.
def clientGattCharacteristicValue (event : GattCharacteristicValue) : Handler Unit := do
  let ble ← bleData
  if event.characteristic = ble.keypadCharacteristicsHandle ∧
      (event.attOpcode = gattHandleValueNotification ∨ event.attOpcode = gattReadResponse) then
    let _ ← call (.gattReadCharacteristicValue ble.connectionHandle ble.keypadCharacteristicsHandle)
    if event.value.data 1 ≠ 0 then
      displayPrintf .row9 "Button ODD"
      Body.emit [.ledPatternOdd]
      ledStateToGatt db 1
    if event.value.data 2 ≠ 0 then
      displayPrintf .row9 "Button EVEN"
      Body.emit [.ledPatternEven]
      ledStateToGatt db 2
    if event.value.data 0 ≠ 0 then
      displayPrintf .row9 "No Button"
      ledStateToGatt db 0

def clientSmConfirmPasskey (passkey : UInt32) : Handler Unit := do
  modifyBle fun ble => { ble with passkeyFlag := true }
  displayPrintf .passkey ("Passkey " ++ decimal passkey)
  displayPrintf .action "Confirm with PB0"

def clientSmBonded : Handler Unit := do
  modifyBle fun ble => { ble with bondingFlag := true }
  displayPrintf .passkey " "
  displayPrintf .action " "
  displayPrintf .connection "Bonded"

def clientSmBondingFailed : Handler Unit := do
  modifyBle fun ble => { ble with bondingFlag := false, passkeyFlag := false }
  displayPrintf .passkey " "
  displayPrintf .action " "
  displayPrintf .connection "Failed"
  logError "Bonding Failed" []

def clientSystemExternalSignal (extsignals : UInt32) : Handler Unit := do
  let ble ← bleData
  let pb0 ← gpioPinInGet pb0ButtonPin
  if extsignals = evtPb0Pressed ∧ pb0 = false ∧ ble.passkeyFlag = true ∧ ble.bondingFlag = false then
    let status ← call (.smPasskeyConfirm ble.connectionHandle 1)
    logUnlessOk "sl_bt_sm_passkey_confirm_1" status
  -- whatever the signal is, and with the flags read before
  if ble.buttonNotificationFlag = false then
    let status ← call (.gattSetCharacteristicNotification ble.connectionHandle
      ble.keypadCharacteristicsHandle gattNotification)
    logUnlessOk "sl_bt_gatt_set_characteristic_notification_1" status
    modifyBle fun ble => { ble with buttonNotificationFlag := true }
  else
    let status ← call (.gattSetCharacteristicNotification ble.connectionHandle
      ble.keypadCharacteristicsHandle gattDisable)
    logUnlessOk "sl_bt_gatt_set_characteristic_notification_2" status
    modifyBle fun ble => { ble with buttonNotificationFlag := false }

def handleBleEventClient : Msg → Handler Unit
  | .systemBoot => clientSystemBoot
  | .connectionOpened _ => clientConnectionOpened
  | .connectionClosed _ => clientConnectionClosed
  | .systemSoftTimer _ => displayUpdate
  | .scannerScanReport address => clientScannerScanReport address
  | .gattProcedureCompleted _ result => clientGattProcedureCompleted result
  | .gattService event => clientGattService event
  | .gattCharacteristic event => clientGattCharacteristic event
  | .gattCharacteristicValue event => clientGattCharacteristicValue db event
  | .smConfirmBonding _ => smConfirmBonding
  | .smConfirmPasskey _ passkey => clientSmConfirmPasskey passkey
  | .smBonded _ => clientSmBonded
  | .smBondingFailed _ => clientSmBondingFailed
  | .systemExternalSignal extsignals => clientSystemExternalSignal extsignals
  | _ => pure ()

end
end BleRemote.Device
