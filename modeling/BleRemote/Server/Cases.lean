import BleRemote.Device.Trace

/-! What each case of the server's handler and its state machine change and call. -/

set_option autoImplicit false
namespace BleRemote.Server

open Reactive Stack Device

variable (db : GattDb) (env : Env) (g : Globals)

/-- The key code the pins stand for: 1 for PD11, 2 for PD12, 0 for no key; a
pressed key reads low and PD11 wins. -/
def keyCode (pinHigh : GpioPin → Bool) : UInt8 :=
  if pinHigh keypadGpioPin3 = false then 1 else if pinHigh keypadGpioPin4 = false then 2 else 0

/-- The events on which the handler passes the keys on to `button_state_to_gatt`. -/
def KeySignal (ble : BleData) : Msg → Prop
  | .systemExternalSignal extsignals =>
    ble.okToSendHtmNotif = true ∧
      (extsignals = evtButtonEvenPressed ∨ extsignals = evtButtonOddPressed)
  | _ => False

instance (ble : BleData) (msg : Msg) : Decidable (KeySignal ble msg) := by
  cases msg <;> unfold KeySignal <;> infer_instance

def writeButton (button : UInt8) : Call :=
  .gattServerWriteAttributeValue db.buttonInput 0 [button]

def notifyButton (connection button : UInt8) : Call :=
  .gattServerSendNotification connection db.buttonInput [button]

@[simp] theorem buttonStateToGatt_state (button : UInt8) :
    ((buttonStateToGatt db button).run env g).state =
      { g with bleData := { g.bleData with
          notifInFlight := g.bleData.notifInFlight ||
            env.status (notifyButton db g.bleData.connectionHandle button) = statusOk } } := by
  unfold buttonStateToGatt notifyButton
  cases flight : g.bleData.notifInFlight with
  | true => simp [flight]; rw [← flight]
  | false =>
    simp only [flight, Body.run_bind_state, run_call, run_bleData, run_logUnlessOk_state, ne_eq,
      ite_not, Body.run_ite, Outcome.state_ite, run_modifyBle, run_logError, Bool.false_or,
      ↓reduceIte]
    split
    · simp [*]
    · simp [*]; rw [← flight]

@[simp] theorem buttonStateToGatt_calls (button : UInt8) :
    calls ((buttonStateToGatt db button).run env g).effects =
      (writeButton db button, env.status (writeButton db button)) ::
        if g.bleData.notifInFlight = false then
          [(notifyButton db g.bleData.connectionHandle button,
            env.status (notifyButton db g.bleData.connectionHandle button))]
        else [] := by
  simp [buttonStateToGatt, writeButton, notifyButton]

theorem buttonStateToGatt_written (button : UInt8) :
    written db.buttonInput (calls ((buttonStateToGatt db button).run env g).effects) =
      if env.status (writeButton db button) = statusOk then [[button]] else [] := by
  rw [buttonStateToGatt_calls, writeButton, written_cons_write, written_ite]
  simp [written, notifyButton]

theorem buttonStateToGatt_notified (button : UInt8) :
    notified db.buttonInput (calls ((buttonStateToGatt db button).run env g).effects) =
      if g.bleData.notifInFlight = false ∧
        env.status (notifyButton db g.bleData.connectionHandle button) = statusOk
      then [[button]] else [] := by
  rw [buttonStateToGatt_calls]
  cases g.bleData.notifInFlight with
  | true => simp [notified, writeButton]
  | false =>
    have send := notified_cons_send db.buttonInput db.buttonInput g.bleData.connectionHandle [button]
      (env.status (notifyButton db g.bleData.connectionHandle button)) []
    simpa [notified, writeButton, notifyButton] using send

/-! ## The cases of the handler -/

@[simp] theorem serverSystemBoot_state : (serverSystemBoot.run env g).state =
    { g with
      bleData := { g.bleData with
        bondingFlag := false, passkeyFlag := false, myAddress := env.identityAddress,
        myAddressType := env.identityAddressType, advertisingSetHandle := env.advertisingSet }
      lastExtcominStateHigh := false } := (rfl)

@[simp] theorem serverSystemBoot_calls : calls (serverSystemBoot.run env g).effects =
    env.issued [.systemGetIdentityAddress, .advertiserCreateSet,
      .advertiserSetTiming env.advertisingSet 400 400 0 0,
      .advertiserStart env.advertisingSet advertiserGeneralDiscoverable
        advertiserConnectableScannable,
      .smDeleteBondings, .smConfigure 0x0f smIoCapabilityDisplayyesno,
      .systemSetSoftTimer 32768 g.bleData.handleForClient.toUInt8 0] := by
  simp [serverSystemBoot]

@[simp] theorem serverConnectionOpened_state (connection : UInt8) :
    ((serverConnectionOpened connection).run env g).state =
      { g with bleData := { g.bleData with
          connectionOpen := true, handleForClient := connection.toUInt16 } } := (rfl)

@[simp] theorem serverConnectionOpened_calls (connection : UInt8) :
    calls ((serverConnectionOpened connection).run env g).effects =
      env.issued [.advertiserStop g.bleData.advertisingSetHandle,
        .connectionSetParameters connection 60 60 4 750 0 0] := by
  simp [serverConnectionOpened]

@[simp] theorem serverConnectionClosed_state : (serverConnectionClosed.run env g).state =
    { g with bleData := { g.bleData with
        connectionOpen := false, bondingFlag := false, passkeyFlag := false,
        buttonNotificationFlag := false } } := (rfl)

@[simp] theorem serverConnectionClosed_calls : calls (serverConnectionClosed.run env g).effects =
    env.issued [.advertiserStart g.bleData.advertisingSetHandle advertiserGeneralDiscoverable
        advertiserConnectableScannable, .smDeleteBondings] := by
  simp [serverConnectionClosed]

def configured (event : CharacteristicStatus) : Option Bool :=
  if event.characteristic = db.buttonInput ∧ event.statusFlags = gattServerClientConfig then
    if event.clientConfigFlags = gattDisable.toUInt16 then some false
    else if event.clientConfigFlags = gattNotification.toUInt16 then some true
    else none
  else none

@[simp] theorem serverCharacteristicStatus_state (event : CharacteristicStatus) :
    ((serverCharacteristicStatus db event).run env g).state =
      { g with bleData := { g.bleData with
          connectionHandle := if event.characteristic = db.buttonInput then event.connection
            else g.bleData.connectionHandle
          okToSendHtmNotif := (configured db event).getD g.bleData.okToSendHtmNotif
          notifInFlight := if event.statusFlags = gattServerConfirmation then false
            else g.bleData.notifInFlight } } := by
  simp [serverCharacteristicStatus, configured]
  split_ifs <;> simp_all

@[simp] theorem serverCharacteristicStatus_calls (event : CharacteristicStatus) :
    calls ((serverCharacteristicStatus db event).run env g).effects = [] := by
  simp [serverCharacteristicStatus]

@[simp] theorem serverSmBonded_state : (serverSmBonded.run env g).state =
    { g with bleData := { g.bleData with bondingFlag := true } } := (rfl)

@[simp] theorem serverSmBonded_calls : calls (serverSmBonded.run env g).effects = [] := by
  simp [serverSmBonded]

@[simp] theorem serverSmConfirmPasskey_state (passkey : UInt32) :
    ((serverSmConfirmPasskey passkey).run env g).state =
      { g with bleData := { g.bleData with passkeyFlag := true } } := (rfl)

@[simp] theorem serverSmConfirmPasskey_calls (passkey : UInt32) :
    calls ((serverSmConfirmPasskey passkey).run env g).effects = [] := by
  simp [serverSmConfirmPasskey]

@[simp] theorem serverSmBondingFailed_state : (serverSmBondingFailed.run env g).state =
    { g with bleData := { g.bleData with bondingFlag := false, passkeyFlag := false } } := (rfl)

@[simp] theorem serverSmBondingFailed_calls :
    calls (serverSmBondingFailed.run env g).effects = [] := by
  simp [serverSmBondingFailed]

/-- The answer to the passkey: the signal is exactly the PB0 bit, the link is
bonded and the notification flag is off. -/
def ConfirmSignal (ble : BleData) : Msg → Prop
  | .systemExternalSignal extsignals =>
    ble.bondingFlag = true ∧ ble.buttonNotificationFlag = false ∧ extsignals = evtPb0Pressed
  | _ => False

instance (ble : BleData) (msg : Msg) : Decidable (ConfirmSignal ble msg) := by
  cases msg <;> unfold ConfirmSignal <;> infer_instance

@[simp] theorem serverSystemExternalSignal_state (extsignals : UInt32) :
    ((serverSystemExternalSignal db extsignals).run env g).state =
      { g with bleData := { g.bleData with
          notifInFlight := g.bleData.notifInFlight ||
            decide (KeySignal g.bleData (.systemExternalSignal extsignals) ∧
              env.status (notifyButton db g.bleData.connectionHandle (keyCode env.pinHigh)) =
                statusOk) } } := by
  by_cases key : KeySignal g.bleData (.systemExternalSignal extsignals)
  · simp only [key, true_and]
    simp only [KeySignal] at key
    simp [serverSystemExternalSignal, key, keyCode]
    split_ifs <;> simp
  · simp only [key, false_and, decide_false, Bool.or_false]
    simp only [KeySignal] at key
    simp [serverSystemExternalSignal, key]

@[simp] theorem serverSystemExternalSignal_calls (extsignals : UInt32) :
    calls ((serverSystemExternalSignal db extsignals).run env g).effects =
      (if ConfirmSignal g.bleData (.systemExternalSignal extsignals) then
        env.issued [.smPasskeyConfirm g.bleData.handleForClient.toUInt8 1] else []) ++
      (if KeySignal g.bleData (.systemExternalSignal extsignals) then
        calls ((buttonStateToGatt db (keyCode env.pinHigh)).run env g).effects
      else []) := by
  by_cases confirm : ConfirmSignal g.bleData (.systemExternalSignal extsignals)
  · rw [if_pos confirm]
    simp only [ConfirmSignal] at confirm
    obtain ⟨bonded, flag, rfl⟩ := confirm
    have none : ¬ KeySignal g.bleData (.systemExternalSignal evtPb0Pressed) := by
      rintro ⟨-, even | odd⟩
      · exact absurd even (by decide)
      · exact absurd odd (by decide)
    rw [if_neg none]
    simp only [KeySignal] at none
    simp [serverSystemExternalSignal, bonded, flag, none]
  · rw [if_neg confirm]
    simp only [ConfirmSignal] at confirm
    by_cases key : KeySignal g.bleData (.systemExternalSignal extsignals)
    · rw [if_pos key]
      simp only [KeySignal] at key
      simp [serverSystemExternalSignal, confirm, key, keyCode]
      split_ifs <;> simp
    · rw [if_neg key]
      simp only [KeySignal] at key
      simp [serverSystemExternalSignal, confirm, key]

/-! ## One step -/

theorem keypadServerStateMachine_bleData (msg : Msg) :
    ((keypadServerStateMachine msg).run env g).state.bleData = g.bleData := by
  cases msg <;> cases state : g.keypadState <;> simp [keypadServerStateMachine, state] <;>
    split_ifs <;> rfl

theorem keypadServerStateMachine_calls (msg : Msg) :
    calls ((keypadServerStateMachine msg).run env g).effects = [] := by
  cases msg <;> cases state : g.keypadState <;> simp [keypadServerStateMachine, state]

variable (i : Input)

theorem step_bleData : (slBtOnEvent db .server g i).1.bleData =
    ((handleBleEventServer db i.msg).run i.env g).state.bleData :=
  keypadServerStateMachine_bleData _ _ _

theorem step_calls : (slBtOnEvent db .server g i).2.calls =
    calls ((handleBleEventServer db i.msg).run i.env g).effects := by
  simp only [slBtOnEvent, Output.calls, Output.effects, calls_append, handleBleEvent, stateMachine,
    keypadServerStateMachine_calls, List.append_nil]

theorem step_connectionOpen : (slBtOnEvent db .server g i).1.bleData.connectionOpen =
    match i.msg with
    | .connectionOpened _ => true
    | .connectionClosed _ => false
    | _ => g.bleData.connectionOpen := by
  rw [step_bleData]
  rcases i with ⟨env, msg⟩
  cases msg <;> simp [handleBleEventServer]

theorem step_handleForClient : (slBtOnEvent db .server g i).1.bleData.handleForClient =
    match i.msg with
    | .connectionOpened connection => connection.toUInt16
    | _ => g.bleData.handleForClient := by
  rw [step_bleData]
  rcases i with ⟨env, msg⟩
  cases msg <;> simp [handleBleEventServer]

theorem step_advertisingSetHandle : (slBtOnEvent db .server g i).1.bleData.advertisingSetHandle =
    match i.msg with
    | .systemBoot => i.env.advertisingSet
    | _ => g.bleData.advertisingSetHandle := by
  rw [step_bleData]
  rcases i with ⟨env, msg⟩
  cases msg <;> simp [handleBleEventServer]

theorem step_connectionHandle : (slBtOnEvent db .server g i).1.bleData.connectionHandle =
    match i.msg with
    | .gattServerCharacteristicStatus event =>
      if event.characteristic = db.buttonInput then event.connection
      else g.bleData.connectionHandle
    | _ => g.bleData.connectionHandle := by
  rw [step_bleData]
  rcases i with ⟨env, msg⟩
  cases msg <;> simp [handleBleEventServer]

theorem step_okToSend : (slBtOnEvent db .server g i).1.bleData.okToSendHtmNotif =
    match i.msg with
    | .gattServerCharacteristicStatus event =>
      (configured db event).getD g.bleData.okToSendHtmNotif
    | _ => g.bleData.okToSendHtmNotif := by
  rw [step_bleData]
  rcases i with ⟨env, msg⟩
  cases msg <;> simp [handleBleEventServer]

theorem step_notifInFlight : (slBtOnEvent db .server g i).1.bleData.notifInFlight =
    match i.msg with
    | .gattServerCharacteristicStatus event =>
      if event.statusFlags = gattServerConfirmation then false else g.bleData.notifInFlight
    | _ => g.bleData.notifInFlight ||
        decide (KeySignal g.bleData i.msg ∧
          i.env.status (notifyButton db g.bleData.connectionHandle (keyCode i.env.pinHigh)) =
            statusOk) := by
  rw [step_bleData]
  rcases i with ⟨env, msg⟩
  cases msg <;> simp [handleBleEventServer, KeySignal]

theorem step_buttonNotificationFlag :
    (slBtOnEvent db .server g i).1.bleData.buttonNotificationFlag =
      match i.msg with
      | .connectionClosed _ => false
      | _ => g.bleData.buttonNotificationFlag := by
  rw [step_bleData]
  rcases i with ⟨env, msg⟩
  cases msg <;> simp [handleBleEventServer]

theorem KeySignal.external {ble : BleData} {msg : Msg} (signal : KeySignal ble msg) :
    ∃ extsignals, msg = .systemExternalSignal extsignals := by
  cases msg <;> simp only [KeySignal] at signal
  exact ⟨_, rfl⟩

theorem KeySignal.ok {ble : BleData} {msg : Msg} (signal : KeySignal ble msg) :
    ble.okToSendHtmNotif = true := by
  obtain ⟨extsignals, rfl⟩ := signal.external
  exact signal.1

theorem KeySignal.not_confirm {ble : BleData} {msg : Msg} (signal : KeySignal ble msg) :
    ¬ ConfirmSignal ble msg := by
  obtain ⟨extsignals, rfl⟩ := signal.external
  rintro ⟨-, -, rfl⟩
  rcases signal with ⟨-, even | odd⟩
  · exact absurd even (by decide)
  · exact absurd odd (by decide)

theorem step_calls_of_key (signal : KeySignal g.bleData i.msg) :
    (slBtOnEvent db .server g i).2.calls =
      calls ((buttonStateToGatt db (keyCode i.env.pinHigh)).run i.env g).effects := by
  rw [step_calls]
  obtain ⟨extsignals, same⟩ := signal.external
  rw [same] at signal ⊢
  simp only [handleBleEventServer, serverSystemExternalSignal_calls]
  rw [if_neg signal.not_confirm, if_pos signal, List.nil_append]

theorem step_calls_of_not_key (silent : ¬ KeySignal g.bleData i.msg) :
    written db.buttonInput (slBtOnEvent db .server g i).2.calls = [] ∧
      notified db.buttonInput (slBtOnEvent db .server g i).2.calls = [] := by
  rw [step_calls]
  rcases i with ⟨env, msg⟩
  cases msg
  case systemExternalSignal extsignals =>
    simp only [handleBleEventServer, serverSystemExternalSignal_calls]
    rw [if_neg silent, List.append_nil, written_ite, notified_ite]
    simp [written, notified]
  all_goals simp [handleBleEventServer, written, notified]

theorem signal_of_write {button : UInt8} {status : Status}
    (wrote : (writeButton db button, status) ∈ (slBtOnEvent db .server g i).2.calls) :
    KeySignal g.bleData i.msg := by
  by_contra silent
  rw [step_calls] at wrote
  rcases i with ⟨env, msg⟩
  cases msg
  case systemExternalSignal extsignals =>
    simp only [handleBleEventServer, serverSystemExternalSignal_calls, if_neg silent,
      List.append_nil] at wrote
    split_ifs at wrote
    · simp [writeButton] at wrote
    · cases wrote
  all_goals simp [handleBleEventServer, writeButton] at wrote

theorem signal_of_notify {connection button : UInt8} {status : Status}
    (sent : (notifyButton db connection button, status) ∈ (slBtOnEvent db .server g i).2.calls) :
    KeySignal g.bleData i.msg ∧ connection = g.bleData.connectionHandle := by
  by_cases signal : KeySignal g.bleData i.msg
  · refine ⟨signal, ?_⟩
    rw [step_calls_of_key db g i signal, buttonStateToGatt_calls] at sent
    split_ifs at sent
    · simp [writeButton, notifyButton] at sent
      exact sent.1.1
    · simp [writeButton, notifyButton] at sent
  · rw [step_calls] at sent
    rcases i with ⟨env, msg⟩
    cases msg
    case systemExternalSignal extsignals =>
      simp only [handleBleEventServer, serverSystemExternalSignal_calls, if_neg signal,
        List.append_nil] at sent
      split_ifs at sent
      · simp [notifyButton] at sent
      · cases sent
    all_goals simp [handleBleEventServer, notifyButton] at sent

/-- A step writes the key attribute exactly on a key signal, with the code of the pins. -/
theorem step_written : written db.buttonInput (slBtOnEvent db .server g i).2.calls =
    if KeySignal g.bleData i.msg ∧ i.env.status (writeButton db (keyCode i.env.pinHigh)) = statusOk
    then [[keyCode i.env.pinHigh]] else [] := by
  by_cases signal : KeySignal g.bleData i.msg
  · rw [step_calls_of_key db g i signal, buttonStateToGatt_written]
    simp only [signal, true_and]
  · simp [step_calls_of_not_key db g i signal, signal]

/-- A step notifies the code it writes, unless a notification counts as in flight. -/
theorem step_notified : notified db.buttonInput (slBtOnEvent db .server g i).2.calls =
    if KeySignal g.bleData i.msg ∧ g.bleData.notifInFlight = false ∧
      i.env.status (notifyButton db g.bleData.connectionHandle (keyCode i.env.pinHigh)) = statusOk
    then [[keyCode i.env.pinHigh]] else [] := by
  by_cases signal : KeySignal g.bleData i.msg
  · rw [step_calls_of_key db g i signal, buttonStateToGatt_notified]
    simp only [signal, true_and]
  · simp [step_calls_of_not_key db g i signal, signal]

end BleRemote.Server
