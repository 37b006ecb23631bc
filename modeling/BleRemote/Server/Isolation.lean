import BleRemote.Device.Screen
import BleRemote.Reactive.Unwinding
import BleRemote.Server.Cases

/-! What a finished connection leaves behind for the next one. -/

set_option autoImplicit false
namespace BleRemote.Server

open Reactive Stack Device

/-- The parts of the state that closing a connection does not reset. The connection of
the last configuration counts only while its notifications are on. -/
structure SameLeftovers (g h : Globals) : Prop where
  handleForClient : g.bleData.handleForClient.toUInt8 = h.bleData.handleForClient.toUInt8
  okToSend : g.bleData.okToSendHtmNotif = h.bleData.okToSendHtmNotif
  connectionHandle : g.bleData.okToSendHtmNotif = true →
    g.bleData.connectionHandle = h.bleData.connectionHandle
  notifInFlight : g.bleData.notifInFlight = h.bleData.notifInFlight
  keypadState : g.keypadState = h.keypadState

/-- All that the server's reactions depend on. -/
structure SameSession (g h : Globals) : Prop extends SameLeftovers g h where
  advertisingSetHandle : g.bleData.advertisingSetHandle = h.bleData.advertisingSetHandle
  connectionOpen : g.bleData.connectionOpen = h.bleData.connectionOpen
  bondingFlag : g.bleData.bondingFlag = h.bleData.bondingFlag
  buttonNotificationFlag : g.bleData.buttonNotificationFlag = h.bleData.buttonNotificationFlag

/-- Whatever comes next, two states make the same calls and print the same texts. -/
def SessionsIsolated (db : GattDb) (g h : Globals) : Prop :=
  (firmware db .server).Indistinguishable Output.calls g h ∧
    (firmware db .server).Indistinguishable Output.prints g h

/-! ## One step -/

section
variable (db : GattDb) (env : Env) (g : Globals) (i : Input)

/-- The state machine reports that it handles a notification. -/
def HandlesNotif (g : Globals) : Msg → Prop
  | .systemExternalSignal _ => g.bleData.connectionOpen = true ∧
      g.keypadState = .stateKeypadToGatt ∧ g.bleData.okToSendHtmNotif = true
  | _ => False

instance (g : Globals) (msg : Msg) : Decidable (HandlesNotif g msg) := by
  apply Msg.casesOn (motive := fun msg => Decidable (HandlesNotif g msg)) msg <;> intros <;>
    unfold HandlesNotif <;> infer_instance

def nextKeypadState (g : Globals) : Msg → KeypadState
  | .systemExternalSignal extsignals =>
    if g.bleData.connectionOpen = true then
      match g.keypadState with
      | .stateIdle =>
        if extsignals = evtButtonEvenPressed ∨ extsignals = evtButtonOddPressed then
          .stateKeypadToGatt
        else .stateIdle
      | .stateKeypadToGatt =>
        if g.bleData.okToSendHtmNotif = true then .stateIdle else .stateKeypadToGatt
    else g.keypadState
  | _ => g.keypadState

theorem keypadServerStateMachine_keypadState (msg : Msg) :
    ((keypadServerStateMachine msg).run env g).state.keypadState = nextKeypadState g msg := by
  cases msg
  case systemExternalSignal extsignals =>
    cases state : g.keypadState <;> simp [keypadServerStateMachine, nextKeypadState, state] <;>
      split_ifs <;> simp_all
  all_goals rfl

theorem keypadServerStateMachine_prints (msg : Msg) :
    prints ((keypadServerStateMachine msg).run env g).effects =
      if HandlesNotif g msg then [(.tempvalue, "Handling notif")] else [] := by
  cases msg
  case systemExternalSignal extsignals =>
    cases state : g.keypadState <;> simp [keypadServerStateMachine, HandlesNotif, state, ite_and]
  all_goals rfl

@[simp] theorem buttonStateToGatt_prints (button : UInt8) :
    prints ((buttonStateToGatt db button).run env g).effects = [] := by
  simp [buttonStateToGatt]

/-- The text that goes with a key code. -/
def keyText (pinHigh : GpioPin → Bool) : String :=
  if pinHigh keypadGpioPin3 = false then "Button ODD"
  else if pinHigh keypadGpioPin4 = false then "Button EVEN" else "No Button"

theorem serverSystemExternalSignal_prints (extsignals : UInt32) :
    prints ((serverSystemExternalSignal db extsignals).run env g).effects =
      if KeySignal g.bleData (.systemExternalSignal extsignals) then [(.row9, keyText env.pinHigh)]
      else [] := by
  by_cases key : KeySignal g.bleData (.systemExternalSignal extsignals)
  · rw [if_pos key]
    simp only [KeySignal] at key
    simp [serverSystemExternalSignal, key, keyText]
    split_ifs <;> rfl
  · rw [if_neg key]
    simp only [KeySignal] at key
    simp [serverSystemExternalSignal, key]

theorem step_prints : (slBtOnEvent db .server g i).2.prints =
    prints ((handleBleEventServer db i.msg).run i.env g).effects ++
      if HandlesNotif g i.msg then [(.tempvalue, "Handling notif")] else [] := by
  simp only [slBtOnEvent, Output.prints, Output.effects, prints_append, handleBleEvent, stateMachine,
    keypadServerStateMachine_prints]
  rcases i with ⟨env, msg⟩
  cases msg
  case systemExternalSignal extsignals => simp [handleBleEventServer, HandlesNotif]
  all_goals rfl

theorem step_keypadState :
    (slBtOnEvent db .server g i).1.keypadState = nextKeypadState g i.msg := by
  simp only [slBtOnEvent, handleBleEvent, stateMachine, keypadServerStateMachine_keypadState]
  rcases i with ⟨env, msg⟩
  cases msg <;> simp [handleBleEventServer, nextKeypadState]

end

section
variable {db : GattDb} {g h : Globals}

theorem SameLeftovers.keySignal (same : SameLeftovers g h) (msg : Msg) :
    KeySignal g.bleData msg ↔ KeySignal h.bleData msg := by
  cases msg <;> simp only [KeySignal, same.okToSend]

theorem SameSession.confirmSignal (same : SameSession g h) (msg : Msg) :
    ConfirmSignal g.bleData msg ↔ ConfirmSignal h.bleData msg := by
  cases msg <;> simp only [ConfirmSignal, same.bondingFlag, same.buttonNotificationFlag]

theorem SameSession.handlesNotif (same : SameSession g h) (msg : Msg) :
    HandlesNotif g msg ↔ HandlesNotif h msg := by
  cases msg <;> simp only [HandlesNotif, same.connectionOpen, same.keypadState, same.okToSend]

theorem SameLeftovers.buttonStateToGatt_calls (same : SameLeftovers g h)
    (ok : g.bleData.okToSendHtmNotif = true) (env : Env) (button : UInt8) :
    calls ((buttonStateToGatt db button).run env g).effects =
      calls ((buttonStateToGatt db button).run env h).effects := by
  rw [Server.buttonStateToGatt_calls, Server.buttonStateToGatt_calls, same.connectionHandle ok,
    same.notifInFlight]

theorem SameSession.calls (same : SameSession g h) (i : Input) :
    (slBtOnEvent db .server g i).2.calls = (slBtOnEvent db .server h i).2.calls := by
  rw [step_calls, step_calls]
  rcases i with ⟨env, msg⟩
  cases msg
  case systemExternalSignal extsignals =>
    simp only [handleBleEventServer, serverSystemExternalSignal_calls, same.handleForClient,
      same.confirmSignal, same.toSameLeftovers.keySignal]
    congr 1
    apply ite_congr rfl _ fun _ => rfl
    intro key
    exact same.toSameLeftovers.buttonStateToGatt_calls
      ((same.toSameLeftovers.keySignal _).mpr key).ok _ _
  all_goals simp [handleBleEventServer, same.advertisingSetHandle, same.handleForClient]

theorem SameSession.prints (same : SameSession g h) (i : Input) :
    (slBtOnEvent db .server g i).2.prints = (slBtOnEvent db .server h i).2.prints := by
  rw [step_prints, step_prints]
  simp only [same.handlesNotif]
  congr 1
  rcases i with ⟨env, msg⟩
  cases msg
  case systemExternalSignal extsignals =>
    simp only [handleBleEventServer, serverSystemExternalSignal_prints, same.toSameLeftovers.keySignal]
  all_goals
    simp [handleBleEventServer, serverSystemBoot, displayInit, serverConnectionOpened,
      serverConnectionClosed, serverCharacteristicStatus, serverSmBonded, smConfirmBonding,
      serverSmConfirmPasskey, serverSmBondingFailed]

theorem SameLeftovers.step_notifInFlight (same : SameLeftovers g h) (i : Input) :
    (slBtOnEvent db .server g i).1.bleData.notifInFlight =
      (slBtOnEvent db .server h i).1.bleData.notifInFlight := by
  have sends : (KeySignal g.bleData i.msg ∧ i.env.status (notifyButton db g.bleData.connectionHandle
        (keyCode i.env.pinHigh)) = statusOk) ↔
      (KeySignal h.bleData i.msg ∧ i.env.status (notifyButton db h.bleData.connectionHandle
        (keyCode i.env.pinHigh)) = statusOk) := by
    rw [← same.keySignal]
    apply and_congr_right
    intro key
    rw [same.connectionHandle key.ok]
  rw [Server.step_notifInFlight, Server.step_notifInFlight, same.notifInFlight]
  simp only [sends]

theorem SameLeftovers.step_connectionHandle (same : SameLeftovers g h) (i : Input)
    (ok : (slBtOnEvent db .server g i).1.bleData.okToSendHtmNotif = true) :
    (slBtOnEvent db .server g i).1.bleData.connectionHandle =
      (slBtOnEvent db .server h i).1.bleData.connectionHandle := by
  rw [step_okToSend] at ok
  rw [Server.step_connectionHandle, Server.step_connectionHandle]
  rcases i with ⟨env, msg⟩
  cases msg
  case gattServerCharacteristicStatus event =>
    by_cases key : event.characteristic = db.buttonInput
    · simp only [key, ↓reduceIte]
    · simp only [configured, key, false_and, ↓reduceIte, Option.getD_none] at ok ⊢
      exact same.connectionHandle ok
  all_goals exact same.connectionHandle ok

theorem SameSession.step (same : SameSession g h) (i : Input) :
    SameSession (slBtOnEvent db .server g i).1 (slBtOnEvent db .server h i).1 where
  handleForClient := by
    rw [step_handleForClient, step_handleForClient]
    cases i.msg <;> first | rfl | exact same.handleForClient
  okToSend := by
    simp only [step_okToSend, same.okToSend]
  connectionHandle := same.toSameLeftovers.step_connectionHandle i
  notifInFlight := same.toSameLeftovers.step_notifInFlight i
  keypadState := by
    rw [step_keypadState, step_keypadState]
    cases i.msg <;>
      simp only [nextKeypadState, same.connectionOpen, same.keypadState, same.okToSend]
  advertisingSetHandle := by
    simp only [step_advertisingSetHandle, same.advertisingSetHandle]
  connectionOpen := by
    simp only [step_connectionOpen, same.connectionOpen]
  bondingFlag := by
    rw [step_bleData, step_bleData]
    rcases i with ⟨env, msg⟩
    cases msg <;> simp [handleBleEventServer, same.bondingFlag]
  buttonNotificationFlag := by
    simp only [step_buttonNotificationFlag, same.buttonNotificationFlag]

theorem callsUnwinding (db : GattDb) : (firmware db .server).Unwinding Output.calls SameSession where
  output _ _ i same := same.calls i
  step _ _ i same := same.step i

theorem printsUnwinding (db : GattDb) : (firmware db .server).Unwinding Output.prints SameSession where
  output _ _ i same := same.prints i
  step _ _ i same := same.step i

/-! ## Telling states apart -/

-- An event with every command accepted and no key pressed.
def probe (msg : Msg) : Input := ⟨obliging fun _ => true, msg⟩

def press : Msg := .systemExternalSignal evtButtonEvenPressed

def enable (db : GattDb) : Msg :=
  .gattServerCharacteristicStatus
    ⟨0, db.buttonInput, gattServerClientConfig, gattNotification.toUInt16⟩

def confirmElsewhere (db : GattDb) : Msg :=
  .gattServerCharacteristicStatus ⟨0, db.ledOutput, gattServerConfirmation, 0⟩

@[simp] theorem keySignal_press (ble : BleData) :
    KeySignal ble press ↔ ble.okToSendHtmNotif = true := by
  simp [press, KeySignal]

section
variable (db : GattDb) (g : Globals)

/-- The state after an event with which to tell states apart. -/
def probed (msg : Msg) : Globals := (slBtOnEvent db .server g (probe msg)).1

theorem enabled : (probed db g (enable db)).bleData.okToSendHtmNotif = true ∧
    (probed db g (enable db)).bleData.notifInFlight = g.bleData.notifInFlight ∧
    (probed db g (enable db)).bleData.connectionOpen = g.bleData.connectionOpen ∧
    (probed db g (enable db)).keypadState = g.keypadState := by
  refine ⟨?_, ?_, ?_, ?_⟩
  · simp [probed, step_okToSend, probe, enable, configured, gattNotification, gattDisable]
  · simp [probed, step_notifInFlight, probe, enable, gattServerClientConfig, gattServerConfirmation]
  · rw [probed, step_connectionOpen]; rfl
  · rw [probed, step_keypadState]; rfl

theorem confirmedElsewhere :
    (probed db g (confirmElsewhere db)).bleData.okToSendHtmNotif = g.bleData.okToSendHtmNotif ∧
      (probed db g (confirmElsewhere db)).bleData.notifInFlight = false ∧
      (probed db g (confirmElsewhere db)).bleData.connectionHandle = g.bleData.connectionHandle := by
  refine ⟨?_, ?_, ?_⟩
  · simp [probed, step_okToSend, probe, confirmElsewhere, configured, db.distinct.symm]
  · simp [probed, step_notifInFlight, probe, confirmElsewhere]
  · simp [probed, step_connectionHandle, probe, confirmElsewhere, db.distinct.symm]

theorem opened : (probed db g (.connectionOpened 0)).bleData.connectionOpen = true ∧
    (probed db g (.connectionOpened 0)).keypadState = g.keypadState := by
  constructor
  · rw [probed, step_connectionOpen]; rfl
  · rw [probed, step_keypadState]; rfl

theorem press_written :
    written db.buttonInput (slBtOnEvent db .server g (probe press)).2.calls =
      if g.bleData.okToSendHtmNotif = true then [[keyCode fun _ => true]] else [] := by
  rw [step_written]
  simp [probe, obliging]

theorem press_notified :
    notified db.buttonInput (slBtOnEvent db .server g (probe press)).2.calls =
      if g.bleData.okToSendHtmNotif = true ∧ g.bleData.notifInFlight = false then
        [[keyCode fun _ => true]]
      else [] := by
  rw [step_notified]
  simp [probe, obliging]

theorem button_printed :
    (slBtOnEvent db .server g (probe (.systemExternalSignal evtPb0Pressed))).2.prints =
      if HandlesNotif g (.systemExternalSignal evtPb0Pressed) then [(.tempvalue, "Handling notif")]
      else [] := by
  have silent : ¬ KeySignal g.bleData (.systemExternalSignal evtPb0Pressed) := by
    rintro ⟨-, even | odd⟩
    · exact absurd even (by decide)
    · exact absurd odd (by decide)
  rw [step_prints, probe, handleBleEventServer, serverSystemExternalSignal_prints, if_neg silent,
    List.nil_append]

end

theorem SessionsIsolated.probed (isolated : SessionsIsolated db g h) (msg : Msg) :
    SessionsIsolated db (Server.probed db g msg) (Server.probed db h msg) :=
  ⟨isolated.1.step _, isolated.2.step _⟩

theorem SessionsIsolated.calls (isolated : SessionsIsolated db g h) (msg : Msg) :
    (slBtOnEvent db .server g (probe msg)).2.calls = (slBtOnEvent db .server h (probe msg)).2.calls :=
  isolated.1.output _

theorem SessionsIsolated.handleForClient (isolated : SessionsIsolated db g h) :
    g.bleData.handleForClient.toUInt8 = h.bleData.handleForClient.toUInt8 := by
  have same := isolated.calls (.smConfirmBonding 0)
  rw [step_calls, step_calls] at same
  simpa [probe, handleBleEventServer, obliging] using same

theorem ite_singleton_inj {A : Type} {c d : Prop} [Decidable c] [Decidable d] {a : A}
    (same : (if c then [a] else []) = if d then [a] else []) : c ↔ d := by
  split_ifs at same <;> simp_all

theorem SessionsIsolated.okToSend (isolated : SessionsIsolated db g h) :
    g.bleData.okToSendHtmNotif = h.bleData.okToSendHtmNotif := by
  have same := congrArg (written db.buttonInput) (isolated.calls press)
  rw [press_written, press_written] at same
  exact Bool.eq_iff_iff.mpr (ite_singleton_inj same)

theorem SessionsIsolated.notifInFlight (isolated : SessionsIsolated db g h) :
    g.bleData.notifInFlight = h.bleData.notifInFlight := by
  -- with the notifications on, a press is notified if none is in flight
  obtain ⟨on, flight, -⟩ := enabled db g
  obtain ⟨on', flight', -⟩ := enabled db h
  have same := congrArg (notified db.buttonInput) ((isolated.probed (enable db)).calls press)
  rw [press_notified, press_notified, flight, flight'] at same
  simp only [on, on', true_and] at same
  simpa using ite_singleton_inj same

theorem SessionsIsolated.connectionHandle (isolated : SessionsIsolated db g h)
    (ok : g.bleData.okToSendHtmNotif = true) :
    g.bleData.connectionHandle = h.bleData.connectionHandle := by
  obtain ⟨on, flight, handle⟩ := confirmedElsewhere db g
  obtain ⟨on', flight', handle'⟩ := confirmedElsewhere db h
  have same := (isolated.probed (confirmElsewhere db)).calls press
  have key := (keySignal_press _).mpr (on.trans ok)
  have key' := (keySignal_press _).mpr (on'.trans (isolated.okToSend.symm.trans ok))
  rw [step_calls_of_key _ _ _ key, step_calls_of_key _ _ _ key', buttonStateToGatt_calls,
    buttonStateToGatt_calls, flight, flight', handle, handle'] at same
  simpa [notifyButton, probe, obliging] using same

theorem SessionsIsolated.keypadState (isolated : SessionsIsolated db g h) :
    g.keypadState = h.keypadState := by
  -- on an open connection with the notifications on, the state is printed by any signal
  let subscribed (g : Globals) := Server.probed db (Server.probed db g (.connectionOpened 0)) (enable db)
  have handles (g : Globals) : HandlesNotif (subscribed g) (.systemExternalSignal evtPb0Pressed) ↔
      g.keypadState = .stateKeypadToGatt := by
    obtain ⟨on, -, stays, state⟩ := enabled db (Server.probed db g (.connectionOpened 0))
    obtain ⟨connected, state'⟩ := opened db g
    simp only [HandlesNotif, subscribed, on, stays, state, connected, state', true_and, and_true]
  have same := ((isolated.probed (.connectionOpened 0)).probed (enable db)).2.output
    (probe (.systemExternalSignal evtPb0Pressed))
  have agree := (handles g).symm.trans
    ((ite_singleton_inj ((button_printed db _).symm.trans (same.trans (button_printed db _)))).trans
      (handles h))
  cases first : g.keypadState <;> cases second : h.keypadState <;> simp_all

theorem SessionsIsolated.leftovers (isolated : SessionsIsolated db g h) : SameLeftovers g h :=
  ⟨isolated.handleForClient, isolated.okToSend, isolated.connectionHandle, isolated.notifInFlight,
    isolated.keypadState⟩

end

/-! ## After a finished connection -/

/-- The globals after a run that ends with the closing of a connection. -/
def finished (db : GattDb) (inputs : List Input) (env : Env) (connection : UInt8) : Globals :=
  globals db .server (inputs ++ [⟨env, .connectionClosed connection⟩])

theorem finished_eq (db : GattDb) (inputs : List Input) (env : Env) (connection : UInt8) :
    finished db inputs env connection =
      { globals db .server inputs with
        bleData := { (globals db .server inputs).bleData with
          connectionOpen := false, bondingFlag := false, passkeyFlag := false,
          buttonNotificationFlag := false } } :=
  globals_concat _ _

/-- After two histories that used one advertising set, the next sessions are the same
exactly when the histories left the same behind of what closing does not reset. -/
theorem sessions_isolated_iff (db : GattDb) (first second : List Input) (env env' : Env)
    (connection connection' : UInt8)
    (sameSet : (globals db .server first).bleData.advertisingSetHandle =
      (globals db .server second).bleData.advertisingSetHandle) :
    SessionsIsolated db (finished db first env connection) (finished db second env' connection') ↔
      SameLeftovers (globals db .server first) (globals db .server second) := by
  constructor
  · intro isolated
    have leftovers := isolated.leftovers
    rw [finished_eq, finished_eq] at leftovers
    obtain ⟨client, ok, handle, flight, keypad⟩ := leftovers
    exact ⟨client, ok, handle, flight, keypad⟩
  · intro ⟨client, ok, handle, flight, keypad⟩
    have same : SameSession (finished db first env connection)
        (finished db second env' connection') := by
      rw [finished_eq, finished_eq]
      exact ⟨⟨client, ok, handle, flight, keypad⟩, sameSet, rfl, rfl, rfl⟩
    exact ⟨(callsUnwinding db).indistinguishable same, (printsUnwinding db).indistinguishable same⟩

-- A client that only connects, and one that also switches the notifications on.
def plainSession : List Input := obligingInputs [.systemBoot, .connectionOpened 1]

def subscribedSession : List Input :=
  obligingInputs [.systemBoot, .connectionOpened 1, .gattServerCharacteristicStatus
    ⟨1, exampleDb.buttonInput, gattServerClientConfig, gattNotification.toUInt16⟩]

def pairedSession : List Input :=
  obligingInputs [.systemBoot, .connectionOpened 1, .smConfirmPasskey 1 123456, .smBonded 1]

theorem paired_session_isolated : SessionsIsolated exampleDb
    (finished exampleDb plainSession (obliging fun _ => true) 1)
    (finished exampleDb pairedSession (obliging fun _ => false) 1) := by
  apply (sessions_isolated_iff exampleDb plainSession pairedSession _ _ 1 1 (by decide +kernel)).mpr
  constructor <;> decide +kernel

-- The next client has not subscribed, and the key is notified to the connection that closed.
theorem finished_subscription_notified :
    let subscribed := finished exampleDb subscribedSession (obliging fun _ => true) 1
    let plain := finished exampleDb plainSession (obliging fun _ => true) 1
    let next := obligingInputs [.connectionOpened 2, press]
    subscribed.bleData.advertisingSetHandle = plain.bleData.advertisingSetHandle ∧
      (.gattServerSendNotification 1 exampleDb.buttonInput [0], statusOk) ∈
        (firmware exampleDb .server).shown Output.calls subscribed next ∧
      (.gattServerSendNotification 1 exampleDb.buttonInput [0], statusOk) ∉
        (firmware exampleDb .server).shown Output.calls plain next ∧
      ¬ SessionsIsolated exampleDb subscribed plain := by
  intro subscribed plain next
  have sent : (.gattServerSendNotification 1 exampleDb.buttonInput [0], statusOk) ∈
      (firmware exampleDb .server).shown Output.calls subscribed next := by decide +kernel
  have silent : (.gattServerSendNotification 1 exampleDb.buttonInput [0], statusOk) ∉
      (firmware exampleDb .server).shown Output.calls plain next := by decide +kernel
  refine ⟨by decide +kernel, sent, silent, ?_⟩
  intro isolated
  exact silent (isolated.1 next ▸ sent)

end BleRemote.Server
