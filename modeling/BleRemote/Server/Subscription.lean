import BleRemote.Device.Link
import BleRemote.Server.Cases

/-! The server's record of the client's subscription against what the stack has reported. -/

set_option autoImplicit false
namespace BleRemote.Server

open Reactive Stack Device

variable (db : GattDb)

/-! ## What was reported -/

/-- A change of the client configuration of the keys. -/
def IsKeyConfig (event : CharacteristicStatus) : Prop :=
  event.characteristic = db.buttonInput ∧ event.statusFlags = gattServerClientConfig

instance (event : CharacteristicStatus) : Decidable (IsKeyConfig db event) :=
  inferInstanceAs (Decidable (_ ∧ _))

-- Bit 0 of `sl_bt_gatt_server_client_configuration_t`.
def notificationBit (flags : UInt16) : Bool := flags &&& 1 == 1

structure Subscription where
  /-- The open connection. -/
  connection : Option UInt8
  /-- Its last configuration of the keys has the notification bit. -/
  notify : Bool

namespace Subscription

def report (sub : Subscription) : Msg → Subscription
  | .connectionOpened connection => ⟨some connection, false⟩
  | .connectionClosed _ => ⟨none, false⟩
  | .gattServerCharacteristicStatus event =>
    if IsKeyConfig db event ∧ sub.connection = some event.connection then
      { sub with notify := notificationBit event.clientConfigFlags }
    else sub
  | _ => sub

def Active (sub : Subscription) : Prop := sub.connection ≠ none ∧ sub.notify = true

instance (sub : Subscription) : Decidable sub.Active := inferInstanceAs (Decidable (_ ∧ _))

end Subscription

def subscriptionObserver : Observer Handled Subscription where
  start := ⟨none, false⟩
  observe sub t := sub.report db t.msg

def subscription (h : List Handled) : Subscription := (subscriptionObserver db).seen h

@[simp] theorem subscription_concat (h : List Handled) (t : Handled) :
    subscription db (h ++ [t]) = (subscription db h).report db t.msg :=
  (subscriptionObserver db).seen_concat h t

theorem subscription_connection (h : List Handled) :
    (subscription db h).connection = openConnection h := by
  induction h using List.reverseRecOn with
  | nil => rfl
  | append_singleton h t ih =>
    rw [subscription_concat, openConnection_concat, ← ih]
    cases t.msg <;> simp only [Subscription.report, linkAfter]
    split_ifs <;> rfl

/-! ## The record -/

/-- The flag is set exactly on a subscribed connection, whose handle is then stored. -/
def Recorded (sub : Subscription) (ble : BleData) : Prop :=
  (ble.okToSendHtmNotif = true ↔ sub.Active) ∧
    (ble.okToSendHtmNotif = true → sub.connection = some ble.connectionHandle)

instance (sub : Subscription) (ble : BleData) : Decidable (Recorded sub ble) :=
  inferInstanceAs (Decidable (_ ∧ _))

/-- After an event the record is true, and its handling has written and notified keys to
a subscribed connection only. -/
def SubscriptionTrue (past : List Handled) (t : Handled) : Prop :=
  Recorded (subscription db (past ++ [t])) t.after.bleData ∧
    (∀ button status, (writeButton db button, status) ∈ t.output.calls →
      (subscription db past).Active) ∧
    ∀ connection button status, (notifyButton db connection button, status) ∈ t.output.calls →
      (subscription db past).Active ∧ openConnection past = some connection

/-- What a status event must find for the record to stay true: from the open connection,
a configuration that the handler lists or that agrees with the flag; from elsewhere, the
flag cleared, which the event does not set. -/
def StatusKept (connection : Option UInt8) (ble : BleData) (event : CharacteristicStatus) : Prop :=
  if connection = some event.connection then
    IsKeyConfig db event → event.clientConfigFlags ≠ gattDisable.toUInt16 →
      event.clientConfigFlags ≠ gattNotification.toUInt16 →
      ble.okToSendHtmNotif = notificationBit event.clientConfigFlags
  else
    event.characteristic = db.buttonInput → ble.okToSendHtmNotif = false ∧
      (IsKeyConfig db event → event.clientConfigFlags ≠ gattNotification.toUInt16)

instance (connection : Option UInt8) (ble : BleData) (event : CharacteristicStatus) :
    Decidable (StatusKept db connection ble event) := by
  unfold StatusKept
  infer_instance

/-- What an event must find; a connection ends unsubscribed. -/
def EventKept (connection : Option UInt8) (ble : BleData) : Msg → Prop
  | .connectionClosed _ => ble.okToSendHtmNotif = false
  | .gattServerCharacteristicStatus event => StatusKept db connection ble event
  | _ => True

instance (connection : Option UInt8) (ble : BleData) (msg : Msg) :
    Decidable (EventKept db connection ble msg) := by
  apply Msg.casesOn (motive := fun msg => Decidable (EventKept db connection ble msg)) msg <;>
    intros <;> unfold EventKept <;> infer_instance

def RecordKept (past : List Handled) (t : Handled) : Prop :=
  EventKept db (openConnection past) t.before.bleData t.msg

instance (past : List Handled) (t : Handled) : Decidable (RecordKept db past t) :=
  inferInstanceAs (Decidable (EventKept db _ _ _))

/-! ## One step -/

theorem configured_cases (event : CharacteristicStatus) :
    (¬ IsKeyConfig db event ∧ configured db event = none) ∨
    (IsKeyConfig db event ∧
      ((event.clientConfigFlags = gattDisable.toUInt16 ∧ configured db event = some false) ∨
      (event.clientConfigFlags = gattNotification.toUInt16 ∧ configured db event = some true) ∨
      (event.clientConfigFlags ≠ gattDisable.toUInt16 ∧
        event.clientConfigFlags ≠ gattNotification.toUInt16 ∧ configured db event = none))) := by
  by_cases config : IsKeyConfig db event
  · have listed : configured db event =
        if event.clientConfigFlags = gattDisable.toUInt16 then some false
        else if event.clientConfigFlags = gattNotification.toUInt16 then some true
        else none := if_pos config
    rw [listed]
    refine .inr ⟨config, ?_⟩
    by_cases disable : event.clientConfigFlags = gattDisable.toUInt16
    · exact .inl ⟨disable, if_pos disable⟩
    · rw [if_neg disable]
      by_cases enable : event.clientConfigFlags = gattNotification.toUInt16
      · exact .inr (.inl ⟨enable, if_pos enable⟩)
      · exact .inr (.inr ⟨disable, enable, if_neg enable⟩)
  · exact .inl ⟨config, if_neg config⟩

theorem Recorded.closed {sub : Subscription} {ble : BleData} (recorded : Recorded sub ble)
    (closed : sub.connection = none) : ble.okToSendHtmNotif = false := by
  rw [← Bool.not_eq_true, recorded.1]
  exact fun active => active.1 closed

variable (g : Globals) (i : Input)

theorem recorded_status {sub : Subscription} (recorded : Recorded sub g.bleData) (env : Env)
    (event : CharacteristicStatus) :
    Recorded (sub.report db (.gattServerCharacteristicStatus event))
        (slBtOnEvent db .server g ⟨env, .gattServerCharacteristicStatus event⟩).1.bleData ↔
      StatusKept db sub.connection g.bleData event := by
  have open' : (sub.report db (.gattServerCharacteristicStatus event)).connection =
      sub.connection := by
    simp only [Subscription.report]
    split_ifs <;> rfl
  unfold Recorded StatusKept
  rw [step_okToSend, step_connectionHandle, open', Subscription.Active, open']
  simp only [Subscription.report]
  obtain ⟨same, handle⟩ := recorded
  have bits : notificationBit gattDisable.toUInt16 = false ∧
    notificationBit gattNotification.toUInt16 = true := ⟨rfl, rfl⟩
  by_cases keys : event.characteristic = db.buttonInput
  · rw [if_pos keys]
    by_cases here : sub.connection = some event.connection
    · -- the handle is right, and the flag if the configuration is one of the listed two
      rcases configured_cases db event with ⟨config, none⟩ |
        ⟨config, ⟨disable, off⟩ | ⟨enable, on⟩ | ⟨disable, enable, none⟩⟩
      · simpa [here, config, none, Subscription.Active] using same
      · simp [here, config, disable, off, bits]
      · simp [here, config, enable, on, bits]
      · simp [here, config, disable, enable, none]
    · -- the handle becomes wrong, which only a cleared flag allows
      rw [Subscription.Active] at same
      simp only [here, and_false, ↓reduceIte, ← same, imp_false, Bool.not_eq_true, keys,
        true_imp_iff]
      rcases configured_cases db event with ⟨config, none⟩ |
        ⟨config, ⟨disable, off⟩ | ⟨enable, on⟩ | ⟨disable, enable, none⟩⟩
      · simp [config, none]
      · have apart : gattDisable.toUInt16 ≠ gattNotification.toUInt16 := by decide
        simp [config, disable, off, apart]
      · simp [config, enable, on]
      · simp [config, enable, none]
  · have other : ¬ IsKeyConfig db event := fun config => keys config.1
    have none : configured db event = none := if_neg other
    simp only [keys, other, none, false_and, false_implies, ↓reduceIte, ite_self, iff_true]
    exact ⟨same, handle⟩

theorem step_recorded {past : List Handled} (recorded : Recorded (subscription db past) g.bleData)
    (alternates : Alternates past (handled db .server g i)) :
    Recorded ((subscription db past).report db i.msg) (slBtOnEvent db .server g i).1.bleData ↔
      RecordKept db past (handled db .server g i) := by
  unfold RecordKept
  rw [← subscription_connection db past, handled_msg, handled_before]
  rcases i with ⟨env, msg⟩
  cases msg
  case connectionOpened connection =>
    have off := recorded.closed ((subscription_connection db past).trans alternates)
    simp [Recorded, EventKept, step_okToSend, Subscription.report, Subscription.Active, off]
  case connectionClosed connection =>
    simp [Recorded, EventKept, step_okToSend, Subscription.report, Subscription.Active]
  case gattServerCharacteristicStatus event => exact recorded_status db g recorded env event
  all_goals
    apply iff_of_true _ trivial
    unfold Recorded
    rw [step_okToSend, step_connectionHandle]
    exact recorded

/-! ## Whole runs -/

/-- The record is true throughout a run, and keys go to a subscribed connection only,
exactly when every event finds what it needs. -/
theorem subscription_true_iff (inputs : List Input)
    (alternates : Always Alternates (run db .server inputs)) :
    Always (SubscriptionTrue db) (run db .server inputs) ↔
      Always (RecordKept db) (run db .server inputs) := by
  refine run_always_iff_under (R := fun past g => Recorded (subscription db past) g.bleData)
    ?_ ?_ inputs alternates
  · exact ⟨⟨Bool.noConfusion, fun active => absurd rfl active.1⟩, Bool.noConfusion⟩
  intro past g i recorded alternates
  have record := step_recorded db g i recorded alternates
  unfold SubscriptionTrue
  rw [subscription_concat, handled_msg, handled_after, handled_output, record]
  -- keys are passed on with the flag set, which the state before the event accounts for
  refine ⟨and_iff_left ⟨?_, ?_⟩, id⟩
  · intro button status wrote
    exact recorded.1.mp (signal_of_write db g i wrote).ok
  · intro connection button status sent
    obtain ⟨signal, rfl⟩ := signal_of_notify db g i sent
    rw [← subscription_connection db]
    exact ⟨recorded.1.mp signal.ok, recorded.2 signal.ok⟩

def keyConfig (connection : UInt8) (flags : UInt16) : Msg :=
  .gattServerCharacteristicStatus ⟨connection, 21, gattServerClientConfig, flags⟩

def unsubscribedSession : List Input :=
  obligingInputs [.systemBoot, .connectionOpened 1, keyConfig 1 1,
    .systemExternalSignal evtButtonOddPressed, keyConfig 1 0, .connectionClosed 1]

theorem unsubscribed_session_true :
    Always (SubscriptionTrue exampleDb) (run exampleDb .server unsubscribedSession) :=
  (subscription_true_iff exampleDb unsubscribedSession (by decide +kernel)).mpr (by decide +kernel)

-- The first client leaves without unsubscribing; a key changes under the next one.
def lostSession : List Input :=
  obligingInputs [.systemBoot, .connectionOpened 1, keyConfig 1 1, .connectionClosed 1,
    .connectionOpened 2, .systemExternalSignal evtButtonOddPressed]

theorem closed_client_notified : ∃ past t,
    run exampleDb .server lostSession = past ++ [t] ∧ Always Alternates (past ++ [t]) ∧
      openConnection past = some 2 ∧ (subscription exampleDb past).notify = false ∧
      t.output.calls = [(writeButton exampleDb 0, statusOk), (notifyButton exampleDb 1 0, statusOk)] ∧
      ¬ SubscriptionTrue exampleDb past t := by
  refine ⟨_, _, run_concat _ (lostSession.take 5), by decide +kernel, by decide +kernel,
    by decide +kernel, by decide +kernel, fun isTrue => ?_⟩
  exact absurd isTrue.1 (by decide +kernel)

end BleRemote.Server
