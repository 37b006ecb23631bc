import BleRemote.System.Glass

/-! The log of errors: which commands that fail are reported in it, under which name, and when. -/

set_option autoImplicit false
namespace BleRemote.System

open Reactive Stack Device

/-- The names under which a failing command is reported: that of the function, with a number
where the source gives its calls numbers. No caller looks at the status of a command without one. -/
@[simp] abbrev logNames : Call → List String
  | .systemGetIdentityAddress => ["sl_bt_system_get_identity_address"]
  | .systemSetSoftTimer .. => ["sl_bt_system_set_soft_timer"]
  | .advertiserCreateSet => ["sl_bt_advertiser_create_set"]
  | .advertiserSetTiming .. => ["sl_bt_advertiser_set_timing"]
  | .advertiserStart .. => ["sl_bt_advertiser_start"]
  | .scannerSetMode .. => ["sl_bt_scanner_set_mode"]
  | .scannerSetTiming .. => ["sl_bt_scanner_set_timing"]
  | .scannerStart .. => ["sl_bt_scanner_start"]
  | .connectionSetDefaultParameters .. => ["sl_bt_connection_set_default_parameters"]
  | .connectionOpen .. => ["sl_bt_connection_open"]
  | .gattDiscoverPrimaryServicesByUuid .. => ["sl_bt_gatt_discover_primary_services_by_uuid"]
  | .gattDiscoverCharacteristicsByUuid .. => ["sl_bt_gatt_discover_characteristics_by_uuid"]
  | .gattSetCharacteristicNotification .. =>
    ["sl_bt_gatt_set_characteristic_notification", "sl_bt_gatt_set_characteristic_notification_1",
      "sl_bt_gatt_set_characteristic_notification_2"]
  | .gattServerWriteAttributeValue .. => ["sl_bt_gatt_server_write_attribute_value"]
  | .gattServerSendNotification .. => ["sl_bt_gatt_server_send_notification"]
  | .smConfigure .. => ["sl_bt_sm_configure"]
  | .smDeleteBondings => ["sl_bt_sm_delete_bondings"]
  | .smIncreaseSecurity _ => ["sl_bt_sm_increase_security"]
  | .smPasskeyConfirm .. => ["sl_bt_sm_passkey_confirm", "sl_bt_sm_passkey_confirm_1"]
  | .smBondingConfirm .. => ["sl_bt_sm_bonding_confirm"]
  | .advertiserStop _ | .connectionSetParameters .. | .scannerStop
  | .gattReadCharacteristicValue .. | .gattServerSendIndication .. => []

def reportFormat (name : String) : String := name ++ "() returned != 0 status=0x%04x"

/-- Effects in which every failing command is reported in the next one, by name and status, and
nothing else is reported: `failed` is the only rule for an error line with an argument. -/
inductive Reported : List Effect → Prop where
  | nil : Reported []
  | done (c : Call) (status : Status) (rest : List Effect) :
    logNames c = [] ∨ status = statusOk → Reported rest → Reported (.call c status :: rest)
  | failed (c : Call) (status : Status) (name : String) (rest : List Effect) :
    name ∈ logNames c → status ≠ statusOk → Reported rest →
      Reported (.call c status :: .log .error (reportFormat name) [status] :: rest)
  | other (effect : Effect) (rest : List Effect) :
    (∀ c status, effect ≠ .call c status) →
    (∀ format args, effect = .log .error format args → args = []) →
      Reported rest → Reported (effect :: rest)

/-- The status of a command that fails, if its caller looks at it. -/
def failure : Effect → List Status
  | .call c status => if logNames c = [] ∨ status = statusOk then [] else [status]
  | _ => []

/-- What a line of the error log reports. -/
def report : Effect → List Status
  | .log .error _ args => args
  | _ => []

def failures (effects : List Effect) : List Status := effects.flatMap failure

def reports (effects : List Effect) : List Status := effects.flatMap report

theorem Reported.reports_eq {effects : List Effect} (reported : Reported effects) :
    reports effects = failures effects := by
  unfold reports failures
  induction reported with
  | nil => rfl
  | done c status rest quiet _ ih =>
    rw [List.flatMap_cons, List.flatMap_cons, ih, failure, if_pos quiet]
    rfl
  | failed c status name rest named failing _ ih =>
    have checked : ¬(logNames c = [] ∨ status = statusOk) :=
      fun quiet => quiet.elim (fun none => List.ne_nil_of_mem named none) failing
    simp only [List.flatMap_cons, ih, failure, if_neg checked, report, List.nil_append]
  | other effect rest noCall noReport _ ih =>
    rw [List.flatMap_cons, List.flatMap_cons, ih]
    cases effect with
    | call c status => exact absurd rfl (noCall c status)
    | log level format args =>
      cases level with
      | error =>
        rw [report, noReport format args rfl]
        rfl
      | warn | info => rfl
    | displayInit | displayPrintf | gpioPinOut | ledPatternOdd | ledPatternEven => rfl

namespace Reported

theorem append {first rest : List Effect} (left : Reported first) (right : Reported rest) :
    Reported (first ++ rest) := by
  induction left with
  | nil => exact right
  | done c status _ quiet _ ih => exact .done c status _ quiet ih
  | failed c status name _ named failing _ ih => exact .failed c status name _ named failing ih
  | other effect _ noCall noReport _ ih => exact .other effect _ noCall noReport ih

theorem of_append {first rest : List Effect} (left : Reported first) (whole : Reported (first ++ rest)) :
    Reported rest := by
  induction left with
  | nil => exact whole
  | done c status first quiet _ ih =>
    rw [List.cons_append] at whole
    generalize first ++ rest = tail at *
    cases whole with
    | done _ _ _ _ later => exact ih later
    | failed _ _ name _ named failing _ =>
      exact absurd quiet (not_or_intro (List.ne_nil_of_mem named) failing)
    | other _ _ noCall _ _ => exact absurd rfl (noCall c status)
  | failed c status name first named failing _ ih =>
    rw [List.cons_append, List.cons_append] at whole
    generalize first ++ rest = tail at *
    generalize format : reportFormat name = text at *
    cases whole with
    | done _ _ _ quiet _ => exact absurd quiet (not_or_intro (List.ne_nil_of_mem named) failing)
    | failed _ _ _ _ _ _ later => exact ih later
    | other _ _ noCall _ _ => exact absurd rfl (noCall c status)
  | other effect first noCall noReport _ ih =>
    rw [List.cons_append] at whole
    generalize first ++ rest = tail at *
    cases whole with
    | done c status _ _ _ => exact absurd rfl (noCall c status)
    | failed c status _ _ _ _ _ => exact absurd rfl (noCall c status)
    | other _ _ _ _ later => exact ih later

end Reported

/-! ## Statements of the bodies -/

section
variable {first rest : List Effect} (env : Env) (g : Globals)

@[simp] theorem reported_nil : Reported [] := .nil

@[simp] theorem reported_append (left : Reported first) : Reported (first ++ rest) ↔ Reported rest :=
  ⟨left.of_append, left.append⟩

theorem reported_cons {effect : Effect} (single : Reported [effect]) :
    Reported (effect :: rest) ↔ Reported rest := reported_append single

@[simp] theorem reported_displayInit : Reported (.displayInit :: rest) ↔ Reported rest :=
  reported_cons (.other _ _ nofun nofun .nil)

@[simp] theorem reported_displayPrintf (row : DisplayRow) (text : String) :
    Reported (.displayPrintf row text :: rest) ↔ Reported rest :=
  reported_cons (.other _ _ nofun nofun .nil)

@[simp] theorem reported_gpioPinOut (pin : GpioPin) (high : Bool) :
    Reported (.gpioPinOut pin high :: rest) ↔ Reported rest :=
  reported_cons (.other _ _ nofun nofun .nil)

@[simp] theorem reported_ledPatternOdd : Reported (.ledPatternOdd :: rest) ↔ Reported rest :=
  reported_cons (.other _ _ nofun nofun .nil)

@[simp] theorem reported_ledPatternEven : Reported (.ledPatternEven :: rest) ↔ Reported rest :=
  reported_cons (.other _ _ nofun nofun .nil)

@[simp] theorem reported_info (format : String) (args : List UInt32) :
    Reported (.log .info format args :: rest) ↔ Reported rest :=
  reported_cons (.other _ _ nofun nofun .nil)

@[simp] theorem reported_error (format : String) :
    Reported (.log .error format [] :: rest) ↔ Reported rest :=
  reported_cons (.other _ _ nofun (fun _ _ same => (Effect.log.inj same).2.2.symm) .nil)

@[simp] theorem reported_unchecked {c : Call} {status : Status} (unchecked : logNames c = []) :
    Reported (.call c status :: rest) ↔ Reported rest :=
  reported_cons (.done c status [] (.inl unchecked) .nil)

/-- The two callers that go on only when the command was accepted. -/
theorem reported_decided {c : Call} {status : Status} {name : String} (named : name ∈ logNames c)
    (accepted : Reported first) :
    Reported (.call c status ::
      (if status = statusOk then first else [.log .error (reportFormat name) [status]])) := by
  split
  · next ok => exact .done c status first (.inr ok) accepted
  · next failing => exact .failed c status name [] named failing .nil

theorem reported_command {c : Call} {status : Status} {name : String} (named : name ∈ logNames c) :
    Reported (.call c status ::
      (if status = statusOk then [] else [.log .error (reportFormat name) [status]])) :=
  reported_decided named .nil

@[simp] theorem reported_checked {c : Call} {status : Status} {name : String}
    (named : name ∈ logNames c) :
    Reported (.call c status :: (((logUnlessOk name status).run env g).effects ++ rest)) ↔
      Reported rest := by
  have single : Reported (.call c status :: ((logUnlessOk name status).run env g).effects) :=
    reported_command named
  exact reported_append single

@[simp] theorem reported_checked_last {c : Call} {status : Status} {name : String}
    (named : name ∈ logNames c) :
    Reported (.call c status :: ((logUnlessOk name status).run env g).effects) := reported_command named

variable (c : Prop) [Decidable c] (other : List Effect)

@[simp] theorem reported_ite :
    Reported (if c then first else other) ↔ if c then Reported first else Reported other := by
  split <;> rfl

@[simp] theorem reported_ite_append :
    Reported ((if c then first else other) ++ rest) ↔
      if c then Reported (first ++ rest) else Reported (other ++ rest) := by
  split <;> rfl

end

/-! ## Every handler -/

section
variable (db : GattDb) (env : Env) (g : Globals) (msg : Msg)

@[simp] theorem ledStateToGatt_reported (ledState : UInt8) :
    Reported ((ledStateToGatt db ledState).run env g).effects := by
  simp [ledStateToGatt]

@[simp] theorem buttonStateToGatt_reported (button : UInt8) :
    Reported ((buttonStateToGatt db button).run env g).effects := by
  have named : "sl_bt_gatt_server_send_notification" ∈ logNames
      (.gattServerSendNotification g.bleData.connectionHandle db.buttonInput [button]) := List.mem_cons_self
  simp [buttonStateToGatt]
  exact fun _ => reported_command named

@[simp] theorem displayInit_reported : Reported (displayInit.run env g).effects := by
  simp [displayInit]

theorem keypadServerStateMachine_reported :
    Reported ((keypadServerStateMachine msg).run env g).effects := by
  cases msg <;> cases state : g.keypadState <;> simp [keypadServerStateMachine, state]

theorem discoveryStateMachine_reported : Reported ((discoveryStateMachine msg).run env g).effects := by
  cases state : g.discoveryState <;> cases msg <;>
    simp [discoveryStateMachine, state, discoveryOpen, discoveryDiscoverKeypadServices,
      discoveryDiscoverLedServices, discoveryDiscoverKeypadCharacteristics,
      discoveryDiscoverLedCharacteristics, discoveryKeypadNotif, discoveryAwait, discoveryRequest,
      discoveryWait]
  -- left is the request of `stateOpen`
  case stateOpen.connectionOpened connection =>
    have named : "sl_bt_gatt_discover_primary_services_by_uuid" ∈
        logNames (.gattDiscoverPrimaryServicesByUuid connection keypadServiceUuid) := List.mem_cons_self
    exact reported_decided named (by simp)

theorem handleBleEventClient_reported : Reported ((handleBleEventClient db msg).run env g).effects := by
  cases msg <;>
    simp [handleBleEventClient, clientSystemBoot, clientConnectionOpened,
      clientConnectionClosed, clientScannerScanReport, clientGattProcedureCompleted,
      clientGattService, clientGattCharacteristic, clientGattCharacteristicValue, smConfirmBonding,
      clientSmConfirmPasskey, clientSmBonded, clientSmBondingFailed, clientSystemExternalSignal]

theorem handleBleEventServer_reported : Reported ((handleBleEventServer db msg).run env g).effects := by
  cases msg <;>
    simp [handleBleEventServer, serverSystemBoot, serverConnectionOpened, serverConnectionClosed,
      serverSystemExternalSignal, serverCharacteristicStatus, smConfirmBonding, serverSmBonded,
      serverSmConfirmPasskey, serverSmBondingFailed]

theorem step_reported (role : Role) (i : Input) : Reported (slBtOnEvent db role g i).2.effects := by
  cases role with
  | server =>
    exact (handleBleEventServer_reported db i.env g i.msg).append (keypadServerStateMachine_reported i.env _ i.msg)
  | client =>
    exact (handleBleEventClient_reported db i.env g i.msg).append (discoveryStateMachine_reported i.env _ i.msg)

end

end BleRemote.System
