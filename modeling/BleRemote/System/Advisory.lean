import BleRemote.Reactive.Unwinding
import BleRemote.System.Glass

/-! Statuses are advice: but for two commands, what a command returns changes the error log and
nothing else that the firmware does, then or later. -/

set_option autoImplicit false
namespace BleRemote.System

open Reactive Stack Device

/-- The two commands whose status is acted on: the notification of the keys, and the request
that opens the discovery. -/
def isDecisive : Call → Bool
  | .gattServerSendNotification .. => true
  | .gattDiscoverPrimaryServicesByUuid _ uuid => uuid == keypadServiceUuid
  | _ => false

/-- The environments differ in statuses only, and a decisive command succeeds in both or fails
in both. -/
structure SameButAdvice (env env' : Env) : Prop where
  identityAddress : env.identityAddress = env'.identityAddress
  identityAddressType : env.identityAddressType = env'.identityAddressType
  advertisingSet : env.advertisingSet = env'.advertisingSet
  connection : env.connection = env'.connection
  pinHigh : env.pinHigh = env'.pinHigh
  status (c : Call) : isDecisive c = true → (env.status c = statusOk ↔ env'.status c = statusOk)

/-- What an effect does: a command without the status it returned, and no line of the error log. -/
def deed : Effect → Option Effect
  | .call c _ => some (.call c statusOk)
  | .log .error _ _ => none
  | effect => some effect

def deeds (effects : List Effect) : List Effect := effects.filterMap deed

section
variable (first rest : List Effect)

@[simp] theorem deeds_nil : deeds [] = [] := rfl

@[simp] theorem deeds_append : deeds (first ++ rest) = deeds first ++ deeds rest := List.filterMap_append

@[simp] theorem deeds_call (c : Call) (status : Status) :
    deeds (.call c status :: rest) = .call c statusOk :: deeds rest := rfl

@[simp] theorem deeds_displayInit : deeds (.displayInit :: rest) = .displayInit :: deeds rest := rfl

@[simp] theorem deeds_displayPrintf (row : DisplayRow) (text : String) :
    deeds (.displayPrintf row text :: rest) = .displayPrintf row text :: deeds rest := rfl

@[simp] theorem deeds_gpioPinOut (pin : GpioPin) (high : Bool) :
    deeds (.gpioPinOut pin high :: rest) = .gpioPinOut pin high :: deeds rest := rfl

@[simp] theorem deeds_ledPatternOdd : deeds (.ledPatternOdd :: rest) = .ledPatternOdd :: deeds rest := rfl

@[simp] theorem deeds_ledPatternEven :
    deeds (.ledPatternEven :: rest) = .ledPatternEven :: deeds rest := rfl

@[simp] theorem deeds_info (format : String) (args : List UInt32) :
    deeds (.log .info format args :: rest) = .log .info format args :: deeds rest := rfl

@[simp] theorem deeds_error (format : String) (args : List UInt32) :
    deeds (.log .error format args :: rest) = deeds rest := rfl

@[simp] theorem deeds_ite (c : Prop) [Decidable c] :
    deeds (if c then first else rest) = if c then deeds first else deeds rest := by
  split <;> rfl

@[simp] theorem deeds_logUnlessOk (command : String) (status : Status) (env : Env) (g : Globals) :
    deeds ((logUnlessOk command status).run env g).effects = [] := by
  unfold logUnlessOk
  split <;> rfl

end

/-! ## Every handler -/

section
variable (db : GattDb) {env env' : Env} (g : Globals) (msg : Msg)

theorem keypadServerStateMachine_deeds :
    ((keypadServerStateMachine msg).run env g).state = ((keypadServerStateMachine msg).run env' g).state ∧
      deeds ((keypadServerStateMachine msg).run env g).effects =
        deeds ((keypadServerStateMachine msg).run env' g).effects := by
  cases msg <;> cases state : g.keypadState <;> simp [keypadServerStateMachine, state]

variable (same : SameButAdvice env env')
include same

theorem discoveryStateMachine_deeds :
    ((discoveryStateMachine msg).run env g).state = ((discoveryStateMachine msg).run env' g).state ∧
      deeds ((discoveryStateMachine msg).run env g).effects =
        deeds ((discoveryStateMachine msg).run env' g).effects := by
  cases state : g.discoveryState <;> cases msg <;>
    simp [discoveryStateMachine, state, discoveryOpen, discoveryDiscoverKeypadServices,
      discoveryDiscoverLedServices, discoveryDiscoverKeypadCharacteristics,
      discoveryDiscoverLedCharacteristics, discoveryKeypadNotif, discoveryAwait, discoveryRequest,
      discoveryWait]
  case stateOpen.connectionOpened connection =>
    have status := same.status (.gattDiscoverPrimaryServicesByUuid connection keypadServiceUuid) rfl
    simp [status]

theorem buttonStateToGatt_deeds (button : UInt8) :
    ((buttonStateToGatt db button).run env g).state = ((buttonStateToGatt db button).run env' g).state ∧
      deeds ((buttonStateToGatt db button).run env g).effects =
        deeds ((buttonStateToGatt db button).run env' g).effects := by
  have status := same.status
    (.gattServerSendNotification g.bleData.connectionHandle db.buttonInput [button]) rfl
  simp [buttonStateToGatt, status]

theorem handleBleEventServer_deeds :
    ((handleBleEventServer db msg).run env g).state = ((handleBleEventServer db msg).run env' g).state ∧
      deeds ((handleBleEventServer db msg).run env g).effects =
        deeds ((handleBleEventServer db msg).run env' g).effects := by
  have key (button : UInt8) := buttonStateToGatt_deeds db g same button
  cases msg <;>
    simp [handleBleEventServer, serverSystemBoot, displayInit, serverConnectionOpened,
      serverConnectionClosed, serverSystemExternalSignal, serverCharacteristicStatus, smConfirmBonding,
      serverSmBonded, serverSmConfirmPasskey, serverSmBondingFailed, same.identityAddress,
      same.identityAddressType, same.advertisingSet, same.pinHigh, key]

theorem handleBleEventClient_deeds :
    ((handleBleEventClient db msg).run env g).state = ((handleBleEventClient db msg).run env' g).state ∧
      deeds ((handleBleEventClient db msg).run env g).effects =
        deeds ((handleBleEventClient db msg).run env' g).effects := by
  cases msg <;>
    simp [handleBleEventClient, clientSystemBoot, displayInit, clientConnectionOpened,
      clientConnectionClosed, clientScannerScanReport, clientGattProcedureCompleted, clientGattService,
      clientGattCharacteristic, clientGattCharacteristicValue, ledStateToGatt, smConfirmBonding,
      clientSmConfirmPasskey, clientSmBonded, clientSmBondingFailed, clientSystemExternalSignal,
      same.identityAddress, same.identityAddressType, same.connection, same.pinHigh]

end

/-! ## Whole runs -/

/-- The same event, handled in environments that differ in advice only. -/
def Alike (i j : Input) : Prop := i.msg = j.msg ∧ SameButAdvice i.env j.env

theorem firmware_overlooks (db : GattDb) (role : Role) :
    (firmware db role).Overlooks (fun output => deeds output.effects) Alike := by
  have step (g : Globals) (i j : Input) (alike : Alike i j) :
      (slBtOnEvent db role g i).1 = (slBtOnEvent db role g j).1 ∧
        deeds (slBtOnEvent db role g i).2.effects = deeds (slBtOnEvent db role g j).2.effects := by
    obtain ⟨env, msg⟩ := i
    obtain ⟨env', msg'⟩ := j
    obtain ⟨rfl, same⟩ := alike
    simp only [slBtOnEvent, Output.effects, deeds_append]
    cases role with
    | server =>
      obtain ⟨state, done⟩ := handleBleEventServer_deeds db g msg same
      obtain ⟨state', done'⟩ := keypadServerStateMachine_deeds
        ((handleBleEventServer db msg).run env' g).state msg
      simp only [handleBleEvent, stateMachine, state, done]
      exact ⟨state', congrArg _ done'⟩
    | client =>
      obtain ⟨state, done⟩ := handleBleEventClient_deeds db g msg same
      obtain ⟨state', done'⟩ := discoveryStateMachine_deeds
        ((handleBleEventClient db msg).run env' g).state msg same
      simp only [handleBleEvent, stateMachine, state, done]
      exact ⟨state', congrArg _ done'⟩
  exact ⟨fun g i j alike => (step g i j alike).2, fun g i j alike => (step g i j alike).1⟩

theorem shown_effectsOf (db : GattDb) (role : Role) (inputs : List Input) :
    (firmware db role).shown (fun output => deeds output.effects) .reset inputs =
      deeds (effectsOf (run db role inputs)) := by
  rw [Machine.shown, effectsOf, deeds, List.filterMap_flatMap]
  rfl

-- A stack that rejects whatever is not decisive.
def refusing : Env := { obliging fun _ => true with
  status c := if isDecisive c then statusOk else 1 }

theorem refusing_sameButAdvice : SameButAdvice (obliging fun _ => true) refusing where
  identityAddress := rfl
  identityAddressType := rfl
  advertisingSet := rfl
  connection := rfl
  pinHigh := rfl
  status c decisive := by simp [obliging, refusing, decisive]

end BleRemote.System
