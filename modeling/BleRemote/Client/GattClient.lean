import BleRemote.Client.Discovery
import BleRemote.Reactive.Refinement

/-! The client as its peer's GATT server sees it: the requests it sends, and no
more state than they depend on. The firmware refines this machine. -/

set_option autoImplicit false
namespace BleRemote.Client

open Reactive Stack Device

structure GattClient where
  discovery : ClientState
  connection : UInt8
  keypadService : UInt32
  ledService : UInt32
  keypadCharacteristic : UInt16
  /-- The client takes notifications of the keypad to be on. -/
  notifying : Bool
  /-- The scanner may open a connection when this count is complete. -/
  addressCheck : Int32

namespace GattClient

def answer (v : GattClient) : List Call :=
  match v.discovery with
  | .stateDiscoverKeypadServices =>
    [.gattDiscoverPrimaryServicesByUuid v.connection ledServiceUuid]
  | .stateDiscoverLedServices =>
    [.gattDiscoverCharacteristicsByUuid v.connection v.keypadService keypadCharacUuid]
  | .stateDiscoverKeypadCharacteristics =>
    [.gattDiscoverCharacteristicsByUuid v.connection v.ledService ledCharacUuid]
  | .stateDiscoverLedCharacteristics =>
    [.gattSetCharacteristicNotification v.connection v.keypadCharacteristic gattNotification]
  | .stateOpen | .stateKeypadNotif | .stateWait => []

def step (v : GattClient) (i : Input) : GattClient × List (Call × Status) :=
  match i.msg with
  | .systemBoot => ({ v with notifying := false }, [])
  | .scannerScanReport address =>
    if addressCheckLoop address v.addressCheck = 6 then
      ({ v with connection := i.env.connection, addressCheck := 0 }, [])
    else ({ v with addressCheck := addressCheckLoop address v.addressCheck }, [])
  | .connectionOpened connection =>
    if v.discovery = .stateOpen then
      ({ v with
          connection := connection
          discovery := if i.env.status (firstRequest connection) = statusOk then
            .stateDiscoverKeypadServices else .stateOpen },
        i.env.issued [firstRequest connection])
    else (v, [])
  | .connectionClosed _ => ({ v with discovery := .stateOpen }, [])
  | .gattService event =>
    ({ v with
        keypadService := if uuidAgrees event.uuid keypadServiceUuid = true then event.service
          else v.keypadService
        ledService := if uuidAgrees event.uuid ledServiceUuid = true then event.service
          else v.ledService }, [])
  | .gattCharacteristic event =>
    ({ v with
        keypadCharacteristic := if uuidAgrees event.uuid keypadCharacUuid = true then
          event.characteristic else v.keypadCharacteristic }, [])
  | .gattProcedureCompleted _ _ =>
    ({ v with
        discovery := advance v.discovery
        notifying := v.notifying || decide (v.discovery = .stateKeypadNotif) },
      i.env.issued v.answer)
  | .gattCharacteristicValue event =>
    (v, if event.characteristic = v.keypadCharacteristic ∧
        (event.attOpcode = gattHandleValueNotification ∨ event.attOpcode = gattReadResponse) then
      i.env.issued [.gattReadCharacteristicValue v.connection v.keypadCharacteristic] else [])
  | .systemExternalSignal _ =>
    ({ v with notifying := !v.notifying },
      i.env.issued [.gattSetCharacteristicNotification v.connection v.keypadCharacteristic
        (if v.notifying = false then gattNotification else gattDisable)])
  | _ => (v, [])

def ofGlobals (g : Globals) : GattClient where
  discovery := g.discoveryState
  connection := g.bleData.connectionHandle
  keypadService := g.bleData.keypadServiceHandle
  ledService := g.bleData.ledServiceHandle
  keypadCharacteristic := g.bleData.keypadCharacteristicsHandle
  notifying := g.bleData.buttonNotificationFlag
  addressCheck := g.addressCheck

def machine : Machine GattClient Input (List (Call × Status)) := ⟨ofGlobals .reset, step⟩

theorem answer_ofGlobals (g : Globals) :
    (ofGlobals g).answer = nextRequests g.bleData g.discoveryState := by
  unfold answer ofGlobals
  cases g.discoveryState <;> rfl

end GattClient

def gattRequests (o : Output) : List (Call × Status) := o.calls.filter fun c => c.1.isGattRequest

variable (db : GattDb)

theorem gattClient_state (g : Globals) (i : Input) :
    ((GattClient.ofGlobals g).step i).1 = GattClient.ofGlobals (slBtOnEvent db .client g i).1 := by
  unfold GattClient.ofGlobals
  rw [step_discoveryState, step_bleData, step_addressCheck]
  rcases i with ⟨env, msg⟩
  cases msg
  case connectionOpened connection =>
    by_cases idle : g.discoveryState = .stateOpen <;>
      simp [GattClient.step, handledState, handleBleEventClient, discoveryBleData, nextState, idle]
  case scannerScanReport address =>
    by_cases full : addressCheckLoop address g.addressCheck = 6 <;>
      simp [GattClient.step, handledState, handleBleEventClient, discoveryBleData, nextState, full]
  case gattProcedureCompleted connection result =>
    by_cases last : g.discoveryState = .stateKeypadNotif <;>
      simp [GattClient.step, handledState, handleBleEventClient, discoveryBleData, nextState, last]
  all_goals
    simp [GattClient.step, handledState, handleBleEventClient, discoveryBleData, nextState]

theorem controlCalls_gatt (g : Globals) (pinHigh : GpioPin → Bool) (msg : Msg) :
    (controlCalls g pinHigh msg).filter Call.isGattRequest = [] := by
  cases msg <;> simp only [controlCalls] <;> first | rfl | (split_ifs <;> rfl)

/-- The GATT requests among the attribute calls: all of them but the writes of the LED. -/
theorem attributeCalls_gatt (g : Globals) (msg : Msg) :
    (attributeCalls db g msg).filter Call.isGattRequest =
      match msg with
      | .systemExternalSignal _ => [toggleRequest g.bleData]
      | .gattCharacteristicValue event =>
        if KeyValue g.bleData event then
          [.gattReadCharacteristicValue g.bleData.connectionHandle
            g.bleData.keypadCharacteristicsHandle]
        else []
      | msg => requests g msg := by
  cases msg
  case systemExternalSignal => rfl
  case gattCharacteristicValue event =>
    by_cases key : KeyValue g.bleData event
    · have led : ((ledCodes event.value).map (writeLed db)).filter Call.isGattRequest = [] := by
        simp [writeLed, Call.isGattRequest]
      simp only [attributeCalls, if_pos key]
      rw [List.filter_cons_of_pos rfl, led]
    · simp only [attributeCalls, if_neg key, List.filter_nil]
  all_goals
    simp only [attributeCalls]
    exact List.filter_eq_self.mpr (requests_gatt g _)

theorem step_gattRequests (g : Globals) (i : Input) :
    gattRequests (slBtOnEvent db .client g i).2 = i.env.issued
      (match i.msg with
        | .systemExternalSignal _ => [toggleRequest g.bleData]
        | .gattCharacteristicValue event =>
          if KeyValue g.bleData event then
            [.gattReadCharacteristicValue g.bleData.connectionHandle
              g.bleData.keypadCharacteristicsHandle]
          else []
        | msg => requests g msg) := by
  rw [gattRequests, step_calls, Env.issued_filter, List.filter_append, controlCalls_gatt,
    attributeCalls_gatt, List.nil_append]

theorem gattClient_requests (g : Globals) (i : Input) :
    ((GattClient.ofGlobals g).step i).2 = gattRequests (slBtOnEvent db .client g i).2 := by
  rw [step_gattRequests]
  rcases i with ⟨env, msg⟩
  cases msg
  case connectionOpened connection =>
    by_cases idle : g.discoveryState = .stateOpen <;>
      simp [GattClient.step, GattClient.ofGlobals, requests, idle]
  case scannerScanReport address =>
    by_cases full : addressCheckLoop address g.addressCheck = 6 <;>
      simp [GattClient.step, GattClient.ofGlobals, requests, full]
  case gattCharacteristicValue event =>
    by_cases key : KeyValue g.bleData event
    · simp only [if_pos key]
      exact if_pos key
    · simp only [if_neg key]
      exact if_neg key
  case gattProcedureCompleted =>
    simp only [GattClient.step, GattClient.answer_ofGlobals, requests]
  all_goals rfl

def gattClient : Refines (firmware db .client) GattClient.machine where
  view := .ofGlobals
  emitted := gattRequests
  step g i := Prod.ext (gattClient_state db g i) (gattClient_requests db g i)

theorem gattClient_after (past rest : List Input) :
    GattClient.ofGlobals (globals db .client (past ++ rest)) =
      GattClient.machine.after (.ofGlobals (globals db .client past)) rest := by
  rw [globals, (firmware db .client).after_append]
  exact (gattClient db).after _ rest

theorem gattClient_trace (g : Globals) (rest : List Input) :
    ((firmware db .client).history g rest).flatMap (fun t => gattRequests t.output) =
      GattClient.machine.trace (.ofGlobals g) rest :=
  (gattClient db).trace g rest

end BleRemote.Client
