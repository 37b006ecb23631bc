import BleRemote.Server.Isolation
import BleRemote.System.PasskeyShown

/-! The key row of the display against the attribute that holds the key state: the button on the
server, the LED on the client. -/

set_option autoImplicit false
namespace BleRemote.System

open Reactive Stack Device

/-- The attribute of its own that a device keeps the key state in. -/
def keyAttribute (db : GattDb) : Role → UInt16
  | .server => db.buttonInput
  | .client => db.ledOutput

/-- The text that goes with a value of the attribute. -/
def valueText (value : List UInt8) : String :=
  if value = [1] then "Button ODD" else if value = [2] then "Button EVEN" else "No Button"

/-- The value that a command writes to an attribute, if it does. -/
@[simp] def valueFor (attributeHandle : UInt16) : Call → Option (List UInt8)
  | .gattServerWriteAttributeValue handle _ value =>
    if handle = attributeHandle then some value else none
  | _ => none

/-- The values that were to be written to an attribute, oldest first. -/
def attempted (attributeHandle : UInt16) (commands : List (Call × Status)) : List (List UInt8) :=
  commands.filterMap fun c => valueFor attributeHandle c.1

/-- The events that clear the row. -/
def clearsKeyRow (t : Handled) : Bool :=
  match t.msg with
  | .systemBoot | .connectionClosed _ => true
  | _ => false

/-- The values since the row was cleared. -/
def attemptedSince (db : GattDb) (role : Role) (h : List Handled) : List (List UInt8) :=
  (sinceLast clearsKeyRow h).flatMap fun t => attempted (keyAttribute db role) t.output.calls

/-! ## One step -/

section
variable (db : GattDb) (shown : String) (g : Globals) (i : Input)

@[simp] theorem attempted_nil (handle : UInt16) : attempted handle [] = [] := rfl

@[simp] theorem attempted_ite (handle : UInt16) (c : Prop) [Decidable c] (x y : List (Call × Status)) :
    attempted handle (if c then x else y) = if c then attempted handle x else attempted handle y := by
  split <;> rfl

@[simp] theorem attempted_append (handle : UInt16) (first rest : List (Call × Status)) :
    attempted handle (first ++ rest) = attempted handle first ++ attempted handle rest :=
  List.filterMap_append

theorem server_attempted : attempted db.buttonInput (slBtOnEvent db .server g i).2.calls =
    if Server.KeySignal g.bleData i.msg then [[Server.keyCode i.env.pinHigh]] else [] := by
  by_cases key : Server.KeySignal g.bleData i.msg
  · rw [Server.step_calls_of_key db g i key, Server.buttonStateToGatt_calls, if_pos key]
    cases g.bleData.notifInFlight <;> simp [attempted, Server.writeButton, Server.notifyButton]
  · rw [if_neg key, Server.step_calls]
    rcases i with ⟨env, msg⟩
    cases msg
    case systemExternalSignal extsignals =>
      simp only [handleBleEventServer, Server.serverSystemExternalSignal_calls]
      rw [if_neg key, List.append_nil, attempted_ite]
      simp [attempted]
    all_goals simp [handleBleEventServer, attempted]

theorem server_keyRow : rowAfter .row9 shown (slBtOnEvent db .server g i).2.effects =
    match i.msg with
    | .systemBoot => ""
    | .connectionClosed _ => " "
    | msg => if Server.KeySignal g.bleData msg then valueText [Server.keyCode i.env.pinHigh] else shown := by
  rcases i with ⟨env, msg⟩
  have drawn : drawnText "Button ODD" = "Button ODD" ∧ drawnText "Button EVEN" = "Button EVEN" ∧
      drawnText "No Button" = "No Button" ∧ drawnText " " = " " := by decide
  simp only [slBtOnEvent, Output.effects, rowAfter_append]
  rw [stateMachine, keypadServerStateMachine_rowAfter _ _ _ _ _ (by decide)]
  cases msg
  case systemExternalSignal extsignals =>
    by_cases key : Server.KeySignal g.bleData (.systemExternalSignal extsignals)
    · simp only [Server.KeySignal] at key
      simp [handleBleEvent, handleBleEventServer, serverSystemExternalSignal, Server.KeySignal, key,
        Server.keyCode, valueText]
      split_ifs <;> simp_all
    · simp only [Server.KeySignal] at key
      simp [handleBleEvent, handleBleEventServer, serverSystemExternalSignal, Server.KeySignal, key]
  all_goals
    simp [handleBleEvent, handleBleEventServer, Server.KeySignal, serverSystemBoot, displayInit,
      serverConnectionOpened, serverConnectionClosed, serverCharacteristicStatus, smConfirmBonding,
      serverSmBonded, serverSmConfirmPasskey, serverSmBondingFailed, drawn]

@[simp] theorem attempted_issued (handle : UInt16) (env : Env) (requests : List Call) :
    attempted handle (env.issued requests) = requests.filterMap (valueFor handle) := by
  rw [attempted, Env.issued, List.filterMap_map]
  rfl

theorem valueFor_gatt (handle : UInt16) {requests : List Call}
    (gatt : ∀ c ∈ requests, c.isGattRequest = true) : requests.filterMap (valueFor handle) = [] := by
  rw [List.filterMap_eq_nil_iff]
  intro c member
  have request := gatt c member
  cases c <;> first | rfl | cases request

theorem valueFor_leds (codes : List UInt8) :
    (codes.map (Client.writeLed db)).filterMap (valueFor db.ledOutput) = codes.map fun code => [code] := by
  rw [List.filterMap_map]
  simp [Function.comp_def, Client.writeLed, valueFor]

theorem client_attempted : attempted db.ledOutput (slBtOnEvent db .client g i).2.calls =
    match i.msg with
    | .gattCharacteristicValue event =>
      if Client.KeyValue g.bleData event then (Client.ledCodes event.value).map fun code => [code] else []
    | _ => [] := by
  rw [Client.step_calls, attempted_issued, List.filterMap_append]
  rcases i with ⟨env, msg⟩
  have control : (Client.controlCalls g env.pinHigh msg).filterMap (valueFor db.ledOutput) = [] := by
    cases msg <;> simp only [Client.controlCalls] <;> first | rfl | (split_ifs <;> rfl)
  rw [control, List.nil_append]
  cases msg
  case gattCharacteristicValue event =>
    simp only [Client.attributeCalls]
    split_ifs
    · rw [List.filterMap_cons_none rfl, valueFor_leds]
    · rfl
  case systemExternalSignal extsignals => rfl
  all_goals
    simp only [Client.attributeCalls]
    exact valueFor_gatt db.ledOutput (Client.requests_gatt g _)

theorem client_keyRow : rowAfter .row9 shown (slBtOnEvent db .client g i).2.effects =
    match i.msg with
    | .systemBoot => ""
    | .connectionClosed _ => " "
    | .gattCharacteristicValue event =>
      if Client.KeyValue g.bleData event then
        ((Client.ledCodes event.value).getLast?.map fun code => valueText [code]).getD shown
      else shown
    | _ => shown := by
  rcases i with ⟨env, msg⟩
  have drawn : drawnText "Button ODD" = "Button ODD" ∧ drawnText "Button EVEN" = "Button EVEN" ∧
      drawnText "No Button" = "No Button" ∧ drawnText " " = " " := by decide
  simp only [slBtOnEvent, Output.effects, rowAfter_append]
  rw [stateMachine, discoveryStateMachine_rowAfter _ _ _ _ _ (by decide)]
  cases msg
  case gattCharacteristicValue event =>
    by_cases key : Client.KeyValue g.bleData event
    · have key' := key
      unfold Client.KeyValue at key'
      simp only [key, if_true, Client.ledCodes]
      simp [handleBleEvent, handleBleEventClient, clientGattCharacteristicValue, key', drawn]
      split_ifs <;> simp [valueText]
    · have key' := key
      unfold Client.KeyValue at key'
      simp [handleBleEvent, handleBleEventClient, clientGattCharacteristicValue, key, key']
  all_goals
    simp [handleBleEvent, handleBleEventClient, clientSystemBoot, displayInit, clientConnectionOpened,
      clientConnectionClosed, clientScannerScanReport, clientGattProcedureCompleted, clientGattService,
      clientGattCharacteristic, smConfirmBonding, clientSmConfirmPasskey, clientSmBonded,
      clientSmBondingFailed, clientSystemExternalSignal, drawn]

/-- In both roles the row goes with the writes of a step, and is cleared by the same events. -/
theorem step_keyRow (role : Role) :
    (clearsKeyRow (handled db role g i) = true →
      rowAfter .row9 shown (slBtOnEvent db role g i).2.effects ∈ ["", " "]) ∧
    (clearsKeyRow (handled db role g i) = false →
      rowAfter .row9 shown (slBtOnEvent db role g i).2.effects =
        ((attempted (keyAttribute db role) (slBtOnEvent db role g i).2.calls).getLast?.map
          valueText).getD shown) := by
  unfold clearsKeyRow
  rw [handled_msg]
  cases role with
  | server =>
    rw [server_keyRow, keyAttribute, server_attempted]
    cases i.msg <;> simp
    case systemExternalSignal => split_ifs <;> rfl
    all_goals simp [Server.KeySignal]
  | client =>
    rw [client_keyRow, keyAttribute, client_attempted]
    cases i.msg <;> simp
    case gattCharacteristicValue event =>
      split_ifs
      · rw [List.getLast?_map, Option.map_map]
        rfl
      · rfl

end

/-! ## Whole runs -/

variable (db : GattDb) (role : Role)

theorem attemptedSince_concat (h : List Handled) (t : Handled) : attemptedSince db role (h ++ [t]) =
    if clearsKeyRow t then [] else
      attemptedSince db role h ++ attempted (keyAttribute db role) t.output.calls := by
  unfold attemptedSince
  rw [sinceLast_concat]
  split
  · rfl
  · rw [List.flatMap_append, List.flatMap_singleton]

/-- What the row tells, from the values since it was cleared. -/
def KeyRowTells (row : String) (values : List (List UInt8)) : Prop :=
  match values.getLast? with
  | none => row ∈ ["", " "]
  | some value => row = valueText value

theorem keyRow_run (inputs : List Input) :
    KeyRowTells (rowShown .row9 (run db role inputs)) (attemptedSince db role (run db role inputs)) := by
  refine run_invariant (P := fun past _ => KeyRowTells (rowShown .row9 past) (attemptedSince db role past))
    List.mem_cons_self ?_ inputs
  intro past g i tells
  obtain ⟨cleared, drawn⟩ := step_keyRow db (rowShown .row9 past) g i role
  rw [rowShown_concat, attemptedSince_concat, handled_output]
  cases clears : clearsKeyRow (handled db role g i) with
  | true => exact cleared clears
  | false =>
    rw [drawn clears, if_neg Bool.false_ne_true]
    generalize attempted (keyAttribute db role) (slBtOnEvent db role g i).2.calls = values
    rcases List.eq_nil_or_concat values with rfl | ⟨front, value, rfl⟩
    · rw [List.append_nil]
      exact tells
    · rw [List.concat_eq_append, ← List.append_assoc]
      simp [KeyRowTells]

theorem written_attempted {handle : UInt16} {commands : List (Call × Status)}
    (accepted : ∀ c ∈ commands, c.2 = statusOk) : written handle commands = attempted handle commands := by
  apply List.filterMap_congr
  rintro ⟨c, status⟩ member
  obtain rfl : status = statusOk := accepted _ member
  cases c <;> simp

/-- In both roles, after every event: the key row is blank if nothing was written to the device's
key attribute since it booted or lost its connection, and else it names the value written last;
with every write accepted that is the value of the attribute. -/
theorem keyRow_truthful (inputs : List Input) :
    match (attemptedSince db role (run db role inputs)).getLast? with
    | none => rowShown .row9 (run db role inputs) ∈ ["", " "]
    | some value => rowShown .row9 (run db role inputs) = valueText value ∧
      ((∀ c ∈ commands (run db role inputs), c.2 = statusOk) →
        (written (keyAttribute db role) (commands (run db role inputs))).getLast? = some value) := by
  have tells := keyRow_run db role inputs
  unfold KeyRowTells at tells
  split
  · next none => rwa [none] at tells
  · next value last =>
    rw [last] at tells
    refine ⟨tells, fun accepted => ?_⟩
    obtain ⟨earlier, split⟩ := sinceLast_suffix clearsKeyRow (run db role inputs)
    rw [written_attempted accepted, ← split, commands_append, attempted_append]
    have since : attempted (keyAttribute db role) (commands (sinceLast clearsKeyRow (run db role inputs))) =
        attemptedSince db role (run db role inputs) := by
      rw [attemptedSince, attempted, commands, List.filterMap_flatMap]
      rfl
    rw [since, List.getLast?_append, last]
    rfl

end BleRemote.System
