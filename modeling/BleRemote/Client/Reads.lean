import BleRemote.Client.GattClient

/-! The reads that the client sends on a value of the keypad. The value that answers a
read comes back through the same case of the handler, with an opcode of its own. -/

set_option autoImplicit false
namespace BleRemote.Client

open Reactive Stack Device

def isRead : Call → Bool
  | .gattReadCharacteristicValue .. => true
  | _ => false

/-- A value with this opcode, of the characteristic with this handle. -/
def CarriesValue (handle : UInt16) (attOpcode : UInt8) : Msg → Prop
  | .gattCharacteristicValue event => event.characteristic = handle ∧ event.attOpcode = attOpcode
  | _ => False

instance (handle : UInt16) (attOpcode : UInt8) (msg : Msg) :
    Decidable (CarriesValue handle attOpcode msg) := by
  apply Msg.casesOn (motive := fun msg => Decidable (CarriesValue handle attOpcode msg)) msg <;> intros <;>
    unfold CarriesValue <;> infer_instance

/-- A value with this opcode, of the characteristic whose handle is stored. -/
def ValueOf (attOpcode : UInt8) (t : Handled) : Prop :=
  CarriesValue t.before.bleData.keypadCharacteristicsHandle attOpcode t.msg

instance (attOpcode : UInt8) (t : Handled) : Decidable (ValueOf attOpcode t) :=
  inferInstanceAs (Decidable (CarriesValue _ _ _))

def reads (h : List Handled) : Nat := (commands h).countP fun c => isRead c.1

def values (attOpcode : UInt8) (h : List Handled) : Nat := h.countP fun t => ValueOf attOpcode t

/-- There are no more reads than notifications of the keypad so far. -/
def ReadsBounded (past : List Handled) (t : Handled) : Prop :=
  reads (past ++ [t]) ≤ values gattHandleValueNotification (past ++ [t])

instance (past : List Handled) (t : Handled) : Decidable (ReadsBounded past t) :=
  inferInstanceAs (Decidable (_ ≤ _))

/-! ## Counting -/

theorem reads_append (first rest : List Handled) : reads (first ++ rest) = reads first + reads rest := by
  rw [reads, commands_append, List.countP_append]
  rfl

theorem values_append (attOpcode : UInt8) (first rest : List Handled) :
    values attOpcode (first ++ rest) = values attOpcode first + values attOpcode rest :=
  List.countP_append

theorem values_singleton (attOpcode : UInt8) (t : Handled) :
    values attOpcode [t] = if ValueOf attOpcode t then 1 else 0 := by
  simp [values, List.countP_singleton]

section
variable (db : GattDb) (g : Globals) (i : Input)

theorem requests_reads (msg : Msg) : (requests g msg).countP isRead = 0 := by
  cases msg <;> simp only [requests]
  case connectionOpened => split_ifs <;> rfl
  case gattProcedureCompleted => cases g.discoveryState <;> rfl
  all_goals rfl

theorem reads_gattRequests : reads [handled db .client g i] =
    ((gattRequests (slBtOnEvent db .client g i).2).map Prod.fst).countP isRead := by
  rw [gattRequests, List.countP_map, List.countP_filter, reads]
  simp only [commands, List.flatMap_cons, List.flatMap_nil, List.append_nil, handled_output]
  apply List.countP_congr
  rintro ⟨c, status⟩ _
  cases c <;> simp [isRead, Call.isGattRequest]

/-- A step reads once on a value of the keypad, whether it was notified or read. -/
theorem reads_handled : reads [handled db .client g i] =
    values gattHandleValueNotification [handled db .client g i] +
      values gattReadResponse [handled db .client g i] := by
  rw [reads_gattRequests, step_gattRequests, Env.issued_fst, values_singleton, values_singleton]
  rcases i with ⟨env, msg⟩
  cases msg
  case gattCharacteristicValue event =>
    have other : gattReadResponse ≠ gattHandleValueNotification := by decide
    by_cases stored : event.characteristic = g.bleData.keypadCharacteristicsHandle
    · by_cases notification : event.attOpcode = gattHandleValueNotification
      · simp [KeyValue, ValueOf, CarriesValue, Handled.msg, stored, notification, other.symm, isRead]
      · by_cases response : event.attOpcode = gattReadResponse <;>
          simp [KeyValue, ValueOf, CarriesValue, Handled.msg, stored, notification, response, other, isRead]
    · simp [KeyValue, ValueOf, CarriesValue, Handled.msg, stored]
  case systemExternalSignal => rfl
  all_goals exact requests_reads g _

end

theorem reads_run (db : GattDb) (inputs : List Input) : reads (run db .client inputs) =
    values gattHandleValueNotification (run db .client inputs) +
      values gattReadResponse (run db .client inputs) := by
  induction inputs using List.reverseRecOn with
  | nil => rfl
  | append_singleton inputs i ih =>
    rw [run_concat, reads_append, values_append, values_append, reads_handled, ih]
    omega

/-- A run of the client never reads more often than it was notified exactly when it is
given no answer to a read. -/
theorem reads_bounded_iff (db : GattDb) (inputs : List Input) :
    Always ReadsBounded (run db .client inputs) ↔
      Always (fun _ t => ¬ ValueOf gattReadResponse t) (run db .client inputs) := by
  refine run_always_iff_kept (R := fun past _ => reads past =
    values gattHandleValueNotification past ∧ values gattReadResponse past = 0) ⟨rfl, rfl⟩ ?_ inputs
  rintro past g i ⟨balance, unanswered⟩
  unfold ReadsBounded
  rw [reads_append, values_append, values_append, reads_handled, balance, unanswered, values_singleton,
    values_singleton]
  by_cases response : ValueOf gattReadResponse (handled db .client g i)
  · simp [response]
  · simp [response]

/-! ## The closed loop -/

/-- The stack accepts the reads, and an answer to a read comes only for a read that none
has answered. -/
def AnswersReads (past : List Handled) (t : Handled) : Prop :=
  (∀ c ∈ t.output.calls, isRead c.1 = true → c.2 = statusOk) ∧
    (ValueOf gattReadResponse t → values gattReadResponse past < reads past)

instance (past : List Handled) (t : Handled) : Decidable (AnswersReads past t) :=
  inferInstanceAs (Decidable (_ ∧ _))

def keypadValue (attOpcode : UInt8) : Input where
  env := obliging fun _ => true
  msg := .gattCharacteristicValue ⟨1, 21, attOpcode, 0, .exactly [0, 1, 0]⟩

def notifiedOnce : List Input :=
  obligingInputs [.systemBoot, .connectionOpened 1,
    .gattService ⟨1, 1, .exactly keypadServiceUuid⟩,
    .gattCharacteristic ⟨1, 21, 0, .exactly keypadCharacUuid⟩] ++
    [keypadValue gattHandleValueNotification]

/-- One notification and so many answers. -/
def readChain (n : Nat) : List Input := notifiedOnce ++ List.replicate n (keypadValue gattReadResponse)

theorem readChain_succ (n : Nat) :
    readChain (n + 1) = readChain n ++ [keypadValue gattReadResponse] := by
  rw [readChain, List.replicate_succ', ← List.append_assoc]
  rfl

section
variable {g : Globals}

theorem keypadValue_bleData (attOpcode : UInt8) :
    (slBtOnEvent exampleDb .client g (keypadValue attOpcode)).1.bleData = g.bleData := by
  rw [step_bleData]
  simp [handledState, handleBleEventClient, discoveryBleData, keypadValue]

theorem keypadValue_valueOf (stored : g.bleData.keypadCharacteristicsHandle = 21)
    (attOpcode other : UInt8) :
    ValueOf other (handled exampleDb .client g (keypadValue attOpcode)) ↔ attOpcode = other := by
  simp [ValueOf, CarriesValue, Handled.msg, keypadValue, stored]

theorem keypadValue_accepted (attOpcode : UInt8) (c : Call × Status)
    (issued : c ∈ (slBtOnEvent exampleDb .client g (keypadValue attOpcode)).2.calls) :
    c.2 = statusOk := by
  rw [step_calls, Env.mem_issued] at issued
  exact issued.2

end

/-- Every answer asks for the next read: one notification starts a chain without an end. -/
theorem reads_chain (n : Nat) :
    Always AnswersReads (run exampleDb .client (readChain n)) ∧
      values gattHandleValueNotification (run exampleDb .client (readChain n)) = 1 ∧
      reads (run exampleDb .client (readChain n)) = n + 1 := by
  suffices chain : Always AnswersReads (run exampleDb .client (readChain n)) ∧
      values gattHandleValueNotification (run exampleDb .client (readChain n)) = 1 ∧
      values gattReadResponse (run exampleDb .client (readChain n)) = n ∧
      (globals exampleDb .client (readChain n)).bleData.keypadCharacteristicsHandle = 21 by
    obtain ⟨answers, one, responses, -⟩ := chain
    refine ⟨answers, one, ?_⟩
    rw [reads_run, one, responses, Nat.add_comm]
  induction n with
  | zero => decide +kernel
  | succ n ih =>
    obtain ⟨answers, one, responses, stored⟩ := ih
    rw [readChain_succ, run_concat, globals_concat, always_concat, values_append, values_append,
      values_singleton, values_singleton, one, responses, keypadValue_bleData]
    simp only [keypadValue_valueOf stored]
    refine ⟨⟨answers, fun c issued _ => keypadValue_accepted _ c issued, fun _ => ?_⟩, rfl, rfl,
      stored⟩
    rw [reads_run, one, responses]
    omega

-- The notification and its first answer.
theorem answer_read_again :
    Always AnswersReads (run exampleDb .client (readChain 1)) ∧
      values gattHandleValueNotification (run exampleDb .client (readChain 1)) = 1 ∧
      reads (run exampleDb .client (readChain 1)) = 2 ∧
      ¬ Always ReadsBounded (run exampleDb .client (readChain 1)) := by
  decide +kernel

end BleRemote.Client
