import BleRemote.Client.GattLink

/-! The one slot for GATT commands that discovery, the toggle on a signal and the read
on a value share without a guard. -/

set_option autoImplicit false
namespace BleRemote.Client

open Reactive Stack Device

/-- Each request of an event is issued on an open connection with none outstanding. -/
def Disciplined (past : List Handled) (t : Handled) : Prop :=
  Always (fun earlier _ => (((gattLink past).deliver t.msg).accept earlier).Idle)
    (gattRequests t.output)

instance (past : List Handled) (t : Handled) : Decidable (Disciplined past t) :=
  inferInstanceAs (Decidable (Always _ _))

/-- The slot is free when a signal or a key value arrives; a completion with which
discovery goes on was the last one outstanding. -/
def SlotFree (past : List Handled) (t : Handled) : Prop :=
  let link := (gattLink past).deliver t.msg
  match t.msg with
  | .systemExternalSignal _ => link.Idle
  | .gattCharacteristicValue event => KeyValue t.before.bleData event → link.Idle
  | .gattProcedureCompleted _ _ =>
    nextRequests t.before.bleData t.before.discoveryState ≠ [] → link.outstanding = []
  | _ => True

variable (db : GattDb)

theorem nextRequests_at_most_one (ble : BleData) (s : ClientState) :
    nextRequests ble s = [] ∨ s ≠ .stateOpen ∧ ∃ c, nextRequests ble s = [c] := by
  cases s <;> simp [nextRequests]

variable {db} in
/-- One event keeps the discipline exactly when it finds the slot as its handling needs it. -/
theorem disciplined_step {past : List Handled} {g : Globals} {i : Input}
    (active : g.discoveryState ≠ .stateOpen → (gattLink past).connection ≠ none) :
    Disciplined past (handled db .client g i) ↔ SlotFree past (handled db .client g i) := by
  unfold Disciplined SlotFree
  rw [handled_output, step_gattRequests]
  generalize gattLink past = link at *
  rcases i with ⟨env, msg⟩
  cases msg
  case systemExternalSignal extsignals =>
    simp only [Env.issued_cons, Env.issued_nil, always_singleton, GattLink.accept_nil]
    rfl
  case gattCharacteristicValue event =>
    by_cases key : KeyValue g.bleData event
    · simp [key, always_singleton]
    · simp [key, always_nil]
  case gattProcedureCompleted connection result =>
    -- a discovery that goes on has its connection, and may still lack the slot
    simp only [requests, handled_before, handled_msg]
    rcases nextRequests_at_most_one g.bleData g.discoveryState with none | ⟨waiting, c, one⟩
    · simp [none, always_nil]
    · have opened : link.connection ≠ none := active waiting
      simp [one, always_singleton, GattLink.Idle, GattLink.deliver, GattLink.complete, opened]
  case connectionOpened connection =>
    by_cases idle : g.discoveryState = .stateOpen
    · simp [requests, idle, always_singleton, GattLink.Idle, GattLink.deliver]
    · simp [requests, idle, always_nil]
  all_goals simp [requests, always_nil]

/-- A run keeps to one command at a time exactly when every event finds the slot as its
handling needs it. -/
theorem disciplined_iff (inputs : List Input) :
    Always Disciplined (run db .client inputs) ↔ Always SlotFree (run db .client inputs) := by
  apply run_always_iff
  intro first i _
  apply disciplined_step
  have active := connectionOpen_run db first
  rwa [connectionOpen_follows (step_connectionOpen db), ← gattLink_connection,
    Option.isSome_iff_ne_none] at active

def signalDuringDiscovery : List Input :=
  obligingInputs [.systemBoot, .connectionOpened 1, .systemExternalSignal evtButtonOddPressed]

theorem signal_takes_slot : ∃ past t,
    run exampleDb .client signalDuringDiscovery = past ++ [t] ∧
      (gattLink past).outstanding = [firstRequest 1] ∧
      gattRequests t.output =
        [(.gattSetCharacteristicNotification 1 0 gattNotification, statusOk)] ∧
      ¬ Disciplined past t := by
  refine ⟨_, _, run_concat _ (signalDuringDiscovery.take 2), ?_⟩
  decide +kernel

end BleRemote.Client
