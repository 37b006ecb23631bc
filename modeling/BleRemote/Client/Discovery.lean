import BleRemote.Client.Cases
import Mathlib.Data.List.Induction

/-! The discovery machine over whole runs: its state and its requests, read off the
events since the connection was last closed. -/

set_option autoImplicit false
namespace BleRemote.Client

open Reactive Stack Device

/-! ## Sessions -/

def isClosed (t : Handled) : Bool :=
  match t.msg with
  | .connectionClosed _ => true
  | _ => false

def isCompletion (t : Handled) : Bool :=
  match t.msg with
  | .gattProcedureCompleted .. => true
  | _ => false

/-- A connection opened, with its service discovery accepted by the stack. -/
def acceptedOpened (t : Handled) : Bool :=
  match t.msg with
  | .connectionOpened connection =>
    decide ((firstRequest connection, statusOk) ∈ calls t.output.stateMachine)
  | _ => false

/-- The events from the first accepted opening since the last close on. -/
def session (h : List Handled) : List Handled := fromFirst acceptedOpened (sinceLast isClosed h)

@[simp] theorem session_nil : session [] = [] := rfl

theorem session_concat (h : List Handled) (t : Handled) :
    session (h ++ [t]) =
      if isClosed t then []
      else if session h = [] then if acceptedOpened t then [t] else []
      else session h ++ [t] := by
  unfold session
  rw [sinceLast_concat]
  split_ifs with closed empty accepted
  · rfl
  · rw [fromFirst_concat, if_pos empty, if_pos accepted]
  · rw [fromFirst_concat, if_pos empty, if_neg accepted]
  · rw [fromFirst_concat, if_neg empty]

theorem session_suffix (h : List Handled) : session h <:+ h :=
  (fromFirst_suffix _ _).trans (sinceLast_suffix _ _)

theorem isClosed_of_isCompletion {t : Handled} (completion : isCompletion t = true) :
    isClosed t = false := by
  unfold isCompletion at completion
  unfold isClosed
  cases msg : t.msg <;> simp only [msg] at completion ⊢
  cases completion

theorem isCompletion_of_acceptedOpened {t : Handled} (opened : acceptedOpened t = true) :
    isCompletion t = false := by
  unfold acceptedOpened at opened
  unfold isCompletion
  cases msg : t.msg <;> simp only [msg] at opened ⊢
  cases opened

theorem session_completions {h rest : List Handled} {opened : Handled}
    (same : session h = opened :: rest) :
    (session h).filter isCompletion = rest.filter isCompletion := by
  rw [same, List.filter_cons_of_neg]
  simp [isCompletion_of_acceptedOpened (fromFirst_head same)]

def machineCalls (h : List Handled) : List (Call × Status) :=
  h.flatMap fun t => calls t.output.stateMachine

theorem machineCalls_concat (h : List Handled) (t : Handled) :
    machineCalls (h ++ [t]) = machineCalls h ++ calls t.output.stateMachine := by
  simp [machineCalls]

/-! ## The sequence of requests -/

def number : ClientState → Nat
  | .stateOpen => 0
  | .stateDiscoverKeypadServices => 1
  | .stateDiscoverLedServices => 2
  | .stateDiscoverKeypadCharacteristics => 3
  | .stateDiscoverLedCharacteristics => 4
  | .stateKeypadNotif => 5
  | .stateWait => 6

theorem number_eq_zero (s : ClientState) : number s = 0 ↔ s = .stateOpen := by
  cases s <;> simp [number]

theorem number_advance {s : ClientState} (active : s ≠ .stateOpen) :
    number (advance s) = min (number s + 1) 6 := by
  cases s <;> simp_all [number, advance]

/-- The five requests of a discovery, each with the handles stored when it is issued. -/
def discoverySequence : List (BleData → Call) :=
  [fun ble => .gattDiscoverPrimaryServicesByUuid ble.connectionHandle keypadServiceUuid,
    fun ble => .gattDiscoverPrimaryServicesByUuid ble.connectionHandle ledServiceUuid,
    fun ble => .gattDiscoverCharacteristicsByUuid ble.connectionHandle ble.keypadServiceHandle
      keypadCharacUuid,
    fun ble => .gattDiscoverCharacteristicsByUuid ble.connectionHandle ble.ledServiceHandle
      ledCharacUuid,
    fun ble => .gattSetCharacteristicNotification ble.connectionHandle
      ble.keypadCharacteristicsHandle gattNotification]

theorem nextRequests_eq {s : ClientState} (active : s ≠ .stateOpen) (ble : BleData) :
    nextRequests ble s = (discoverySequence[number s]?.map fun request => request ble).toList := by
  cases s <;> first | contradiction | rfl

theorem discoverySequence_past (n : Nat) : discoverySequence[min n 6]? = discoverySequence[n]? := by
  rcases Nat.le_total n 6 with within | past
  · rw [Nat.min_eq_left within]
  · rw [Nat.min_eq_right past, List.getElem?_eq_none (Nat.le_trans (by decide) past)]
    rfl

-- The sequence issued at these events, one request for each while it lasts.
def issuedAt (events : List Handled) : List Call :=
  List.zipWith (fun request t => request t.after.bleData) discoverySequence events

theorem zipWith_concat {A B C : Type} (f : A → B → C) (l : List A) (r : List B) (b : B) :
    List.zipWith f l (r ++ [b]) =
      List.zipWith f l r ++ (l[r.length]?.map fun a => f a b).toList := by
  induction l generalizing r with
  | nil => simp
  | cons a l ih =>
    cases r with
    | nil => simp
    | cons c r => simpa using ih r

theorem issuedAt_concat (events : List Handled) (t : Handled) :
    issuedAt (events ++ [t]) = issuedAt events ++
      (discoverySequence[events.length]?.map fun request => request t.after.bleData).toList :=
  zipWith_concat _ _ _ _

/-! ## One step of a session -/

variable (db : GattDb) (g : Globals) (i : Input)

theorem step_of_closed (closed : isClosed (handled db .client g i) = true) :
    (slBtOnEvent db .client g i).1.discoveryState = .stateOpen := by
  rw [step_discoveryState]
  rcases i with ⟨env, msg⟩
  cases msg
  case connectionClosed => rfl
  all_goals cases closed

theorem acceptedOpened_iff : acceptedOpened (handled db .client g i) = true ↔
    ∃ connection, i.msg = .connectionOpened connection ∧ g.discoveryState = .stateOpen ∧
      i.env.status (firstRequest connection) = statusOk := by
  unfold acceptedOpened
  rw [handled_msg, handled_output, step_requests]
  rcases i with ⟨env, msg⟩
  cases msg <;> simp [requests]
  split_ifs with idle <;> simp [idle, eq_comm]

theorem step_of_open (idle : g.discoveryState = .stateOpen)
    (closed : isClosed (handled db .client g i) = false) :
    if acceptedOpened (handled db .client g i) then
      (slBtOnEvent db .client g i).1.discoveryState = .stateDiscoverKeypadServices ∧
        (calls (slBtOnEvent db .client g i).2.stateMachine).map Prod.fst =
          issuedAt [handled db .client g i]
    else (slBtOnEvent db .client g i).1.discoveryState = .stateOpen := by
  rw [step_discoveryState]
  split_ifs with accepted
  · obtain ⟨connection, same, -, ok⟩ := (acceptedOpened_iff db g i).mp accepted
    rw [step_requests, same]
    refine ⟨by simp [nextState, idle, ok], ?_⟩
    simp [requests, idle, issuedAt, discoverySequence, firstRequest, step_bleData, same,
      discoveryBleData, handledState, handleBleEventClient_discoveryState]
  · rw [acceptedOpened_iff] at accepted
    rcases i with ⟨env, msg⟩
    cases msg
    case connectionOpened connection =>
      have refused : env.status (firstRequest connection) ≠ statusOk :=
        fun ok => accepted ⟨connection, rfl, idle, ok⟩
      simp [nextState, idle, refused]
    all_goals simp [nextState, idle, advance]

theorem step_of_completion (completion : isCompletion (handled db .client g i) = true) :
    (slBtOnEvent db .client g i).1.discoveryState = advance g.discoveryState ∧
      calls (slBtOnEvent db .client g i).2.stateMachine =
        i.env.issued (nextRequests g.bleData g.discoveryState) ∧
      nextRequests (slBtOnEvent db .client g i).1.bleData g.discoveryState =
        nextRequests g.bleData g.discoveryState := by
  rw [step_discoveryState, step_requests, step_bleData]
  rcases i with ⟨env, msg⟩
  cases msg
  case gattProcedureCompleted connection result =>
    refine ⟨rfl, rfl, ?_⟩
    simp only [discoveryBleData, handledState, handleBleEventClient,
      clientGattProcedureCompleted_state]
    cases g.discoveryState <;> rfl
  all_goals cases completion

theorem step_of_waiting (active : g.discoveryState ≠ .stateOpen)
    (closed : isClosed (handled db .client g i) = false)
    (silent : ¬ isCompletion (handled db .client g i) = true) :
    (slBtOnEvent db .client g i).1.discoveryState = g.discoveryState ∧
      calls (slBtOnEvent db .client g i).2.stateMachine = [] := by
  rw [step_discoveryState, step_requests]
  rcases i with ⟨env, msg⟩
  cases msg
  case gattProcedureCompleted => exact absurd rfl silent
  case connectionClosed => cases closed
  all_goals simp [nextState, requests, active]

/-! ## Whole runs -/

def SessionHolds (events : List Handled) (g : Globals) : Prop :=
  match events with
  | [] => g.discoveryState = .stateOpen
  | opened :: rest =>
    number g.discoveryState = min (1 + (rest.filter isCompletion).length) 6 ∧
      (machineCalls (opened :: rest)).map Prod.fst = issuedAt (opened :: rest.filter isCompletion)

theorem SessionHolds.active {opened : Handled} {rest : List Handled}
    (holds : SessionHolds (opened :: rest) g) : g.discoveryState ≠ .stateOpen := by
  rw [ne_eq, ← number_eq_zero, holds.1]
  omega

theorem sessionHolds_concat {events : List Handled} (some : events ≠ [])
    (holds : SessionHolds events g) (closed : isClosed (handled db .client g i) = false) :
    SessionHolds (events ++ [handled db .client g i]) (slBtOnEvent db .client g i).1 := by
  obtain ⟨opened, rest, rfl⟩ := List.exists_cons_of_ne_nil some
  have active := holds.active
  obtain ⟨place, issued⟩ := holds
  simp only [List.cons_append, SessionHolds]
  rw [List.filter_append, ← @List.cons_append _ opened rest, machineCalls_concat, List.map_append,
    issued]
  -- a completion appends one request to both sides, anything else to neither
  by_cases completion : isCompletion (handled db .client g i) = true
  · obtain ⟨advanced, requested, same⟩ := step_of_completion db g i completion
    rw [List.filter_cons_of_pos completion, List.filter_nil, ← List.cons_append, issuedAt_concat,
      handled_output, requested, Env.issued_fst, ← same, nextRequests_eq active, place,
      discoverySequence_past]
    refine ⟨?_, by rw [List.length_cons, Nat.add_comm]; rfl⟩
    rw [advanced, number_advance active, place, List.length_append, List.length_singleton]
    omega
  · obtain ⟨stays, silent⟩ := step_of_waiting db g i active closed completion
    rw [List.filter_cons_of_neg completion, List.filter_nil, List.append_nil, handled_output,
      stays, silent]
    exact ⟨place, List.append_nil _⟩

theorem session_run (inputs : List Input) :
    SessionHolds (session (run db .client inputs)) (globals db .client inputs) := by
  refine run_invariant (P := fun past g => SessionHolds (session past) g) rfl ?_ inputs
  intro past g i holds
  rw [session_concat]
  generalize session past = events at *
  split_ifs with closed empty accepted
  · exact step_of_closed db g i closed
  · rw [empty] at holds
    have moved := step_of_open db g i holds (by simpa using closed)
    rw [if_pos accepted] at moved
    refine ⟨by rw [moved.1]; rfl, ?_⟩
    simpa [machineCalls] using moved.2
  · rw [empty] at holds
    have moved := step_of_open db g i holds (by simpa using closed)
    rwa [if_neg accepted] at moved
  · exact sessionHolds_concat db g i empty holds (by simpa using closed)

theorem step_connectionOpen : (slBtOnEvent db .client g i).1.bleData.connectionOpen =
    match i.msg with
    | .connectionOpened _ => true
    | .connectionClosed _ => false
    | _ => g.bleData.connectionOpen := by
  rw [step_bleData, handledState]
  rcases i with ⟨env, msg⟩
  cases msg <;> simp [handleBleEventClient, discoveryBleData] <;> split <;> rfl

theorem connectionOpen_run (inputs : List Input) :
    (globals db .client inputs).discoveryState ≠ .stateOpen →
      (globals db .client inputs).bleData.connectionOpen = true := by
  refine run_invariant (P := fun _ g =>
    g.discoveryState ≠ .stateOpen → g.bleData.connectionOpen = true) (absurd rfl) ?_ inputs
  intro _ g i known
  rw [step_connectionOpen, step_discoveryState]
  rcases i with ⟨env, msg⟩
  cases msg
  case gattProcedureCompleted =>
    intro active
    apply known
    intro idle
    apply active
    simp [nextState, idle, advance]
  case connectionOpened => exact fun _ => rfl
  case connectionClosed => exact fun active => absurd rfl active
  all_goals exact known

/-- The closed form of discovery. Since the last close, the machine has not moved
until an opening was accepted; from then on the completions number its state, and
its requests are the sequence, one for the opening and one for each completion
until all five are issued. -/
theorem discovery_closed_form (inputs : List Input) :
    (match session (run db .client inputs) with
      | [] => (globals db .client inputs).discoveryState = .stateOpen
      | opened :: rest =>
        number (globals db .client inputs).discoveryState =
            min (1 + (rest.filter isCompletion).length) 6 ∧
          (machineCalls (opened :: rest)).map Prod.fst =
            issuedAt (opened :: rest.filter isCompletion) ∧
          (machineCalls (opened :: rest)).length = min ((rest.filter isCompletion).length + 1) 5) ∧
      ((globals db .client inputs).discoveryState ≠ .stateOpen →
        (globals db .client inputs).bleData.connectionOpen = true) := by
  refine ⟨?_, connectionOpen_run db inputs⟩
  have holds := session_run db inputs
  generalize session (run db .client inputs) = events at holds
  cases events with
  | nil => exact holds
  | cons opened rest =>
    obtain ⟨place, issued⟩ := holds
    refine ⟨place, issued, ?_⟩
    rw [← List.length_map Prod.fst, issued, issuedAt, List.length_zipWith, List.length_cons]
    exact Nat.min_comm _ _

end BleRemote.Client
