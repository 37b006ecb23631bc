import BleRemote.Client.Discovery

/-! Whether a waiting discovery is owed a completion: the stack owes one for an
accepted request only, and four of the machine's five transitions do not look at
what their request returned. -/

set_option autoImplicit false
namespace BleRemote.Client

open Reactive Stack Device

def moved (t : Handled) : Bool := t.before.discoveryState ≠ t.after.discoveryState

/-- In a state that waits for a completion, the request issued on entering it was
accepted, and no completion has come since. -/
def Owed (h : List Handled) (s : ClientState) : Prop :=
  s ≠ .stateOpen → s ≠ .stateWait → ∃ past entry rest, h = past ++ entry :: rest ∧
    moved entry = true ∧ entry.after.discoveryState = s ∧
    (calls entry.output.stateMachine).map Prod.snd = [statusOk] ∧
    ∀ t ∈ rest, moved t = false ∧ isCompletion t = false

/-- After an event the machine is owed what it waits for, and a rejected request
has not moved it. -/
def NoDeadState (past : List Handled) (t : Handled) : Prop :=
  Owed (past ++ [t]) t.after.discoveryState ∧
    ((∃ c ∈ calls t.output.stateMachine, c.2 ≠ statusOk) → moved t = false)

/-- The stack accepts the request with which the machine answers a completion. -/
def AcceptsNext (t : Handled) : Prop :=
  isCompletion t = true → ∀ c ∈ nextRequests t.before.bleData t.before.discoveryState,
    t.input.env.status c = statusOk

variable (db : GattDb) (g : Globals) (i : Input)

theorem moved_handled : moved (handled db .client g i) =
    decide (g.discoveryState ≠ (slBtOnEvent db .client g i).1.discoveryState) := rfl

theorem nextRequests_single {s : ClientState} (active : s ≠ .stateOpen)
    (pending : advance s ≠ .stateWait) (ble : BleData) : ∃ c, nextRequests ble s = [c] := by
  cases s <;> first | contradiction | exact ⟨_, rfl⟩

theorem advance_ne {s : ClientState} (active : s ≠ .stateOpen) (pending : advance s ≠ .stateWait) :
    s ≠ advance s := by
  cases s <;> first | contradiction | exact ClientState.noConfusion

theorem nextRequests_of_stuck {s : ClientState} (stuck : s = advance s) (ble : BleData) :
    nextRequests ble s = [] := by
  cases s <;> first | rfl | exact ClientState.noConfusion stuck

theorem owed_of_entry {h : List Handled} {s : ClientState}
    (entered : moved (handled db .client g i) = true)
    (target : (slBtOnEvent db .client g i).1.discoveryState = s)
    (accepted : (calls (slBtOnEvent db .client g i).2.stateMachine).map Prod.snd = [statusOk]) :
    Owed (h ++ [handled db .client g i]) s :=
  fun _ _ => ⟨h, _, [], rfl, entered, target, accepted, by simp⟩

theorem owed_concat {h : List Handled} (owed : Owed h g.discoveryState)
    (accepts : AcceptsNext (handled db .client g i)) :
    Owed (h ++ [handled db .client g i]) (slBtOnEvent db .client g i).1.discoveryState := by
  intro active pending
  have notClosed : isClosed (handled db .client g i) = false := by
    by_contra closed
    exact active (step_of_closed db g i (by simpa using closed))
  -- three cases: entered from `stateOPEN`, entered by a completion, or waiting on
  by_cases idle : g.discoveryState = .stateOpen
  · have step := step_of_open db g i idle notClosed
    split_ifs at step with opened
    · obtain ⟨connection, same, -, ok⟩ := (acceptedOpened_iff db g i).mp opened
      refine owed_of_entry db g i ?_ rfl ?_ active pending
      · rw [moved_handled, idle, step.1]; rfl
      · simp [step_requests, same, requests, idle, ok]
    · exact absurd step active
  · by_cases completion : isCompletion (handled db .client g i) = true
    · obtain ⟨advanced, requested, -⟩ := step_of_completion db g i completion
      have further := pending
      rw [advanced] at further
      obtain ⟨c, single⟩ := nextRequests_single idle further g.bleData
      refine owed_of_entry db g i ?_ rfl ?_ active pending
      · rw [moved_handled, advanced]
        exact decide_eq_true (advance_ne idle further)
      · have ok : i.env.status c = statusOk := accepts completion c (by simp [single])
        simp [requested, single, ok]
    · have stays := (step_of_waiting db g i idle notClosed completion).1
      rw [stays] at active pending ⊢
      obtain ⟨past, entry, rest, same, entered, target, accepted, quiet⟩ := owed active pending
      refine ⟨past, entry, rest ++ [handled db .client g i], by rw [same]; simp, entered, target,
        accepted, fun t member => ?_⟩
      rcases List.mem_append.mp member with earlier | last
      · exact quiet t earlier
      · rw [List.mem_singleton.mp last, moved_handled, stays]
        exact ⟨by simp, by simpa using completion⟩

theorem owed_run (inputs : List Input)
    (accepts : Always (fun _ t => AcceptsNext t) (run db .client inputs)) :
    Owed (run db .client inputs) (globals db .client inputs).discoveryState := by
  induction inputs using List.reverseRecOn with
  | nil => exact fun active => absurd rfl active
  | append_singleton inputs i ih =>
    rw [run_concat, always_concat] at accepts
    rw [run_concat, globals_concat]
    exact owed_concat db _ i (ih accepts.1) accepts.2

theorem stays_of_accepts (accepts : AcceptsNext (handled db .client g i))
    (rejected : ∃ c ∈ calls (slBtOnEvent db .client g i).2.stateMachine, c.2 ≠ statusOk) :
    moved (handled db .client g i) = false := by
  obtain ⟨c, member, bad⟩ := rejected
  by_cases completion : isCompletion (handled db .client g i) = true
  · rw [(step_of_completion db g i completion).2.1] at member
    obtain ⟨request, asked, rfl⟩ := List.mem_map.mp member
    exact absurd (accepts completion request asked) bad
  · rw [step_requests] at member
    rw [moved_handled, step_discoveryState]
    rcases i with ⟨env, msg⟩
    cases msg
    case gattProcedureCompleted => exact absurd rfl completion
    case connectionOpened connection =>
      -- `stateOPEN` looks at the status
      by_cases idle : g.discoveryState = .stateOpen
      · simp only [requests, idle, ↓reduceIte, Env.issued_cons, Env.issued_nil,
          List.mem_singleton] at member
        rw [member] at bad
        simp [nextState, bad]
      · simp [nextState, idle]
    all_goals cases member

/-- No run leaves the machine in a dead state, and no rejected request moves it,
exactly when the stack accepts every request that answers a completion. -/
theorem no_dead_state_iff (inputs : List Input) :
    Always NoDeadState (run db .client inputs) ↔
      Always (fun _ t => AcceptsNext t) (run db .client inputs) := by
  refine (run_always_iff (fun first i accepts => ?_) inputs).symm
  have owed := owed_run db first accepts
  generalize globals db .client first = g at *
  constructor
  · intro accepted
    exact ⟨owed_concat db g i owed accepted, stays_of_accepts db g i accepted⟩
  · intro noDead completion c asked
    -- a rejected request would not have moved the machine, but a completion moves it
    by_contra rejected
    obtain ⟨advanced, requested, -⟩ := step_of_completion db g i completion
    have stuck := noDead.2 ⟨(c, i.env.status c), by
      rw [handled_output, requested]; exact List.mem_map_of_mem asked, rejected⟩
    rw [moved_handled, advanced, decide_eq_false_iff_not, not_not] at stuck
    rw [handled_before, nextRequests_of_stuck stuck] at asked
    cases asked

-- An opened connection whose second discovery request is refused with `SL_STATUS_BUSY`.
def busyDiscovery : List Input :=
  [⟨obliging fun _ => true, .systemBoot⟩,
    ⟨obliging fun _ => true, .connectionOpened 1⟩,
    ⟨{ obliging fun _ => true with status := fun _ => 0x0004 }, .gattProcedureCompleted 1 0⟩]

theorem busy_discovery_dead : ∃ past t,
    run exampleDb .client busyDiscovery = past ++ [t] ∧
      t.after.discoveryState = .stateDiscoverLedServices ∧
      calls t.output.stateMachine = [(.gattDiscoverPrimaryServicesByUuid 1 ledServiceUuid, 0x0004)] ∧
      ¬ Owed (past ++ [t]) t.after.discoveryState ∧ moved t = true ∧ ¬ NoDeadState past t := by
  refine ⟨_, _, run_concat _ (busyDiscovery.take 2), by decide +kernel, by decide +kernel, ?_,
    by decide +kernel, fun noDead => ?_⟩
  · intro owed
    obtain ⟨past, entry, rest, same, -, entered, accepted, -⟩ :=
      owed (by decide +kernel) (by decide +kernel)
    have none : ∀ t ∈ run exampleDb .client busyDiscovery,
        t.after.discoveryState = .stateDiscoverLedServices →
          (calls t.output.stateMachine).map Prod.snd ≠ [statusOk] := by decide +kernel
    have member : entry ∈ past ++ entry :: rest := by simp
    rw [← same, ← run_concat] at member
    exact none entry member (by rw [entered]; decide +kernel) accepted
  · exact absurd (noDead.2 (by decide +kernel)) (by decide +kernel)

end BleRemote.Client
