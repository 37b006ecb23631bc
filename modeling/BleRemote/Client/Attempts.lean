import BleRemote.Client.Scanning
import BleRemote.Reactive.Observer

/-! At most one connection attempt: whether a report can make the client open a second
connection before the first has ended. -/

set_option autoImplicit false
namespace BleRemote.Client

open Reactive Stack Device

def acceptsConnection (t : Handled) : Bool :=
  t.output.calls.any fun c => opensConnection c.1 && c.2 == statusOk

/-- The attempt, or the connection it became, by the handle the stack gave it. -/
structure Attempt where
  handle : Option UInt8
  /-- The bytes agreeing with the server's address in the reports since it was made. -/
  matched : Nat

def Attempt.observe (attempt : Attempt) (t : Handled) : Attempt :=
  match t.msg with
  | .scannerScanReport address =>
    if acceptsConnection t then ⟨some t.input.env.connection, 0⟩
    else { attempt with matched := attempt.matched + matchingBytes address }
  | .connectionClosed connection => if attempt.handle = some connection then ⟨none, 0⟩ else attempt
  | _ => attempt

def attemptObserver : Observer Handled Attempt := ⟨⟨none, 0⟩, Attempt.observe⟩

def attempt (h : List Handled) : Attempt := attemptObserver.seen h

@[simp] theorem attempt_concat (h : List Handled) (t : Handled) :
    attempt (h ++ [t]) = (attempt h).observe t :=
  attemptObserver.seen_concat h t

/-- With an attempt or a connection alive no other is made, and its handle stays stored
until `stateOPEN` stores it again from the opening. -/
def OneAttempt (past : List Handled) (t : Handled) : Prop :=
  (attempt past).handle ≠ none →
    (∀ c ∈ t.output.calls, opensConnection c.1 = false) ∧
    ((∀ connection, t.msg ≠ .connectionOpened connection) →
      t.after.bleData.connectionHandle = t.before.bleData.connectionHandle)

/-- A report while an attempt or a connection is alive does not complete six bytes. -/
def StaysShort (past : List Handled) (t : Handled) : Prop :=
  (attempt past).handle ≠ none →
    match t.msg with
    | .scannerScanReport address => ((attempt past).matched + matchingBytes address) % 2 ^ 32 ≠ 6
    | _ => True

variable (db : GattDb) (g : Globals) (i : Input)

theorem step_opens : (slBtOnEvent db .client g i).2.calls.filter (fun c => opensConnection c.1) =
    match i.msg with
    | .scannerScanReport address =>
      if addressCheckLoop address g.addressCheck = 6 then
        i.env.issued [.connectionOpen address gapPublicAddress gapPhy1m]
      else []
    | _ => [] := by
  rw [step_calls_filter db g i (fun c opens => by cases c <;> first | rfl | cases opens) fun _ => rfl]
  rcases i with ⟨env, msg⟩
  cases msg <;> simp only [controlCalls] <;> first | rfl | (split_ifs <;> rfl)

theorem acceptsConnection_eq (t : Handled) : acceptsConnection t =
    (t.output.calls.filter fun c => opensConnection c.1).any fun c => c.2 == statusOk :=
  List.any_filter.symm

theorem silent_iff (t : Handled) : (∀ c ∈ t.output.calls, opensConnection c.1 = false) ↔
    t.output.calls.filter (fun c => opensConnection c.1) = [] := by
  simp only [List.filter_eq_nil_iff, Bool.not_eq_true]

/-- While an attempt is alive the counter holds the bytes matched since it was made. -/
def Counted (attempt : Attempt) (g : Globals) : Prop :=
  attempt.handle ≠ none → g.addressCheck = Int32.ofNat attempt.matched

theorem Counted.full_iff {attempt : Attempt} {g : Globals} (counted : Counted attempt g)
    (alive : attempt.handle ≠ none) (address : BdAddr) :
    addressCheckLoop address g.addressCheck = 6 ↔
      (attempt.matched + matchingBytes address) % 2 ^ 32 = 6 := by
  rw [addressCheckLoop_eq, counted alive, counter_full_iff]

theorem attempt_step {past : List Handled} (counted : Counted (attempt past) g) :
    (OneAttempt past (handled db .client g i) ↔ StaysShort past (handled db .client g i)) ∧
      (StaysShort past (handled db .client g i) →
        Counted (attempt (past ++ [handled db .client g i])) (slBtOnEvent db .client g i).1) := by
  have full_iff := counted.full_iff
  unfold OneAttempt StaysShort Counted at *
  rw [silent_iff, attempt_concat, Attempt.observe, acceptsConnection_eq, step_addressCheck,
    handled_output, step_opens, handled_after, step_connectionHandle]
  generalize attempt past = attempt at *
  rcases i with ⟨env, msg⟩
  cases msg
  case scannerScanReport address =>
    simp only [handled_msg, handled_input, handled_before]
    by_cases full : addressCheckLoop address g.addressCheck = 6
    · -- the count is complete: a connection is opened, and the count starts again
      simp only [full, ↓reduceIte, Env.issued_cons, Env.issued_nil, reduceCtorEq, false_and,
        imp_false, not_not, List.any_cons, List.any_nil, Bool.or_false, beq_iff_eq]
      constructor
      · constructor
        · exact fun dead alive => absurd dead alive
        · intro short
          by_contra alive
          exact short alive ((full_iff alive address).mp full)
      · intro short
        split_ifs
        · exact fun _ => rfl
        · exact fun alive => absurd ((full_iff alive address).mp full) (short alive)
    · simp only [full, ↓reduceIte, List.any_nil, Bool.false_eq_true, true_and, implies_true, true_iff]
      constructor
      · exact fun alive => mt (full_iff alive address).mpr full
      · intro _ alive
        rw [addressCheckLoop_eq, counted alive, Int32.ofNat_add]
  case connectionOpened connection =>
    refine ⟨iff_of_true (fun _ => ⟨rfl, fun other => absurd rfl (other connection)⟩) ?_, ?_⟩
    · exact fun _ => trivial
    · exact fun _ => counted
  case connectionClosed connection =>
    simp only [handled_msg, implies_true, true_and, handled_before]
    split_ifs
    · exact fun _ alive => absurd rfl alive
    · exact fun _ => counted
  all_goals
    simp only [handled_msg, handled_before, implies_true, true_and, forall_const]
    exact counted

/-- A run never opens a second connection exactly when no report completes six bytes while
one is alive. -/
theorem one_attempt_iff (inputs : List Input) :
    Always OneAttempt (run db .client inputs) ↔ Always StaysShort (run db .client inputs) := by
  refine run_always_iff_kept (R := fun past g => Counted (attempt past) g) (absurd rfl) ?_ inputs
  intro past g i counted
  exact attempt_step db g i counted

-- A second report of the server, queued before the scanner was stopped.
def queuedReport : List Input :=
  obligingInputs [.systemBoot, .scannerScanReport serverBtAddress, .scannerScanReport serverBtAddress]

theorem queued_report_opens : ∃ past t,
    run exampleDb .client queuedReport = past ++ [t] ∧ (attempt past).handle = some 1 ∧
      (.connectionOpen serverBtAddress gapPublicAddress gapPhy1m, statusOk) ∈ t.output.calls ∧
      ¬ OneAttempt past t := by
  refine ⟨_, _, run_concat _ (queuedReport.take 2), by decide +kernel, by decide +kernel,
    fun one => ?_⟩
  exact absurd (one (by decide +kernel)).1 (by decide +kernel)

end BleRemote.Client
