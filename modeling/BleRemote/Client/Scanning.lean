import Mathlib.Algebra.Ring.Nat
import BleRemote.Client.Cases

/-! The scanner's decision: which reports the client connects to, over whole runs.

`address_check` counts the bytes of a report that agree with the server's
address, on top of what earlier reports left there. Only a count of exactly six
clears it again.
-/

set_option autoImplicit false
namespace BleRemote.Client

open Reactive Stack Device

def matchingBytes (address : BdAddr) : Nat :=
  (List.finRange 6).countP fun i => address.addr.get i = serverBtAddress.addr.get i

theorem foldl_increment {A : Type} (p : A → Prop) [DecidablePred p] (l : List A) (count : Int32) :
    l.foldl (fun count a => if p a then count + 1 else count) count =
      count + Int32.ofNat (l.countP fun a => p a) := by
  induction l generalizing count with
  | nil => simp
  | cons a l ih =>
    rw [List.foldl_cons, ih, List.countP_cons, Int32.ofNat_add]
    simp only [decide_eq_true_eq]
    split_ifs
    · rw [Int32.add_assoc, Int32.add_comm 1]; rfl
    · rw [show Int32.ofNat 0 = 0 from rfl, Int32.add_zero]

theorem addressCheckLoop_eq (address : BdAddr) (count : Int32) :
    addressCheckLoop address count = count + Int32.ofNat (matchingBytes address) :=
  foldl_increment (fun i : Fin 6 => address.addr[i] = serverBtAddress.addr[i]) _ count

theorem matchingBytes_eq_six {address : BdAddr} :
    matchingBytes address = 6 ↔ address = serverBtAddress := by
  constructor
  · intro full
    have all := List.countP_eq_length.mp (full.trans (List.length_finRange (n := 6)).symm)
    obtain ⟨bytes⟩ := address
    refine congrArg BdAddr.mk (Vector.ext fun i bound => ?_)
    exact of_decide_eq_true (all ⟨i, bound⟩ (List.mem_finRange _))
  · rintro rfl
    decide

theorem int32_ofNat_eq_iff (n m : Nat) :
    Int32.ofNat n = Int32.ofNat m ↔ n % 2 ^ 32 = m % 2 ^ 32 := by
  rw [← Int32.toBitVec_inj, BitVec.toNat_eq, Int32.toBitVec_ofNat', Int32.toBitVec_ofNat',
    BitVec.toNat_ofNat, BitVec.toNat_ofNat]

theorem counter_full_iff (total address : Nat) :
    Int32.ofNat total + Int32.ofNat address = 6 ↔ (total + address) % 2 ^ 32 = 6 := by
  rw [← Int32.ofNat_add]
  exact int32_ofNat_eq_iff _ 6

/-! ## The decision -/

def opensConnection : Call → Bool
  | .connectionOpen .. => true
  | _ => false

def Connects (t : Handled) : Prop :=
  (∃ c ∈ calls t.output.handler, c.1 = .scannerStop) ∧
    ∃ c ∈ calls t.output.handler, opensConnection c.1 = true

instance (t : Handled) : Decidable (Connects t) := inferInstanceAs (Decidable (_ ∧ _))

/-- A scan report is connected to exactly when it comes from the server. -/
def ConnectsOnlyToServer (t : Handled) : Prop :=
  match t.msg with
  | .scannerScanReport address => Connects t ↔ address = serverBtAddress
  | _ => True

/-- The bytes an event adds to the count although it does not come from the server. -/
def strayBytes : Msg → Nat
  | .scannerScanReport address => if address = serverBtAddress then 0 else matchingBytes address
  | _ => 0

def strayTotal (h : List Handled) : Nat := (h.map fun t => strayBytes t.msg).sum

@[simp] theorem strayTotal_nil : strayTotal [] = 0 := rfl

@[simp] theorem strayTotal_concat (h : List Handled) (t : Handled) :
    strayTotal (h ++ [t]) = strayTotal h + strayBytes t.msg := by
  simp [strayTotal]

/-- The reports before leave a decision on this one right: the server finds no
stray bytes, anyone else does not complete six. The counter wraps at 32 bits. -/
def CounterFits (past : List Handled) (t : Handled) : Prop :=
  match t.msg with
  | .scannerScanReport address =>
    if address = serverBtAddress then strayTotal past % 2 ^ 32 = 0
    else (strayTotal past + matchingBytes address) % 2 ^ 32 ≠ 6
  | _ => True

variable (db : GattDb)

theorem connects_iff (g : Globals) (env : Env) (address : BdAddr) :
    Connects (handled db .client g ⟨env, .scannerScanReport address⟩) ↔
      g.addressCheck + Int32.ofNat (matchingBytes address) = 6 := by
  simp only [Connects, handled_output, step_handler, handleBleEventClient,
    clientScannerScanReport_calls, addressCheckLoop_eq]
  split_ifs with full
  · simp [full, opensConnection]
  · simp [full]

theorem addressCheck_run (inputs : List Input)
    (right : Always (fun _ t => ConnectsOnlyToServer t) (run db .client inputs)) :
    (globals db .client inputs).addressCheck = Int32.ofNat (strayTotal (run db .client inputs)) := by
  induction inputs using List.reverseRecOn with
  | nil => rfl
  | append_singleton inputs i ih =>
    rw [run_concat] at right ⊢
    obtain ⟨earlier, last⟩ := (always_concat _ _ _).mp right
    have count := ih earlier
    rw [globals_concat, step_addressCheck, strayTotal_concat]
    rcases i with ⟨env, msg⟩
    cases msg
    case scannerScanReport address =>
      -- the decision was right, so the counter was cleared for the server only
      have decision := (connects_iff db _ _ _).symm.trans last
      rw [count] at decision
      simp only [addressCheckLoop_eq, handled_msg, strayBytes, count]
      by_cases server : address = serverBtAddress
      · have full := decision.mpr server
        rw [if_pos full, if_pos server]
        rw [counter_full_iff, matchingBytes_eq_six.mpr server] at full
        exact (int32_ofNat_eq_iff 0 _).mpr (by omega)
      · rw [if_neg (mt decision.mp server), if_neg server, Int32.ofNat_add]
    all_goals simp only [count, handled_msg, strayBytes, Nat.add_zero]

/-- The scanner is right on every report of a run exactly when every report
finds the counter as it needs it. -/
theorem scanner_right_iff (inputs : List Input) :
    Always (fun _ t => ConnectsOnlyToServer t) (run db .client inputs) ↔
      Always CounterFits (run db .client inputs) := by
  apply run_always_iff
  intro first i right
  have count := addressCheck_run db first right
  rcases i with ⟨env, msg⟩
  cases msg
  case scannerScanReport address =>
    have decision := connects_iff db (globals db .client first) env address
    rw [count, counter_full_iff] at decision
    show (Connects _ ↔ address = serverBtAddress) ↔ if address = serverBtAddress then _ else _
    rw [decision]
    split_ifs with server
    · rw [matchingBytes_eq_six.mpr server]
      simp only [server, iff_true]
      omega
    · simp only [server, iff_false, ne_eq]
  all_goals exact Iff.rfl

-- Two strangers, three bytes each like the server's.
def strangers : List Input :=
  [⟨obliging fun _ => true, .systemBoot⟩,
    ⟨obliging fun _ => true, .scannerScanReport ⟨#v[0x2c, 0x03, 0x92, 0, 0, 0]⟩⟩,
    ⟨obliging fun _ => true, .scannerScanReport ⟨#v[0, 0, 0, 0x27, 0xfd, 0x84]⟩⟩]

theorem stranger_connected :
    (∃ past t, run exampleDb .client strangers = past ++ [t] ∧
      t.msg.id = 0x010500a0 ∧ Connects t ∧ ¬ ConnectsOnlyToServer t) ∧
    ∃ past t, run exampleDb .client (strangers.take 2 ++
        [⟨obliging fun _ => true, .scannerScanReport serverBtAddress⟩]) = past ++ [t] ∧
      ¬ Connects t ∧ ¬ ConnectsOnlyToServer t := by
  refine ⟨⟨_, _, run_concat _ (strangers.take 2), ?_⟩, ⟨_, _, run_concat _ _, ?_⟩⟩
  · refine ⟨rfl, by decide +kernel, fun right => ?_⟩
    exact absurd (right.mp (by decide +kernel)) (by decide)
  · refine ⟨by decide +kernel, fun right => ?_⟩
    exact absurd (right.mpr rfl) (by decide +kernel)

end BleRemote.Client
