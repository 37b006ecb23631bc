import BleRemote.Client.Cases
import BleRemote.Device.Link
import BleRemote.Reactive.Register
import BleRemote.Server.Cases

/-! When the two builds answer the check of a passkey with `sl_bt_sm_passkey_confirm`. -/

set_option autoImplicit false
namespace BleRemote.System

open Reactive Stack Device

variable (db : GattDb) (role : Role)

/-! ## The pairing flags -/

/-- What an event makes of `passkey_flag`, in both builds. -/
def passkeyWrite : Msg → Option Bool
  | .smConfirmPasskey .. => some true
  | .systemBoot | .connectionClosed _ | .smConfirmBonding _ | .smBondingFailed _ => some false
  | _ => none

def bondingWrite : Msg → Option Bool
  | .smBonded _ => some true
  | .systemBoot | .connectionClosed _ | .smBondingFailed _ => some false
  | _ => none

theorem step_pairingFlags (g : Globals) (i : Input) :
    (slBtOnEvent db role g i).1.bleData.passkeyFlag =
        (passkeyWrite i.msg).getD g.bleData.passkeyFlag ∧
      (slBtOnEvent db role g i).1.bleData.bondingFlag =
        (bondingWrite i.msg).getD g.bleData.bondingFlag := by
  rcases i with ⟨env, msg⟩
  cases role with
  | server =>
    rw [Server.step_bleData]
    cases msg <;> simp [handleBleEventServer, passkeyWrite, bondingWrite]
  | client =>
    rw [Client.step_bleData]
    cases msg <;>
      simp [Client.handledState, handleBleEventClient, Client.discoveryBleData, passkeyWrite,
        bondingWrite] <;>
      split <;> simp

def passkeyRegister : Register (firmware db role) Bool where
  read g := g.bleData.passkeyFlag
  write t := passkeyWrite t.input.msg
  step g i := (step_pairingFlags db role g i).1

def bondingRegister : Register (firmware db role) Bool where
  read g := g.bleData.bondingFlag
  write t := bondingWrite t.input.msg
  step g i := (step_pairingFlags db role g i).2

/-- A passkey is shown, and a link bonded, on an open connection only. -/
def PairedWhileOpen (connection : Option UInt8) (ble : BleData) : Prop :=
  (ble.passkeyFlag = true → connection ≠ none) ∧ (ble.bondingFlag = true → connection ≠ none)

theorem step_pairedWhileOpen {db : GattDb} {role : Role} {past : List Handled} {g : Globals} {i : Input}
    (paired : PairedWhileOpen (openConnection past) g.bleData)
    (secure : SecurityWhileOpen past (handled db role g i)) :
    PairedWhileOpen (openConnection (past ++ [handled db role g i]))
      (slBtOnEvent db role g i).1.bleData := by
  unfold PairedWhileOpen
  rw [(step_pairingFlags db role g i).1, (step_pairingFlags db role g i).2, openConnection_concat]
  rcases i with ⟨env, msg⟩
  cases msg
  case connectionOpened => exact ⟨fun _ => Option.some_ne_none _, fun _ => Option.some_ne_none _⟩
  case connectionClosed => exact ⟨Bool.noConfusion, Bool.noConfusion⟩
  case systemBoot => exact ⟨Bool.noConfusion, Bool.noConfusion⟩
  case smConfirmPasskey =>
    exact ⟨fun _ => secure (Msg.isSecurityManager_of_id 0x020f00a0 rfl (by decide)), paired.2⟩
  case smBonded =>
    exact ⟨paired.1, fun _ => secure (Msg.isSecurityManager_of_id 0x030f00a0 rfl (by decide))⟩
  case smConfirmBonding => exact ⟨Bool.noConfusion, paired.2⟩
  case smBondingFailed => exact ⟨Bool.noConfusion, Bool.noConfusion⟩
  all_goals exact paired

/-! ## The answer -/

def isPasskeyConfirm : Call → Bool
  | .smPasskeyConfirm .. => true
  | _ => false

def AnswersPasskey (t : Handled) : Prop := ∃ c ∈ t.output.calls, isPasskeyConfirm c.1 = true

/-- The guard of the build lets the signal through to `sl_bt_sm_passkey_confirm`. -/
def ConfirmSignal (role : Role) (pinHigh : GpioPin → Bool) (ble : BleData) : Msg → Prop
  | .systemExternalSignal extsignals =>
    match role with
    | .server => Server.ConfirmSignal ble (.systemExternalSignal extsignals)
    | .client => Client.ConfirmSignal pinHigh ble extsignals
  | _ => False

instance (role : Role) (pinHigh : GpioPin → Bool) (ble : BleData) (msg : Msg) :
    Decidable (ConfirmSignal role pinHigh ble msg) := by
  apply Msg.casesOn (motive := fun msg => Decidable (ConfirmSignal role pinHigh ble msg)) msg <;>
    intros <;>
    apply Role.casesOn (motive := fun role => Decidable (ConfirmSignal role pinHigh ble _)) role <;>
    unfold ConfirmSignal <;> infer_instance

def confirmCall (role : Role) (ble : BleData) : Call :=
  .smPasskeyConfirm (if role = .server then ble.handleForClient.toUInt8 else ble.connectionHandle) 1

section
variable (g : Globals) (i : Input)

theorem server_confirmCalls :
    (slBtOnEvent db .server g i).2.calls.filter (fun c => isPasskeyConfirm c.1) =
      if ConfirmSignal .server i.env.pinHigh g.bleData i.msg then
        i.env.issued [confirmCall .server g.bleData] else [] := by
  rw [Server.step_calls]
  rcases i with ⟨env, msg⟩
  cases msg
  case systemExternalSignal extsignals =>
    have keys : (calls ((buttonStateToGatt db (Server.keyCode env.pinHigh)).run env g).effects).filter
        (fun c => isPasskeyConfirm c.1) = [] := by
      rw [Server.buttonStateToGatt_calls]
      split_ifs <;> rfl
    simp only [handleBleEventServer, Server.serverSystemExternalSignal_calls, List.filter_append]
    by_cases confirm : Server.ConfirmSignal g.bleData (.systemExternalSignal extsignals)
    · have guard : ConfirmSignal .server env.pinHigh g.bleData (.systemExternalSignal extsignals) :=
        confirm
      rw [if_pos confirm, if_pos guard]
      split_ifs
      · rw [keys]; rfl
      · rfl
    · have guard : ¬ ConfirmSignal .server env.pinHigh g.bleData (.systemExternalSignal extsignals) :=
        confirm
      rw [if_neg confirm, if_neg guard]
      split_ifs
      · exact keys
      · rfl
  all_goals simp [handleBleEventServer, ConfirmSignal, isPasskeyConfirm]

theorem client_confirmCalls :
    (slBtOnEvent db .client g i).2.calls.filter (fun c => isPasskeyConfirm c.1) =
      if ConfirmSignal .client i.env.pinHigh g.bleData i.msg then
        i.env.issued [confirmCall .client g.bleData] else [] := by
  rw [Client.step_calls_filter db g i
    (fun c confirm => by cases c <;> first | rfl | cases confirm) fun _ => rfl]
  rcases i with ⟨env, msg⟩
  cases msg
  case systemExternalSignal extsignals =>
    by_cases confirm : Client.ConfirmSignal env.pinHigh g.bleData extsignals
    · have guard : ConfirmSignal .client env.pinHigh g.bleData (.systemExternalSignal extsignals) :=
        confirm
      simp only [Client.controlCalls, if_pos confirm, if_pos guard]
      rfl
    · have guard : ¬ ConfirmSignal .client env.pinHigh g.bleData (.systemExternalSignal extsignals) :=
        confirm
      simp only [Client.controlCalls, if_neg confirm, if_neg guard]
      rfl
  case scannerScanReport address =>
    by_cases full : addressCheckLoop address g.addressCheck = 6 <;>
      simp [Client.controlCalls, ConfirmSignal, full, isPasskeyConfirm]
  case gattProcedureCompleted connection result =>
    by_cases encryption : result = 0x110F <;>
      simp [Client.controlCalls, ConfirmSignal, encryption, isPasskeyConfirm]
  all_goals simp [Client.controlCalls, ConfirmSignal, isPasskeyConfirm]

/-- The passkey confirmations of a step: one if the guard lets it through, or none. -/
theorem step_confirmCalls :
    (slBtOnEvent db role g i).2.calls.filter (fun c => isPasskeyConfirm c.1) =
      if ConfirmSignal role i.env.pinHigh g.bleData i.msg then
        i.env.issued [confirmCall role g.bleData] else [] := by
  cases role with
  | server => exact server_confirmCalls db g i
  | client => exact client_confirmCalls db g i

theorem answers_iff : AnswersPasskey (handled db role g i) ↔
    ConfirmSignal role i.env.pinHigh g.bleData i.msg := by
  have confirms : AnswersPasskey (handled db role g i) ↔
      ((slBtOnEvent db role g i).2.calls.filter fun c => isPasskeyConfirm c.1) ≠ [] := by
    simp only [AnswersPasskey, handled_output, ne_eq, List.filter_eq_nil_iff, not_forall, not_not,
      exists_prop]
  rw [confirms, step_confirmCalls]
  split_ifs with confirm
  · exact iff_of_true (List.cons_ne_nil _ _) confirm
  · exact iff_of_false (not_not_intro rfl) confirm

theorem server_answers_iff :
    AnswersPasskey (handled db .server g i) ↔ Server.ConfirmSignal g.bleData i.msg := by
  rw [answers_iff]
  cases i.msg <;> rfl

theorem client_answers_iff :
    AnswersPasskey (handled db .client g i) ↔
      ∃ extsignals, i.msg = .systemExternalSignal extsignals ∧
        Client.ConfirmSignal i.env.pinHigh g.bleData extsignals := by
  rw [answers_iff]
  constructor
  · intro confirm
    cases msg : i.msg <;> rw [msg] at confirm
    case systemExternalSignal extsignals => exact ⟨extsignals, rfl, confirm⟩
    all_goals cases confirm
  · rintro ⟨extsignals, same, confirm⟩
    rw [same]
    exact confirm

end

/-! ## Safety -/

/-- The passkey check is answered on an external signal only, with a passkey shown
and the link not bonded, in the globals and by what has happened. -/
def PasskeySafe (past : List Handled) (t : Handled) : Prop :=
  AnswersPasskey t →
    (∃ extsignals, t.msg = .systemExternalSignal extsignals) ∧
    t.before.bleData.passkeyFlag = true ∧ t.before.bleData.bondingFlag = false ∧
    (∃ u ∈ sinceLast (fun u => passkeyWrite (Handled.msg u) == some false) past,
      passkeyWrite u.msg = some true) ∧
    ∀ u ∈ sinceLast (fun u => bondingWrite (Handled.msg u) == some false) past,
      bondingWrite u.msg ≠ some true

/-- The server is not signalled a PB0 press while the link is bonded. -/
def NoPressWhenBonded (role : Role) (t : Handled) : Prop :=
  role = .server → t.before.bleData.bondingFlag = true →
    t.msg ≠ .systemExternalSignal evtPb0Pressed

theorem server_notificationFlag (inputs : List Input) :
    (globals db .server inputs).bleData.buttonNotificationFlag = false := by
  -- the server only ever clears it
  refine run_invariant (P := fun _ g => g.bleData.buttonNotificationFlag = false) rfl ?_ inputs
  intro _ g i off
  rw [Server.step_buttonNotificationFlag]
  split
  · rfl
  · exact off

theorem passkeySafe_iff (inputs : List Input) (i : Input) :
    PasskeySafe (run db role inputs) (handled db role (globals db role inputs) i) ↔
      (AnswersPasskey (handled db role (globals db role inputs) i) →
        (∃ extsignals, i.msg = .systemExternalSignal extsignals) ∧
        (globals db role inputs).bleData.passkeyFlag = true ∧
        (globals db role inputs).bleData.bondingFlag = false) := by
  have shown := (passkeyRegister db role).read_flag (s := .reset) rfl inputs
  have bonded := (bondingRegister db role).read_flag (s := .reset) rfl inputs
  change (globals db role inputs).bleData.passkeyFlag = true ↔ _ at shown
  change (globals db role inputs).bleData.bondingFlag = true ↔ _ at bonded
  unfold PasskeySafe
  apply imp_congr_right
  intro _
  apply and_congr_right
  intro _
  rw [handled_before]
  constructor
  · intro ⟨flag, free, _⟩
    exact ⟨flag, free⟩
  · intro ⟨flag, free⟩
    refine ⟨flag, free, shown.mp flag, fun u member bonds => ?_⟩
    exact Bool.false_ne_true (free.symm.trans (bonded.mpr ⟨u, member, bonds⟩))

/-- A run answers the passkey check safely exactly when the server is not signalled
a PB0 press while bonded; the client always does. -/
theorem passkey_safe_run_iff (inputs : List Input) :
    Always PasskeySafe (run db role inputs) ↔
      Always (fun _ t => NoPressWhenBonded role t) (run db role inputs) := by
  apply run_always_iff
  intro first i _
  rw [passkeySafe_iff]
  cases role with
  | server =>
    rw [server_answers_iff]
    have off := server_notificationFlag db first
    generalize globals db .server first = g at *
    -- the guard fires on this press although the link is bonded
    constructor
    · intro safe _ bonded press
      have press : i.msg = .systemExternalSignal evtPb0Pressed := press
      have free := (safe (by rw [press]; exact ⟨bonded, off, rfl⟩)).2.2
      exact Bool.false_ne_true (free.symm.trans bonded)
    · intro quiet confirm
      rcases i with ⟨env, msg⟩
      cases msg
      case systemExternalSignal extsignals =>
        obtain ⟨bonded, -, rfl⟩ := confirm
        exact absurd rfl (quiet rfl bonded)
      all_goals cases confirm
  | client =>
    rw [client_answers_iff]
    refine ⟨fun _ server => Role.noConfusion server, fun _ => ?_⟩
    intro ⟨extsignals, signal, _, _, shown, free⟩
    exact ⟨⟨extsignals, signal⟩, shown, free⟩

def pressAfterBond : List Input :=
  ([.systemBoot, .connectionOpened 1, .smConfirmBonding 1, .smConfirmPasskey 1 123456, .smBonded 1,
    .systemExternalSignal evtPb0Pressed] : List Msg).map fun msg => ⟨obliging fun _ => true, msg⟩

theorem bonded_press_answered : ∃ past t,
    run exampleDb .server pressAfterBond = past ++ [t] ∧
      t.before.bleData.connectionOpen = true ∧ t.before.bleData.bondingFlag = true ∧
      t.output.calls = [(.smPasskeyConfirm 1 1, statusOk)] ∧ ¬ PasskeySafe past t := by
  refine ⟨_, _, run_concat _ (List.take 5 pressAfterBond), by decide +kernel, by decide +kernel,
    by decide +kernel, fun safe => ?_⟩
  have answered : AnswersPasskey (handled exampleDb .server
      (globals exampleDb .server (pressAfterBond.take 5))
      ⟨obliging fun _ => true, .systemExternalSignal evtPb0Pressed⟩) :=
    (server_answers_iff _ _ _).mpr (by decide +kernel)
  exact absurd (safe answered).2.2.1 (by decide +kernel)

end BleRemote.System
