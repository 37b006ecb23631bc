import BleRemote.System.Indicator

/-! The passkey flag and the passkey row of the display against the checks that the
security manager has asked for. -/

set_option autoImplicit false
namespace BleRemote.System

open Reactive Stack Device

/-! ## The passkey row -/

def passkeyText : Role → UInt32 → String
  | .server, passkey => " " ++ decimal passkey
  | .client, passkey => "Passkey " ++ decimal passkey

def ShowsPasskey (role : Role) (row : String) : Prop :=
  ∃ passkey, row = drawnText (passkeyText role passkey)

theorem decimal_ne_empty (n : UInt32) : decimal n ≠ "" := by
  unfold decimal
  cases n.toInt32.toInt with
  | ofNat k => exact Nat.repr_ne_empty
  | negSucc k =>
    intro none
    have minus : "-" ++ toString (k + 1) = "" := none
    simp at minus

theorem passkeyText_length (role : Role) (passkey : UInt32) :
    2 ≤ (passkeyText role passkey).length := by
  have digit : (decimal passkey).length ≠ 0 := by
    rw [Ne, String.length_eq_zero_iff]
    exact decimal_ne_empty passkey
  cases role with
  | server =>
    have blank : " ".length = 1 := rfl
    rw [passkeyText, String.length_append]
    omega
  | client =>
    have label : "Passkey ".length = 8 := rfl
    rw [passkeyText, String.length_append]
    omega

theorem drawnText_length {text : String} (long : 2 ≤ text.length) :
    2 ≤ (drawnText text).length := by
  have nonempty : text ≠ "" := by
    rintro rfl
    simp at long
  rw [drawnText, if_neg nonempty, String.length_ofList, List.length_take, String.length_toList]
  unfold displayRowLen
  omega

/-- What clears the row leaves no passkey on it. -/
theorem not_showsPasskey {role : Role} {row : String} (short : row.length < 2) :
    ¬ ShowsPasskey role row := by
  rintro ⟨passkey, rfl⟩
  have long := drawnText_length (passkeyText_length role passkey)
  omega

/-- What an event draws on the passkey row. -/
def passkeyRowWrite (role : Role) : Msg → Option String
  | .systemBoot => some (if role = .server then " " else "")
  | .connectionClosed _ => if role = .server then some " " else none
  | .smConfirmPasskey _ passkey => some (drawnText (passkeyText role passkey))
  | .smBonded _ | .smBondingFailed _ => some " "
  | _ => none

section
variable (db : GattDb) (env : Env) (g : Globals) (shown : String) (msg : Msg)

theorem handleBleEventServer_passkeyRow :
    rowAfter .passkey shown ((handleBleEventServer db msg).run env g).effects =
      (passkeyRowWrite .server msg).getD shown := by
  have drawn : drawnText " " = " " := by decide
  cases msg <;>
    simp [handleBleEventServer, passkeyRowWrite, serverSystemBoot, displayInit, passkeyText,
      serverConnectionOpened, serverConnectionClosed, serverSystemExternalSignal,
      serverCharacteristicStatus, smConfirmBonding, serverSmBonded, serverSmConfirmPasskey,
      serverSmBondingFailed, drawn]

theorem handleBleEventClient_passkeyRow :
    rowAfter .passkey shown ((handleBleEventClient db msg).run env g).effects =
      (passkeyRowWrite .client msg).getD shown := by
  have drawn : drawnText " " = " " := by decide
  cases msg <;>
    simp [handleBleEventClient, passkeyRowWrite, clientSystemBoot, displayInit, passkeyText,
      clientConnectionOpened, clientConnectionClosed, clientScannerScanReport,
      clientGattProcedureCompleted, clientGattService, clientGattCharacteristic,
      clientGattCharacteristicValue, smConfirmBonding, clientSmConfirmPasskey, clientSmBonded,
      clientSmBondingFailed, clientSystemExternalSignal, drawn]

end

theorem step_passkeyRow (db : GattDb) (role : Role) (shown : String) (g : Globals) (i : Input) :
    rowAfter .passkey shown (slBtOnEvent db role g i).2.effects =
      (passkeyRowWrite role i.msg).getD shown := by
  rcases i with ⟨env, msg⟩
  simp only [slBtOnEvent, Output.effects, rowAfter_append]
  cases role with
  | server =>
    rw [handleBleEvent, stateMachine, keypadServerStateMachine_rowAfter _ _ _ _ _ (by decide),
      handleBleEventServer_passkeyRow]
  | client =>
    rw [handleBleEvent, stateMachine, discoveryStateMachine_rowAfter _ _ _ _ _ (by decide),
      handleBleEventClient_passkeyRow]

/-! ## Checks asked for -/

/-- The events that end a check; a connection opened meanwhile is not the one it was asked on. -/
def endsCheck : Msg → Bool
  | .connectionOpened _ | .connectionClosed _ | .smConfirmBonding _ | .smBonded _
  | .smBondingFailed _ => true
  | _ => false

/-- The events after which a passkey must be off the display. -/
def expiresPasskey : Msg → Bool
  | .connectionOpened _ | .connectionClosed _ | .smBonded _ | .smBondingFailed _ => true
  | _ => false

/-- On the open connection a check was asked for, with no event since that ends it. -/
def Asked (ends : Msg → Bool) (h : List Handled) : Prop :=
  ∃ connection passkey, openConnection h = some connection ∧
    ∃ t ∈ sinceLast (fun t => ends (Handled.msg t)) h, t.msg = .smConfirmPasskey connection passkey

theorem asked_concat {ends : Msg → Bool} (opened : ∀ c, ends (.connectionOpened c) = true)
    (closed : ∀ c, ends (.connectionClosed c) = true) (h : List Handled) (t : Handled) :
    Asked ends (h ++ [t]) ↔ ends t.msg = false ∧ (Asked ends h ∨
      ∃ connection passkey, t.msg = .smConfirmPasskey connection passkey ∧
        openConnection h = some connection) := by
  unfold Asked
  rw [openConnection_concat, sinceLast_concat]
  cases ended : ends t.msg with
  | true => simp
  | false =>
    have same : linkAfter (openConnection h) t.msg = openConnection h := by
      cases msg : t.msg
      case connectionOpened c => exact Bool.noConfusion (ended.symm.trans (msg ▸ opened c))
      case connectionClosed c => exact Bool.noConfusion (ended.symm.trans (msg ▸ closed c))
      all_goals rfl
    rw [same, if_neg Bool.false_ne_true]
    constructor
    · rintro ⟨connection, passkey, link, u, member, asks⟩
      refine ⟨rfl, ?_⟩
      rcases List.mem_append.mp member with earlier | last
      · exact .inl ⟨connection, passkey, link, u, earlier, asks⟩
      · obtain rfl := List.mem_singleton.mp last
        exact .inr ⟨connection, passkey, asks, link⟩
    · rintro ⟨-, ⟨connection, passkey, link, u, earlier, asks⟩ | ⟨connection, passkey, asks, link⟩⟩
      · exact ⟨connection, passkey, link, u, List.mem_append_left _ earlier, asks⟩
      · exact ⟨connection, passkey, link, t, List.mem_append_right _ (List.mem_singleton_self t), asks⟩

theorem not_asked_nil (ends : Msg → Bool) : ¬ Asked ends [] := by
  rintro ⟨_, _, link, _⟩
  cases link

theorem asked_expires {h : List Handled} (asked : Asked endsCheck h) : Asked expiresPasskey h := by
  have fewer (t : Handled) (stays : endsCheck t.msg = false) : expiresPasskey t.msg = false := by
    cases msg : t.msg <;> simp_all [endsCheck, expiresPasskey]
  induction h using List.reverseRecOn with
  | nil => exact absurd asked (not_asked_nil _)
  | append_singleton h t ih =>
    rw [asked_concat (fun _ => rfl) fun _ => rfl] at asked ⊢
    exact ⟨fewer t asked.1, asked.2.imp_left ih⟩

/-! ## The mirror -/

/-- The flag tells whether a check is due, and the row shows no passkey that has expired. -/
structure PasskeyMirrored (role : Role) (h : List Handled) (ble : BleData) : Prop where
  flag : ble.passkeyFlag = true ↔ Asked endsCheck h
  row : ShowsPasskey role (rowShown .passkey h) → Asked expiresPasskey h

def MirrorsPasskey (role : Role) (past : List Handled) (t : Handled) : Prop :=
  PasskeyMirrored role (past ++ [t]) t.after.bleData

/-- Nothing is left to clear where the handlers do not clear it, and a check names the
open connection. -/
def PasskeySettled (role : Role) (past : List Handled) (t : Handled) : Prop :=
  match t.msg with
  | .systemBoot => t.before.bleData.passkeyFlag = false
  | .connectionOpened _ =>
    t.before.bleData.passkeyFlag = false ∧ ¬ ShowsPasskey role (rowShown .passkey past)
  | .connectionClosed _ => role = .client → ¬ ShowsPasskey role (rowShown .passkey past)
  | .smBonded _ => t.before.bleData.passkeyFlag = false
  | .smConfirmPasskey connection _ =>
    openConnection past = some connection ∨ t.before.bleData.passkeyFlag = true
  | _ => True

section
variable {db : GattDb} {role : Role} {past : List Handled} {g : Globals} {i : Input}

theorem PasskeyMirrored.step_iff (mirrored : PasskeyMirrored role past g.bleData) :
    MirrorsPasskey role past (handled db role g i) ↔
      PasskeySettled role past (handled db role g i) := by
  have due := mirrored.flag
  have row := mirrored.row
  have expires := asked_expires (h := past)
  have blank : ¬ ShowsPasskey role " " := not_showsPasskey (by decide)
  have empty : ¬ ShowsPasskey role "" := not_showsPasskey (by decide)
  have split : MirrorsPasskey role past (handled db role g i) ↔
      (((passkeyWrite i.msg).getD g.bleData.passkeyFlag = true ↔
          Asked endsCheck (past ++ [handled db role g i])) ∧
        (ShowsPasskey role ((passkeyRowWrite role i.msg).getD (rowShown .passkey past)) →
          Asked expiresPasskey (past ++ [handled db role g i]))) := by
    rw [← (step_pairingFlags db role g i).1, ← step_passkeyRow db role _ g i, ← handled_output,
      ← rowShown_concat]
    exact ⟨fun m => ⟨m.flag, m.row⟩, fun ⟨flag, row⟩ => ⟨flag, row⟩⟩
  rw [split, asked_concat (fun _ => rfl) fun _ => rfl, asked_concat (fun _ => rfl) fun _ => rfl]
  rcases i with ⟨env, msg⟩
  cases msg
  all_goals simp only [PasskeySettled, handled_msg, handled_before, passkeyWrite, passkeyRowWrite,
    endsCheck, expiresPasskey, Option.getD_some, Option.getD_none]
  case systemBoot => cases role <;> simp [blank, empty, ← due]
  case connectionOpened => simp
  case connectionClosed => cases role <;> simp [blank]
  case smConfirmPasskey connection passkey =>
    -- the row shows the passkey now, and a check that was due is still not over
    simp only [← due, Msg.smConfirmPasskey.injEq, true_and, true_iff]
    constructor
    · rintro ⟨pending | ⟨_, _, ⟨rfl, rfl⟩, link⟩, -⟩
      · exact .inr pending
      · exact .inl link
    · rintro (link | pending)
      · exact ⟨.inr ⟨_, _, ⟨rfl, rfl⟩, link⟩, fun _ => .inr ⟨_, _, ⟨rfl, rfl⟩, link⟩⟩
      · exact ⟨.inl pending, fun _ => .inl (expires (due.mp pending))⟩
  case smConfirmBonding => simpa using row
  case smBonded => simp [blank]
  case smBondingFailed => simp [blank]
  all_goals simpa using And.intro due row

end

/-- A run keeps the flag and the row true to the checks asked for exactly when no bonding
completes, no connection is opened and no boot happens with the flag still set, the client's
row shows no passkey when the connection closes, and every check names the open connection. -/
theorem mirrors_passkey_iff (db : GattDb) (role : Role) (inputs : List Input) :
    Always (MirrorsPasskey role) (run db role inputs) ↔
      Always (PasskeySettled role) (run db role inputs) := by
  refine run_always_iff_kept (R := fun past g => PasskeyMirrored role past g.bleData) ?_ ?_ inputs
  · refine ⟨iff_of_false Bool.false_ne_true (not_asked_nil _), fun shown => ?_⟩
    exact absurd shown (not_showsPasskey (by decide))
  · intro past g i mirrored
    exact ⟨mirrored.step_iff, mirrored.step_iff.mpr⟩

-- A pairing that goes through.
def pairedOnce : List Input :=
  obligingInputs [.systemBoot, .connectionOpened 1, .smConfirmBonding 1, .smConfirmPasskey 1 123456,
    .smBonded 1]

-- The peer leaves during the check.
def leftDuringCheck : List Input :=
  obligingInputs [.systemBoot, .connectionOpened 1, .smConfirmPasskey 1 123456, .connectionClosed 1]

/-- On the server the flag is still set after the bonding, and the passkey that the client
was shown outlives the connection. -/
theorem passkey_outlives_check :
    (Always SecurityWhileOpen (run exampleDb .server pairedOnce) ∧
      (globals exampleDb .server pairedOnce).bleData.passkeyFlag = true ∧
      ¬ Always (MirrorsPasskey .server) (run exampleDb .server pairedOnce)) ∧
    (Always SecurityWhileOpen (run exampleDb .client leftDuringCheck) ∧
      rowShown .passkey (run exampleDb .client leftDuringCheck) = "Passkey 123456" ∧
      ¬ Always (MirrorsPasskey .client) (run exampleDb .client leftDuringCheck)) := by
  have flag : (globals exampleDb .server pairedOnce).bleData.passkeyFlag = true := by decide +kernel
  have row : rowShown .passkey (run exampleDb .client leftDuringCheck) = "Passkey 123456" := by
    decide +kernel
  refine ⟨⟨by decide +kernel, flag, fun mirrors => ?_⟩, by decide +kernel, row, fun mirrors => ?_⟩
  · have last := mirrors _ _ [] (run_concat _ (pairedOnce.take 4))
    have asked := last.flag.mp flag
    rw [asked_concat (fun _ => rfl) fun _ => rfl] at asked
    exact Bool.noConfusion asked.1
  · have last := mirrors _ _ [] (run_concat _ (leftDuringCheck.take 3))
    have asked := last.row ⟨123456, row.trans (by decide +kernel)⟩
    rw [asked_concat (fun _ => rfl) fun _ => rfl] at asked
    exact Bool.noConfusion asked.1

end BleRemote.System
