import BleRemote.Reactive.Observer
import BleRemote.System.Passkey

/-! How often the check of a passkey is answered, counted over a run. -/

set_option autoImplicit false
namespace BleRemote.System

open Reactive Stack Device

/-! ## Checks and answers -/

def isPasskeyCheck : Msg → Bool
  | .smConfirmPasskey .. => true
  | _ => false

/-- The checks that the security manager has asked for. -/
def checks (h : List Handled) : Nat := h.countP fun t => isPasskeyCheck t.msg

/-- The answers that the stack has accepted. -/
def confirmed (h : List Handled) : Nat :=
  (commands h).countP fun c => isPasskeyConfirm c.1 && c.2 == statusOk

def AnsweredOnce (past : List Handled) (t : Handled) : Prop :=
  confirmed (past ++ [t]) ≤ checks (past ++ [t])

instance (past : List Handled) (t : Handled) : Decidable (AnsweredOnce past t) :=
  inferInstanceAs (Decidable (_ ≤ _))

/-- The guard lets the signal through and the stack would accept the answer. -/
def AcceptedPress (role : Role) (t : Handled) : Prop :=
  ConfirmSignal role t.input.env.pinHigh t.before.bleData t.msg ∧
    t.input.env.status (confirmCall role t.before.bleData) = statusOk

instance (role : Role) (t : Handled) : Decidable (AcceptedPress role t) :=
  inferInstanceAs (Decidable (_ ∧ _))

theorem AcceptedPress.not_check {role : Role} {t : Handled} (press : AcceptedPress role t) :
    isPasskeyCheck t.msg = false := by
  have confirm := press.1
  cases msg : t.msg <;> rw [msg] at confirm
  case systemExternalSignal => rfl
  all_goals cases confirm

/-- Checks that no accepted press has used up. -/
def outstandingObserver (role : Role) : Observer Handled Nat where
  start := 0
  observe n t :=
    if AcceptedPress role t then n - 1 else if isPasskeyCheck t.msg = true then n + 1 else n

def outstanding (role : Role) (h : List Handled) : Nat := (outstandingObserver role).seen h

theorem outstanding_concat (role : Role) (h : List Handled) (t : Handled) :
    outstanding role (h ++ [t]) =
      if AcceptedPress role t then outstanding role h - 1
      else if isPasskeyCheck t.msg = true then outstanding role h + 1 else outstanding role h :=
  (outstandingObserver role).seen_concat h t

def FindsCheck (role : Role) (past : List Handled) (t : Handled) : Prop :=
  AcceptedPress role t → 0 < outstanding role past

theorem checks_concat (h : List Handled) (t : Handled) :
    checks (h ++ [t]) = checks h + if isPasskeyCheck t.msg = true then 1 else 0 := by
  rw [checks, List.countP_append, List.countP_singleton]
  rfl

theorem confirmed_append (first rest : List Handled) :
    confirmed (first ++ rest) = confirmed first + confirmed rest := by
  rw [confirmed, commands_append, List.countP_append]
  rfl

section
variable {db : GattDb} {role : Role} {past : List Handled} {g : Globals} {i : Input}

theorem confirmed_handled : confirmed [handled db role g i] =
    if AcceptedPress role (handled db role g i) then 1 else 0 := by
  have count : confirmed [handled db role g i] =
      ((slBtOnEvent db role g i).2.calls.filter (fun c => isPasskeyConfirm c.1)).countP
        (fun c => c.2 == statusOk) := by
    rw [List.countP_filter]
    simp [confirmed, commands, Bool.and_comm]
  rw [count, step_confirmCalls]
  by_cases confirm : ConfirmSignal role i.env.pinHigh g.bleData i.msg
  · by_cases accepted : i.env.status (confirmCall role g.bleData) = statusOk
    · have press : AcceptedPress role (handled db role g i) := ⟨confirm, accepted⟩
      simp [confirm, press, accepted]
    · have refused : ¬ AcceptedPress role (handled db role g i) := fun press => accepted press.2
      simp [confirm, refused, accepted]
  · have none : ¬ AcceptedPress role (handled db role g i) := fun press => confirm press.1
    simp [confirm, none]

/-- While every press finds a check, the checks are the answered and the outstanding ones. -/
theorem answered_step (balance : confirmed past + outstanding role past = checks past) :
    (AnsweredOnce past (handled db role g i) ↔ FindsCheck role past (handled db role g i)) ∧
      (FindsCheck role past (handled db role g i) →
        confirmed (past ++ [handled db role g i]) + outstanding role (past ++ [handled db role g i]) =
          checks (past ++ [handled db role g i])) := by
  unfold AnsweredOnce FindsCheck
  rw [confirmed_append, confirmed_handled, checks_concat, outstanding_concat]
  by_cases press : AcceptedPress role (handled db role g i)
  · simp only [press, press.not_check, if_true, Bool.false_eq_true, if_false, true_implies]
    omega
  · simp only [press, if_false, false_implies, iff_true, true_implies]
    split <;> omega

end

section
variable {db : GattDb} {role : Role} {g : Globals} {i : Input}

variable (db) in
/-- An answer changes nothing that the guard looks at. -/
theorem ConfirmSignal.again (confirm : ConfirmSignal role i.env.pinHigh g.bleData i.msg) :
    ConfirmSignal role i.env.pinHigh (slBtOnEvent db role g i).1.bleData i.msg ∧
      confirmCall role (slBtOnEvent db role g i).1.bleData = confirmCall role g.bleData := by
  rcases i with ⟨env, msg⟩
  cases msg
  case systemExternalSignal extsignals =>
    cases role with
    | server =>
      rw [Server.step_bleData]
      simpa [handleBleEventServer, ConfirmSignal, Server.ConfirmSignal, confirmCall] using confirm
    | client =>
      rw [Client.step_bleData]
      simpa [Client.handledState, handleBleEventClient, Client.discoveryBleData, ConfirmSignal,
        Client.ConfirmSignal, confirmCall] using confirm
  all_goals cases confirm

/-- One check is enough to answer any number of presses. -/
theorem confirmed_presses (press : AcceptedPress role (handled db role g i)) (n : Nat) :
    confirmed ((firmware db role).history g (List.replicate n i)) = n := by
  induction n generalizing g with
  | zero => rfl
  | succ n ih =>
    obtain ⟨confirm, same⟩ := press.1.again db
    have next : AcceptedPress role (handled db role (slBtOnEvent db role g i).1 i) :=
      ⟨confirm, (congrArg i.env.status same).trans press.2⟩
    have split : (firmware db role).history g (List.replicate (n + 1) i) = [handled db role g i] ++
        (firmware db role).history (slBtOnEvent db role g i).1 (List.replicate n i) := rfl
    rw [split, confirmed_append, confirmed_handled, if_pos press, ih next, Nat.add_comm]

end

-- The button goes down twice while one passkey is shown.
def pressedTwice : List Input :=
  ([.systemBoot, .connectionOpened 1, .smConfirmPasskey 1 123456,
    .systemExternalSignal evtPb0Pressed, .systemExternalSignal evtPb0Pressed] : List Msg).map
      fun msg => ⟨obliging fun _ => false, msg⟩

-- Both edges of one press after the bonding.
def pressedBonded : List Input :=
  ([.systemBoot, .connectionOpened 1, .smConfirmPasskey 1 123456, .smBonded 1,
    .systemExternalSignal evtPb0Pressed, .systemExternalSignal evtPb0Pressed] : List Msg).map
      fun msg => ⟨obliging fun _ => false, msg⟩

end BleRemote.System
