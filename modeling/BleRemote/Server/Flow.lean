import BleRemote.Reactive.Register
import BleRemote.Server.Notifications
import Mathlib.Data.List.Flatten

/-! Flow control of the key notifications: one between two confirmations, each the value
written by the same event. -/

set_option autoImplicit false
namespace BleRemote.Server

open Reactive Stack Device

variable (db : GattDb)

/-! ## Values sent and passed -/

def sentValue : Call × Status → Option (List UInt8)
  | (.gattServerSendNotification _ _ value, status) => if status = statusOk then some value else none
  | _ => none

/-- The values of the notifications that an event sent with success. -/
def sent (t : Handled) : List (List UInt8) := t.output.calls.filterMap sentValue

def passedValue : Call × Status → Option (List UInt8)
  | (.gattServerWriteAttributeValue handle _ value, _) =>
    if handle = db.buttonInput then some value else none
  | _ => none

/-- The values an event passed for the key attribute, accepted or not. -/
def passed (t : Handled) : List (List UInt8) := t.output.calls.filterMap (passedValue db)

@[simp] theorem sentValue_write (button : UInt8) (status : Status) :
    sentValue (writeButton db button, status) = none := rfl

@[simp] theorem sentValue_notify (connection button : UInt8) (status : Status) :
    sentValue (notifyButton db connection button, status) =
      if status = statusOk then some [button] else none := rfl

@[simp] theorem passedValue_write (button : UInt8) (status : Status) :
    passedValue db (writeButton db button, status) = some [button] := if_pos rfl

@[simp] theorem passedValue_notify (connection button : UInt8) (status : Status) :
    passedValue db (notifyButton db connection button, status) = none := rfl

variable (g : Globals) (i : Input)

theorem step_calls_silent (silent : ¬ KeySignal g.bleData i.msg) :
    ∀ c ∈ (slBtOnEvent db .server g i).2.calls, sentValue c = none ∧ passedValue db c = none := by
  rw [step_calls]
  rcases i with ⟨env, msg⟩
  cases msg
  case systemExternalSignal extsignals =>
    simp only [handleBleEventServer, serverSystemExternalSignal_calls, if_neg silent,
      List.append_nil]
    split_ifs <;> simp [sentValue, passedValue]
  all_goals simp [handleBleEventServer, sentValue, passedValue]

theorem step_sent : sent (handled db .server g i) =
    if KeySignal g.bleData i.msg ∧ g.bleData.notifInFlight = false ∧
      i.env.status (notifyButton db g.bleData.connectionHandle (keyCode i.env.pinHigh)) = statusOk
    then [[keyCode i.env.pinHigh]] else [] := by
  unfold sent
  rw [handled_output]
  by_cases signal : KeySignal g.bleData i.msg
  · rw [step_calls_of_key db g i signal, buttonStateToGatt_calls]
    simp only [signal, true_and]
    by_cases free : g.bleData.notifInFlight = false
    · by_cases ok : i.env.status
          (notifyButton db g.bleData.connectionHandle (keyCode i.env.pinHigh)) = statusOk <;>
        simp [free, ok, List.filterMap_cons]
    · simp [free]
  · simp only [signal, false_and, ↓reduceIte, List.filterMap_eq_nil_iff]
    exact fun c member => (step_calls_silent db g i signal c member).1

theorem step_passed : passed db (handled db .server g i) =
    if KeySignal g.bleData i.msg then [[keyCode i.env.pinHigh]] else [] := by
  unfold passed
  rw [handled_output]
  split_ifs with signal
  · rw [step_calls_of_key db g i signal, buttonStateToGatt_calls]
    split_ifs <;> simp
  · rw [List.filterMap_eq_nil_iff]
    exact fun c member => (step_calls_silent db g i signal c member).2

theorem sent_sublist_passed :
    (sent (handled db .server g i)).Sublist (passed db (handled db .server g i)) := by
  rw [step_sent, step_passed]
  by_cases signal : KeySignal g.bleData i.msg
  · rw [if_pos signal]
    split_ifs
    · exact List.Sublist.refl _
    · exact List.nil_sublist _
  · rw [if_neg (fun both => signal both.1)]
    exact List.nil_sublist _

/-! ## The flag -/

theorem sent_of_confirmation (confirmation : isConfirmation i.msg = true) :
    sent (handled db .server g i) = [] := by
  rw [step_sent, if_neg]
  rintro ⟨signal, -⟩
  obtain ⟨extsignals, same⟩ := signal.external
  rw [same] at confirmation
  cases confirmation

theorem step_flight : (slBtOnEvent db .server g i).1.bleData.notifInFlight =
    (if isConfirmation i.msg then some false else
      if sent (handled db .server g i) ≠ [] then some true else none).getD
        g.bleData.notifInFlight := by
  rw [step_notifInFlight, step_sent]
  rcases i with ⟨env, msg⟩
  cases msg
  case gattServerCharacteristicStatus event =>
    by_cases confirmation : event.statusFlags = gattServerConfirmation <;>
      simp [isConfirmation, KeySignal, confirmation]
  case systemExternalSignal extsignals =>
    -- a signal sends unless a notification is in flight
    by_cases signal : KeySignal g.bleData (.systemExternalSignal extsignals)
    · cases flight : g.bleData.notifInFlight <;>
        simp [isConfirmation, signal]
      split_ifs <;> simp_all
    · simp [isConfirmation, signal]
  all_goals simp [isConfirmation, KeySignal]

/-- `notif_in_flight`: a confirmation clears it and a notification sets it. -/
def flightRegister : Register (firmware db .server) Bool where
  read g := g.bleData.notifInFlight
  write t := if isConfirmation t.input.msg then some false else if sent t ≠ [] then some true else none
  step g i := step_flight db g i

/-! ## Whole runs -/

theorem unconfirmed_of_sent {inputs : List Input} {t : Handled} (member : t ∈ run db .server inputs)
    (sends : sent t ≠ []) : isConfirmation t.msg = false := by
  obtain ⟨past, rest, same⟩ := List.append_of_mem member
  obtain ⟨first, i, later, rfl, rfl, rfl⟩ := run_split same
  rw [← Bool.not_eq_true]
  exact fun confirmation => sends (sent_of_confirmation db _ i confirmation)

theorem inFlight_iff (inputs : List Input) :
    (globals db .server inputs).bleData.notifInFlight = true ↔
      ∃ t ∈ sinceLast (fun t => isConfirmation (Handled.msg t)) (run db .server inputs),
        sent t ≠ [] := by
  have flag := (flightRegister db).read_flag (s := .reset) rfl inputs
  have clears : (fun t => (flightRegister db).write t == some false) =
      fun t => isConfirmation (Handled.msg t) := by
    funext t
    unfold flightRegister Handled.msg
    cases confirmation : isConfirmation t.input.msg <;> by_cases silent : sent t = [] <;>
      simp [confirmation, silent]
  rw [clears] at flag
  apply flag.trans
  apply exists_congr
  intro t
  apply and_congr_right
  intro member
  constructor
  · intro set silent
    unfold flightRegister at set
    cases confirmation : isConfirmation t.input.msg <;> simp [confirmation, silent] at set
  · intro sends
    have recent := (sinceLast_suffix _ _).subset member
    have confirmation : isConfirmation t.input.msg = false := unconfirmed_of_sent db recent sends
    simp [flightRegister, confirmation, sends]

theorem confirmation_between {inputs : List Input} {past between rest : List Handled}
    {t u : Handled} (same : run db .server inputs = past ++ t :: (between ++ u :: rest))
    (first : sent t ≠ []) (second : sent u ≠ []) :
    ∃ m ∈ between, isConfirmation m.msg = true := by
  have unconfirmed := unconfirmed_of_sent db (by rw [same]; simp) first
  rw [← List.cons_append, ← List.append_assoc] at same
  obtain ⟨inputs, i, later, rfl, before, rfl⟩ := run_split same
  -- the second notification finds the flag cleared, which the first one had set
  have cleared : (globals db .server inputs).bleData.notifInFlight = false := by
    rw [step_sent] at second
    by_contra flight
    simp [flight] at second
  by_contra unanswered
  have later : ∀ m ∈ between, isConfirmation (Handled.msg m) = false := by
    intro m member
    rw [← Bool.not_eq_true]
    exact fun confirmation => unanswered ⟨m, member, confirmation⟩
  have set := (inFlight_iff db inputs).mpr
    ⟨t, by rw [← before]; exact sinceLast_cons past unconfirmed later, first⟩
  exact Bool.false_ne_true (cleared.symm.trans set)

theorem sent_of_run {inputs : List Input} {t : Handled} (member : t ∈ run db .server inputs) :
    (sent t).Sublist (passed db t) ∧ (sent t).length ≤ 1 := by
  obtain ⟨past, rest, same⟩ := List.append_of_mem member
  obtain ⟨first, i, later, rfl, rfl, rfl⟩ := run_split same
  refine ⟨sent_sublist_passed db _ i, ?_⟩
  rw [step_sent]
  split_ifs <;> simp

/-- The notifications of every run: each event sends one at most, of a value it passed for
the key attribute; between two there is a confirmation; the flag says whether one was sent
since the last confirmation; and all together they are a subsequence of the values passed. -/
theorem notification_flow (inputs : List Input) :
    (∀ past t between u rest, run db .server inputs = past ++ t :: (between ++ u :: rest) →
      sent t ≠ [] → sent u ≠ [] → ∃ m ∈ between, isConfirmation m.msg = true) ∧
    ((globals db .server inputs).bleData.notifInFlight = true ↔
      ∃ t ∈ sinceLast (fun t => isConfirmation (Handled.msg t)) (run db .server inputs),
        sent t ≠ []) ∧
    (∀ t ∈ run db .server inputs, (sent t).Sublist (passed db t) ∧ (sent t).length ≤ 1) ∧
    ((run db .server inputs).flatMap sent).Sublist
      ((run db .server inputs).flatMap (passed db)) := by
  refine ⟨fun past t between u rest same first second => ?_, inFlight_iff db inputs,
    fun t member => sent_of_run db member, ?_⟩
  · exact confirmation_between db same first second
  · exact List.Sublist.flatMap_right _ fun t member => (sent_of_run db member).1

end BleRemote.Server
