import BleRemote.Server.Cases

/-! The server's notifications of key states against its attribute writes. -/

set_option autoImplicit false
namespace BleRemote.Server

open Reactive Stack Device

def isConfirmation : Msg → Bool
  | .gattServerCharacteristicStatus event => event.statusFlags == gattServerConfirmation
  | _ => false

def isIndication : Call → Bool
  | .gattServerSendIndication .. => true
  | _ => false

/-- What `sl_bt_api.h` says of the stack: a confirmation answers an indication
sent before; notifications are not confirmed. -/
def ConfirmsIndications (h : List Handled) : Prop :=
  Always (fun past t => isConfirmation t.msg = true → ∃ c ∈ commands past, isIndication c.1 = true) h

theorem confirmsIndications_of_none {db : GattDb} {inputs : List Input}
    (none : ∀ i ∈ inputs, isConfirmation i.msg = false) :
    ConfirmsIndications (run db .server inputs) := by
  intro past t rest same confirmation
  obtain ⟨first, i, later, rfl, rfl, rfl⟩ := run_split same
  exact absurd confirmation (by simp [none i])

def keyCodes (h : List Handled) : List UInt8 :=
  h.filterMap fun t =>
    if KeySignal t.before.bleData t.msg then some (keyCode t.input.env.pinHigh) else none

@[simp] theorem keyCodes_nil : keyCodes [] = [] := rfl

theorem keyCodes_concat (h : List Handled) (t : Handled) :
    keyCodes (h ++ [t]) = keyCodes h ++
      if KeySignal t.before.bleData t.msg then [keyCode t.input.env.pinHigh] else [] := by
  simp only [keyCodes, List.filterMap_append, List.filterMap_cons, List.filterMap_nil]
  split_ifs <;> rfl

variable (db : GattDb)

theorem step_no_indication (g : Globals) (i : Input) :
    ∀ c ∈ (slBtOnEvent db .server g i).2.calls, isIndication c.1 = false := by
  rw [step_calls]
  rcases i with ⟨env, msg⟩
  cases msg
  case systemExternalSignal =>
    simp only [handleBleEventServer, serverSystemExternalSignal_calls, buttonStateToGatt_calls,
      writeButton, notifyButton]
    split_ifs <;> simp [isIndication]
  all_goals simp [handleBleEventServer, isIndication]

/-- What a run with an obliging stack has recorded: every key signal is
written, the first alone is notified, and its flight never ends. -/
structure KeyRecord (h : List Handled) (g : Globals) : Prop where
  indications : ∀ c ∈ commands h, isIndication c.1 = false
  writes : written db.buttonInput (commands h) = (keyCodes h).map fun code => [code]
  notifications : notified db.buttonInput (commands h) =
    ((keyCodes h).take 1).map fun code => [code]
  inFlight : g.bleData.notifInFlight = !(keyCodes h).isEmpty

theorem step_notifInFlight_of_unconfirmed (g : Globals) (i : Input)
    (ok : ∀ c, i.env.status c = statusOk) (unconfirmed : isConfirmation i.msg = false) :
    (slBtOnEvent db .server g i).1.bleData.notifInFlight =
      (g.bleData.notifInFlight || decide (KeySignal g.bleData i.msg)) := by
  rw [step_notifInFlight]
  rcases i with ⟨env, msg⟩
  have accepted (c : Call) : env.status c = statusOk := ok c
  cases msg
  case gattServerCharacteristicStatus event =>
    have other : event.statusFlags ≠ gattServerConfirmation := beq_eq_false_iff_ne.mp unconfirmed
    have silent : ¬ KeySignal g.bleData (.gattServerCharacteristicStatus event) := id
    simp only [other, ↓reduceIte, silent, decide_false, Bool.or_false]
  all_goals simp only [accepted, and_true]

theorem keyRecord_run (inputs : List Input)
    (ok : ∀ i ∈ inputs, ∀ c, i.env.status c = statusOk)
    (confirms : ConfirmsIndications (run db .server inputs)) :
    KeyRecord db (run db .server inputs) (globals db .server inputs) := by
  induction inputs using List.reverseRecOn with
  | nil => exact ⟨by simp [run], rfl, rfl, rfl⟩
  | append_singleton inputs i ih =>
    have accepted : ∀ c, i.env.status c = statusOk := ok i (by simp)
    rw [run_concat] at confirms ⊢
    rw [globals_concat]
    obtain ⟨earlier, last⟩ := (always_concat _ _ _).mp confirms
    have record := ih (fun j member => ok j (List.mem_append_left _ member)) earlier
    generalize run db .server inputs = h at *
    generalize globals db .server inputs = g at *
    -- nothing confirms a notification, so the flag is never cleared
    have unconfirmed : isConfirmation i.msg = false := by
      rw [Bool.eq_false_iff]
      intro confirmation
      obtain ⟨c, member, indication⟩ := last confirmation
      rw [record.indications c member] at indication
      cases indication
    -- one key signal at most joins the codes; only the first finds the flag cleared
    constructor
    · intro c member
      rw [commands_concat, List.mem_append] at member
      exact member.elim (record.indications c) (step_no_indication db g i c)
    · rw [commands_concat, written_append, record.writes, keyCodes_concat]
      simp only [handled_output, handled_before, handled_input, handled_msg, step_written, accepted,
        and_true, List.map_append]
      by_cases signal : KeySignal g.bleData i.msg <;> simp [signal]
    · rw [commands_concat, notified_append, record.notifications, keyCodes_concat]
      simp only [handled_output, handled_before, handled_input, handled_msg, step_notified,
        accepted, and_true, record.inFlight]
      cases keyCodes h <;> by_cases signal : KeySignal g.bleData i.msg <;> simp [signal]
    · rw [step_notifInFlight_of_unconfirmed db g i accepted unconfirmed, record.inFlight,
        keyCodes_concat]
      simp only [handled_before, handled_input, handled_msg]
      cases keyCodes h <;> by_cases signal : KeySignal g.bleData i.msg <;> simp [signal]

/-- After the last event of a history the client was sent what the attribute holds. -/
def KeyDelivered (h : List Handled) : Prop :=
  (notified db.buttonInput (commands h)).getLast? = (written db.buttonInput (commands h)).getLast?

instance (h : List Handled) : Decidable (KeyDelivered db h) :=
  inferInstanceAs (Decidable (_ = _))

theorem key_delivered_iff (inputs : List Input)
    (ok : ∀ i ∈ inputs, ∀ c, i.env.status c = statusOk)
    (confirms : ConfirmsIndications (run db .server inputs))
    {past rest : List Handled} {t : Handled}
    (position : run db .server inputs = past ++ t :: rest)
    (signal : KeySignal t.before.bleData t.msg) :
    KeyDelivered db (past ++ [t]) ↔
      (keyCodes (past ++ [t])).head? = some (keyCode t.input.env.pinHigh) := by
  rw [position, List.append_cons] at confirms
  have upto := confirms.of_append
  obtain ⟨first, i, later, rfl, rfl, rfl⟩ := run_split position
  rw [← run_concat] at upto ⊢
  have record := keyRecord_run db (first ++ [i])
    (fun j member => ok j (by simp only [List.mem_append, List.mem_cons] at member ⊢; tauto)) upto
  rw [KeyDelivered, record.writes, record.notifications, run_concat, keyCodes_concat, if_pos signal]
  cases keyCodes (run db .server first) with
  | nil => simp
  | cons code codes => simp [List.getLast?_append, List.getLast?_cons]

def NoKeyLost (past : List Handled) (t : Handled) : Prop :=
  KeySignal t.before.bleData t.msg → KeyDelivered db (past ++ [t])

instance (past : List Handled) (t : Handled) : Decidable (NoKeyLost db past t) :=
  inferInstanceAs (Decidable (_ → _))

def RepeatsFirstKey (past : List Handled) (t : Handled) : Prop :=
  KeySignal t.before.bleData t.msg →
    (keyCodes (past ++ [t])).head? = some (keyCode t.input.env.pinHigh)

instance (past : List Handled) (t : Handled) : Decidable (RepeatsFirstKey past t) :=
  inferInstanceAs (Decidable (_ → _))

def pressAndRelease : List Input :=
  [⟨obliging fun _ => true, .systemBoot⟩,
    ⟨obliging fun _ => true, .connectionOpened 1⟩,
    ⟨obliging fun _ => true, .gattServerCharacteristicStatus
      ⟨1, 21, gattServerClientConfig, gattNotification.toUInt16⟩⟩,
    ⟨obliging fun pin => pin ≠ keypadGpioPin3, .systemExternalSignal evtButtonOddPressed⟩,
    ⟨obliging fun _ => true, .systemExternalSignal evtButtonOddPressed⟩]

theorem pressAndRelease_accepted : ∀ i ∈ pressAndRelease, ∀ c, i.env.status c = statusOk := by
  simp [pressAndRelease, obliging]

theorem pressAndRelease_confirms (db : GattDb) :
    ConfirmsIndications (run db .server pressAndRelease) :=
  confirmsIndications_of_none (by decide +kernel)

end BleRemote.Server
