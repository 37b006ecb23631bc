import BleRemote.Device.Board
import BleRemote.Server.Cases

/-! From the keys to the attribute: which key signals reach `button_state_to_gatt`, and
whether the attribute settles on the state of the keys. -/

set_option autoImplicit false
namespace BleRemote.Server

open Reactive Stack Device

variable (db : GattDb)

/-! ## One event -/

/-- A key signal on a subscribed connection writes the code of the pins. -/
def KeysPassed (t : Handled) : Prop :=
  match t.msg with
  | .systemExternalSignal extsignals =>
    t.before.bleData.okToSendHtmNotif = true →
      extsignals &&& (evtButtonEvenPressed ||| evtButtonOddPressed) ≠ 0 →
      ∃ status, (writeButton db (keyCode t.input.env.pinHigh), status) ∈ t.output.calls
  | _ => True

/-- The signals of the two handlers are not delivered together on a subscribed connection. -/
def NotMerged (t : Handled) : Prop :=
  match t.msg with
  | .systemExternalSignal extsignals =>
    t.before.bleData.okToSendHtmNotif = true →
      extsignals ≠ evtButtonEvenPressed ||| evtButtonOddPressed
  | _ => True

theorem keysPassed_iff {level : GpioPin → Bool} {happenings : List Happening} {t : Handled}
    (member : t ∈ events (boardRun db .server level happenings)) :
    KeysPassed db t ↔ NotMerged t := by
  have keypad {extsignals : UInt32} (signal : t.msg = .systemExternalSignal extsignals) :=
    events_signals member signal
  obtain ⟨inputs, ⟨env, msg⟩, rfl⟩ := events_reached member
  generalize globals db .server inputs = g at *
  cases msg
  case systemExternalSignal extsignals =>
    constructor
    -- the merged word is equal to neither of the two bits
    · intro passed subscribed merged
      obtain ⟨status, wrote⟩ := passed subscribed (by rw [merged]; decide)
      rcases (signal_of_write db g _ wrote).2 with even | odd
      · exact absurd (even.symm.trans merged) (by decide)
      · exact absurd (odd.symm.trans merged) (by decide)
    · intro apart subscribed _
      have signal : KeySignal g.bleData (.systemExternalSignal extsignals) := by
        refine ⟨subscribed, ?_⟩
        rcases keypad rfl with even | odd | both
        · exact .inl even
        · exact .inr odd
        · exact absurd both (apart subscribed)
      refine ⟨env.status (writeButton db (keyCode env.pinHigh)), ?_⟩
      rw [handled_output, step_calls_of_key db g _ signal, buttonStateToGatt_calls]
      exact List.mem_cons_self
  all_goals exact Iff.rfl

/-! ## Whole runs -/

def keyEdge (m : Happened) : Bool :=
  match m.input with
  | .edge pin => decide (pin = keypadGpioPin3 ∨ pin = keypadGpioPin4)
  | _ => false

def sinceEnabled (h : List Happened) : List Happened :=
  sinceLast (fun m => !m.before.globals.bleData.okToSendHtmNotif) h

/-- A key has changed since notifications were enabled, and no interrupt or signal is
pending any more. -/
def Settled (h : List Happened) (b : Board) : Prop :=
  b.globals.bleData.okToSendHtmNotif = true ∧ (∃ m ∈ sinceEnabled h, keyEdge m = true) ∧
    gpioIntGetEnabled b.gpio = 0 ∧ b.signals = 0

def isAttributeWrite : Call → Bool
  | .gattServerWriteAttributeValue .. => true
  | _ => false

def WritesAccepted (h : List Happened) : Prop :=
  ∀ c ∈ commands (events h), isAttributeWrite c.1 = true → c.2 = statusOk

def Current (h : List Happened) (b : Board) : Prop :=
  (written db.buttonInput (commands (events h))).getLast? = some [keyCode b.gpio.level]

/-- The attribute is current, or an interrupt or a signal that will make it so is pending. -/
def Tracked (h : List Happened) (b : Board) : Prop :=
  gpioIntGetEnabled b.gpio ≠ 0 ∨ b.signals ≠ 0 ∨ Current db h b

variable (level : GpioPin → Bool)

theorem keyCode_edge (gpio : Gpio) {pin : GpioPin}
    (other : ¬ (pin = keypadGpioPin3 ∨ pin = keypadGpioPin4)) :
    keyCode (gpio.edge pin).level = keyCode gpio.level := by
  have odd : (gpio.edge pin).level keypadGpioPin3 = gpio.level keypadGpioPin3 :=
    Function.update_of_ne (fun same => other (.inl same.symm)) _ _
  have even : (gpio.edge pin).level keypadGpioPin4 = gpio.level keypadGpioPin4 :=
    Function.update_of_ne (fun same => other (.inr same.symm)) _ _
  unfold keyCode
  rw [odd, even]

theorem Current.of_quiet {db : GattDb} {h recent : List Happened} {b b' : Board}
    (current : Current db h b) (quiet : written db.buttonInput (commands (events recent)) = [])
    (same : keyCode b'.gpio.level = keyCode b.gpio.level) : Current db (h ++ recent) b' := by
  unfold Current at current ⊢
  rw [events_append, commands_append, written_append, quiet, List.append_nil, current, same]

theorem current_of_signal {h : List Happened} {b : Board} {happening : Happening} {i : Input}
    (deals : b.handles happening = some i) (levels : i.env.pinHigh = b.gpio.level)
    (kept : (b.step db .server happening).1.gpio.level = b.gpio.level)
    (signal : KeySignal b.globals.bleData i.msg)
    (accepted : WritesAccepted (h ++ [(board db .server level).moment b happening])) :
    Current db (h ++ [(board db .server level).moment b happening])
      (b.step db .server happening).1 := by
  have ok : i.env.status (writeButton db (keyCode i.env.pinHigh)) = statusOk := by
    refine accepted (writeButton db (keyCode i.env.pinHigh), _) ?_ rfl
    rw [events_append, commands_append, commands_moment, deals, Option.elim_some,
      step_calls_of_key db _ i signal, buttonStateToGatt_calls]
    exact List.mem_append_right _ List.mem_cons_self
  unfold Current
  rw [events_append, commands_append, commands_moment, deals, Option.elim_some, written_append,
    step_written, if_pos ⟨signal, ok⟩, kept, ← levels, List.getLast?_concat]

theorem tracked_concat {h : List Happened} {b : Board} (happening : Happening)
    (configured : b.gpio.config = initConfig) (keypad : b.signals ||| 3 = 3)
    (subscribed : b.globals.bleData.okToSendHtmNotif = true)
    (apart : ∀ t ∈ events [(board db .server level).moment b happening], NotMerged t)
    (accepted : WritesAccepted (h ++ [(board db .server level).moment b happening]))
    (tracked : keyEdge ((board db .server level).moment b happening) = false → Tracked db h b) :
    Tracked db (h ++ [(board db .server level).moment b happening])
      (b.step db .server happening).1 := by
  cases happening with
  | edge pin =>
    by_cases key : pin = keypadGpioPin3 ∨ pin = keypadGpioPin4
    · exact .inl (Gpio.edge_raises configured (key.imp_right .inl))
    · rcases tracked (decide_eq_false key) with pending | signalled | current
      · exact .inl (Gpio.edge_pending pin pending)
      · exact .inr (.inl signalled)
      · exact .inr (.inr (current.of_quiet rfl (keyCode_edge b.gpio key)))
  -- a handler clears interrupts, and leaves its signal pending
  | evenIrq => exact .inr (.inl (signalled_ne_zero (by decide)))
  | oddIrq => exact .inr (.inl (signalled_ne_zero (by decide)))
  | deliverSignals env =>
    by_cases none : b.signals = 0
    · rcases tracked rfl with pending | signalled | current
      · exact .inl pending
      · exact absurd none signalled
      · refine .inr (.inr (current.of_quiet ?_ rfl))
        simp [commands_moment, Board.handles, none, written]
    -- something is delivered: by the guard it is one bit alone, so a key signal
    · have deals : b.handles (.deliverSignals env) =
          some ⟨{ env with pinHigh := b.gpio.level }, .systemExternalSignal b.signals⟩ := if_neg none
      have signal : KeySignal b.globals.bleData (.systemExternalSignal b.signals) := by
        refine ⟨subscribed, ?_⟩
        rcases keypad_signals keypad none with even | odd | both
        · exact .inl even
        · exact .inr odd
        · rw [events_moment, deals] at apart
          have notMerged := apart _ (List.mem_singleton_self _)
          exact absurd both (notMerged subscribed)
      exact .inr (.inr (current_of_signal db level deals rfl rfl signal accepted))
  -- any other event leaves pins, interrupts and signals as they are
  | event env msg foreign =>
    rcases tracked rfl with pending | signalled | current
    · exact .inl pending
    · exact .inr (.inl signalled)
    · refine .inr (.inr (current.of_quiet ?_ rfl))
      have silent : ¬ KeySignal b.globals.bleData msg := fun signal =>
        signal.external.elim foreign
      rw [commands_moment, Board.handles, Option.elim_some]
      exact (step_calls_of_not_key db b.globals _ silent).1

theorem tracked_run (happenings : List Happening)
    (apart : ∀ t ∈ events (boardRun db .server level happenings), NotMerged t)
    (accepted : WritesAccepted (boardRun db .server level happenings))
    (subscribed : (boardAfter db .server level happenings).globals.bleData.okToSendHtmNotif = true)
    (changed : ∃ m ∈ sinceEnabled (boardRun db .server level happenings), keyEdge m = true) :
    Tracked db (boardRun db .server level happenings) (boardAfter db .server level happenings) := by
  induction happenings using List.reverseRecOn with
  | nil => exact absurd subscribed Bool.false_ne_true
  | append_singleton happenings happening ih =>
    have configured : (boardAfter db .server level happenings).gpio.config = initConfig :=
      boardAfter_config happenings
    have keypad : (boardAfter db .server level happenings).signals ||| 3 = 3 :=
      boardAfter_signals happenings
    rw [boardRun_concat] at apart accepted changed ⊢
    rw [boardAfter_concat] at subscribed ⊢
    rw [sinceEnabled, sinceLast_concat] at changed
    split_ifs at changed with disabled
    · simp at changed
    · have enabled : (boardAfter db .server level happenings).globals.bleData.okToSendHtmNotif =
          true := by simpa [Machine.moment] using disabled
      rw [events_append] at apart
      -- a step that is no key edge leaves the last change in the past
      refine tracked_concat db level happening configured keypad enabled
        (fun t member => apart t (List.mem_append_right _ member)) accepted fun elsewhere => ?_
      refine ih (fun t member => apart t (List.mem_append_left _ member)) (fun c member => ?_)
        enabled ?_
      · apply accepted c
        rw [events_append, commands_append]
        exact List.mem_append_left _ member
      · obtain ⟨m, member, edge⟩ := changed
        rcases List.mem_append.mp member with earlier | last
        · exact ⟨m, earlier, edge⟩
        · rw [List.mem_singleton.mp last, elsewhere] at edge
          cases edge

/-- On every board, each key signal on a subscribed connection is passed on and the
attribute settles on the state of the keys, exactly when the signals of the two
handlers are never delivered together there. -/
theorem keys_passed_iff (happenings : List Happening) :
    ((∀ t ∈ events (boardRun db .server level happenings), KeysPassed db t) ∧
        ∀ first rest, happenings = first ++ rest →
          WritesAccepted (boardRun db .server level first) →
          Settled (boardRun db .server level first) (boardAfter db .server level first) →
          Current db (boardRun db .server level first) (boardAfter db .server level first)) ↔
      ∀ t ∈ events (boardRun db .server level happenings), NotMerged t := by
  constructor
  · intro ⟨passed, _⟩ t member
    exact (keysPassed_iff db member).mp (passed t member)
  · intro apart
    refine ⟨fun t member => (keysPassed_iff db member).mpr (apart t member), ?_⟩
    rintro first rest rfl accepted ⟨subscribed, changed, idle, empty⟩
    have earlier : ∀ t ∈ events (boardRun db .server level first), NotMerged t := by
      intro t member
      apply apart t
      rw [boardRun, (board db .server level).history_append, events_append]
      exact List.mem_append_left _ member
    rcases tracked_run db level first earlier accepted subscribed changed with
      pending | signalled | current
    · exact absurd idle pending
    · exact absurd empty signalled
    · exact current

def bothPressed : List Happening :=
  connected ++
    [.event (obliging fun _ => true) (.gattServerCharacteristicStatus
        ⟨1, 21, gattServerClientConfig, gattNotification.toUInt16⟩) fun _ => Msg.noConfusion,
      .edge keypadGpioPin3, .oddIrq, .edge keypadGpioPin4, .evenIrq,
      .deliverSignals (obliging fun _ => true)]

theorem both_pressed_lost :
    let h := boardRun exampleDb .server (fun _ => true) bothPressed
    let b := boardAfter exampleDb .server (fun _ => true) bothPressed
    (∃ past t, events h = past ++ [t] ∧ t.msg = .systemExternalSignal 3 ∧
        t.before.bleData.okToSendHtmNotif = true ∧ ¬ KeysPassed exampleDb t) ∧
      WritesAccepted h ∧ Settled h b ∧ keyCode b.gpio.level = 1 ∧
      written 21 (commands (events h)) = [] ∧ ¬ Current exampleDb h b := by
  let b := boardAfter exampleDb .server (fun _ => true) (bothPressed.take 7)
  let t := handled exampleDb .server b.globals
    ⟨{ obliging fun _ => true with pinHigh := b.gpio.level }, .systemExternalSignal b.signals⟩
  refine ⟨⟨events (boardRun exampleDb .server (fun _ => true) (bothPressed.take 7)), t,
    rfl, rfl, by decide +kernel, fun passed => ?_⟩, ?_, ?_, by decide +kernel, by decide +kernel, ?_⟩
  · obtain ⟨status, wrote⟩ := passed (by decide +kernel) (by decide +kernel)
    have none : t.output.calls = [] := by decide +kernel
    rw [none] at wrote
    cases wrote
  · unfold WritesAccepted
    decide +kernel
  · unfold Settled
    decide +kernel
  · unfold Current
    decide +kernel

end BleRemote.Server
