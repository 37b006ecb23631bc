import BleRemote.Device.Gpio
import BleRemote.Device.Trace
import Mathlib.Tactic.SplitIfs

/-! One board: its pins and interrupts, the signals the stack has not delivered yet,
and the firmware that the event loop calls. Edges, interrupt handlers and events
happen one at a time, in any order. -/

set_option autoImplicit false
namespace BleRemote.Device

open Reactive Stack

structure Board where
  gpio : Gpio
  /-- The bits `sl_bt_external_signal` has collected since they were last delivered. -/
  signals : UInt32
  globals : Globals

/-- The board when the stack boots: `app_init` has run. -/
def Board.start (level : GpioPin → Bool) : Board := ⟨gpioInit (gpioReset level), 0, .reset⟩

/-- What can happen next. The environments stand for what the stack answers; the
pin levels are the board's own. External signals come from the board alone. -/
inductive Happening where
  | edge (pin : GpioPin)
  | evenIrq
  | oddIrq
  | deliverSignals (env : Env)
  | event (env : Env) (msg : Msg) (foreign : ∀ extsignals, msg ≠ .systemExternalSignal extsignals)

def connected : List Happening :=
  [.event (obliging fun _ => true) .systemBoot fun _ => Msg.noConfusion,
    .event (obliging fun _ => true) (.connectionOpened 1) fun _ => Msg.noConfusion]

namespace Board

/-- The event that the firmware handles, if any. Signals are delivered all at once,
and only when there are some. -/
def handles (b : Board) : Happening → Option Input
  | .deliverSignals env =>
    if b.signals = 0 then none
    else some ⟨{ env with pinHigh := b.gpio.level }, .systemExternalSignal b.signals⟩
  | .event env msg _ => some ⟨{ env with pinHigh := b.gpio.level }, msg⟩
  | _ => none

def hardware (b : Board) : Happening → Gpio × UInt32
  | .edge pin => (b.gpio.edge pin, b.signals)
  | .evenIrq => gpioEvenIrqHandler b.gpio b.signals
  | .oddIrq => gpioOddIrqHandler b.gpio b.signals
  | .deliverSignals _ => (b.gpio, 0)
  | .event .. => (b.gpio, b.signals)

def step (db : GattDb) (role : Role) (b : Board) (happening : Happening) : Board × Option Handled :=
  (⟨(b.hardware happening).1, (b.hardware happening).2,
      (b.handles happening).elim b.globals fun i => (slBtOnEvent db role b.globals i).1⟩,
    (b.handles happening).map fun i => handled db role b.globals i)

end Board

def board (db : GattDb) (role : Role) (level : GpioPin → Bool) :
    Machine Board Happening (Option Handled) :=
  ⟨.start level, Board.step db role⟩

abbrev Happened := Moment Board Happening (Option Handled)

def boardRun (db : GattDb) (role : Role) (level : GpioPin → Bool) (happenings : List Happening) :
    List Happened :=
  (board db role level).history (.start level) happenings

def boardAfter (db : GattDb) (role : Role) (level : GpioPin → Bool) (happenings : List Happening) :
    Board :=
  (board db role level).after (.start level) happenings

def events (h : List Happened) : List Handled := h.filterMap Moment.output

@[simp] theorem events_nil : events [] = [] := rfl

theorem events_append (first rest : List Happened) :
    events (first ++ rest) = events first ++ events rest := List.filterMap_append

section
variable {db : GattDb} {role : Role} {level : GpioPin → Bool}

theorem boardRun_concat (happenings : List Happening) (happening : Happening) :
    boardRun db role level (happenings ++ [happening]) = boardRun db role level happenings ++
      [(board db role level).moment (boardAfter db role level happenings) happening] :=
  (board db role level).history_concat _ _ _

theorem boardAfter_concat (happenings : List Happening) (happening : Happening) :
    boardAfter db role level (happenings ++ [happening]) =
      (Board.step db role (boardAfter db role level happenings) happening).1 :=
  (board db role level).after_concat _ _ _

theorem step_config (b : Board) (happening : Happening) :
    (b.step db role happening).1.gpio.config = b.gpio.config := by
  cases happening <;> rfl

theorem boardAfter_config (happenings : List Happening) :
    (boardAfter db role level happenings).gpio.config = initConfig := by
  refine (board db role level).invariant (P := fun _ b => b.gpio.config = initConfig)
    (gpioInit_config level) ?_ happenings
  intro _ b happening configured
  exact (step_config b happening).trans configured

theorem boardAfter_signals (happenings : List Happening) :
    (boardAfter db role level happenings).signals ||| 3 = 3 := by
  have none : (0 : UInt32) ||| 3 = 3 := by decide
  refine (board db role level).invariant (P := fun _ b => b.signals ||| 3 = 3) none ?_ happenings
  intro _ b happening keypad
  cases happening with
  | evenIrq =>
    change (_ ||| evtButtonEvenPressed) ||| 3 = 3
    rw [UInt32.or_assoc]
    exact keypad
  | oddIrq =>
    change (_ ||| evtButtonOddPressed) ||| 3 = 3
    rw [UInt32.or_assoc]
    exact keypad
  | deliverSignals => exact none
  | edge | event => exact keypad

theorem events_moment (b : Board) (happening : Happening) :
    events [(board db role level).moment b happening] =
      ((b.handles happening).map fun i => handled db role b.globals i).toList := by
  cases deals : b.handles happening <;>
    simp [events, Machine.moment, board, Board.step, deals]

theorem commands_moment (b : Board) (happening : Happening) :
    commands (events [(board db role level).moment b happening]) =
      (b.handles happening).elim [] fun i => (slBtOnEvent db role b.globals i).2.calls := by
  rw [events_moment]
  cases b.handles happening <;> simp [commands]

theorem handles_signal {b : Board} {happening : Happening} {i : Input} {extsignals : UInt32}
    (deals : b.handles happening = some i) (signal : i.msg = .systemExternalSignal extsignals) :
    b.signals = extsignals ∧ extsignals ≠ 0 ∧ i.env.pinHigh = b.gpio.level := by
  cases happening with
  | deliverSignals env =>
    unfold Board.handles at deals
    split_ifs at deals with empty
    obtain rfl := Option.some.inj deals
    obtain rfl := Msg.systemExternalSignal.inj signal
    exact ⟨rfl, empty, rfl⟩
  | event env msg foreign =>
    obtain rfl := Option.some.inj deals
    exact absurd signal (foreign extsignals)
  | edge | evenIrq | oddIrq => cases deals

variable (db role level) in
theorem events_run (happenings : List Happening) : ∃ inputs,
    events (boardRun db role level happenings) = run db role inputs ∧
      (boardAfter db role level happenings).globals = globals db role inputs := by
  induction happenings using List.reverseRecOn with
  | nil => exact ⟨[], rfl, rfl⟩
  | append_singleton happenings happening ih =>
    obtain ⟨inputs, ran, reached⟩ := ih
    rw [boardRun_concat, boardAfter_concat, events_append, ran]
    cases deals : (boardAfter db role level happenings).handles happening with
    | none =>
      refine ⟨inputs, ?_, ?_⟩
      · rw [events_moment, deals, Option.map_none, Option.toList_none, List.append_nil]
      · rw [← reached, Board.step, deals, Option.elim_none]
    | some i =>
      refine ⟨inputs ++ [i], ?_, ?_⟩
      · rw [run_concat, ← reached, events_moment, deals, Option.map_some, Option.toList_some]
      · rw [globals_concat, ← reached, Board.step, deals, Option.elim_some]

theorem events_reached {happenings : List Happening} {t : Handled}
    (member : t ∈ events (boardRun db role level happenings)) :
    ∃ inputs i, t = handled db role (globals db role inputs) i := by
  obtain ⟨inputs, ran, -⟩ := events_run db role level happenings
  rw [ran] at member
  obtain ⟨past, rest, position⟩ := List.append_of_mem member
  obtain ⟨first, i, later, -, -, handles⟩ := run_split position
  exact ⟨first, i, handles⟩

theorem signalled_ne_zero {signals bits : UInt32} (some : bits ≠ 0) :
    slBtExternalSignal bits signals ≠ 0 :=
  fun none => some (UInt32.or_eq_zero_iff.mp none).2

theorem keypad_signals {signals : UInt32} (keypad : signals ||| 3 = 3) (some : signals ≠ 0) :
    signals = 1 ∨ signals = 2 ∨ signals = 3 := by
  have bound : signals.toNat ≤ 3 :=
    Nat.le_trans Nat.left_le_or (Nat.le_of_eq (congrArg UInt32.toNat keypad))
  have positive : signals.toNat ≠ 0 := fun zero => some (UInt32.toNat_inj.mp zero)
  have cases : signals.toNat = 1 ∨ signals.toNat = 2 ∨ signals.toNat = 3 := by omega
  exact cases.imp UInt32.toNat_inj.mp (Or.imp UInt32.toNat_inj.mp UInt32.toNat_inj.mp)

-- An external signal event carries a keypad bit, and no other.
theorem events_signals {happenings : List Happening} {t : Handled}
    (member : t ∈ events (boardRun db role level happenings)) {extsignals : UInt32}
    (signal : t.msg = .systemExternalSignal extsignals) :
    extsignals = 1 ∨ extsignals = 2 ∨ extsignals = 3 := by
  induction happenings using List.reverseRecOn with
  | nil => cases member
  | append_singleton happenings happening ih =>
    rw [boardRun_concat, events_append, List.mem_append] at member
    apply member.elim ih
    intro last
    have keypad : (boardAfter db role level happenings).signals ||| 3 = 3 :=
      boardAfter_signals happenings
    rw [events_moment, Option.mem_toList, Option.map_eq_some_iff] at last
    obtain ⟨i, deals, rfl⟩ := last
    obtain ⟨rfl, some, -⟩ := handles_signal deals signal
    exact keypad_signals keypad some

end
end BleRemote.Device
