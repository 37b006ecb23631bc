import BleRemote.Device.Board
import BleRemote.System.Passkey

/-! From PB0 to the stack: whether a press answers the passkey check.

PB0 sits on an even interrupt line. The handler of the even lines signals the even
keypad key whatever line is pending, so the bit that both builds wait for is never
among the signals.
-/

set_option autoImplicit false
namespace BleRemote.System

open Reactive Stack Device

def endsPairing : Msg → Bool
  | .smBonded _ | .smBondingFailed _ | .connectionClosed _ => true
  | _ => false

/-- A passkey was handed to the user on the open connection, and the pairing goes on. -/
def AwaitsAnswer (h : List Handled) (connection : UInt8) : Prop :=
  ∃ past t rest passkey, h = past ++ t :: rest ∧ t.msg = .smConfirmPasskey connection passkey ∧
    t.before.bleData.connectionOpen = true ∧ ∀ u ∈ rest, endsPairing (Handled.msg u) = false

variable (db : GattDb) (role : Role) (level : GpioPin → Bool)

/-- PB0 changes its level after these happenings and what follows answers the passkey
check of the connection. -/
def PressAnswered (happenings following : List Happening) (connection : UInt8) : Prop :=
  ∃ t ∈ events ((board db role level).history (boardAfter db role level happenings)
      (.edge pb0ButtonPin :: following)),
    ∃ status, (.smPasskeyConfirm connection 1, status) ∈ t.output.calls

theorem events_not_answer {happenings : List Happening} {t : Handled}
    (member : t ∈ events (boardRun db role level happenings)) : ¬ AnswersPasskey t := by
  -- the words a board delivers are 1, 2 and 3; the bit of PB0 is 4
  have notPb0 : ∀ extsignals, t.msg = .systemExternalSignal extsignals →
      extsignals ≠ evtPb0Pressed := by
    rintro extsignals signal rfl
    rcases events_signals member signal with same | same | same <;> exact absurd same (by decide)
  obtain ⟨inputs, i, rfl⟩ := events_reached member
  intro answers
  cases role with
  | server =>
    have confirm := (server_answers_iff db _ i).mp answers
    rcases i with ⟨env, msg⟩
    cases msg
    case systemExternalSignal extsignals => exact notPb0 extsignals rfl confirm.2.2
    all_goals cases confirm
  | client =>
    obtain ⟨extsignals, signal, pb0, -⟩ := (client_answers_iff db _ i).mp answers
    exact notPb0 extsignals signal pb0

theorem following_not_answer {happenings following : List Happening} {t : Handled}
    (member : t ∈ events ((board db role level).history (boardAfter db role level happenings)
      following)) : ¬ AnswersPasskey t := by
  have whole : t ∈ events (boardRun db role level (happenings ++ following)) := by
    rw [boardRun, (board db role level).history_append, events_append]
    exact List.mem_append_right _ member
  exact events_not_answer db role level whole

/-- A press of PB0 answers no passkey check, whatever came before it, whatever
handlers and events follow it, and in both builds. -/
theorem press_never_answered (happenings following : List Happening) (connection : UInt8) :
    ¬ PressAnswered db role level happenings following connection := by
  intro ⟨t, member, status, called⟩
  exact following_not_answer db role level member ⟨_, called, rfl⟩

def pairing : List Happening :=
  connected ++ [.event (obliging fun _ => true) (.smConfirmPasskey 1 123456) fun _ => Msg.noConfusion]

/-- The user presses PB0, which reads low from then on and raises its interrupt; the
handler runs and its signal is delivered; nothing is pending any more, and the check
has not been answered. -/
def PressLost (role : Role) : Prop :=
  let board := boardAfter exampleDb role fun _ => true
  let pressed := pairing ++ [.edge pb0ButtonPin]
  let settled := pressed ++ [.evenIrq, .deliverSignals (obliging fun _ => true)]
  AwaitsAnswer (events (boardRun exampleDb role (fun _ => true) pairing)) 1 ∧
    (board pairing).gpio.level pb0ButtonPin = true ∧
    (board pressed).gpio.level pb0ButtonPin = false ∧
    gpioIntGetEnabled (board pressed).gpio = 1#32 <<< pb0ButtonPin.pin ∧
    gpioIntGetEnabled (board settled).gpio = 0 ∧ (board settled).signals = 0 ∧
    ¬ PressAnswered exampleDb role (fun _ => true) pairing
      [.evenIrq, .deliverSignals (obliging fun _ => true)] 1

theorem pairing_awaits (role : Role) :
    AwaitsAnswer (events (boardRun exampleDb role (fun _ => true) pairing)) 1 := by
  have last : events (boardRun exampleDb role (fun _ => true) pairing) =
      events (boardRun exampleDb role (fun _ => true) connected) ++
        [handled exampleDb role (boardAfter exampleDb role (fun _ => true) connected).globals
          ⟨obliging fun _ => true, .smConfirmPasskey 1 123456⟩] := by
    rfl
  refine ⟨_, _, [], 123456, last, rfl, ?_, by simp⟩
  cases role <;> decide +kernel

theorem press_unanswered : PressLost .server ∧ PressLost .client := by
  refine ⟨⟨pairing_awaits .server, ?_, ?_, ?_, ?_, ?_, ?_⟩,
    ⟨pairing_awaits .client, ?_, ?_, ?_, ?_, ?_, ?_⟩⟩
  case refine_6 | refine_12 =>
    intro ⟨t, member, status, called⟩
    exact following_not_answer _ _ _ member ⟨_, called, rfl⟩
  all_goals decide +kernel

end BleRemote.System
