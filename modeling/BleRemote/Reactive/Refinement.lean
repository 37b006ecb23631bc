import BleRemote.Reactive.Machine

/-! Views of a machine: an abstract machine over part of the state, which emits
part of the output and takes the same inputs. Inputs that the view does not see
can be dropped from a run. -/

set_option autoImplicit false
namespace BleRemote.Reactive

variable {State Input Output View Event : Type}

namespace Machine

def trace (m : Machine View Input (List Event)) (v : View) (inputs : List Input) : List Event :=
  (m.history v inputs).flatMap Moment.output

@[simp] theorem trace_nil (m : Machine View Input (List Event)) (v : View) : m.trace v [] = [] := rfl

theorem trace_cons (m : Machine View Input (List Event)) (v : View) (i : Input)
    (rest : List Input) :
    m.trace v (i :: rest) = (m.step v i).2 ++ m.trace (m.step v i).1 rest := by
  simp [trace, history, moment]

/-- The inputs marked quiet neither change the state nor emit anything. -/
def Ignores (m : Machine View Input (List Event)) (quiet : Input → Bool) : Prop :=
  ∀ v i, quiet i = true → m.step v i = (v, [])

theorem Ignores.filter {m : Machine View Input (List Event)} {quiet : Input → Bool}
    (ignores : m.Ignores quiet) (v : View) (inputs : List Input) :
    m.after v (inputs.filter fun i => !quiet i) = m.after v inputs ∧
      m.trace v (inputs.filter fun i => !quiet i) = m.trace v inputs := by
  induction inputs generalizing v with
  | nil => exact ⟨rfl, rfl⟩
  | cons i rest ih =>
    cases marked : quiet i with
    | true =>
      rw [List.filter_cons_of_neg (by simp [marked]), after, trace_cons, ignores v i marked]
      exact ih v
    | false =>
      rw [List.filter_cons_of_pos (by simp [marked]), after, after, trace_cons, trace_cons,
        (ih _).1, (ih _).2]
      exact ⟨rfl, rfl⟩

end Machine

/-- The abstract machine does what the concrete one shows of itself. -/
structure Refines (concrete : Machine State Input Output)
    (abstract : Machine View Input (List Event)) where
  view : State → View
  emitted : Output → List Event
  step (s : State) (i : Input) : abstract.step (view s) i =
    (view (concrete.step s i).1, emitted (concrete.step s i).2)

namespace Refines

variable {concrete : Machine State Input Output} {abstract : Machine View Input (List Event)}
  (refines : Refines concrete abstract)

theorem after (s : State) (inputs : List Input) :
    refines.view (concrete.after s inputs) = abstract.after (refines.view s) inputs := by
  induction inputs generalizing s with
  | nil => rfl
  | cons i rest ih => rw [Machine.after, Machine.after, refines.step, ih]

theorem trace (s : State) (inputs : List Input) :
    (concrete.history s inputs).flatMap (fun t => refines.emitted t.output) =
      abstract.trace (refines.view s) inputs := by
  induction inputs generalizing s with
  | nil => rfl
  | cons i rest ih =>
    rw [Machine.history, List.flatMap_cons, ih, Machine.trace_cons, refines.step]
    rfl

end Refines
end BleRemote.Reactive
