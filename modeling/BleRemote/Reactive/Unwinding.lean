import BleRemote.Reactive.Machine

/-! Two runs of one machine, on the same inputs or on inputs that it treats alike.

States are indistinguishable when every continuation shows the same from both; the
states one step later then are, too. A relation that all steps keep, and under which
they show the same, proves states indistinguishable.
-/

set_option autoImplicit false
namespace BleRemote.Reactive.Machine

variable {State Input Output Shown : Type} (m : Machine State Input Output)
  (shows : Output → List Shown)

/-- What a run shows, in order. -/
def shown (s : State) (inputs : List Input) : List Shown :=
  (m.history s inputs).flatMap fun t => shows t.output

@[simp] theorem shown_nil (s : State) : m.shown shows s [] = [] := rfl

theorem shown_cons (s : State) (i : Input) (rest : List Input) :
    m.shown shows s (i :: rest) = shows (m.step s i).2 ++ m.shown shows (m.step s i).1 rest := by
  simp [shown, history, moment]

def Indistinguishable (s t : State) : Prop :=
  ∀ inputs, m.shown shows s inputs = m.shown shows t inputs

variable {m shows}

theorem Indistinguishable.output {s t : State} (alike : m.Indistinguishable shows s t) (i : Input) :
    shows (m.step s i).2 = shows (m.step t i).2 := by
  have single := alike [i]
  rwa [shown_cons, shown_cons, shown_nil, shown_nil, List.append_nil, List.append_nil] at single

theorem Indistinguishable.step {s t : State} (alike : m.Indistinguishable shows s t) (i : Input) :
    m.Indistinguishable shows (m.step s i).1 (m.step t i).1 := by
  intro rest
  have same := alike (i :: rest)
  rw [shown_cons, shown_cons, alike.output i] at same
  exact List.append_cancel_left same

/-- A relation under which two states show the same, whatever the input, and that every
step keeps. -/
structure Unwinding (m : Machine State Input Output) (shows : Output → List Shown)
    (R : State → State → Prop) : Prop where
  output (s t : State) (i : Input) : R s t → shows (m.step s i).2 = shows (m.step t i).2
  step (s t : State) (i : Input) : R s t → R (m.step s i).1 (m.step t i).1

theorem Unwinding.indistinguishable {R : State → State → Prop} (unwinding : m.Unwinding shows R)
    {s t : State} (related : R s t) : m.Indistinguishable shows s t := by
  intro inputs
  induction inputs generalizing s t with
  | nil => rfl
  | cons i rest ih =>
    rw [shown_cons, shown_cons, unwinding.output s t i related]
    exact congrArg _ (ih (unwinding.step s t i related))

/-! ## Inputs treated alike -/

/-- Inputs on which the machine shows the same and goes to the same state, from every state. -/
structure Overlooks (m : Machine State Input Output) (shows : Output → List Shown)
    (E : Input → Input → Prop) : Prop where
  output (s : State) (i j : Input) : E i j → shows (m.step s i).2 = shows (m.step s j).2
  step (s : State) (i j : Input) : E i j → (m.step s i).1 = (m.step s j).1

theorem Overlooks.run {E : Input → Input → Prop} (overlooks : m.Overlooks shows E)
    {inputs inputs' : List Input} (alike : List.Forall₂ E inputs inputs') (s : State) :
    m.after s inputs = m.after s inputs' ∧ m.shown shows s inputs = m.shown shows s inputs' := by
  induction alike generalizing s with
  | nil => exact ⟨rfl, rfl⟩
  | cons same _ ih =>
    rw [after, after, shown_cons, shown_cons, overlooks.output s _ _ same, overlooks.step s _ _ same]
    exact ⟨(ih _).1, congrArg _ (ih _).2⟩

end BleRemote.Reactive.Machine
