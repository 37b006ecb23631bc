import BleRemote.Reactive.Always

/-! Deterministic reactive machines.

A machine reads one input at a time, changes its state and emits an output. Its
history keeps every step with the states on both sides, so that a property of
a run can speak about what was read, what was emitted and what was stored.
-/

set_option autoImplicit false
namespace BleRemote.Reactive

structure Machine (State Input Output : Type) where
  start : State
  step : State → Input → State × Output

structure Moment (State Input Output : Type) where
  before : State
  input : Input
  output : Output
  after : State

namespace Machine

variable {State Input Output : Type} (m : Machine State Input Output)

def moment (s : State) (i : Input) : Moment State Input Output :=
  ⟨s, i, (m.step s i).2, (m.step s i).1⟩

def after (s : State) : List Input → State
  | [] => s
  | i :: rest => after (m.step s i).1 rest

def history (s : State) : List Input → List (Moment State Input Output)
  | [] => []
  | i :: rest => m.moment s i :: history (m.step s i).1 rest

@[simp] theorem after_nil (s : State) : m.after s [] = s := rfl

@[simp] theorem history_nil (s : State) : m.history s [] = [] := rfl

theorem after_append (s : State) (first rest : List Input) :
    m.after s (first ++ rest) = m.after (m.after s first) rest := by
  induction first generalizing s with
  | nil => rfl
  | cons i first ih => exact ih (m.step s i).1

theorem history_append (s : State) (first rest : List Input) :
    m.history s (first ++ rest) = m.history s first ++ m.history (m.after s first) rest := by
  induction first generalizing s with
  | nil => rfl
  | cons i first ih => exact congrArg (List.cons (m.moment s i)) (ih (m.step s i).1)

theorem after_concat (s : State) (inputs : List Input) (i : Input) :
    m.after s (inputs ++ [i]) = (m.step (m.after s inputs) i).1 := by
  rw [after_append]; rfl

theorem history_concat (s : State) (inputs : List Input) (i : Input) :
    m.history s (inputs ++ [i]) = m.history s inputs ++ [m.moment (m.after s inputs) i] := by
  rw [history_append]; rfl

theorem history_split {s : State} {inputs : List Input}
    {past rest : List (Moment State Input Output)} {t : Moment State Input Output}
    (same : m.history s inputs = past ++ t :: rest) :
    ∃ first i later, inputs = first ++ i :: later ∧
      past = m.history s first ∧ t = m.moment (m.after s first) i := by
  -- on the inputs, from the left: the past grows by the step taken
  induction inputs generalizing s past with
  | nil => simp [history] at same
  | cons i inputs ih =>
    cases past with
    | nil =>
      obtain ⟨rfl, _⟩ := List.cons.inj same
      exact ⟨[], i, inputs, rfl, rfl, rfl⟩
    | cons u past =>
      obtain ⟨rfl, tail⟩ := List.cons.inj same
      obtain ⟨first, j, later, rfl, rfl, rfl⟩ := ih tail
      exact ⟨i :: first, j, later, rfl, rfl, rfl⟩

/-- What holds at the start and is kept by every step holds after every run. The
property may look back at the whole history. -/
theorem invariant {P : List (Moment State Input Output) → State → Prop} {s : State}
    (start : P [] s)
    (step : ∀ past before i, P past before →
      P (past ++ [m.moment before i]) (m.step before i).1)
    (inputs : List Input) : P (m.history s inputs) (m.after s inputs) := by
  induction inputs using List.reverseRecOn with
  | nil => exact start
  | append_singleton inputs i ih =>
    rw [history_concat, after_concat]
    exact step _ _ i ih

/-- Two properties of positions agree on whole runs when they agree at each
position whose past satisfies the first. -/
theorem always_iff {p q : List (Moment State Input Output) → Moment State Input Output → Prop}
    {s : State}
    (agree : ∀ inputs i, Always p (m.history s inputs) →
      (p (m.history s inputs) (m.moment (m.after s inputs) i) ↔
        q (m.history s inputs) (m.moment (m.after s inputs) i)))
    (inputs : List Input) : Always p (m.history s inputs) ↔ Always q (m.history s inputs) := by
  induction inputs using List.reverseRecOn with
  | nil => exact ⟨fun _ => always_nil q, fun _ => always_nil p⟩
  | append_singleton inputs i ih =>
    simp only [history_concat, always_concat]
    rw [← ih]
    exact and_congr_right (agree inputs i)

/-- Two properties of positions agree on the runs whose positions satisfy an
assumption, when they agree in every state that an invariant admits and the second
keeps the invariant. -/
theorem always_iff_under
    {assumed p q : List (Moment State Input Output) → Moment State Input Output → Prop}
    {R : List (Moment State Input Output) → State → Prop} {s : State} (start : R [] s)
    (step : ∀ past before i, R past before → assumed past (m.moment before i) →
      (p past (m.moment before i) ↔ q past (m.moment before i)) ∧
        (q past (m.moment before i) → R (past ++ [m.moment before i]) (m.step before i).1))
    (inputs : List Input) (fits : Always assumed (m.history s inputs)) :
    Always p (m.history s inputs) ↔ Always q (m.history s inputs) := by
  suffices both : (Always p (m.history s inputs) ↔ Always q (m.history s inputs)) ∧
      (Always q (m.history s inputs) → R (m.history s inputs) (m.after s inputs)) from both.1
  induction inputs using List.reverseRecOn with
  | nil => exact ⟨⟨fun _ => always_nil q, fun _ => always_nil p⟩, fun _ => start⟩
  | append_singleton inputs i ih =>
    rw [history_concat, always_concat] at fits
    obtain ⟨agree, keeps⟩ := ih fits.1
    simp only [history_concat, after_concat, always_concat, agree]
    constructor
    · apply and_congr_right
      intro earlier
      exact (step _ _ i (keeps earlier) fits.2).1
    · intro ⟨earlier, last⟩
      exact (step _ _ i (keeps earlier) fits.2).2 last

theorem always_iff_kept {p q : List (Moment State Input Output) → Moment State Input Output → Prop}
    {R : List (Moment State Input Output) → State → Prop} {s : State} (start : R [] s)
    (step : ∀ past before i, R past before →
      (p past (m.moment before i) ↔ q past (m.moment before i)) ∧
        (q past (m.moment before i) → R (past ++ [m.moment before i]) (m.step before i).1))
    (inputs : List Input) : Always p (m.history s inputs) ↔ Always q (m.history s inputs) := by
  have always : Always (fun _ _ => True) (m.history s inputs) := fun _ _ _ _ => trivial
  exact m.always_iff_under start (fun past before i holds _ => step past before i holds) inputs always

/-- What an invariant gives at every position of the runs that satisfy an assumption. -/
theorem always_under
    {assumed p : List (Moment State Input Output) → Moment State Input Output → Prop}
    {R : List (Moment State Input Output) → State → Prop} {s : State} (start : R [] s)
    (step : ∀ past before i, R past before → assumed past (m.moment before i) →
      p past (m.moment before i) ∧ R (past ++ [m.moment before i]) (m.step before i).1)
    (inputs : List Input) (fits : Always assumed (m.history s inputs)) :
    Always p (m.history s inputs) := by
  have always : Always (fun _ _ => True) (m.history s inputs) := fun _ _ _ _ => trivial
  refine (m.always_iff_under start ?_ inputs fits).mpr always
  intro past before i holds assumption
  obtain ⟨here, kept⟩ := step past before i holds assumption
  exact ⟨iff_true_intro here, fun _ => kept⟩

end Machine
end BleRemote.Reactive
