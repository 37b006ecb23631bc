import BleRemote.Reactive.Refinement
import BleRemote.Reactive.Unwinding

/-! Simulations: an abstract machine that does the same as long as its inputs are allowed, and
automata that the events of a run have to follow.

What is allowed is judged by the abstract state alone, so that an assumption on the
inputs of a run says nothing about the concrete machine.
-/

set_option autoImplicit false
namespace BleRemote.Reactive

variable {State View Input Output Event Phase : Type}

/-! ## Automata over events -/

/-- The phase that a sequence of events leads to, unless one of them is out of place. -/
def follow (next : Phase → Event → Option Phase) (phase : Phase) (events : List Event) : Option Phase :=
  events.foldlM next phase

section
variable {next : Phase → Event → Option Phase} {phase : Phase}

@[simp] theorem follow_nil : follow next phase [] = some phase := rfl

@[simp] theorem follow_cons (event : Event) (rest : List Event) :
    follow next phase (event :: rest) = (next phase event).bind fun p => follow next p rest := by
  rw [follow, List.foldlM_cons]
  rfl

theorem follow_append (first rest : List Event) :
    follow next phase (first ++ rest) = (follow next phase first).bind fun p => follow next p rest := by
  rw [follow, List.foldlM_append]
  rfl

/-- Events that are allowed at any time lead nowhere. -/
theorem follow_idle {events : List Event} (idle : ∀ e ∈ events, next phase e = some phase) :
    follow next phase events = some phase := by
  induction events with
  | nil => rfl
  | cons e rest ih =>
    rw [follow_cons, idle e (List.mem_cons_self ..), Option.bind_some]
    exact ih fun other member => idle other (List.mem_cons_of_mem e member)

/-- What a coarser automaton sees of the events leads it along. -/
theorem follow_project {Coarse Seen : Type} {coarse : Coarse → Seen → Option Coarse} (project : Phase → Coarse)
    {sees : Event → Option Seen} {events : List Event} {final : Phase}
    (each : ∀ p e q, next p e = some q → match sees e with
      | some seen => coarse (project p) seen = some (project q)
      | none => project q = project p)
    (leads : follow next phase events = some final) :
    follow coarse (project phase) (events.filterMap sees) = some (project final) := by
  induction events generalizing phase with
  | nil =>
    obtain rfl := Option.some.inj leads
    rfl
  | cons e rest ih =>
    rw [follow_cons] at leads
    obtain ⟨q, here, later⟩ := Option.bind_eq_some_iff.mp leads
    have seen := each phase e q here
    cases sight : sees e with
    | none =>
      rw [sight] at seen
      rw [List.filterMap_cons_none sight, ← seen]
      exact ih later
    | some seen' =>
      rw [sight] at seen
      rw [List.filterMap_cons_some sight, follow_cons, seen, Option.bind_some]
      exact ih later

end

/-! ## Walks -/

section
variable {Place : Type} [DecidableEq Place]

/-- A walk goes on where it is. -/
def walk (place : Place) (move : Place × Place) : Option Place :=
  if move.1 = place then some move.2 else none

/-- Who hears of every move across the border of a region knows on which side the walk is. -/
theorem walk_side {inside : Place → Bool} {hears : Place × Place → Bool}
    (border : ∀ move, inside move.1 ≠ inside move.2 → hears move = true) {place final : Place}
    {moves : List (Place × Place)} (leads : follow walk place moves = some final) :
    (moves.filter hears).foldl (fun _ move => inside move.2) (inside place) = inside final := by
  induction moves generalizing place with
  | nil =>
    obtain rfl := Option.some.inj leads
    rfl
  | cons move rest ih =>
    rw [follow_cons] at leads
    obtain ⟨there, here, later⟩ := Option.bind_eq_some_iff.mp leads
    have side := ih later
    unfold walk at here
    split at here
    · next same =>
      subst same
      obtain rfl := Option.some.inj here
      cases heard : hears move with
      | true => rwa [List.filter_cons_of_pos heard, List.foldl_cons]
      | false =>
        have inward : inside move.1 = inside move.2 := by
          by_contra crossed
          exact absurd heard (Bool.not_eq_false _ ▸ border move crossed)
        rw [List.filter_cons_of_neg (Bool.eq_false_iff.mp heard), inward]
        exact side
    · cases here

end

/-! ## Simulations -/

namespace Machine

/-- Every input of the run is allowed in the state that it finds. -/
def Permits (m : Machine State Input Output) (allowed : State → Input → Prop) : State → List Input → Prop
  | _, [] => True
  | s, i :: rest => allowed s i ∧ Permits m allowed (m.step s i).1 rest

instance Permits.decidable (m : Machine State Input Output) (allowed : State → Input → Prop)
    [∀ s i, Decidable (allowed s i)] : ∀ s inputs, Decidable (m.Permits allowed s inputs)
  | _, [] => inferInstanceAs (Decidable True)
  | s, i :: rest =>
    have := Permits.decidable m allowed (m.step s i).1 rest
    inferInstanceAs (Decidable (allowed s i ∧ m.Permits allowed (m.step s i).1 rest))

theorem Permits.append {m : Machine State Input Output} {allowed : State → Input → Prop} {s : State}
    {first rest : List Input} :
    m.Permits allowed s (first ++ rest) ↔ m.Permits allowed s first ∧ m.Permits allowed (m.after s first) rest := by
  induction first generalizing s with
  | nil => exact iff_of_eq (true_and _).symm
  | cons i first ih =>
    rw [List.cons_append, Permits, Permits, after, ih, and_assoc]

theorem Permits.mono {m : Machine State Input Output} {allowed other : State → Input → Prop}
    (implies : ∀ s i, allowed s i → other s i) {s : State} {inputs : List Input}
    (permits : m.Permits allowed s inputs) : m.Permits other s inputs := by
  induction inputs generalizing s with
  | nil => trivial
  | cons i rest ih => exact ⟨implies s i permits.1, ih permits.2⟩

end Machine

variable {concrete : Machine State Input Output} {abstract : Machine View Input (List Event)}
  {allowed : View → Input → Prop} {R : State → View → Prop} {emitted : Output → List Event}

/-- From related states, on an input that is allowed, the concrete machine shows what the
abstract one does, and they stay related. -/
structure Simulates (concrete : Machine State Input Output) (abstract : Machine View Input (List Event))
    (allowed : View → Input → Prop) (R : State → View → Prop) (emitted : Output → List Event) : Prop where
  step (s : State) (v : View) (i : Input) : R s v → allowed v i →
    R (concrete.step s i).1 (abstract.step v i).1 ∧ emitted (concrete.step s i).2 = (abstract.step v i).2

namespace Simulates

variable (simulates : Simulates concrete abstract allowed R emitted)
include simulates

theorem after {s : State} {v : View} {inputs : List Input} (related : R s v)
    (permits : abstract.Permits allowed v inputs) :
    R (concrete.after s inputs) (abstract.after v inputs) := by
  induction inputs generalizing s v with
  | nil => exact related
  | cons i rest ih => exact ih (simulates.step s v i related permits.1).1 permits.2

theorem trace {s : State} {v : View} {inputs : List Input} (related : R s v)
    (permits : abstract.Permits allowed v inputs) :
    concrete.shown emitted s inputs = abstract.trace v inputs := by
  induction inputs generalizing s v with
  | nil => rfl
  | cons i rest ih =>
    obtain ⟨kept, same⟩ := simulates.step s v i related permits.1
    rw [Machine.shown_cons, Machine.trace_cons, same, ih kept permits.2]

/-- An automaton that every step follows, from what the state says of the phase, is followed by
the whole run. -/
theorem follows {Shown : Type} {next : Phase → Shown → Option Phase} (phase : State → Phase)
    (shows : Output → List Shown)
    (each : ∀ s v i, R s v → allowed v i →
      follow next (phase s) (shows (concrete.step s i).2) = some (phase (concrete.step s i).1))
    {s : State} {v : View} {inputs : List Input} (related : R s v)
    (permits : abstract.Permits allowed v inputs) :
    follow next (phase s) (concrete.shown shows s inputs) = some (phase (concrete.after s inputs)) := by
  induction inputs generalizing s v with
  | nil => rfl
  | cons i rest ih =>
    rw [Machine.shown_cons, follow_append, each s v i related permits.1, Option.bind_some]
    exact ih (simulates.step s v i related permits.1).1 permits.2

/-- What no step shows is not shown by the run. -/
theorem shows_no {Shown : Type} (shows : Output → List Shown) {shown : Shown}
    (each : ∀ s v i, R s v → allowed v i → shown ∉ shows (concrete.step s i).2)
    {s : State} {v : View} {inputs : List Input} (related : R s v)
    (permits : abstract.Permits allowed v inputs) : shown ∉ concrete.shown shows s inputs := by
  induction inputs generalizing s v with
  | nil => exact List.not_mem_nil
  | cons i rest ih =>
    rw [Machine.shown_cons, List.mem_append, not_or]
    exact ⟨each s v i related permits.1, ih (simulates.step s v i related permits.1).1 permits.2⟩

end Simulates
end BleRemote.Reactive
