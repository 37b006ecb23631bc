import Mathlib.Data.List.Range

/-! Postconditions of imperative code: a program changes a state and may be left early
with an error. The rules are for programs that are not left early. -/

set_option autoImplicit false
namespace BleRemote.Imperative

variable {E S A B : Type}

/-- From this state the program runs to its end, with a value and a state as stated. -/
def Returns (x : EStateM E S A) (s : S) (post : A → S → Prop) : Prop :=
  ∃ a t, x s = .ok a t ∧ post a t

/-- `return` from inside of loops: what is thrown is the result. -/
def returning (x : EStateM E S E) : EStateM E S E := fun s =>
  match x s with
  | .ok a t => .ok a t
  | .error e t => .ok e t

section
variable {s : S} {post : A → S → Prop}

theorem returns_pure {a : A} (holds : post a s) : Returns (pure a : EStateM E S A) s post :=
  ⟨a, s, rfl, holds⟩

theorem Returns.mono {weaker : A → S → Prop} {x : EStateM E S A} (returns : Returns x s post)
    (implies : ∀ a t, post a t → weaker a t) : Returns x s weaker := by
  obtain ⟨a, t, result, holds⟩ := returns
  exact ⟨a, t, result, implies a t holds⟩

theorem Returns.bind {x : EStateM E S B} {f : B → EStateM E S A} {between : B → S → Prop}
    (first : Returns x s between) (rest : ∀ b t, between b t → Returns (f b) t post) :
    Returns (x >>= f) s post := by
  obtain ⟨b, t, result, holds⟩ := first
  obtain ⟨a, u, result', holds'⟩ := rest b t holds
  refine ⟨a, u, ?_, holds'⟩
  simp only [Bind.bind, EStateM.bind, result, result']

theorem Returns.returning {post : E → S → Prop} {x : EStateM E S E} (returns : Returns x s post) :
    Returns (Imperative.returning x) s post := by
  obtain ⟨a, t, result, holds⟩ := returns
  exact ⟨a, t, by rw [Imperative.returning, result], holds⟩

end

/-! ## Loops -/

/-- A loop that every pass leaves in the ordinary way keeps its invariant to the end. -/
theorem returns_foldlM {f : B → A → EStateM E S B} {l : List A} {b : B} {s : S}
    (invariant : List A → B → S → Prop) (start : invariant [] b s)
    (step : ∀ past a rest b s, l = past ++ a :: rest → invariant past b s →
      Returns (f b a) s (invariant (past ++ [a]))) :
    Returns (l.foldlM f b) s (invariant l) := by
  suffices loop : ∀ rest past b s, l = past ++ rest → invariant past b s →
      Returns (rest.foldlM f b) s (invariant l) from loop l [] b s rfl start
  intro rest
  induction rest with
  | nil =>
    rintro past b s rfl holds
    rw [List.append_nil] at *
    exact returns_pure holds
  | cons a rest ih =>
    intro past b s split holds
    rw [List.foldlM_cons]
    apply (step past a rest b s split holds).bind
    intro b s holds
    exact ih (past ++ [a]) b s (by rw [split, List.append_assoc]; rfl) holds

/-- The same for a counter: the invariant is about how many passes are done. -/
theorem returns_range {f : B → Nat → EStateM E S B} {n : Nat} {b : B} {s : S}
    (invariant : Nat → B → S → Prop) (start : invariant 0 b s)
    (step : ∀ k b s, k < n → invariant k b s → Returns (f b k) s (invariant (k + 1))) :
    Returns ((List.range n).foldlM f b) s (invariant n) := by
  induction n with
  | zero => exact returns_pure start
  | succ n ih =>
    rw [List.range_succ, List.foldlM_append]
    apply (ih fun k b s below => step k b s (by omega)).bind
    intro b s holds
    simp only [List.foldlM_cons, List.foldlM_nil, bind_pure]
    exact step n b s (by omega) holds

end BleRemote.Imperative
