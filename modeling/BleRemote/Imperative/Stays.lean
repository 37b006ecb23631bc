import BleRemote.Imperative.Returns
import Mathlib.Order.Defs.Unbundled

/-! Frames of imperative code: what a program leaves alone, however it ends. The rules are for
an invariant, a preorder on states that says how far the program may go, and a property of the
values it returns. -/

set_option autoImplicit false
namespace BleRemote.Imperative

variable {E S A B : Type}

/-- The state a program leaves when it ends, in the ordinary way or early. -/
def finalState : EStateM.Result E S A → S
  | .ok _ s | .error _ s => s

/-- From every state of the invariant, the program keeps the invariant, goes no further than the
relation allows, and returns nothing but values as stated. -/
def Stays (I : S → Prop) (R : S → S → Prop) (P : A → Prop) (x : EStateM E S A) : Prop :=
  ∀ s, I s → I (finalState (x s)) ∧ R s (finalState (x s)) ∧ ∀ a t, x s = .ok a t → P a

section
variable {I : S → Prop} {R : S → S → Prop} {P : A → Prop}

theorem Stays.mono {Q : A → Prop} {x : EStateM E S A} (stays : Stays I R P x)
    (implies : ∀ a, P a → Q a) : Stays I R Q x := by
  intro s holds
  obtain ⟨kept, near, value⟩ := stays s holds
  exact ⟨kept, near, fun a t result => implies a (value a t result)⟩

theorem Stays.ite {c : Prop} [Decidable c] {x y : EStateM E S A} (yes : c → Stays I R P x)
    (no : ¬ c → Stays I R P y) : Stays I R P (if c then x else y) := by
  split
  · next condition => exact yes condition
  · next condition => exact no condition

/-- What is thrown is a value as well. -/
theorem Stays.returning {x : EStateM E S E} {P : E → Prop} (stays : Stays I R P x) :
    Stays I R (fun _ => True) (Imperative.returning x) := by
  intro s holds
  obtain ⟨kept, near, -⟩ := stays s holds
  unfold Imperative.returning
  cases result : x s <;> rw [result] at kept near <;> exact ⟨kept, near, fun _ _ _ => trivial⟩

theorem Stays.bind [IsTrans S R] {Q : B → Prop} {x : EStateM E S B} {f : B → EStateM E S A}
    (first : Stays I R Q x) (rest : ∀ b, Q b → Stays I R P (f b)) :
    Stays I R P (x >>= f) := by
  intro s holds
  obtain ⟨kept, near, value⟩ := first s holds
  simp only [Bind.bind, EStateM.bind]
  cases result : x s with
  | ok b t =>
    rw [result] at kept near
    obtain ⟨kept', near', value'⟩ := rest b (value b t result) t kept
    exact ⟨kept', IsTrans.trans _ _ _ near near', value'⟩
  | error e t =>
    rw [result] at kept near
    exact ⟨kept, near, fun _ _ => nofun⟩

variable [Std.Refl R]

theorem stays_pure {a : A} (holds : P a) : Stays I R P (pure a : EStateM E S A) := by
  intro s kept
  refine ⟨kept, Std.Refl.refl s, fun b t result => ?_⟩
  obtain ⟨rfl, -⟩ : a = b ∧ s = t := by simpa [pure, EStateM.pure] using result
  exact holds

theorem stays_throw (e : E) : Stays I R P (throw e : EStateM E S A) :=
  fun s kept => ⟨kept, Std.Refl.refl s, fun _ _ => nofun⟩

/-- A loop stays where each pass does; what is said of the value is kept by every pass. -/
theorem stays_foldlM [IsTrans S R] {f : B → A → EStateM E S B} {P : B → Prop} {l : List A} {b : B} (start : P b)
    (pass : ∀ b a, a ∈ l → P b → Stays I R P (f b a)) : Stays I R P (l.foldlM f b) := by
  induction l generalizing b with
  | nil => exact stays_pure start
  | cons a rest ih =>
    rw [List.foldlM_cons]
    apply (pass b a List.mem_cons_self start).bind
    intro b holds
    exact ih holds fun b a member => pass b a (List.mem_cons_of_mem _ member)

end
end BleRemote.Imperative
