import Mathlib.Init

/-! Bodies of event handlers.

A body reads an environment, changes a state and emits effects in program
order. It always returns: a handler that stops early returns a value that says
so. Sequencing is the only composition; the effects of the parts are appended.
-/

set_option autoImplicit false
namespace BleRemote.Reactive

/-- What running a body produced: its value, the state it left and its effects, oldest first. -/
structure Outcome (State Effect Value : Type) where
  value : Value
  state : State
  effects : List Effect

@[simp] theorem Outcome.state_ite {State Effect Value : Type} (c : Prop) [Decidable c]
    (x y : Outcome State Effect Value) :
    (if c then x else y).state = if c then x.state else y.state := by
  split <;> rfl

@[simp] theorem Outcome.effects_ite {State Effect Value : Type} (c : Prop) [Decidable c]
    (x y : Outcome State Effect Value) :
    (if c then x else y).effects = if c then x.effects else y.effects := by
  split <;> rfl

def Body (Env State Effect Value : Type) : Type :=
  Env → State → Outcome State Effect Value

namespace Body

variable {Env State Effect A B : Type}

instance : Monad (Body Env State Effect) where
  pure a := fun _ s => ⟨a, s, []⟩
  bind x f := fun env s =>
    let r := x env s
    let t := f r.value env r.state
    ⟨t.value, t.state, r.effects ++ t.effects⟩

def run (x : Body Env State Effect A) (env : Env) (s : State) : Outcome State Effect A :=
  x env s

def environment : Body Env State Effect Env := fun env s => ⟨env, s, []⟩

def get : Body Env State Effect State := fun _ s => ⟨s, s, []⟩

def modify (f : State → State) : Body Env State Effect Unit := fun _ s => ⟨(), f s, []⟩

def emit (es : List Effect) : Body Env State Effect Unit := fun _ s => ⟨(), s, es⟩

section
variable (x : Body Env State Effect A) (f : A → Body Env State Effect B) (env : Env) (s : State)

@[simp] theorem run_bind_value :
    ((x >>= f).run env s).value = ((f (x.run env s).value).run env (x.run env s).state).value := (rfl)

@[simp] theorem run_bind_state :
    ((x >>= f).run env s).state = ((f (x.run env s).value).run env (x.run env s).state).state := (rfl)

@[simp] theorem run_bind_effects :
    ((x >>= f).run env s).effects =
      (x.run env s).effects ++ ((f (x.run env s).value).run env (x.run env s).state).effects := (rfl)

@[simp] theorem run_pure (a : A) :
    ((pure a : Body Env State Effect A).run env s) = ⟨a, s, []⟩ := (rfl)

@[simp] theorem run_environment :
    ((environment : Body Env State Effect Env).run env s) = ⟨env, s, []⟩ := (rfl)

@[simp] theorem run_get : ((get : Body Env State Effect State).run env s) = ⟨s, s, []⟩ := (rfl)

@[simp] theorem run_modify (g : State → State) :
    ((modify g : Body Env State Effect Unit).run env s) = ⟨(), g s, []⟩ := (rfl)

@[simp] theorem run_emit (es : List Effect) :
    ((emit es : Body Env State Effect Unit).run env s) = ⟨(), s, es⟩ := (rfl)

@[simp] theorem run_ite (c : Prop) [Decidable c] (y : Body Env State Effect A) :
    (if c then x else y).run env s = if c then x.run env s else y.run env s := by
  split <;> rfl

end

end Body
end BleRemote.Reactive
