import BleRemote.Lcd.Printf
import BleRemote.Lcd.Text

/-! What `displayInit` leaves, from any state of the display: a panel in the background color,
ready to be drawn on. -/

set_option autoImplicit false
namespace BleRemote.Lcd

open Imperative Reactive

@[simp] def LcdEffect.isError : LcdEffect → Bool
  | .log .error _ _ => true
  | _ => false

def Succeeds (effects : List LcdEffect) : Prop := ∀ effect ∈ effects, effect.isError = false

instance (effects : List LcdEffect) : Decidable (Succeeds effects) :=
  inferInstanceAs (Decidable (∀ effect ∈ effects, _))

/-- What a call of `displayInit` that logs no error can leave. -/
def Initialised (d : Display) : Prop :=
  ∃ env before, Succeeds (displayInit.run env before).effects ∧ (displayInit.run env before).state = d

section
variable (env : LcdEnv) (d : Display)

@[simp] theorem succeeds_append (first rest : List LcdEffect) :
    Succeeds (first ++ rest) ↔ Succeeds first ∧ Succeeds rest := List.forall_mem_append

@[simp] theorem succeeds_cons (effect : LcdEffect) (rest : List LcdEffect) :
    Succeeds (effect :: rest) ↔ effect.isError = false ∧ Succeeds rest := List.forall_mem_cons

@[simp] theorem succeeds_nil : Succeeds [] := fun _ => nofun

@[simp] theorem succeeds_logUnlessOk (function : String) (status : EmStatus) :
    Succeeds ((logUnlessOk function status).run env d).effects ↔ status = 0 := by
  simp only [logUnlessOk, Body.run_emit]
  split <;> simp [*]

theorem run_glib {x : Glib EmStatus} {d : Display} {post : EmStatus → Display → Prop}
    (returns : Returns x d post) :
    ∃ status after, (glib x).run env d = ⟨status, after, []⟩ ∧ post status after := by
  obtain ⟨status, after, result, holds⟩ := returns
  refine ⟨status, after, ?_, holds⟩
  simp only [glib, Body.run, result]

@[simp] theorem run_glib_onDmd (f : Dmd → EmStatus × Dmd) :
    (glib (onDmd f)).run env d = ⟨(f d.dmd).1, { d with dmd := (f d.dmd).2 }, []⟩ := rfl

@[simp] theorem run_glib_setFont (font : GlibFont) : (glib (glibSetFont font)).run env d =
    ⟨glibOk, { d with glibContext := { d.glibContext with font := font } }, []⟩ := rfl

theorem glibSetClippingRegion_whole {d : Display} (memlcd : d.dmd.memlcd = true) :
    Returns (glibSetClippingRegion ⟨0, 0, 127, 127⟩) d fun status after => status = glibOk ∧
      after.dmd.Open ∧ after.glibContext = { d.glibContext with clippingRegion := ⟨0, 0, 127, 127⟩ } := by
  obtain ⟨after, whole, opened⟩ := dmdSetClippingArea_whole memlcd
  obtain ⟨width, height⟩ := d.dmd.sized memlcd
  rw [glibSetClippingRegion, returns_getDisplayGeometry_bind, width, height, if_neg (by decide),
    if_neg (by decide), returns_setContext_bind, glibApplyClippingRegion, returns_getContext_bind]
  refine ⟨_, _, rfl, ?_⟩
  change (dmdSetClippingArea 0 0 displaySize displaySize d.dmd).1 = _ ∧
    (dmdSetClippingArea 0 0 displaySize displaySize d.dmd).2.Open ∧ _
  rw [whole]
  exact ⟨rfl, opened, rfl⟩

theorem glibContextInit_whole (defaultFont : GlibFont) {d : Display} (memlcd : d.dmd.memlcd = true) :
    Returns (glibContextInit defaultFont) d fun status after => status = glibOk ∧
      after.dmd.Open ∧ after.glibContext = ⟨black, white, ⟨0, 0, 127, 127⟩, defaultFont⟩ := by
  have geometry : dmdGetDisplayGeometry d.dmd = (dmdOk, d.dmd) := if_neg (by simp [memlcd])
  obtain ⟨width, height⟩ := d.dmd.sized memlcd
  rw [glibContextInit, returns_setContext_bind, returns_onDmd_bind, geometry, if_neg (not_not_intro rfl),
    returns_getDisplayGeometry_bind, width, height]
  apply (glibSetClippingRegion_whole (d := ⟨d.dmd, ⟨black, white, _, _⟩⟩) memlcd).bind
  rintro status after ⟨rfl, opened, context⟩
  rw [if_neg (by decide)]
  refine ⟨_, _, rfl, rfl, opened, ?_⟩
  simp only [context]

theorem glibResetDisplayClippingArea_whole {d : Display} (memlcd : d.dmd.memlcd = true) :
    Returns glibResetDisplayClippingArea d fun status after =>
      status = glibOk ∧ after.dmd.Open ∧ after.glibContext = d.glibContext := by
  obtain ⟨after, whole, opened⟩ := dmdSetClippingArea_whole memlcd
  obtain ⟨width, height⟩ := d.dmd.sized memlcd
  rw [glibResetDisplayClippingArea, returns_getDisplayGeometry_bind, width, height]
  refine ⟨_, _, rfl, ?_⟩
  rw [whole]
  exact ⟨rfl, opened, rfl⟩

theorem glibClear_fills {d : Display} (memlcd : d.dmd.memlcd = true)
    (background : d.glibContext.backgroundColor = white) :
    Returns glibClear d fun status after => status = glibOk ∧ after.dmd.Open ∧
      after.glibContext = d.glibContext ∧ ∀ i < displaySize * displaySize, after.picture i = true := by
  rw [glibClear, returns_getContext_bind, background]
  apply (glibResetDisplayClippingArea_whole memlcd).bind
  rintro status after ⟨rfl, opened, context⟩
  obtain ⟨status, opened', fills⟩ := wholePanel_fills (glibColorTranslate24bpp white).1
    (glibColorTranslate24bpp white).2.1 (glibColorTranslate24bpp white).2.2 opened
  rw [if_neg (not_not_intro rfl), returns_getDisplayGeometry_bind, opened.dimensions]
  refine ⟨_, _, rfl, status, opened', context, fun i below => ?_⟩
  exact (fills.inside i ⟨Nat.zero_le i, below⟩).trans isWhite_white

theorem displayInit_fresh (memlcd : (dmdInit env.memlcdStatus d.dmd).2.memlcd = true) :
    Ready (displayInit.run env d).state ∧
      (∀ i < displaySize * displaySize, (displayInit.run env d).state.picture i = true) ∧
      (Succeeds (displayInit.run env d).effects ↔
        (dmdInit env.memlcdStatus d.dmd).1 = dmdOk ∧ env.updateStatus = dmdOk) := by
  obtain ⟨_, d₁, run₁, rfl, opened, context⟩ := run_glib env (glibContextInit_whole env.defaultFont
    (d := ⟨(dmdInit env.memlcdStatus d.dmd).2, .zero⟩) memlcd)
  obtain ⟨_, d₂, run₂, rfl, opened₂, context₂, white₂⟩ := run_glib env (glibClear_fills
    (d := ⟨d₁.dmd, ⟨white, black, d₁.glibContext.clippingRegion, d₁.glibContext.font⟩⟩)
    opened.memlcd rfl)
  simp only [displayInit, Body.run_bind_state, Body.run_bind_effects, Body.run_environment,
    Body.run_modify, Body.run_emit, run_glib_onDmd, run_logUnlessOk_state, run_glib_setFont,
    run_dmdUpdateDisplay, run₁, run₂, succeeds_append, succeeds_cons, succeeds_nil,
    succeeds_logUnlessOk, LcdEffect.isError]
  refine ⟨⟨opened₂, ?_⟩, white₂, ?_⟩
  · rw [context₂, context]
  · simp [glibOk, dmdOk]

theorem displayInit_ready (succeeds : Succeeds (displayInit.run env d).effects) :
    Ready (displayInit.run env d).state ∧
      ∀ i < displaySize * displaySize, (displayInit.run env d).state.picture i = true := by
  have init : (dmdInit env.memlcdStatus d.dmd).1 = dmdOk := by
    simp only [displayInit, Body.run_bind_effects, succeeds_append, run_glib_onDmd,
      succeeds_logUnlessOk] at succeeds
    exact succeeds.2.2.2.2.1
  obtain ⟨ready, background, -⟩ := displayInit_fresh env d (dmdInit_memlcd init)
  exact ⟨ready, background⟩

theorem displayInit_succeeds (memlcdStatus : env.memlcdStatus = 0) (updateStatus : env.updateStatus = 0) :
    Succeeds (displayInit.run env d).effects := by
  have init : (dmdInit env.memlcdStatus d.dmd).1 = dmdOk := by
    unfold dmdInit
    split_ifs <;> trivial
  exact (displayInit_fresh env d (dmdInit_memlcd init)).2.2.mpr ⟨init, updateStatus⟩

end
end BleRemote.Lcd
