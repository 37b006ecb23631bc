import BleRemote.Lcd.Frames
import BleRemote.Lcd.Shown

/-! The display functions of `lcd.c` down to the glass: each of them draws by calls of the driver
and ends with an update, so that the panel has the framebuffer after each of them. -/

set_option autoImplicit false
namespace BleRemote.Lcd

open Imperative Reactive Relation
open Device (DisplayRow Effect)

/-! ## Drawing on a row -/

/-- The lines of a row of text in the font of a context. -/
def textLines (context : GlibContext) (row : UInt32) : Set Nat :=
  {y | row.toNat * (context.font.fontHeight + context.font.lineSpacing) ≤ y ∧
    y < row.toNat * (context.font.fontHeight + context.font.lineSpacing) + context.font.fontHeight}

section
variable {context : GlibContext} {lines : Set Nat} {d : Display} (env : LcdEnv)

theorem run_glib_state (x : Glib EmStatus) (d : Display) :
    ((glib x).run env d).state = finalState (x d) := by
  simp only [glib, Body.run]
  cases x d <;> rfl

theorem drawOnRow_on (clips : context.clippingRegion = ⟨0, 0, 127, 127⟩) (step : String)
    {pString : List Char} {row : UInt32} (within : row < displayNumberOfRows)
    (breaks : '\n' ∈ pString → lines = Set.univ) (inside : textLines context row ⊆ lines)
    (setUp : SetUp context d) :
    SetUp context ((drawOnRow step pString row).run env d).state ∧
      DrewOn lines d ((drawOnRow step pString row).run env d).state := by
  have small : row.toNat < 13 := UInt32.lt_iff_toNat_lt.mp within
  have line : row.toUInt8.toNat = row.toNat := by
    rw [UInt32.toNat_toUInt8]
    omega
  have high : ∀ k < context.font.fontHeight, LineIn lines (row.toUInt8.toNat *
      (context.font.fontHeight + context.font.lineSpacing) + 0 + (k : Nat)) := by
    rintro k below - -
    rw [line]
    apply inside
    have place : ((row.toNat : Int) * (context.font.fontHeight + context.font.lineSpacing) + 0 +
        (k : Nat)).toNat = row.toNat * (context.font.fontHeight + context.font.lineSpacing) + k := by
      rw [← Int.natCast_add, ← Int.natCast_mul]
      omega
    rw [place]
    exact ⟨Nat.le_add_right _ _, Nat.add_lt_add_left below _⟩
  obtain ⟨kept, drew, -⟩ :=
    glibDrawStringOnLine_on clips pString row.toUInt8 .center 0 0 true breaks high d setUp
  simp only [drawOnRow, Body.run_bind_state, Body.run_emit, run_glib_state, run_logUnlessOk_state]
  exact ⟨kept, drew⟩

/-- Whatever the text is made of, a call of `displayPrintf` draws on the lines of its row only,
unless a line break is drawn. -/
theorem displayPrintf_on (clips : context.clippingRegion = ⟨0, 0, 127, 127⟩) {row : UInt32}
    {text : String} (breaks : '\n' ∈ rowText text → lines = Set.univ)
    (inside : textLines context row ⊆ lines) (setUp : SetUp context d) :
    SetUp context ((displayPrintf row text).run env d).state ∧
      DrewOn lines d ((displayPrintf row text).run env d).state := by
  rcases UInt32.le_or_lt displayNumberOfRows row with beyond | within
  · rw [displayPrintf_beyond env d text beyond]
    exact ⟨setUp, Std.Refl.refl d⟩
  · have spaces : '\n' ∉ strToErase := fun member =>
      absurd (List.eq_of_mem_replicate member) (by decide)
    obtain ⟨erased, first⟩ := drawOnRow_on env clips "Erase" within (fun newline => absurd newline spaces)
      inside setUp
    obtain ⟨drawn, rest⟩ := drawOnRow_on env clips "Draw" within breaks inside erased
    have state : ((displayPrintf row text).run env d).state =
        ((drawOnRow "Draw" (rowText text) row).run env
          ((drawOnRow "Erase" strToErase row).run env d).state).state := by
      rw [displayPrintf, if_neg (UInt32.not_le.mpr within), rowText_eq]
      rfl
    rw [state]
    exact ⟨drawn, IsTrans.trans _ _ _ first rest⟩

theorem Ready.setUp (ready : Ready d) : SetUp ⟨white, black, ⟨0, 0, 127, 127⟩, glibFontNarrow6x8⟩ d :=
  ⟨ready.opened, ready.context⟩

end

/-! ## Setting up -/

/-- The driver was called. -/
def Called (d next : Display) : Prop := Carried d.dmd next.dmd

instance : IsPreorder Display Called where
  refl d := Carried.refl d.dmd
  trans _ _ _ := Carried.trans

section
variable {A : Type} {post : A → Prop}

abbrev Calls (x : Glib A) : Prop := Stays (fun _ => True) Called (fun _ => True) x

theorem calls_get (f : Display → A) : Calls (do return f (← get)) :=
  fun d _ => ⟨trivial, Std.Refl.refl d, fun _ _ _ => trivial⟩

theorem calls_setContext (f : GlibContext → GlibContext) : Calls (setContext f) :=
  fun d _ => ⟨trivial, Carried.refl d.dmd, fun _ _ _ => trivial⟩

theorem calls_onDmd {f : Dmd → EmStatus × Dmd} (carried : ∀ d, Carried d (f d).2) : Calls (onDmd f) :=
  fun d _ => ⟨trivial, carried d.dmd, fun _ _ _ => trivial⟩

theorem dmdInit_carried (d : Dmd) : Carried d (dmdInit 0 d).2 := by
  rintro driver rfl
  refine ⟨driver.dmdInit.2, .single ⟨.init, trivial, rfl⟩, ?_⟩
  have written (n : Nat) := (Driver.dmdWriteColor_dmd (d := driver.withDevice) (x := 0) (y := 0)
    (n := n) 0x00 0x00 0x00).2
  unfold Driver.dmdInit dmdInit
  generalize displaySize * displaySize = n
  split
  · rfl
  · rw [if_neg (not_not_intro rfl)]
    exact written n

theorem dmdGetDisplayGeometry_carried (d : Dmd) : Carried d (dmdGetDisplayGeometry d).2 := by
  rintro driver rfl
  exact ⟨_, .single ⟨.getDisplayGeometry, trivial, rfl⟩, rfl⟩

theorem dmdSetClippingArea_carried (xStart yStart width height : Nat) (d : Dmd) :
    Carried d (dmdSetClippingArea xStart yStart width height d).2 := by
  rintro driver rfl
  exact ⟨_, .single ⟨.setClippingArea xStart yStart width height, trivial, rfl⟩, rfl⟩

theorem glibSetClippingRegion_calls (rect : GlibRectangle) : Calls (glibSetClippingRegion rect) := by
  apply (calls_get fun d => d.dmd.dimensions).bind
  intro geometry _
  apply Stays.ite
  · exact fun _ => stays_pure trivial
  · intro _
    apply Stays.ite
    · exact fun _ => stays_pure trivial
    · intro _
      apply (calls_setContext _).bind
      intro _ _
      apply (calls_get fun d => d.glibContext).bind
      exact fun _ _ => calls_onDmd (dmdSetClippingArea_carried _ _ _ _)

theorem glibSetFont_calls (font : GlibFont) : Calls (glibSetFont font) :=
  (calls_setContext _).bind fun _ _ => stays_pure trivial

theorem glibContextInit_calls (defaultFont : GlibFont) : Calls (glibContextInit defaultFont) := by
  apply (calls_setContext _).bind
  intro _ _
  apply (calls_onDmd dmdGetDisplayGeometry_carried).bind
  intro status _
  apply Stays.ite
  · exact fun _ => stays_pure trivial
  · intro _
    apply (calls_get fun d => d.dmd.dimensions).bind
    intro geometry _
    apply (glibSetClippingRegion_calls _).bind
    intro status _
    apply Stays.ite
    · exact fun _ => stays_pure trivial
    · intro _
      apply (glibSetFont_calls defaultFont).bind
      exact fun _ _ => stays_pure trivial

theorem glibClear_calls : Calls glibClear := by
  apply (calls_get fun d => d.glibContext).bind
  intro context _
  apply ((calls_get fun d => d.dmd.dimensions).bind fun geometry _ =>
    calls_onDmd (dmdSetClippingArea_carried 0 0 geometry.xSize geometry.ySize)).bind
  intro status _
  apply Stays.ite
  · exact fun _ => stays_pure trivial
  · intro _
    apply (calls_get fun d => d.dmd.dimensions).bind
    exact fun _ _ => calls_onDmd fun d => dmdWriteColor_carried 0 _ _ _ _ (Nat.zero_le _)

theorem displayInit_called {env : LcdEnv} (memlcdStatus : env.memlcdStatus = 0) (d : Display) :
    Called d (displayInit.run env d).state := by
  have init := (calls_onDmd dmdInit_carried (⟨d.dmd, .zero⟩) trivial).2.1
  simp only [displayInit, Body.run_bind_state, Body.run_environment, Body.run_modify, Body.run_emit,
    run_logUnlessOk_state, run_dmdUpdateDisplay, run_glib_state, memlcdStatus]
  generalize finalState (onDmd (dmdInit 0) ⟨d.dmd, .zero⟩) = d₁ at init ⊢
  have context := (glibContextInit_calls env.defaultFont d₁ trivial).2.1
  generalize finalState (glibContextInit env.defaultFont d₁) = d₂ at context ⊢
  have clear := (glibClear_calls ⟨d₂.dmd, { d₂.glibContext with
    backgroundColor := white, foregroundColor := black }⟩ trivial).2.1
  exact Carried.trans init (Carried.trans context clear)

end

/-! ## Down to the glass -/

/-- The display data of `lcd.c` and the driver as it really is, with its panel. -/
structure LcdModule where
  driver : Driver
  glibContext : GlibContext

namespace LcdModule

def display (l : LcdModule) : Display := ⟨l.driver.dmd, l.glibContext⟩

/-- After power-on, with anything on the glass. -/
def reset (glass : Framebuffer) : LcdModule := ⟨.reset glass, .zero⟩

/-- A display function draws by calls of the driver and ends with an update. -/
def Does (draw : Display → Display) (before after : LcdModule) : Prop :=
  ∃ drawn status driver, ReflTransGen Driver.Step before.driver drawn ∧
    drawn.dmd = (draw before.display).dmd ∧ drawn.dmdUpdateDisplay = some (status, driver) ∧
      after = ⟨driver, (draw before.display).glibContext⟩

/-- What an effect of the firmware does to the display and its panel. -/
def Step (env : LcdEnv) (effect : Effect) (before after : LcdModule) : Prop :=
  match effect with
  | .displayInit | .displayPrintf .. => Does (fun d => panelStep env d effect) before after
  | _ => after = before

/-- Effects one after the other. -/
def Run (env : LcdEnv) : List Effect → LcdModule → LcdModule → Prop
  | [], before, after => after = before
  | effect :: rest, before, after =>
    ∃ between, Step env effect before between ∧ Run env rest between after

/-- The effects that the display is for. -/
def isDisplay : Effect → Bool
  | .displayInit | .displayPrintf .. => true
  | _ => false

/-- The framebuffer has these texts, and the glass has the framebuffer. -/
structure Displays (l : LcdModule) (texts : DisplayRow → String) : Prop where
  shows : Shows l.display texts
  sound : l.driver.Sound
  glass (i : Nat) : i / displaySize < displaySize → pixels l.driver.glass i = l.display.picture i

section
variable {env : LcdEnv} {before after : LcdModule} {texts : DisplayRow → String}
  {draw : Display → Display}

theorem run_append (first rest : List Effect) : Run env (first ++ rest) before after ↔
    ∃ between, Run env first before between ∧ Run env rest between after := by
  induction first generalizing before with
  | nil => exact ⟨fun run => ⟨before, rfl, run⟩, fun ⟨_, same, run⟩ => same ▸ run⟩
  | cons effect first ih =>
    constructor
    · rintro ⟨next, step, run⟩
      obtain ⟨between, run', run''⟩ := ih.mp run
      exact ⟨between, ⟨next, step, run'⟩, run''⟩
    · rintro ⟨between, ⟨next, step, run⟩, run'⟩
      exact ⟨next, step, ih.mpr ⟨between, run, run'⟩⟩

theorem run_elsewhere {effects : List Effect} (elsewhere : ∀ e ∈ effects, isDisplay e = false) :
    Run env effects before after ↔ after = before := by
  induction effects generalizing before with
  | nil => exact Iff.rfl
  | cons effect rest ih =>
    obtain ⟨here, later⟩ := List.forall_mem_cons.mp elsewhere
    have step (next : LcdModule) : Step env effect before next ↔ next = before := by
      cases effect <;> first | exact Iff.rfl | cases here
    constructor
    · rintro ⟨next, moved, run⟩
      rw [(ih later).mp run, (step next).mp moved]
    · rintro rfl
      exact ⟨after, (step after).mpr rfl, (ih later).mpr rfl⟩

/-- An update does not change what is drawn, and it shows it. -/
theorem Does.shown (does : Does draw before after) (sound : before.driver.Sound) :
    before.driver.Confined after.driver ∧ (Shows (draw before.display) texts → after.Displays texts) := by
  obtain ⟨drawn, status, driver, calls, same, update, rfl⟩ := does
  obtain ⟨confined, kept⟩ := sound.run calls
  obtain ⟨same', confined', glass⟩ := kept.updated update
  have step : drawn.Step driver := ⟨.updateDisplay, trivial, by rw [Driver.perform, update]; rfl⟩
  have drawing : display ⟨driver, (draw before.display).glibContext⟩ = draw before.display := by
    rw [display, same', same]
  exact ⟨confined.trans confined', fun shows => ⟨drawing ▸ shows, (kept.step step).2, glass⟩⟩

/-- The driver does what it is asked for, once it has its device. -/
theorem does_of_called (called : Called before.display (draw before.display))
    (device : (draw before.display).dmd.memlcd = true) : ∃ after, Does draw before after := by
  obtain ⟨drawn, calls, same⟩ := called before.driver rfl
  obtain ⟨-, driver, update, -⟩ := Driver.update_sends_dirty (d := drawn) (same ▸ device)
  exact ⟨_, drawn, dmdOk, driver, calls, same, update, rfl⟩

variable (memlcdStatus : env.memlcdStatus = 0) (updateStatus : env.updateStatus = 0)
include memlcdStatus updateStatus

/-- From any state the display is set up, and blank. -/
theorem init_step (sound : before.driver.Sound) : (∃ after, Step env .displayInit before after) ∧
    ∀ after, Step env .displayInit before after →
      before.driver.Confined after.driver ∧ after.Displays fun _ => "" := by
  have blank := shows_displayInit memlcdStatus updateStatus before.display
  constructor
  · change ∃ after, Does (fun d => panelStep env d .displayInit) before after
    exact does_of_called (displayInit_called memlcdStatus before.display) blank.ready.opened.memlcd
  · intro after step
    have does : Does (fun d => panelStep env d .displayInit) before after := step
    obtain ⟨confined, displays⟩ := does.shown sound
    exact ⟨confined, displays blank⟩

theorem Displays.step (displays : before.Displays texts) (effect : Effect)
    (printable : ∀ p ∈ Device.prints [effect], ∀ c ∈ p.2.toList, Printable c) :
    (∃ after, Step env effect before after) ∧ ∀ after, Step env effect before after →
      before.driver.Confined after.driver ∧
        after.Displays fun row => Device.drawRow row (texts row) effect := by
  cases effect with
  | displayInit => exact init_step memlcdStatus updateStatus displays.sound
  | displayPrintf row text =>
    have next : Shows (panelStep env before.display (.displayPrintf row text)) fun other =>
        Device.drawRow other (texts other) (.displayPrintf row text) :=
      displays.shows.displayPrintf row (printable (row, text) List.mem_cons_self)
    have drew : DrewOn Set.univ before.display (panelStep env before.display (.displayPrintf row text)) :=
      (displayPrintf_on env rfl (fun _ => rfl) (Set.subset_univ _) displays.shows.ready.setUp).2
    constructor
    · change ∃ after, Does (fun d => panelStep env d (.displayPrintf row text)) before after
      exact does_of_called drew.carried next.ready.opened.memlcd
    · intro after step
      have does : Does (fun d => panelStep env d (.displayPrintf row text)) before after := step
      obtain ⟨confined, shown⟩ := does.shown displays.sound
      exact ⟨confined, shown next⟩
  | call | gpioPinOut | ledPatternOdd | ledPatternEven | log =>
    refine ⟨⟨before, rfl⟩, ?_⟩
    rintro after rfl
    exact ⟨.refl after.driver, displays⟩

theorem Displays.run (displays : before.Displays texts) (effects : List Effect)
    (printable : ∀ p ∈ Device.prints effects, ∀ c ∈ p.2.toList, Printable c) :
    (∃ after, Run env effects before after) ∧ ∀ after, Run env effects before after →
      before.driver.Confined after.driver ∧
        after.Displays fun row => Device.rowAfter row (texts row) effects := by
  induction effects generalizing before texts with
  | nil =>
    refine ⟨⟨before, rfl⟩, ?_⟩
    rintro after rfl
    exact ⟨.refl after.driver, displays⟩
  | cons effect rest ih =>
    have here : ∀ p ∈ Device.prints [effect], ∀ c ∈ p.2.toList, Printable c := by
      intro p member
      apply printable p
      rw [Device.prints_cons] at member ⊢
      exact List.mem_append_left _ (by simpa using member)
    have later : ∀ p ∈ Device.prints rest, ∀ c ∈ p.2.toList, Printable c := by
      intro p member
      apply printable p
      rw [Device.prints_cons]
      exact List.mem_append_right _ member
    obtain ⟨⟨between, step⟩, every⟩ := displays.step memlcdStatus updateStatus effect here
    constructor
    · obtain ⟨⟨after, run⟩, -⟩ := ih (every between step).2 later
      exact ⟨after, between, step, run⟩
    · rintro after ⟨between, step, run⟩
      obtain ⟨confined, next⟩ := every between step
      obtain ⟨confined', final⟩ := (ih next later).2 after run
      exact ⟨confined.trans confined', final⟩

/-- Where the display is set up first, the panel has the texts of the rows. -/
theorem run_displays (sound : before.driver.Sound) {effects : List Effect}
    (setUp : effects.find? isDisplay = some .displayInit)
    (printable : ∀ p ∈ Device.prints effects, ∀ c ∈ p.2.toList, Printable c) :
    (∃ after, Run env effects before after) ∧ ∀ after, Run env effects before after →
      before.driver.Confined after.driver ∧
        after.Displays fun row => Device.rowAfter row "" effects := by
  obtain ⟨-, first, rest, rfl, none⟩ := List.find?_eq_some_iff_append.mp setUp
  have elsewhere : ∀ e ∈ first, isDisplay e = false := by simpa using none
  have printable' : ∀ p ∈ Device.prints rest, ∀ c ∈ p.2.toList, Printable c := by
    intro p member
    apply printable p
    rw [Device.prints_append, Device.prints_cons]
    exact List.mem_append_right _ (List.mem_append_right _ member)
  have texts (row : DisplayRow) :
      Device.rowAfter row "" (first ++ .displayInit :: rest) = Device.rowAfter row "" rest := by
    rw [Device.rowAfter_append, Device.rowAfter_cons, Device.drawRow]
  obtain ⟨⟨blank, init⟩, every⟩ := init_step memlcdStatus updateStatus sound
  simp only [run_append, run_elsewhere elsewhere, texts]
  constructor
  · obtain ⟨⟨after, run⟩, -⟩ := (every blank init).2.run memlcdStatus updateStatus rest printable'
    exact ⟨after, before, rfl, blank, init, run⟩
  · rintro after ⟨_, rfl, blank', init', run⟩
    obtain ⟨confined, displays⟩ := every blank' init'
    obtain ⟨confined', final⟩ := (displays.run memlcdStatus updateStatus rest printable').2 after run
    exact ⟨confined.trans confined', final⟩

end
end LcdModule
end BleRemote.Lcd
