import BleRemote.Lcd.Glass
import BleRemote.Lcd.Readable
import BleRemote.System.Texts

/-! From the events down to the glass: after every run that begins with the boot event, the panel
shows on each row the last text that the firmware printed there, and nothing else. -/

set_option autoImplicit false
namespace BleRemote.System

open Reactive Stack Device
open Lcd (LcdEnv LcdModule Framebuffer displaySize pixels rowBlock rowIndex rowPicture)

/-- The effects of a history, oldest first. -/
def effectsOf (h : List Handled) : List Effect := h.flatMap fun t => t.output.effects

theorem effectsOf_concat (h : List Handled) (t : Handled) :
    effectsOf (h ++ [t]) = effectsOf h ++ t.output.effects := by
  simp [effectsOf]

theorem rowShown_effectsOf (row : DisplayRow) (h : List Handled) :
    rowShown row h = rowAfter row "" (effectsOf h) := by
  induction h using List.reverseRecOn with
  | nil => rfl
  | append_singleton h t ih => rw [rowShown_concat, effectsOf_concat, rowAfter_append, ih]

theorem effectsOf_legible (db : GattDb) (role : Role) (inputs : List Input) :
    PrintsLegibly (effectsOf (run db role inputs)) := by
  refine run_invariant (P := fun past _ => PrintsLegibly (effectsOf past)) (fun _ => nofun) ?_ inputs
  intro past g i legible
  rw [effectsOf_concat, printsLegibly_append]
  exact ⟨legible, step_printsLegibly db role g i⟩

/-! ## Booting -/

@[simp] theorem find_logUnlessOk (command : String) (status : Status) (env : Env) (g : Globals) :
    ((logUnlessOk command status).run env g).effects.find? LcdModule.isDisplay = none := by
  unfold logUnlessOk
  split <;> rfl

/-- The display is set up before anything is printed. -/
theorem boot_sets_up (db : GattDb) (role : Role) (g : Globals) {i : Input} (boots : i.msg = .systemBoot) :
    (slBtOnEvent db role g i).2.effects.find? LcdModule.isDisplay = some .displayInit := by
  simp only [slBtOnEvent, Output.effects, List.find?_append]
  cases role <;>
    simp [boots, handleBleEvent, handleBleEventServer, handleBleEventClient, serverSystemBoot,
      clientSystemBoot, displayInit, LcdModule.isDisplay]

theorem effectsOf_find (db : GattDb) (role : Role) {boot : Input} (boots : boot.msg = .systemBoot)
    (rest : List Input) :
    (effectsOf (run db role (boot :: rest))).find? LcdModule.isDisplay = some .displayInit := by
  have first : effectsOf (run db role (boot :: rest)) = (slBtOnEvent db role .reset boot).2.effects ++
      effectsOf ((firmware db role).history (slBtOnEvent db role .reset boot).1 rest) := rfl
  rw [first, List.find?_append, boot_sets_up db role .reset boots, Option.some_or]

/-! ## The panel -/

/-- The panel has these texts on its rows and is white around them. -/
structure PanelShows (glass : Framebuffer) (texts : DisplayRow → String) : Prop where
  onRow (row : DisplayRow) (i : Nat) : i ∈ rowBlock (rowIndex row) →
    pixels glass i = rowPicture (rowIndex row) (texts row) i
  around (i : Nat) : i < displaySize * displaySize → (∀ row, i ∉ rowBlock (rowIndex row)) →
    pixels glass i = true

theorem panelShows_of_displays {l : LcdModule} {texts : DisplayRow → String} (displays : l.Displays texts) :
    PanelShows l.driver.glass texts := by
  have glass {i : Nat} (onPanel : i < displaySize * displaySize) :
      pixels l.driver.glass i = l.display.picture i :=
    displays.glass i (Nat.div_lt_of_lt_mul onPanel)
  constructor
  · intro row i member
    rw [glass (Lcd.rowBlock_onPanel member)]
    exact displays.shows.onRow row i member
  · intro i onPanel outside
    rw [glass onPanel]
    exact displays.shows.between i onPanel outside

section
variable (db : GattDb) (role : Role) {env : LcdEnv} (memlcdStatus : env.memlcdStatus = 0)
  (updateStatus : env.updateStatus = 0) {boot : Input} (boots : boot.msg = .systemBoot)
  (rest : List Input) (glass : Framebuffer)
include memlcdStatus updateStatus boots

theorem run_displays :
    (∃ after, LcdModule.Run env (effectsOf (run db role (boot :: rest))) (.reset glass) after) ∧
      ∀ after, LcdModule.Run env (effectsOf (run db role (boot :: rest))) (.reset glass) after →
        (LcdModule.reset glass).driver.Confined after.driver ∧
          after.Displays fun row => rowShown row (run db role (boot :: rest)) := by
  have sound : (LcdModule.reset glass).driver.Sound := Lcd.Driver.reset_sound glass
  have legible := effectsOf_legible db role (boot :: rest)
  simp only [rowShown_effectsOf]
  exact LcdModule.run_displays memlcdStatus updateStatus sound (effectsOf_find db role boots rest)
    fun p member => (legible p member).printable

/-- From power-on, with anything on the glass: the display functions never follow the pointer to
a missing device, write nothing outside of the driver's arrays, and after every event the panel
shows the last text of each row. -/
theorem panel_shows_texts :
    (∃ after, LcdModule.Run env (effectsOf (run db role (boot :: rest))) (.reset glass) after) ∧
      ∀ after, LcdModule.Run env (effectsOf (run db role (boot :: rest))) (.reset glass) after →
        (LcdModule.reset glass).driver.Confined after.driver ∧
          PanelShows after.driver.glass fun row => rowShown row (run db role (boot :: rest)) := by
  obtain ⟨reaches, every⟩ := run_displays db role memlcdStatus updateStatus boots rest glass
  refine ⟨reaches, fun after run => ?_⟩
  obtain ⟨confined, displays⟩ := every after run
  exact ⟨confined, panelShows_of_displays displays⟩

end

theorem panel_shows_boot :
    ∃ after, LcdModule.Run Lcd.panelEnv (effectsOf (run exampleDb .server
      (obligingInputs [.systemBoot, .smConfirmPasskey 1 123456]))) (.reset ⟨fun _ => 0xAA⟩) after :=
  (panel_shows_texts exampleDb .server rfl rfl rfl (obligingInputs [.smConfirmPasskey 1 123456]) _).1

/-! ## Reading the panel -/

theorem Legible.drawnText {text : String} (legible : Legible text) : Legible (drawnText text) := by
  unfold Device.drawnText
  split
  · decide
  · constructor
    · rw [String.toList_ofList]
      exact fun c member => legible.printable c (List.mem_of_mem_take member)
    · rw [String.length_ofList]
      exact List.length_take_le _ _

theorem rowAfter_legible (row : DisplayRow) {effects : List Effect} (legibly : PrintsLegibly effects)
    {shown : String} (legible : Legible shown) : Legible (rowAfter row shown effects) := by
  induction effects generalizing shown with
  | nil => exact legible
  | cons effect rest ih =>
    obtain ⟨here, later⟩ := (printsLegibly_cons effect rest).mp legibly
    apply ih later
    cases effect with
    | displayInit => exact fixedTexts_legible "" (by decide)
    | displayPrintf drawn text =>
      rw [drawRow]
      split
      · exact (here _ rfl).drawnText
      · exact legible
    | call | gpioPinOut | ledPatternOdd | ledPatternEven | log => exact legible

theorem rowShown_legible (db : GattDb) (role : Role) (inputs : List Input) (row : DisplayRow) :
    Legible (rowShown row (run db role inputs)) := by
  rw [rowShown_effectsOf]
  exact rowAfter_legible row (effectsOf_legible db role inputs) (by decide)

/-- What ends visibly is drawn as it is. -/
theorem rowText_legible {text : String} (legible : Legible text) (visible : Lcd.EndsVisibly text) :
    Lcd.rowText text = text.toList := by
  have nonempty : text.length ≠ 0 := by
    intro empty
    obtain ⟨c, last, shown⟩ := visible
    rw [Lcd.rowText, if_pos empty] at last
    exact shown (Option.some.inj last).symm
  rw [Lcd.rowText, if_neg nonempty]
  exact if_pos legible.fits

theorem looksAs_iff {row : UInt32} {text other : String} (legible : Legible text)
    (legible' : Legible other) (visible : Lcd.EndsVisibly text) (visible' : Lcd.EndsVisibly other) :
    Lcd.LooksAs row text other ↔ text = other := by
  constructor
  · intro same
    have chars := rowText_legible legible visible
    have chars' := rowText_legible legible' visible'
    have equal := same.rowText_eq (chars ▸ legible.printable) (chars' ▸ legible'.printable) visible visible'
    rw [chars, chars'] at equal
    exact String.toList_inj.mp equal
  · rintro rfl i -
    rfl

/-- A run that begins with the boot event has left this on the panel. -/
def LeavesOn (db : GattDb) (role : Role) (env : LcdEnv) (boot : Input) (rest : List Input)
    (after : LcdModule) : Prop :=
  boot.msg = .systemBoot ∧
    ∃ glass, LcdModule.Run env (effectsOf (run db role (boot :: rest))) (.reset glass) after

/-- Two panels, of one device at two times or of two devices, look the same on a row if and only
if the texts there are the same. -/
theorem panels_tell_texts {db db' : GattDb} {role role' : Role} {env : LcdEnv}
    (memlcdStatus : env.memlcdStatus = 0) (updateStatus : env.updateStatus = 0) {boot boot' : Input}
    {rest rest' : List Input} {first second : LcdModule}
    (left : LeavesOn db role env boot rest first) (left' : LeavesOn db' role' env boot' rest' second)
    {row : DisplayRow} (visible : Lcd.EndsVisibly (rowShown row (run db role (boot :: rest))))
    (visible' : Lcd.EndsVisibly (rowShown row (run db' role' (boot' :: rest')))) :
    (∀ i ∈ rowBlock (rowIndex row), pixels first.driver.glass i = pixels second.driver.glass i) ↔
      rowShown row (run db role (boot :: rest)) = rowShown row (run db' role' (boot' :: rest')) := by
  obtain ⟨boots, glass, ran⟩ := left
  obtain ⟨boots', glass', ran'⟩ := left'
  have shows := panelShows_of_displays
    ((run_displays db role memlcdStatus updateStatus boots rest glass).2 first ran).2
  have shows' := panelShows_of_displays
    ((run_displays db' role' memlcdStatus updateStatus boots' rest' glass').2 second ran').2
  rw [← looksAs_iff (rowShown_legible db role _ row) (rowShown_legible db' role' _ row) visible visible']
  apply forall₂_congr
  intro i member
  rw [shows.onRow row i member, shows'.onRow row i member]

-- A server that asks to compare passkeys after power-on.
def exampleBoot : Input := ⟨obliging fun _ => true, .systemBoot⟩

def exampleCheck (passkey : UInt32) : List Input := obligingInputs [.smConfirmPasskey 1 passkey]

theorem exampleCheck_reached (passkey : UInt32) :
    ∃ after, LeavesOn exampleDb .server Lcd.panelEnv exampleBoot (exampleCheck passkey) after := by
  have boots : exampleBoot.msg = .systemBoot := rfl
  obtain ⟨⟨after, ran⟩, -⟩ :=
    run_displays exampleDb .server (rfl : Lcd.panelEnv.memlcdStatus = 0) rfl boots (exampleCheck passkey) ⟨fun _ => 0⟩
  exact ⟨after, boots, _, ran⟩

theorem panels_tell_passkeys : ∃ first second,
    LeavesOn exampleDb .server Lcd.panelEnv exampleBoot (exampleCheck 123456) first ∧
      LeavesOn exampleDb .server Lcd.panelEnv exampleBoot (exampleCheck 123465) second ∧
      ¬ ∀ i ∈ rowBlock (rowIndex .passkey), pixels first.driver.glass i = pixels second.driver.glass i := by
  obtain ⟨first, left⟩ := exampleCheck_reached 123456
  obtain ⟨second, left'⟩ := exampleCheck_reached 123465
  refine ⟨first, second, left, left', ?_⟩
  rw [panels_tell_texts rfl rfl left left' ⟨'6', by decide, by decide⟩ ⟨'5', by decide, by decide⟩]
  decide

end BleRemote.System
