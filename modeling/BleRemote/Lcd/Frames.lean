import BleRemote.Imperative.Stays
import BleRemote.Lcd.Mirror
import BleRemote.Lcd.Text

/-! What drawing leaves alone: whatever the text, the font and the place, the graphics library
changes the framebuffer on the lines of what it draws only, and only by calls of the driver. -/

set_option autoImplicit false
namespace BleRemote.Lcd

open Imperative Relation

/-- Some calls of the driver take its framebuffer and its clip from one state to the other. -/
def Carried (d next : Dmd) : Prop :=
  ∀ driver : Driver, driver.dmd = d → ∃ after, ReflTransGen Driver.Step driver after ∧ after.dmd = next

/-- The driver was called, and no pixel but on these lines of the panel is different. -/
structure DrewOn (lines : Set Nat) (d next : Display) : Prop where
  carried : Carried d.dmd next.dmd
  elsewhere (i : Nat) : ¬ (i / displaySize < displaySize ∧ i / displaySize ∈ lines) →
    next.picture i = d.picture i

theorem Carried.refl (d : Dmd) : Carried d d := fun driver same => ⟨driver, .refl, same⟩

theorem Carried.trans {d between next : Dmd} (first : Carried d between) (rest : Carried between next) :
    Carried d next := by
  intro driver same
  obtain ⟨_, run, same'⟩ := first driver same
  obtain ⟨after, run', same''⟩ := rest _ same'
  exact ⟨after, run.trans run', same''⟩

instance : IsPreorder Dmd Carried where
  refl := Carried.refl
  trans _ _ _ := Carried.trans

instance (lines : Set Nat) : IsPreorder Display (DrewOn lines) where
  refl d := ⟨.refl d.dmd, fun _ _ => rfl⟩
  trans _ _ _ first rest := ⟨first.carried.trans rest.carried,
    fun i outside => (rest.elsewhere i outside).trans (first.elsewhere i outside)⟩

/-- The display is set up with this context, which clips to the whole panel. -/
structure SetUp (context : GlibContext) (d : Display) : Prop where
  opened : d.dmd.Open
  context : d.glibContext = context

/-- Drawing with a context on some lines. -/
abbrev DrawsOn {A : Type} (context : GlibContext) (lines : Set Nat) (post : A → Prop) (x : Glib A) : Prop :=
  Stays (SetUp context) (DrewOn lines) post x

/-- A line that is on the panel is one of these. -/
def LineIn (lines : Set Nat) (y : Int) : Prop := 0 ≤ y → y ≤ 127 → y.toNat ∈ lines

/-! ## Calls of the driver -/

theorem dmdWriteColor_carried {d : Dmd} {x : Nat} (y : Nat) (red green blue : BitVec 8) (n : Nat)
    (inClip : x ≤ d.dimensions.clipWidth) : Carried d (dmdWriteColor x y red green blue n d).2 := by
  rintro driver rfl
  exact ⟨_, .single ⟨.writeColor x y red green blue n, inClip, rfl⟩,
    (Driver.dmdWriteColor_dmd red green blue).2⟩

/-! ## Pixels -/

section
variable {context : GlibContext} {lines : Set Nat} {x y : Int}

theorem stays_getContext : DrawsOn context lines (· = context) getContext := by
  intro d setUp
  refine ⟨setUp, Std.Refl.refl d, fun a t result => ?_⟩
  injection (show EStateM.Result.ok d.glibContext d = .ok a t from result) with value
  exact value.symm.trans setUp.context

theorem stays_getDisplayGeometry :
    DrawsOn context lines (· = ⟨displaySize, displaySize, 0, 0, displaySize, displaySize⟩)
      getDisplayGeometry := by
  intro d setUp
  refine ⟨setUp, Std.Refl.refl d, fun a t result => ?_⟩
  injection (show EStateM.Result.ok d.dmd.dimensions d = .ok a t from result) with value
  exact value.symm.trans setUp.opened.dimensions

/-- One pixel, on its line if it is on the panel. -/
theorem glibDrawPixelColor_on (color : Color) (clips : context.clippingRegion = ⟨0, 0, 127, 127⟩)
    (line : LineIn lines y) : DrawsOn context lines (fun _ => True) (glibDrawPixelColor x y color) := by
  apply stays_getContext.bind
  rintro _ rfl
  apply Stays.ite
  · intro inside d setUp
    obtain ⟨column, row⟩ : (0 ≤ x ∧ x ≤ 127) ∧ 0 ≤ y ∧ y ≤ 127 := by
      rw [clips] at inside
      simp only [glibRectContainsPoint] at inside
      omega
    have place : uint16 x = x.toNat ∧ uint16 y = y.toNat := by
      unfold uint16
      omega
    have below : x.toNat < displaySize := by
      unfold displaySize
      omega
    obtain ⟨-, opened, fills⟩ := dmdWriteColor_fills (y := y.toNat) (n := 1)
      (glibColorTranslate24bpp color).1 (glibColorTranslate24bpp color).2.1
      (glibColorTranslate24bpp color).2.2 setUp.opened below Nat.one_pos (by unfold displaySize at *; omega)
    rw [← place.1, ← place.2] at opened fills
    refine ⟨⟨opened, setUp.context⟩, ⟨?_, fun i outside => fills.outside i ?_⟩, fun _ _ _ => trivial⟩
    · apply dmdWriteColor_carried
      rw [setUp.opened.dimensions, place.1]
      exact below.le
    · rintro ⟨first, last⟩
      have here : i / displaySize = y.toNat := by
        rw [place.1, place.2] at first last
        unfold displaySize at *
        omega
      apply outside
      rw [here]
      exact ⟨by unfold displaySize; omega, line row.1 row.2⟩
  · exact fun _ => stays_pure trivial

theorem glibDrawPixel_on (clips : context.clippingRegion = ⟨0, 0, 127, 127⟩) (line : LineIn lines y) :
    DrawsOn context lines (fun _ => True) (glibDrawPixel x y) := by
  apply stays_getContext.bind
  intro current _
  exact glibDrawPixelColor_on current.foregroundColor clips line

theorem countDrawn_on (drawnElements : Nat) (status : EmStatus) :
    DrawsOn context lines (fun _ => True) (countDrawn drawnElements status) :=
  Stays.ite (fun _ => stays_throw status) fun _ => stays_pure trivial

/-! ## Characters -/

theorem drawCharPixel_on (clips : context.clippingRegion = ⟨0, 0, 127, 127⟩) (line : LineIn lines y)
    (isOpaque : Bool) (progress : Nat × Nat) (xOffset : Nat) :
    DrawsOn context lines (fun _ => True) (drawCharPixel x y isOpaque progress xOffset) := by
  apply stays_getContext.bind
  intro current _
  apply Stays.ite
  · intro _
    apply (glibDrawPixel_on clips line).bind
    intro status _
    exact (countDrawn_on _ status).bind fun _ _ => stays_pure trivial
  · intro _
    apply Stays.ite
    · intro _
      apply (glibDrawPixelColor_on _ clips line).bind
      intro status _
      exact (countDrawn_on _ status).bind fun _ _ => stays_pure trivial
    · exact fun _ => stays_pure trivial

theorem drawSpacingPixel_on (clips : context.clippingRegion = ⟨0, 0, 127, 127⟩) (line : LineIn lines y)
    (isOpaque : Bool) (drawnElements xOffset : Nat) :
    DrawsOn context lines (fun _ => True) (drawSpacingPixel x y isOpaque drawnElements xOffset) := by
  apply stays_getContext.bind
  intro current _
  apply Stays.ite
  · exact fun _ => (glibDrawPixelColor_on _ clips line).bind fun status _ => countDrawn_on _ status
  · exact fun _ => stays_pure trivial

theorem drawCharRow_on (clips : context.clippingRegion = ⟨0, 0, 127, 127⟩) (isOpaque : Bool)
    (progress : Nat × Nat) {row : Nat} (line : LineIn lines (y + row)) :
    DrawsOn context lines (fun _ => True) (drawCharRow x y isOpaque progress row) := by
  apply stays_getContext.bind
  intro current _
  apply Stays.bind (Q := fun _ => True)
  · exact stays_foldlM trivial fun progress xOffset _ _ =>
      drawCharPixel_on clips line isOpaque progress xOffset
  · intro columns _
    apply Stays.bind (Q := fun _ => True)
    · exact stays_foldlM trivial fun drawnElements xOffset _ _ =>
        drawSpacingPixel_on clips line isOpaque drawnElements xOffset
    · exact fun _ _ => stays_pure trivial

/-- A character, of any code, is drawn on as many lines as the font is high. -/
theorem glibDrawChar_on (clips : context.clippingRegion = ⟨0, 0, 127, 127⟩) (myChar : Char)
    (isOpaque : Bool) (high : ∀ row < context.font.fontHeight, LineIn lines (y + (row : Nat))) :
    DrawsOn context lines (fun _ => True) (glibDrawChar myChar x y isOpaque) := by
  apply stays_getContext.bind
  rintro _ rfl
  apply Stays.ite
  · exact fun _ => stays_pure trivial
  · intro _
    apply Stays.ite
    · exact fun _ => stays_pure trivial
    · intro _
      apply Stays.returning (P := fun _ => True)
      apply Stays.bind (Q := fun _ => True)
      · exact stays_foldlM trivial fun progress row member _ =>
          drawCharRow_on clips isOpaque progress (high row (List.mem_range.mp member))
      · exact fun _ _ => stays_pure trivial

/-! ## Strings -/

theorem drawStringChar_on (clips : context.clippingRegion = ⟨0, 0, 127, 127⟩) (x0 : Int)
    (isOpaque : Bool) (progress : Nat × Int × Int) {myChar : Char}
    (breaks : myChar = '\n' → lines = Set.univ)
    (high : ∀ row < context.font.fontHeight, LineIn lines (progress.2.2 + (row : Nat))) :
    DrawsOn context lines (fun next => ∀ row < context.font.fontHeight,
      LineIn lines (next.2.2 + (row : Nat))) (drawStringChar x0 isOpaque progress myChar) := by
  apply stays_getContext.bind
  intro current _
  apply Stays.ite
  · intro newline
    rw [breaks newline]
    exact stays_pure fun _ _ _ _ => trivial
  · intro _
    apply (glibDrawChar_on clips myChar isOpaque high).bind
    intro status _
    apply (countDrawn_on progress.1 status).bind
    exact fun _ _ => stays_pure high

/-- A string without a line break is drawn on the lines of its font; a line break may lead
to any line of the panel. -/
theorem glibDrawString_on (clips : context.clippingRegion = ⟨0, 0, 127, 127⟩) {pString : List Char}
    (sLength : Nat) (isOpaque : Bool) (breaks : '\n' ∈ pString.take sLength → lines = Set.univ)
    (high : ∀ row < context.font.fontHeight, LineIn lines (y + (row : Nat))) :
    DrawsOn context lines (fun _ => True) (glibDrawString pString sLength x y isOpaque) := by
  apply stays_getContext.bind
  intro current _
  apply Stays.ite
  · exact fun _ => stays_pure trivial
  · intro _
    apply Stays.returning (P := fun _ => True)
    apply Stays.bind (Q := fun _ => True)
    · apply Stays.mono (P := fun progress => ∀ row < context.font.fontHeight,
        LineIn lines (progress.2.2 + (row : Nat)))
      · apply stays_foldlM high
        intro progress myChar member inside
        exact drawStringChar_on clips x isOpaque progress (fun newline => breaks (newline ▸ member)) inside
      · exact fun _ _ => trivial
    · exact fun _ _ => stays_pure trivial

theorem glibDrawStringOnLine_on (clips : context.clippingRegion = ⟨0, 0, 127, 127⟩)
    (pString : List Char) (line : UInt8) (align : GlibAlign) (xOffset yOffset : Int) (isOpaque : Bool)
    (breaks : '\n' ∈ pString → lines = Set.univ)
    (high : ∀ row < context.font.fontHeight,
      LineIn lines (line.toNat * (context.font.fontHeight + context.font.lineSpacing) + yOffset + (row : Nat))) :
    DrawsOn context lines (fun _ => True)
      (glibDrawStringOnLine pString line align xOffset yOffset isOpaque) := by
  apply stays_getContext.bind
  rintro _ rfl
  apply stays_getDisplayGeometry.bind
  rintro _ rfl
  exact glibDrawString_on clips _ isOpaque (fun member => breaks (List.mem_of_mem_take member)) high

/-- Any string, in any font, anywhere: nothing behind the framebuffer is written, and without a
line break no line but those of the string is drawn on. -/
theorem string_confined {d : Display} (opened : d.dmd.Open) (current : d.glibContext = context)
    (clips : context.clippingRegion = ⟨0, 0, 127, 127⟩) (pString : List Char) (line : UInt8)
    (align : GlibAlign) (xOffset yOffset : Int) (isOpaque : Bool) :
    let after := finalState (glibDrawStringOnLine pString line align xOffset yOffset isOpaque d)
    let top := line.toNat * (context.font.fontHeight + context.font.lineSpacing) + yOffset
    after.dmd.Open ∧ after.glibContext = context ∧ Carried d.dmd after.dmd ∧
      (∀ i, displaySize * displaySize ≤ i → after.picture i = d.picture i) ∧
      ('\n' ∉ pString → ∀ i, ¬ (top ≤ (i / displaySize : Nat) ∧
        (i / displaySize : Nat) < top + context.font.fontHeight) → after.picture i = d.picture i) := by
  have setUp : SetUp context d := ⟨opened, current⟩
  obtain ⟨kept, anywhere, -⟩ := glibDrawStringOnLine_on clips pString line align xOffset yOffset isOpaque
    (fun _ => rfl) (fun _ _ _ _ => Set.mem_univ _) d setUp
  refine ⟨kept.opened, kept.context, anywhere.carried, fun i behind => ?_, fun unbroken i outside => ?_⟩
  · apply anywhere.elsewhere i
    rintro ⟨onPanel, -⟩
    exact absurd behind (Nat.not_le.mpr (Nat.lt_mul_of_div_lt onPanel (by decide)))
  · have high : ∀ row < context.font.fontHeight,
        LineIn {y : Nat | line.toNat * (context.font.fontHeight + context.font.lineSpacing) + yOffset ≤ y ∧
          y < line.toNat * (context.font.fontHeight + context.font.lineSpacing) + yOffset +
            context.font.fontHeight}
          (line.toNat * (context.font.fontHeight + context.font.lineSpacing) + yOffset + (row : Nat)) := by
      intro row below from_ _
      rw [Set.mem_ofPred_eq, Int.toNat_of_nonneg from_]
      omega
    obtain ⟨-, drew, -⟩ := glibDrawStringOnLine_on clips pString line align xOffset yOffset isOpaque
      (fun newline => absurd newline unbroken) high d setUp
    apply drew.elsewhere i
    rintro ⟨-, member⟩
    exact outside member

end

-- The font, the alignment and the offsets are as good as any.
theorem string_behind_panel : (finalState (glibDrawStringOnLine ['P', 'B', '\x07', '\n', '0'] 255 .right
    (-3) 40 false ⟨.whole ⟨fun _ => 0x00⟩, ⟨white, black, ⟨0, 0, 127, 127⟩, glibFontNarrow6x8⟩⟩)).picture
      (displaySize * displaySize) = false :=
  (string_confined (opened_whole ⟨fun _ => 0x00⟩) rfl rfl ['P', 'B', '\x07', '\n', '0'] 255 .right (-3) 40
    false).2.2.2.1 _ le_rfl

end BleRemote.Lcd
