import BleRemote.Lcd.Glib
import BleRemote.Lcd.Pixels
import Mathlib.Data.List.TakeWhile

/-! Text on the initialised display: a printable string is drawn as the bits of the font
say, background included, and no pixel around it changes. -/

set_option autoImplicit false
namespace BleRemote.Lcd

open Imperative Raster

/-- The display as `displayInit` leaves it. -/
structure Ready (d : Display) : Prop where
  opened : d.dmd.Open
  context : d.glibContext = ⟨white, black, ⟨0, 0, 127, 127⟩, glibFontNarrow6x8⟩

/-- The pixels of the framebuffer, 128 to a line. -/
def Display.picture (d : Display) : Nat → Bool := pixels d.dmd.framebuffer

/-- A rectangle of pixels. -/
def block (x y width height : Nat) : Set Nat :=
  {i | (x ≤ i % displaySize ∧ i % displaySize < x + width) ∧
    y ≤ i / displaySize ∧ i / displaySize < y + height}

instance (x y width height : Nat) : DecidablePred (· ∈ block x y width height) :=
  fun _ => inferInstanceAs (Decidable (_ ∧ _))

theorem mem_block {x y width height i : Nat} : i ∈ block x y width height ↔
    (x ≤ i % displaySize ∧ i % displaySize < x + width) ∧
      y ≤ i / displaySize ∧ i / displaySize < y + height := Iff.rfl

theorem mem_block_right {x y width more height : Nat} (i : Nat) :
    i ∈ block x y (width + more) height ↔
      i ∈ block x y width height ∨ i ∈ block (x + width) y more height := by
  simp only [mem_block]
  omega

theorem mem_block_below {x y width height more : Nat} (i : Nat) :
    i ∈ block x y width (height + more) ↔
      i ∈ block x y width height ∨ i ∈ block x (y + height) width more := by
  simp only [mem_block]
  omega

/-- What a drawing does to an initialised display. -/
structure Draws (region : Set Nat) (content : Nat → Bool) (before after : Display) : Prop where
  ready : Ready after
  paints : Paints region content before.picture after.picture

section
variable {A : Type} {d : Display} {post : A → Display → Prop}

theorem returns_getContext_bind (f : GlibContext → Glib A) :
    Returns (getContext >>= f) d post ↔ Returns (f d.glibContext) d post := Iff.rfl

theorem returns_getDisplayGeometry_bind (f : DisplayGeometry → Glib A) :
    Returns (getDisplayGeometry >>= f) d post ↔ Returns (f d.dmd.dimensions) d post := Iff.rfl

theorem returns_onDmd_bind (g : Dmd → EmStatus × Dmd) (f : EmStatus → Glib A) :
    Returns (onDmd g >>= f) d post ↔
      Returns (f (g d.dmd).1) { d with dmd := (g d.dmd).2 } post := Iff.rfl

theorem returns_setContext_bind (g : GlibContext → GlibContext) (f : Unit → Glib A) :
    Returns (setContext g >>= f) d post ↔
      Returns (f ()) { d with glibContext := g d.glibContext } post := Iff.rfl

end

/-! ## Pixels -/

section
variable {d : Display} {x y : Nat}

/-- A monochrome panel shows a color by its green part. -/
def isWhite (color : Color) : Bool := (glibColorTranslate24bpp color).2.1 != 0

theorem isWhite_white : isWhite white = true := by decide

theorem isWhite_black : isWhite black = false := by decide

theorem uint16_coe (below : x < displaySize) : uint16 (x : Int) = x := by
  unfold displaySize uint16 at *
  omega

theorem contains_pixel (column : x < displaySize) (line : y < displaySize) :
    glibRectContainsPoint ⟨0, 0, 127, 127⟩ x y := by
  simp only [displaySize, glibRectContainsPoint] at *
  omega

theorem glibDrawPixelColor_draws (color : Color) (ready : Ready d) (column : x < displaySize)
    (line : y < displaySize) : Returns (glibDrawPixelColor x y color) d fun status after =>
      status = glibOk ∧ Draws (block x y 1 1) (fun _ => isWhite color) d after := by
  have fits : displaySize * y + x + 1 ≤ displaySize * displaySize := by
    unfold displaySize at *
    omega
  have write := dmdWriteColor_fills (glibColorTranslate24bpp color).1
    (glibColorTranslate24bpp color).2.1 (glibColorTranslate24bpp color).2.2 ready.opened column
    Nat.one_pos fits
  obtain ⟨status, opened, fills⟩ := write
  have pixel (i : Nat) : i ∈ block x y 1 1 ↔ i ∈ Set.Ico (displaySize * y + x) (displaySize * y + x + 1) := by
    rw [mem_block, Set.mem_Ico]
    unfold displaySize at *
    omega
  rw [glibDrawPixelColor, returns_getContext_bind, ready.context, if_pos (contains_pixel column line),
    uint16_coe column, uint16_coe line]
  refine ⟨_, _, rfl, status, ⟨opened, ready.context⟩, ?_⟩
  exact Paints.congr_region fills pixel

theorem glibDrawPixel_draws (ready : Ready d) (column : x < displaySize) (line : y < displaySize) :
    Returns (glibDrawPixel x y) d fun status after =>
      status = glibOk ∧ Draws (block x y 1 1) (fun _ => false) d after := by
  rw [glibDrawPixel, returns_getContext_bind, ready.context, ← isWhite_black]
  exact glibDrawPixelColor_draws black ready column line

/-- What is drawn counts, and the drawing goes on. -/
theorem returns_count_bind {A : Type} {part : Glib EmStatus} {drawn : Display → Prop}
    {drawnElements : Nat} {rest : Nat → Glib A} {post : A → Display → Prop}
    (draws : Returns part d fun status after => status = glibOk ∧ drawn after)
    (goesOn : ∀ after, drawn after → Returns (rest (drawnElements + 1)) after post) :
    Returns (part >>= fun status => countDrawn drawnElements status >>= rest) d post := by
  apply draws.bind
  rintro status after ⟨rfl, holds⟩
  exact goesOn after holds

end

/-! ## Characters -/

/-- A set bit of the font is a pixel that the character blackens. -/
def charPixel (myChar : Char) (column row : Nat) : Bool :=
  !(glibFontNarrow6x8.element (glibFontNarrow6x8.idx myChar + 100 * row)).testBit column

section
variable {d : Display} {x y : Nat}

theorem drawCharPixel_draws (drawnElements currentRow xOffset : Nat) (ready : Ready d)
    (column : x + xOffset < displaySize) (line : y < displaySize) :
    Returns (drawCharPixel x y true (drawnElements, currentRow) xOffset) d fun progress after =>
      progress = (drawnElements + 1, currentRow / 2) ∧
        Draws (block (x + xOffset) y 1 1) (fun _ => !currentRow.testBit 0) d after := by
  rw [drawCharPixel, returns_getContext_bind, ready.context]
  simp only [Nat.testBit_zero, ← Int.natCast_add]
  by_cases set : currentRow % 2 = 1
  · simp only [set, if_true, decide_true, Bool.not_true]
    apply returns_count_bind (glibDrawPixel_draws ready column line)
    intro after draws
    exact returns_pure ⟨rfl, draws⟩
  · simp only [set, if_true, if_false, decide_false, Bool.not_false, ← isWhite_white]
    apply returns_count_bind (glibDrawPixelColor_draws white ready column line)
    intro after draws
    exact returns_pure ⟨rfl, draws⟩

/-- Parts of one picture. -/
theorem Draws.union {region second whole : Set Nat} {content part : Nat → Bool}
    {between after : Display} (first : Draws region content d between)
    (rest : Draws second part between after) (same : ∀ i ∈ second, part i = content i)
    (together : ∀ i, i ∈ whole ↔ i ∈ region ∨ i ∈ second) : Draws whole content d after :=
  ⟨rest.ready, (first.paints.union (rest.paints.congr same)).congr_region together⟩

theorem Draws.nothing {content : Nat → Bool} (ready : Ready d) {width height : Nat}
    (none : width = 0 ∨ height = 0) : Draws (block x y width height) content d d := by
  refine ⟨ready, (Paints.refl content d.picture).congr_region fun i => ⟨fun member => ?_, False.elim⟩⟩
  rw [mem_block] at member
  omega

/-- One line of a character, its bits shifted out one after the other. -/
theorem drawCharColumns_draws (drawnElements currentRow : Nat) (ready : Ready d)
    (column : x + 6 ≤ displaySize) (line : y < displaySize) :
    Returns ((List.range 6).foldlM (drawCharPixel x y true) (drawnElements, currentRow)) d
      fun progress after => progress.1 = drawnElements + 6 ∧
        Draws (block x y 6 1) (fun i => !currentRow.testBit (i % displaySize - x)) d after := by
  apply (returns_range (fun k progress between => progress = (drawnElements + k, currentRow >>> k) ∧
    Draws (block x y k 1) (fun i => !currentRow.testBit (i % displaySize - x)) d between) ?_ ?_).mono
  · rintro _ after ⟨rfl, draws⟩
    exact ⟨rfl, draws⟩
  · exact ⟨rfl, .nothing ready (.inl rfl)⟩
  · rintro k _ between more ⟨rfl, draws⟩
    apply (drawCharPixel_draws (drawnElements + k) (currentRow >>> k) k draws.ready (by omega) line).mono
    rintro _ after ⟨rfl, pixel⟩
    refine ⟨?_, draws.union pixel (fun i member => ?_) mem_block_right⟩
    · rw [Nat.shiftRight_succ, Nat.add_assoc]
    · rw [mem_block] at member
      rw [Nat.testBit_shiftRight, show k + 0 = i % displaySize - x by omega]

def charPicture (myChar : Char) (x y : Nat) (i : Nat) : Bool :=
  charPixel myChar (i % displaySize - x) (i / displaySize - y)

/-- From `0x20` to `0x7E`. -/
def Printable (myChar : Char) : Prop := 0x20 ≤ myChar.toNat ∧ myChar.toNat ≤ 0x7E

instance (myChar : Char) : Decidable (Printable myChar) := inferInstanceAs (Decidable (_ ∧ _))

theorem Printable.idx_le {myChar : Char} (printable : Printable myChar) :
    glibFontNarrow6x8.idx myChar ≤ 94 := by
  have last := printable.2
  change myChar.toNat - 32 ≤ 94
  omega

theorem drawCharRow_draws {myChar : Char} (printable : Printable myChar) (drawnElements : Nat)
    {row : Nat} (ready : Ready d) (column : x + 6 ≤ displaySize) (line : y + row < displaySize) :
    Returns (drawCharRow x y true (drawnElements, glibFontNarrow6x8.idx myChar + 100 * row) row) d
      fun progress after =>
        progress = (drawnElements + 6, glibFontNarrow6x8.idx myChar + 100 * (row + 1)) ∧
          Draws (block x (y + row) 6 1) (charPicture myChar x y) d after := by
  have small := printable.idx_le
  have next : (glibFontNarrow6x8.idx myChar + 100 * row + 100) % 65536 =
      glibFontNarrow6x8.idx myChar + 100 * (row + 1) := by
    unfold displaySize at line
    omega
  rw [drawCharRow, returns_getContext_bind, ready.context, ← Int.natCast_add]
  apply (drawCharColumns_draws drawnElements _ ready column line).bind
  rintro ⟨_, rest⟩ after ⟨rfl, columns⟩
  refine ⟨_, after, rfl, ?_, columns.ready, columns.paints.congr fun i member => ?_⟩
  · exact Prod.ext rfl next
  · rw [mem_block] at member
    rw [charPicture, charPixel, show i / displaySize - y = row by omega]

theorem glibDrawChar_draws {myChar : Char} (printable : Printable myChar) (ready : Ready d)
    (column : x + 6 ≤ displaySize) (line : y + 8 ≤ displaySize) :
    Returns (glibDrawChar myChar x y true) d fun status after =>
      status = glibOk ∧ Draws (block x y 6 8) (charPicture myChar x y) d after := by
  have valid : ¬ (myChar.toNat < 0x20 ∨ 0x7E < myChar.toNat) := by
    rw [not_or, Nat.not_lt, Nat.not_lt]
    exact printable
  have known : ¬ glibFontNarrow6x8.cntOfMapElements ≤ glibFontNarrow6x8.idx myChar := by
    have small := printable.idx_le
    change ¬ 800 ≤ _
    omega
  have rows : Returns ((List.range 8).foldlM (drawCharRow x y true)
      (0, glibFontNarrow6x8.idx myChar)) d fun progress after =>
        progress = (6 * 8, glibFontNarrow6x8.idx myChar + 100 * 8) ∧
          Draws (block x y 6 8) (charPicture myChar x y) d after := by
    apply returns_range (fun row progress between =>
      progress = (6 * row, glibFontNarrow6x8.idx myChar + 100 * row) ∧
        Draws (block x y 6 row) (charPicture myChar x y) d between)
    · exact ⟨rfl, .nothing ready (.inr rfl)⟩
    · rintro row _ between more ⟨rfl, draws⟩
      apply (drawCharRow_draws printable (6 * row) draws.ready column (by omega)).mono
      rintro _ after ⟨rfl, line⟩
      exact ⟨rfl, draws.union line (fun _ _ => rfl) mem_block_below⟩
  rw [glibDrawChar, returns_getContext_bind, ready.context, if_neg valid, if_neg known]
  apply Returns.returning
  apply rows.bind
  rintro _ after ⟨rfl, draws⟩
  exact returns_pure ⟨rfl, draws⟩

end

/-! ## Strings -/

/-- The characters of a string stand side by side. -/
def stringPicture (pString : List Char) (x y : Nat) (i : Nat) : Bool :=
  let column := i % displaySize - x
  charPixel (pString.getD (column / 6) ' ') (column % 6) (i / displaySize - y)

section
variable {d : Display} {x y : Nat}

theorem charPicture_stringPicture {past : List Char} {myChar : Char} {rest : List Char} {i : Nat}
    (member : i ∈ block (x + 6 * past.length) y 6 8) :
    charPicture myChar (x + 6 * past.length) y i =
      stringPicture (past ++ myChar :: rest) x y i := by
  rw [mem_block] at member
  have place : (i % displaySize - x) / 6 = past.length := by omega
  have column : (i % displaySize - x) % 6 = i % displaySize - (x + 6 * past.length) := by omega
  rw [charPicture, stringPicture, place, column]
  simp

theorem glibDrawString_draws {pString : List Char} (printable : ∀ c ∈ pString, Printable c)
    (nonempty : pString ≠ []) (ready : Ready d) (column : x + 6 * pString.length ≤ displaySize)
    (line : y + 8 ≤ displaySize) :
    Returns (glibDrawString pString pString.length x y true) d fun status after =>
      status = glibOk ∧
        Draws (block x y (6 * pString.length) 8) (stringPicture pString x y) d after := by
  have chars : Returns (pString.foldlM (drawStringChar x true) (0, (x : Int), (y : Int))) d
      fun progress after => progress.1 = pString.length ∧
        Draws (block x y (6 * pString.length) 8) (stringPicture pString x y) d after := by
    apply (returns_foldlM (fun past progress between =>
      progress = (past.length, ((x + 6 * past.length : Nat) : Int), (y : Int)) ∧
        Draws (block x y (6 * past.length) 8) (stringPicture pString x y) d between) ?_ ?_).mono
    · rintro _ after ⟨rfl, draws⟩
      exact ⟨rfl, draws⟩
    · exact ⟨rfl, .nothing ready (.inl rfl)⟩
    · rintro past myChar rest _ between split ⟨rfl, draws⟩
      have here : Printable myChar := printable myChar (by simp [split])
      have newline : myChar ≠ '\n' := by
        rintro rfl
        exact absurd here (by decide)
      have room : past.length + 1 ≤ pString.length := by simp [split]
      rw [drawStringChar, returns_getContext_bind, draws.ready.context, if_neg newline]
      apply returns_count_bind (glibDrawChar_draws here draws.ready (by omega) line)
      intro after char
      refine returns_pure ⟨?_, ?_⟩
      · have next : ((x + 6 * past.length : Nat) : Int) + (6 + 0) =
            (x + 6 * (past ++ [myChar]).length : Nat) := by
          rw [List.length_append, List.length_singleton]
          omega
        rw [← next, List.length_append]
        rfl
      · rw [List.length_append, List.length_singleton, Nat.mul_succ]
        refine draws.union char (fun i member => ?_) mem_block_right
        rw [split]
        exact charPicture_stringPicture member
  have some : pString.length ≠ 0 := mt List.eq_nil_of_length_eq_zero nonempty
  rw [glibDrawString, returns_getContext_bind, ready.context, List.take_length]
  apply Returns.returning
  apply chars.bind
  rintro ⟨drawnElements, _⟩ after ⟨rfl, draws⟩
  exact returns_pure ⟨if_neg some, draws⟩

theorem strlen_printable {pString : List Char} (printable : ∀ c ∈ pString, Printable c) :
    strlen pString = pString.length := by
  have whole : pString.takeWhile (· ≠ '\x00') = pString := by
    rw [List.takeWhile_eq_self_iff]
    rintro c member
    have last := (printable c member).1
    simp only [ne_eq, decide_not, Bool.not_eq_eq_eq_not, Bool.not_true, decide_eq_false_iff_not]
    rintro rfl
    exact absurd last (by decide)
  rw [strlen, whole]

/-- A string that fits is drawn in the middle of its line. -/
theorem glibDrawStringOnLine_draws {pString : List Char} (printable : ∀ c ∈ pString, Printable c)
    (nonempty : pString ≠ []) (fits : pString.length ≤ 20) (ready : Ready d) {line : UInt8}
    (within : line.toNat < 13) :
    Returns (glibDrawStringOnLine pString line .center 0 0 true) d fun status after =>
      status = glibOk ∧
        Draws (block (64 - 3 * pString.length) (10 * line.toNat) (6 * pString.length) 8)
          (stringPicture pString (64 - 3 * pString.length) (10 * line.toNat)) d after := by
  have start : int32 (uint32 (displaySize - uint32 (pString.length * (6 : Nat))) / 2 : Nat) + 0 =
      (64 - 3 * pString.length : Nat) := by
    have spare : uint32 (displaySize - uint32 (pString.length * (6 : Nat))) / 2 =
        64 - 3 * pString.length := by
      unfold uint32 displaySize
      omega
    rw [spare, int32, Int.bmod_eq_of_le (by omega) (by omega), Int.add_zero]
  have top : (line.toNat : Int) * ((8 : Nat) + (2 : Nat)) + 0 = (10 * line.toNat : Nat) := by omega
  rw [glibDrawStringOnLine, returns_getContext_bind, returns_getDisplayGeometry_bind,
    ready.opened.dimensions, ready.context, strlen_printable printable]
  change Returns (glibDrawString pString pString.length (int32 (uint32 (displaySize -
    uint32 (pString.length * (6 : Nat))) / 2 : Nat) + 0) (line.toNat * ((8 : Nat) + (2 : Nat)) + 0) true) d _
  rw [start, top]
  apply glibDrawString_draws printable nonempty ready <;>
    · unfold displaySize
      omega

end
end BleRemote.Lcd
