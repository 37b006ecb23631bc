import BleRemote.Lcd.Shown

/-! The picture of a row can be read: two texts that end in something visible look the same
only if they are the same. -/

set_option autoImplicit false
namespace BleRemote.Lcd

/-! ## The narrow font -/

/-- The rows of pixels of the printable characters. -/
def fontRows : List (List Nat) :=
  (List.range 8).map fun row => (glibFontNarrow6x8PixMap.drop (100 * row)).take 95

/-- The columns of a table, each from the top. -/
def columns {A : Type} (width : Nat) (rows : List (List A)) : List (List A) :=
  rows.foldr (List.zipWith List.cons) (List.replicate width [])

theorem columns_getElem {A : Type} (width : Nat) (rows : List (List A)) (none : A)
    (full : ∀ row ∈ rows, row.length = width) {n : Nat} (inside : n < width) :
    (columns width rows)[n]? = some (rows.map fun row => row.getD n none) := by
  induction rows with
  | nil => simp [columns, inside]
  | cons row rest ih =>
    obtain ⟨here, later⟩ := List.forall_mem_cons.mp full
    have rest' := ih later
    unfold columns at rest' ⊢
    have present : row[n]? = some (row.getD n none) := by
      rw [List.getD_eq_getElem?_getD, List.getElem?_eq_getElem (here ▸ inside), Option.getD_some]
    rw [List.foldr_cons, List.getElem?_zipWith, rest', present]
    rfl

/-- The rows of a character. -/
def glyph (myChar : Char) : List Nat :=
  (List.range 8).map fun row => glibFontNarrow6x8.element (glibFontNarrow6x8.idx myChar + 100 * row)

theorem fontRows_full : ∀ row ∈ fontRows, row.length = 95 := by decide +kernel

theorem glyph_column {myChar : Char} (printable : Printable myChar) :
    (columns 95 fontRows)[glibFontNarrow6x8.idx myChar]? = some (glyph myChar) := by
  have small := printable.idx_le
  rw [columns_getElem 95 fontRows 0 fontRows_full (by omega), fontRows, List.map_map]
  apply congrArg some
  apply List.map_congr_left
  intro row member
  change ((glibFontNarrow6x8PixMap.drop (100 * row)).take 95).getD _ 0 = glibFontNarrow6x8PixMap.getD _ 0
  rw [List.getD_eq_getElem?_getD, List.getD_eq_getElem?_getD, List.getElem?_take_of_lt (by omega),
    List.getElem?_drop, Nat.add_comm]

theorem fontRows_small : ∀ column ∈ columns 95 fontRows, ∀ e ∈ column, e < 32 := by decide +kernel

theorem fontRows_nodup : (columns 95 fontRows).Nodup := by decide +kernel

-- The first character is the blank.
theorem fontRows_visible : ∀ column ∈ (columns 95 fontRows).tail,
    ∃ e ∈ column, e.testBit 2 = true ∨ e.testBit 1 = true := by decide +kernel

theorem fontRows_middle : ∀ column ∈ columns 95 fontRows, ∀ e ∈ column, e.testBit 4 = true →
    ∃ other ∈ column, other.testBit 2 = true := by decide +kernel

section
variable {c d : Char}

theorem mem_glyph {e : Nat} : e ∈ glyph c ↔
    ∃ row < 8, glibFontNarrow6x8.element (glibFontNarrow6x8.idx c + 100 * row) = e := by
  simp only [glyph, List.mem_map, List.mem_range]

theorem glyph_mem (printable : Printable c) : glyph c ∈ columns 95 fontRows :=
  List.mem_of_getElem? (glyph_column printable)

theorem toNat_idx (printable : Printable c) : c.toNat = glibFontNarrow6x8.idx c + 32 := by
  have first := printable.1
  change c.toNat = c.toNat - 32 + 32
  omega

/-- The last column of every character is blank. -/
theorem charPixel_spacing (printable : Printable c) {row : Nat} (inside : row < 8) :
    charPixel c 5 row = true := by
  have small := fontRows_small _ (glyph_mem printable) _ (mem_glyph.mpr ⟨row, inside, rfl⟩)
  rw [charPixel, Nat.testBit_lt_two_pow small, Bool.not_false]

theorem charPixel_visible (printable : Printable c) (visible : c ≠ ' ') :
    ∃ row < 8, charPixel c 2 row = false ∨ charPixel c 1 row = false := by
  have later : glibFontNarrow6x8.idx c ≠ 0 := by
    intro first
    have code := toNat_idx printable
    exact visible (Char.toNat_inj.mp (by rw [code, first]; rfl))
  have member : glyph c ∈ (columns 95 fontRows).tail := by
    apply List.mem_of_getElem? (i := glibFontNarrow6x8.idx c - 1)
    rw [List.getElem?_tail, Nat.sub_add_cancel (Nat.one_le_iff_ne_zero.mpr later)]
    exact glyph_column printable
  obtain ⟨e, inside, black⟩ := fontRows_visible _ member
  obtain ⟨row, below, rfl⟩ := mem_glyph.mp inside
  exact ⟨row, below, black.imp (fun on => by rw [charPixel, on]; rfl) fun on => by rw [charPixel, on]; rfl⟩

theorem charPixel_middle (printable : Printable c) {row : Nat} (inside : row < 8)
    (black : charPixel c 4 row = false) : ∃ other < 8, charPixel c 2 other = false := by
  rw [charPixel, Bool.not_eq_false'] at black
  obtain ⟨e, member, on⟩ :=
    fontRows_middle _ (glyph_mem printable) _ (mem_glyph.mpr ⟨row, inside, rfl⟩) black
  obtain ⟨other, below, rfl⟩ := mem_glyph.mp member
  exact ⟨other, below, by rw [charPixel, on]; rfl⟩

/-- No two characters look the same. -/
theorem charPixel_injective (printable : Printable c) (printable' : Printable d)
    (same : ∀ column < 6, ∀ row < 8, charPixel c column row = charPixel d column row) : c = d := by
  have rows : glyph c = glyph d := by
    apply List.map_congr_left
    intro row member
    have inside := List.mem_range.mp member
    have small := fontRows_small _ (glyph_mem printable) _ (mem_glyph.mpr ⟨row, inside, rfl⟩)
    have small' := fontRows_small _ (glyph_mem printable') _ (mem_glyph.mpr ⟨row, inside, rfl⟩)
    apply Nat.eq_of_testBit_eq
    intro column
    rcases Nat.lt_or_ge column 6 with shown | beyond
    · exact Bool.not_inj (same column shown row inside)
    · have wide : 32 ≤ 2 ^ column :=
        (show 32 ≤ 2 ^ 6 by decide).trans (Nat.pow_le_pow_right (by decide) beyond)
      rw [Nat.testBit_lt_two_pow (small.trans_le wide), Nat.testBit_lt_two_pow (small'.trans_le wide)]
  have place := glyph_column printable
  rw [rows, ← glyph_column printable'] at place
  have inside : glibFontNarrow6x8.idx c < (columns 95 fontRows).length :=
    (List.getElem?_eq_some_iff.mp (glyph_column printable)).1
  have idx := (List.getElem?_inj inside fontRows_nodup).mp place
  exact Char.toNat_inj.mp (by rw [toNat_idx printable, toNat_idx printable', idx])

end

/-! ## Rows -/

/-- A pixel of a row of text. -/
def rowPixelAt (row : UInt32) (column line : Nat) : Nat :=
  displaySize * (10 * row.toNat + line) + column

section
variable {row : UInt32} {text other : String} {column line : Nat}

variable (row line) in
theorem rowPixelAt_place (onPanel : column < displaySize) :
    rowPixelAt row column line % displaySize = column ∧
      rowPixelAt row column line / displaySize = 10 * row.toNat + line := by
  unfold rowPixelAt displaySize at *
  omega

theorem rowPixelAt_mem (left : 4 ≤ column) (right : column < 124) (inside : line < 8) :
    rowPixelAt row column line ∈ rowBlock row := by
  obtain ⟨place, place'⟩ := rowPixelAt_place row line (show column < displaySize by unfold displaySize; omega)
  rw [rowBlock, mem_block, place, place']
  omega

variable (row) in
/-- Each character of the text has its cell, in the middle of the row. -/
theorem rowPicture_cell {k : Nat} (present : k < (rowText text).length) (inCell : column < 6)
    (inside : line < 8) :
    rowPicture row text
        (rowPixelAt row (64 - 3 * (rowText text).length + 6 * k + column) line) =
      charPixel (rowText text)[k] column line := by
  have short := rowText_length text
  obtain ⟨place, place'⟩ := rowPixelAt_place row line
    (show 64 - 3 * (rowText text).length + 6 * k + column < displaySize by unfold displaySize; omega)
  have member : rowPixelAt row (64 - 3 * (rowText text).length + 6 * k + column) line ∈
      block (64 - 3 * (rowText text).length) (10 * row.toNat) (6 * (rowText text).length) 8 := by
    rw [mem_block, place, place']
    omega
  rw [rowPicture, if_pos member, stringPicture, place, place',
    show (64 - 3 * (rowText text).length + 6 * k + column - (64 - 3 * (rowText text).length)) / 6 = k by omega,
    show (64 - 3 * (rowText text).length + 6 * k + column - (64 - 3 * (rowText text).length)) % 6 = column by omega,
    Nat.add_sub_cancel_left, List.getD_eq_getElem?_getD, List.getElem?_eq_getElem present, Option.getD_some]

/-- What is black belongs to a character. -/
theorem rowPicture_black (left : 4 ≤ column) (right : column < 124) (inside : line < 8)
    (black : rowPicture row text (rowPixelAt row column line) = false) :
    ∃ k, ∃ present : k < (rowText text).length, ∃ inCell < 6,
      column = 64 - 3 * (rowText text).length + 6 * k + inCell ∧
        charPixel (rowText text)[k] inCell line = false := by
  obtain ⟨place, place'⟩ := rowPixelAt_place row line (show column < displaySize by unfold displaySize; omega)
  have short := rowText_length text
  by_cases member : rowPixelAt row column line ∈
      block (64 - 3 * (rowText text).length) (10 * row.toNat) (6 * (rowText text).length) 8
  · rw [mem_block, place, place'] at member
    have cell : column = 64 - 3 * (rowText text).length +
        6 * ((column - (64 - 3 * (rowText text).length)) / 6) +
          (column - (64 - 3 * (rowText text).length)) % 6 := by omega
    have present : (column - (64 - 3 * (rowText text).length)) / 6 < (rowText text).length := by omega
    have inCell : (column - (64 - 3 * (rowText text).length)) % 6 < 6 := Nat.mod_lt _ (by decide)
    have pixel := rowPicture_cell row present inCell inside
    rw [← cell, black] at pixel
    exact ⟨_, present, _, inCell, cell, pixel.symm⟩
  · have white : rowPicture row text (rowPixelAt row column line) = true := by
      rw [rowPicture, if_neg member]
      exact stringPicture_spaces (by rw [place']; omega) fun c member => List.eq_of_mem_replicate member
    rw [white] at black
    cases black

/-- What is drawn ends in something visible. -/
def EndsVisibly (text : String) : Prop := ∃ c ∈ (rowText text).getLast?, c ≠ ' '

/-- Both texts look the same on a row. -/
def LooksAs (row : UInt32) (text other : String) : Prop :=
  ∀ i ∈ rowBlock row, rowPicture row text i = rowPicture row other i

variable (printable : ∀ c ∈ rowText text, Printable c) (printable' : ∀ c ∈ rowText other, Printable c)

theorem LooksAs.at (same : LooksAs row text other) (left : 4 ≤ column) (right : column < 124)
    (inside : line < 8) :
    rowPicture row text (rowPixelAt row column line) = rowPicture row other (rowPixelAt row column line) :=
  same _ (rowPixelAt_mem left right inside)

include printable' in
/-- The last character that is visible has a black pixel, in one of two columns. -/
theorem EndsVisibly.black (visible : EndsVisibly other) :
    ∃ column line, (column = 1 ∨ column = 2) ∧ line < 8 ∧
      rowPicture row other (rowPixelAt row (58 + 3 * (rowText other).length + column) line) = false := by
  obtain ⟨c, last, shown⟩ := visible
  have nonempty := List.length_pos_iff.mpr (rowText_ne_nil other)
  have short := rowText_length other
  obtain ⟨place, final⟩ := List.getElem?_eq_some_iff.mp (List.getLast?_eq_getElem? ▸ last)
  obtain ⟨line, inside, black⟩ := charPixel_visible (printable' c (List.mem_of_getLast? last)) shown
  have cell (column : Nat) (small : column < 6) := rowPicture_cell row place small inside
  have start (column : Nat) : 64 - 3 * (rowText other).length + 6 * ((rowText other).length - 1) + column =
      58 + 3 * (rowText other).length + column := by omega
  simp only [start, final] at cell
  rcases black with middle | left
  · exact ⟨2, line, .inr rfl, inside, (cell 2 (by decide)).trans middle⟩
  · exact ⟨1, line, .inl rfl, inside, (cell 1 (by decide)).trans left⟩

include printable printable' in
/-- The longer text would end where the other one is blank, or between two characters. -/
theorem LooksAs.length_le (same : LooksAs row text other) (visible : EndsVisibly other) :
    (rowText other).length ≤ (rowText text).length ∧
      (rowText other).length % 2 = (rowText text).length % 2 := by
  have short := rowText_length text
  have short' := rowText_length other
  have nonempty := List.length_pos_iff.mpr (rowText_ne_nil other)
  obtain ⟨column, line, where_, inside, black⟩ := visible.black printable'
  rw [← same.at (by omega) (by omega) inside] at black
  obtain ⟨k, present, inCell, small, place, pixel⟩ := rowPicture_black (by omega) (by omega) inside black
  have parity : (rowText other).length % 2 = (rowText text).length % 2 := by
    by_contra odd
    rcases where_ with rfl | rfl
    · obtain rfl : inCell = 4 := by omega
      obtain ⟨line', inside', middle⟩ :=
        charPixel_middle (printable _ (List.getElem_mem present)) inside pixel
      have cell := rowPicture_cell row present (show 2 < 6 by decide) inside'
      rw [middle, same.at (by omega) (by omega) inside'] at cell
      obtain ⟨k', present', inCell', small', place', pixel'⟩ :=
        rowPicture_black (by omega) (by omega) inside' cell
      obtain rfl : inCell' = 5 := by omega
      rw [charPixel_spacing (printable' _ (List.getElem_mem present')) inside'] at pixel'
      cases pixel'
    · obtain rfl : inCell = 5 := by omega
      rw [charPixel_spacing (printable _ (List.getElem_mem present)) inside] at pixel
      cases pixel
  exact ⟨by omega, parity⟩

include printable printable' in
theorem LooksAs.rowText_eq (same : LooksAs row text other) (visible : EndsVisibly text)
    (visible' : EndsVisibly other) : rowText text = rowText other := by
  have short := rowText_length text
  have back : LooksAs row other text := fun i member => (same i member).symm
  have length : (rowText text).length = (rowText other).length :=
    Nat.le_antisymm (back.length_le printable' printable visible).1
      (same.length_le printable printable' visible').1
  apply List.ext_getElem length
  intro k present present'
  apply charPixel_injective (printable _ (List.getElem_mem present)) (printable' _ (List.getElem_mem present'))
  intro column inCell line inside
  rw [← rowPicture_cell row present inCell inside, ← rowPicture_cell row present' inCell inside, ← length]
  exact same.at (by omega) (by omega) inside

end
end BleRemote.Lcd
