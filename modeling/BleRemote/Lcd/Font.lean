import Mathlib.Init

/-! The fonts of the graphics library: `GLIB_Font_t` and the narrow font of
`glib_font_narrow_6x8.c`. -/

set_option autoImplicit false
namespace BleRemote.Lcd

inductive FontClass where
  | invalidFont | fullFont | numbersOnlyFont
  deriving DecidableEq

structure GlibFont where
  /-- The bytes that `pFontPixMap` points to. -/
  pixMap : List Nat
  cntOfMapElements : Nat
  sizeOfMapElement : Nat
  fontRowOffset : Nat
  fontWidth : Nat
  fontHeight : Nat
  lineSpacing : Nat
  charSpacing : Nat
  fontClass : FontClass
  deriving DecidableEq

def GlibFont.zero : GlibFont := ⟨[], 0, 0, 0, 0, 0, 0, 0, .invalidFont⟩

/-- An element of the pixel map, of one, two or four bytes, the lowest first. -/
def GlibFont.element (font : GlibFont) (idx : Nat) : Nat :=
  let byte i := font.pixMap.getD i 0
  match font.sizeOfMapElement with
  | 1 => byte idx
  | 2 => byte (2 * idx) + 256 * byte (2 * idx + 1)
  | _ => byte (4 * idx) + 256 * (byte (4 * idx + 1) +
      256 * (byte (4 * idx + 2) + 256 * byte (4 * idx + 3)))

-- One row of pixels of all characters after the other, 100 elements each.
def glibFontNarrow6x8PixMap : List Nat := [
  0x00, 0x04, 0x0a, 0x0a, 0x04, 0x03, 0x06, 0x06, 0x08, 0x02, 0x00, 0x00, 0x00, 0x00, 0x00, 0x00,
  0x0e, 0x04, 0x0e, 0x1f, 0x08, 0x1f, 0x0c, 0x1f, 0x0e, 0x0e, 0x00, 0x00, 0x10, 0x00, 0x01, 0x0e,
  0x0e, 0x0e, 0x0f, 0x0e, 0x07, 0x1f, 0x1f, 0x0e, 0x11, 0x0e, 0x1c, 0x11, 0x01, 0x11, 0x11, 0x0e,
  0x0f, 0x0e, 0x0f, 0x1e, 0x1f, 0x11, 0x11, 0x11, 0x11, 0x11, 0x1f, 0x0e, 0x00, 0x0e, 0x04, 0x00,
  0x02, 0x00, 0x01, 0x00, 0x10, 0x00, 0x0c, 0x00, 0x01, 0x04, 0x08, 0x01, 0x06, 0x00, 0x00, 0x00,
  0x00, 0x00, 0x00, 0x00, 0x02, 0x00, 0x00, 0x00, 0x00, 0x00, 0x00, 0x0c, 0x04, 0x06, 0x00, 0x00,
  0x00, 0x00, 0x00, 0x00, 0x00, 0x04, 0x0a, 0x0a, 0x1e, 0x13, 0x09, 0x04, 0x04, 0x04, 0x04, 0x04,
  0x00, 0x00, 0x00, 0x00, 0x11, 0x06, 0x11, 0x08, 0x0c, 0x01, 0x02, 0x10, 0x11, 0x11, 0x06, 0x06,
  0x08, 0x00, 0x02, 0x11, 0x10, 0x11, 0x11, 0x11, 0x09, 0x01, 0x01, 0x11, 0x11, 0x04, 0x08, 0x09,
  0x01, 0x1b, 0x11, 0x11, 0x11, 0x11, 0x11, 0x01, 0x04, 0x11, 0x11, 0x11, 0x11, 0x11, 0x10, 0x02,
  0x00, 0x08, 0x0a, 0x00, 0x04, 0x00, 0x01, 0x00, 0x10, 0x00, 0x12, 0x1e, 0x01, 0x00, 0x00, 0x01,
  0x04, 0x00, 0x00, 0x00, 0x00, 0x00, 0x00, 0x00, 0x02, 0x00, 0x00, 0x00, 0x00, 0x00, 0x00, 0x02,
  0x04, 0x08, 0x02, 0x00, 0x00, 0x00, 0x00, 0x00, 0x00, 0x04, 0x0a, 0x1f, 0x01, 0x08, 0x05, 0x02,
  0x02, 0x08, 0x15, 0x04, 0x00, 0x00, 0x00, 0x10, 0x19, 0x04, 0x10, 0x04, 0x0a, 0x0f, 0x01, 0x08,
  0x11, 0x11, 0x06, 0x06, 0x04, 0x1f, 0x04, 0x10, 0x10, 0x11, 0x11, 0x01, 0x11, 0x01, 0x01, 0x01,
  0x11, 0x04, 0x08, 0x05, 0x01, 0x15, 0x13, 0x11, 0x11, 0x11, 0x11, 0x01, 0x04, 0x11, 0x11, 0x11,
  0x0a, 0x11, 0x08, 0x02, 0x01, 0x08, 0x11, 0x00, 0x08, 0x0e, 0x0d, 0x0e, 0x16, 0x0e, 0x02, 0x11,
  0x0d, 0x06, 0x0c, 0x09, 0x04, 0x0b, 0x0d, 0x0e, 0x0f, 0x16, 0x0d, 0x0e, 0x07, 0x11, 0x11, 0x11,
  0x11, 0x11, 0x1f, 0x02, 0x04, 0x08, 0x15, 0x00, 0x00, 0x00, 0x00, 0x00, 0x00, 0x04, 0x00, 0x0a,
  0x0e, 0x04, 0x02, 0x00, 0x02, 0x08, 0x0e, 0x1f, 0x00, 0x1f, 0x00, 0x08, 0x15, 0x04, 0x08, 0x08,
  0x09, 0x10, 0x0f, 0x04, 0x0e, 0x1e, 0x00, 0x00, 0x02, 0x00, 0x08, 0x08, 0x16, 0x11, 0x0f, 0x01,
  0x11, 0x0f, 0x0f, 0x1d, 0x1f, 0x04, 0x08, 0x03, 0x01, 0x15, 0x15, 0x11, 0x0f, 0x11, 0x0f, 0x0e,
  0x04, 0x11, 0x11, 0x15, 0x04, 0x0a, 0x04, 0x02, 0x02, 0x08, 0x00, 0x00, 0x00, 0x10, 0x13, 0x01,
  0x19, 0x11, 0x07, 0x11, 0x13, 0x04, 0x08, 0x05, 0x04, 0x15, 0x13, 0x11, 0x11, 0x19, 0x13, 0x01,
  0x02, 0x11, 0x11, 0x11, 0x0a, 0x11, 0x08, 0x01, 0x04, 0x10, 0x08, 0x00, 0x00, 0x00, 0x00, 0x00,
  0x00, 0x00, 0x00, 0x1f, 0x10, 0x02, 0x15, 0x00, 0x02, 0x08, 0x15, 0x04, 0x06, 0x00, 0x00, 0x04,
  0x13, 0x04, 0x04, 0x10, 0x1f, 0x10, 0x11, 0x02, 0x11, 0x10, 0x06, 0x06, 0x04, 0x1f, 0x04, 0x04,
  0x15, 0x1f, 0x11, 0x01, 0x11, 0x01, 0x01, 0x11, 0x11, 0x04, 0x08, 0x05, 0x01, 0x11, 0x19, 0x11,
  0x01, 0x15, 0x05, 0x10, 0x04, 0x11, 0x11, 0x15, 0x0a, 0x04, 0x02, 0x02, 0x04, 0x08, 0x00, 0x00,
  0x00, 0x1e, 0x11, 0x01, 0x11, 0x1f, 0x02, 0x1e, 0x11, 0x04, 0x08, 0x03, 0x04, 0x15, 0x11, 0x11,
  0x0f, 0x1e, 0x01, 0x0e, 0x02, 0x11, 0x11, 0x15, 0x04, 0x1e, 0x04, 0x02, 0x04, 0x08, 0x00, 0x00,
  0x00, 0x00, 0x00, 0x00, 0x00, 0x00, 0x00, 0x0a, 0x0f, 0x19, 0x09, 0x00, 0x04, 0x04, 0x04, 0x04,
  0x04, 0x00, 0x06, 0x02, 0x11, 0x04, 0x02, 0x11, 0x08, 0x11, 0x11, 0x02, 0x11, 0x08, 0x06, 0x04,
  0x08, 0x00, 0x02, 0x00, 0x15, 0x11, 0x11, 0x11, 0x09, 0x01, 0x01, 0x11, 0x11, 0x04, 0x09, 0x09,
  0x01, 0x11, 0x11, 0x11, 0x01, 0x09, 0x09, 0x10, 0x04, 0x11, 0x0a, 0x15, 0x11, 0x04, 0x01, 0x02,
  0x08, 0x08, 0x00, 0x00, 0x00, 0x11, 0x11, 0x11, 0x11, 0x01, 0x02, 0x10, 0x11, 0x04, 0x09, 0x05,
  0x04, 0x11, 0x11, 0x11, 0x01, 0x10, 0x01, 0x10, 0x12, 0x19, 0x0a, 0x15, 0x0a, 0x10, 0x02, 0x02,
  0x04, 0x08, 0x00, 0x00, 0x00, 0x00, 0x00, 0x00, 0x00, 0x04, 0x00, 0x0a, 0x04, 0x18, 0x16, 0x00,
  0x08, 0x02, 0x00, 0x00, 0x02, 0x00, 0x06, 0x01, 0x0e, 0x0e, 0x1f, 0x0e, 0x08, 0x0e, 0x0e, 0x02,
  0x0e, 0x06, 0x00, 0x02, 0x10, 0x00, 0x01, 0x04, 0x0e, 0x11, 0x0f, 0x0e, 0x07, 0x1f, 0x01, 0x0e,
  0x11, 0x0e, 0x06, 0x11, 0x1f, 0x11, 0x11, 0x0e, 0x01, 0x16, 0x11, 0x0f, 0x04, 0x0e, 0x04, 0x0a,
  0x11, 0x04, 0x1f, 0x0e, 0x10, 0x0e, 0x00, 0x1f, 0x00, 0x1e, 0x0f, 0x0e, 0x1e, 0x0e, 0x02, 0x0e,
  0x11, 0x0e, 0x06, 0x09, 0x0e, 0x11, 0x11, 0x0e, 0x01, 0x10, 0x01, 0x0f, 0x0c, 0x16, 0x04, 0x0a,
  0x11, 0x0e, 0x1f, 0x0c, 0x04, 0x06, 0x00, 0x00, 0x00, 0x00, 0x00, 0x00, 0x00, 0x00, 0x00, 0x00,
  0x00, 0x00, 0x00, 0x00, 0x00, 0x00, 0x00, 0x00, 0x00, 0x00, 0x00, 0x00, 0x00, 0x00, 0x00, 0x00,
  0x00, 0x00, 0x00, 0x00, 0x00, 0x00, 0x00, 0x00, 0x00, 0x00, 0x00, 0x00, 0x00, 0x00, 0x00, 0x00,
  0x00, 0x00, 0x00, 0x00, 0x00, 0x00, 0x00, 0x00, 0x00, 0x00, 0x00, 0x00, 0x00, 0x00, 0x00, 0x00,
  0x00, 0x00, 0x00, 0x00, 0x00, 0x00, 0x00, 0x00, 0x00, 0x00, 0x00, 0x00, 0x00, 0x00, 0x00, 0x00,
  0x00, 0x00, 0x00, 0x00, 0x00, 0x00, 0x00, 0x00, 0x00, 0x00, 0x00, 0x00, 0x00, 0x00, 0x00, 0x00,
  0x00, 0x00, 0x00, 0x00, 0x00, 0x00, 0x00, 0x00, 0x00, 0x00, 0x00, 0x00, 0x00, 0x00, 0x00, 0x00]

def glibFontNarrow6x8 : GlibFont where
  pixMap := glibFontNarrow6x8PixMap
  cntOfMapElements := 800
  sizeOfMapElement := 1
  fontRowOffset := 100
  fontWidth := 6
  fontHeight := 8
  lineSpacing := 2
  charSpacing := 0
  fontClass := .fullFont

-- `cntOfMapElements` is the size of the map.
example : glibFontNarrow6x8.cntOfMapElements = glibFontNarrow6x8.pixMap.length := by decide +kernel

end BleRemote.Lcd
