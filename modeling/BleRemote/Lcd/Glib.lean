import BleRemote.Lcd.Dmd
import BleRemote.Lcd.Font

/-! The graphics library: what `glib.c`, `glib_rectangle.c` and `glib_string.c` do with
a context and the driver. Every pointer of the application is set. -/

set_option autoImplicit false
namespace BleRemote.Lcd

open Imperative

def glibOk : EmStatus := 0
def glibErrorNothingToDraw : EmStatus := 1
def glibErrorInvalidChar : EmStatus := 2
def glibOutOfBounds : EmStatus := 3
def glibErrorInvalidClippingRegion : EmStatus := 4

def int32 (i : Int) : Int := i.bmod 4294967296

abbrev Color := BitVec 32

def white : Color := 0x00FFFFFF
def black : Color := 0x00000000

structure GlibRectangle where
  xMin : Int
  yMin : Int
  xMax : Int
  yMax : Int

/-- `GLIB_Context_t`. Its display geometry is a pointer to the dimensions of the driver. -/
structure GlibContext where
  backgroundColor : Color
  foregroundColor : Color
  clippingRegion : GlibRectangle
  font : GlibFont

def GlibContext.zero : GlibContext := ⟨0, 0, ⟨0, 0, 0, 0⟩, .zero⟩

/-- The driver and the context in `display_data`. -/
structure Display where
  dmd : Dmd
  glibContext : GlibContext

/-- A function of the library; what is thrown is a status returned from inside of loops. -/
abbrev Glib := EStateM EmStatus Display

def onDmd (f : Dmd → EmStatus × Dmd) : Glib EmStatus := fun d =>
  .ok (f d.dmd).1 { d with dmd := (f d.dmd).2 }

def getContext : Glib GlibContext := return (← get).glibContext

def setContext (f : GlibContext → GlibContext) : Glib Unit :=
  modify fun d => { d with glibContext := f d.glibContext }

/-- `pContext->pDisplayGeometry`. -/
def getDisplayGeometry : Glib DisplayGeometry := return (← get).dmd.dimensions

def redShift : Nat := 16
def greenShift : Nat := 8
def blueShift : Nat := 0

/-- `GLIB_colorTranslate24bpp`: red, green and blue. -/
def glibColorTranslate24bpp (color : Color) : BitVec 8 × BitVec 8 × BitVec 8 :=
  ((color >>> redShift &&& 0xFF).setWidth 8, (color >>> greenShift &&& 0xFF).setWidth 8,
    (color >>> blueShift &&& 0xFF).setWidth 8)

def glibRectContainsPoint (rect : GlibRectangle) (x y : Int) : Prop :=
  ¬ (x < rect.xMin ∨ rect.xMax < x ∨ y < rect.yMin ∨ rect.yMax < y)

instance (rect : GlibRectangle) (x y : Int) : Decidable (glibRectContainsPoint rect x y) :=
  inferInstanceAs (Decidable (¬ _))

def glibDrawPixelColor (x y : Int) (color : Color) : Glib EmStatus := do
  let context ← getContext
  if glibRectContainsPoint context.clippingRegion x y then
    let (red, green, blue) := glibColorTranslate24bpp color
    onDmd (dmdWriteColor (uint16 x) (uint16 y) red green blue 1)
  else
    return glibErrorNothingToDraw

/-- The same with the foreground color. -/
def glibDrawPixel (x y : Int) : Glib EmStatus := do
  let context ← getContext
  glibDrawPixelColor x y context.foregroundColor

/-! ## The context -/

def glibApplyClippingRegion : Glib EmStatus := do
  let region := (← getContext).clippingRegion
  onDmd (dmdSetClippingArea (uint16 region.xMin) (uint16 region.yMin)
    (uint16 (region.xMax - region.xMin + 1)) (uint16 (region.yMax - region.yMin + 1)))

def glibSetClippingRegion (rect : GlibRectangle) : Glib EmStatus := do
  let geometry ← getDisplayGeometry
  if rect.xMax ≤ rect.xMin ∨ rect.yMax ≤ rect.yMin then
    return glibErrorInvalidClippingRegion
  else if rect.xMin < 0 ∨ rect.yMin < 0 ∨ (geometry.xSize : Int) - 1 < rect.xMax ∨
      (geometry.ySize : Int) - 1 < rect.yMax then
    return glibOutOfBounds
  else
    setContext fun context => { context with clippingRegion := rect }
    glibApplyClippingRegion

def glibResetDisplayClippingArea : Glib EmStatus := do
  let geometry ← getDisplayGeometry
  onDmd (dmdSetClippingArea 0 0 geometry.xSize geometry.ySize)

def glibSetFont (font : GlibFont) : Glib EmStatus := do
  setContext fun context => { context with font := font }
  return glibOk

/-- `GLIB_contextInit`, for some default font. -/
def glibContextInit (defaultFont : GlibFont) : Glib EmStatus := do
  setContext fun context => { context with backgroundColor := black, foregroundColor := white }
  let status ← onDmd dmdGetDisplayGeometry
  if status ≠ dmdOk then
    return status
  else
    let geometry ← getDisplayGeometry
    let status ← glibSetClippingRegion ⟨0, 0, geometry.xSize - 1, geometry.ySize - 1⟩
    if status ≠ glibOk then
      return status
    else
      let _ ← glibSetFont defaultFont
      return status

def glibClear : Glib EmStatus := do
  let context ← getContext
  let (red, green, blue) := glibColorTranslate24bpp context.backgroundColor
  let status ← glibResetDisplayClippingArea
  if status ≠ glibOk then
    return status
  else
    let geometry ← getDisplayGeometry
    onDmd (dmdWriteColor 0 0 red green blue (geometry.clipWidth * geometry.clipHeight))

/-! ## Text -/

/-- What a drawing counts of its parts. A status worse than nothing to draw ends it. -/
def countDrawn (drawnElements : Nat) (status : EmStatus) : Glib Nat :=
  if glibErrorNothingToDraw < status then throw status
  else return if status = glibOk then drawnElements + 1 else drawnElements

def drawnStatus (drawnElements : Nat) : EmStatus :=
  if drawnElements = 0 then glibErrorNothingToDraw else glibOk

/-- One pixel of a character; the bits of its row come lowest first. -/
def drawCharPixel (x y : Int) (isOpaque : Bool) (progress : Nat × Nat) (xOffset : Nat) :
    Glib (Nat × Nat) := do
  let (drawnElements, currentRow) := progress
  let context ← getContext
  let drawnElements ←
    if currentRow % 2 = 1 then
      countDrawn drawnElements (← glibDrawPixel (x + xOffset) y)
    else if isOpaque then
      countDrawn drawnElements (← glibDrawPixelColor (x + xOffset) y context.backgroundColor)
    else
      pure drawnElements
  return (drawnElements, currentRow / 2)

/-- One pixel behind a character. -/
def drawSpacingPixel (x y : Int) (isOpaque : Bool) (drawnElements xOffset : Nat) : Glib Nat := do
  let context ← getContext
  if isOpaque then
    countDrawn drawnElements (← glibDrawPixelColor (x + xOffset) y context.backgroundColor)
  else
    return drawnElements

def drawCharRow (x y : Int) (isOpaque : Bool) (progress : Nat × Nat) (row : Nat) :
    Glib (Nat × Nat) := do
  let (drawnElements, fontIdx) := progress
  let font := (← getContext).font
  let (drawnElements, _) ← (List.range font.fontWidth).foldlM
    (drawCharPixel x (y + row) isOpaque) (drawnElements, font.element fontIdx)
  let drawnElements ← (List.range font.charSpacing).foldlM
    (drawSpacingPixel (x + font.fontWidth) (y + row) isOpaque) drawnElements
  return (drawnElements, (fontIdx + font.fontRowOffset) % 65536)

/-- The index of a character in the first row of the pixel map. -/
def GlibFont.idx (font : GlibFont) (myChar : Char) : Nat :=
  if font.fontClass = .numbersOnlyFont then
    if myChar = ':' then 10 else if myChar = ' ' then 11 else uint16 (myChar.toNat - 48)
  else myChar.toNat - 32

def glibDrawChar (myChar : Char) (x y : Int) (isOpaque : Bool) : Glib EmStatus := do
  let font := (← getContext).font
  if myChar.toNat < 0x20 ∨ 0x7E < myChar.toNat then
    return glibErrorInvalidChar
  else if font.cntOfMapElements ≤ font.idx myChar then
    return glibErrorInvalidChar
  else
    returning do
      let (drawnElements, _) ← (List.range font.fontHeight).foldlM (drawCharRow x y isOpaque)
        (0, font.idx myChar)
      return drawnStatus drawnElements

/-- One character of a string, from what is drawn and the place so far. -/
def drawStringChar (x0 : Int) (isOpaque : Bool) (progress : Nat × Int × Int) (myChar : Char) :
    Glib (Nat × Int × Int) := do
  let (drawnElements, x, y) := progress
  let font := (← getContext).font
  if myChar = '\n' then
    return (drawnElements, x0, y + font.fontHeight + font.lineSpacing)
  else
    let drawnElements ← countDrawn drawnElements (← glibDrawChar myChar x y isOpaque)
    return (drawnElements, x + (font.fontWidth + font.charSpacing), y)

def glibDrawString (pString : List Char) (sLength : Nat) (x0 y0 : Int) (isOpaque : Bool) :
    Glib EmStatus := do
  let font := (← getContext).font
  if font.fontClass = .invalidFont then
    return glibErrorInvalidChar
  else
    returning do
      let (drawnElements, _) ← (pString.take sLength).foldlM (drawStringChar x0 isOpaque) (0, x0, y0)
      return drawnStatus drawnElements

inductive GlibAlign where
  | left | center | right
  deriving DecidableEq

/-- Up to the terminator. -/
def strlen (pString : List Char) : Nat := (pString.takeWhile (· ≠ '\x00')).length

def glibDrawStringOnLine (pString : List Char) (line : UInt8) (align : GlibAlign)
    (xOffset yOffset : Int) (isOpaque : Bool) : Glib EmStatus := do
  let font := (← getContext).font
  let geometry ← getDisplayGeometry
  let length := strlen pString
  let pixels := uint32 (length * font.fontWidth)
  let y := line.toNat * (font.fontHeight + font.lineSpacing) + yOffset
  let x := match align with
    | .left => 0
    | .center => int32 (uint32 (geometry.xSize - pixels) / 2 : Nat)
    | .right => int32 (uint32 (geometry.xSize - pixels))
  glibDrawString pString length (x + xOffset) y isOpaque

end BleRemote.Lcd
