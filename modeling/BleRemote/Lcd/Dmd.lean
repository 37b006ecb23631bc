import BleRemote.Imperative.Returns
import Mathlib.Logic.Function.Basic

/-! The display driver `dmd_memlcd.c`, built for the monochrome panel of 128 by 128 pixels.

A framebuffer byte holds eight pixels of a line, the leftmost in its lowest bit, and a line
is 16 bytes. The framebuffer is the memory from its start on: the array ends after 2048
bytes, and a write behind it would show. Unsigned quantities of the C code are natural
numbers, reduced where the C types would reduce them.
-/

set_option autoImplicit false
namespace BleRemote.Lcd

abbrev EmStatus := UInt32

def dmdOk : EmStatus := 0
def dmdErrorDriverNotInitialized : EmStatus := 1
def dmdErrorPixelOutOfBounds : EmStatus := 4
def dmdErrorEmptyClippingArea : EmStatus := 5

def uint16 (i : Int) : Nat := (i % 65536).toNat
def uint32 (i : Int) : Nat := (i % 4294967296).toNat

/-- `SL_MEMLCD_DISPLAY_WIDTH` and `SL_MEMLCD_DISPLAY_HEIGHT`. -/
def displaySize : Nat := 128

def bytesPerRow : Nat := displaySize / 8

structure DisplayGeometry where
  xSize : Nat
  ySize : Nat
  xClipStart : Nat
  yClipStart : Nat
  clipWidth : Nat
  clipHeight : Nat

structure Framebuffer where
  byte : Nat → BitVec 8

instance : CoeFun Framebuffer fun _ => Nat → BitVec 8 := ⟨Framebuffer.byte⟩

/-- The statics of the driver. Once it has its device it has the size of the panel. -/
structure Dmd where
  /-- The pointer `memlcd` is set. -/
  memlcd : Bool
  dimensions : DisplayGeometry
  framebuffer : Framebuffer
  sized : memlcd = true → dimensions.xSize = displaySize ∧ dimensions.ySize = displaySize

def Dmd.reset : Dmd := ⟨false, ⟨0, 0, 0, 0, 0, 0⟩, ⟨fun _ => 0⟩, nofun⟩

/-! ## Writing to the framebuffer -/

def setBit (byte : BitVec 8) (n : Nat) (on : Bool) : BitVec 8 :=
  if on then byte ||| (1#8 <<< n) else byte &&& ~~~(1#8 <<< n)

def store (fb : Framebuffer) (pDst : Nat) (byte : BitVec 8) : Framebuffer :=
  ⟨Function.update fb pDst byte⟩

/-- The pixels of a short write, one after the other. -/
def fillPixels (pDst x rowPixels : Nat) (pixelData : BitVec 8) (fb : Framebuffer) : Framebuffer :=
  (List.range rowPixels).foldl (fun fb k =>
    store fb (pDst + (x + k) / 8)
      (setBit (fb (pDst + (x + k) / 8)) ((x + k) % 8) (pixelData != 0))) fb

/-- The upper bits of a byte. -/
def fillFrom (pDst byteOffset : Nat) (pixelData : BitVec 8) (fb : Framebuffer) : Framebuffer :=
  let pixelMask := (1#8 <<< byteOffset) - 1
  store fb pDst ((fb pDst &&& pixelMask) ||| (pixelData &&& ~~~pixelMask))

/-- The lower bits of a byte. -/
def fillUpto (pDst rowPixels : Nat) (pixelData : BitVec 8) (fb : Framebuffer) : Framebuffer :=
  let pixelMask := (1#8 <<< rowPixels) - 1
  store fb pDst ((fb pDst &&& ~~~pixelMask) ||| (pixelData &&& pixelMask))

def memset (pDst : Nat) (pixelData : BitVec 8) (count : Nat) (fb : Framebuffer) : Framebuffer :=
  ⟨fun i => if pDst ≤ i ∧ i < pDst + count then pixelData else fb i⟩

/-- Whole bytes, then the pixels that are left. -/
def fillAligned (pDst rowPixels : Nat) (pixelData : BitVec 8) (fb : Framebuffer) : Framebuffer :=
  let fb := memset pDst pixelData (rowPixels / 8) fb
  if rowPixels % 8 ≠ 0 then fillUpto (pDst + rowPixels / 8) (rowPixels % 8) pixelData fb else fb

/-- The monochrome case of `DMD_writeColor`, for one line. -/
def fillRow (pDst x rowPixels : Nat) (pixelData : BitVec 8) (fb : Framebuffer) : Framebuffer :=
  if rowPixels < 8 then fillPixels pDst x rowPixels pixelData fb
  else if x % 8 ≠ 0 then
    fillAligned (pDst + x / 8 + 1) (rowPixels - (8 - x % 8)) pixelData
      (fillFrom (pDst + x / 8) (x % 8) pixelData fb)
  else fillAligned (pDst + x / 8) rowPixels pixelData fb

/-- The loop over the lines, with so many left down to the end of the clipping area. -/
def writeColorRows (pixelData : BitVec 8) : (rowsLeft x currentY numPixels : Nat) → Dmd → EmStatus × Dmd
  | 0, _, _, numPixels, d => (if numPixels = 0 then dmdOk else dmdErrorPixelOutOfBounds, d)
  | rowsLeft + 1, x, currentY, numPixels, d =>
    if numPixels = 0 then (dmdOk, d)
    else
      let room := uint32 (d.dimensions.clipWidth - x)
      let rowPixels := if room < numPixels then room else numPixels
      let x := uint16 (x + d.dimensions.xClipStart)
      let framebuffer := fillRow (currentY * bytesPerRow) x rowPixels pixelData d.framebuffer
      writeColorRows pixelData rowsLeft 0 (currentY + 1) (numPixels - rowPixels)
        { d with framebuffer := framebuffer }

/-- `DMD_writeColor`. On a monochrome panel green decides. -/
def dmdWriteColor (x y : Nat) (_red green _blue : BitVec 8) (numPixels : Nat) (d : Dmd) :
    EmStatus × Dmd :=
  if d.memlcd = false then (dmdErrorDriverNotInitialized, d)
  else
    let maxY := uint16 (d.dimensions.yClipStart + d.dimensions.clipHeight)
    let currentY := uint16 (d.dimensions.yClipStart + y)
    writeColorRows (if green ≠ 0 then 0xFF else 0x00) (maxY - currentY) x currentY numPixels d

/-- `DMD_getDisplayGeometry` gives a pointer to the dimensions, when there is a device. -/
def dmdGetDisplayGeometry (d : Dmd) : EmStatus × Dmd :=
  if d.memlcd = false then (dmdErrorDriverNotInitialized, d) else (dmdOk, d)

def dmdSetClippingArea (xStart yStart width height : Nat) (d : Dmd) : EmStatus × Dmd :=
  if d.memlcd = false then (dmdErrorDriverNotInitialized, d)
  else if d.dimensions.xSize < xStart + width ∨ d.dimensions.ySize < yStart + height then
    (dmdErrorPixelOutOfBounds, d)
  else if width = 0 ∨ height = 0 then (dmdErrorEmptyClippingArea, d)
  else
    (dmdOk, { d with
      dimensions := { d.dimensions with
        xClipStart := xStart, yClipStart := yStart, clipWidth := width, clipHeight := height }
      sized := d.sized })

/-- The driver when it gets its device: the clip is the whole panel. -/
def Dmd.whole (framebuffer : Framebuffer) : Dmd :=
  ⟨true, ⟨displaySize, displaySize, 0, 0, displaySize, displaySize⟩, framebuffer, fun _ => ⟨rfl, rfl⟩⟩

/-- `DMD_init`, with the status of `sl_memlcd_init`. An initialised driver stays as it is. -/
def dmdInit (memlcdStatus : UInt32) (d : Dmd) : EmStatus × Dmd :=
  if d.memlcd = true then (dmdOk, d)
  else if memlcdStatus ≠ 0 then (dmdErrorDriverNotInitialized, d)
  else (dmdOk, (dmdWriteColor 0 0 0x00 0x00 0x00 (displaySize * displaySize) (.whole d.framebuffer)).2)

end BleRemote.Lcd
