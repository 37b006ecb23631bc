import BleRemote.Lcd.Dmd

/-! The panel driver `sl_memlcd.c`, built for the LS013B7DH03, and the panel behind it.

The driver's side is the bytes it sends while the chip select is high. The panel is
described from its own side, byte by byte: a command, then an address, the bytes of that
line and a byte to write it by, until the chip select falls.
-/

set_option autoImplicit false
namespace BleRemote.Lcd

/-! ## The driver's side -/

def cmdUpdate : Nat := 0x01
def cmdAllClear : Nat := 0x04

/-- `sli_memlcd_spi_tx` of a `uint16_t`: the low byte goes first. -/
def spiTxHalfword (cmd : Nat) : List (BitVec 8) := [BitVec.ofNat 8 cmd, BitVec.ofNat 8 (cmd >>> 8)]

/-- `sli_memlcd_spi_tx` of a line. -/
def spiTxLine (data : Nat → BitVec 8) : List (BitVec 8) := (List.range bytesPerRow).map data

def slMemlcdClear : List (BitVec 8) := spiTxHalfword cmdAllClear

/-- One pass of the loop: the pixels of a line, then the address of the next or the trailer. -/
def drawLine (data : Nat → BitVec 8) (rowStart rowCount i : Nat) : List (BitVec 8) :=
  spiTxLine (fun k => data (i * bytesPerRow + k)) ++
    spiTxHalfword (if i = rowCount - 1 then 0xffff else 0xff ||| (rowStart + i + 1) <<< 8)

/-- `sl_memlcd_draw`. Addresses of lines count from one. -/
def slMemlcdDraw (data : Nat → BitVec 8) (rowStart rowCount : Nat) : List (BitVec 8) :=
  let rowStart := rowStart + 1
  spiTxHalfword (cmdUpdate ||| rowStart <<< 8) ++
    (List.range rowCount).flatMap (drawLine data rowStart rowCount)

/-! ## The panel's side -/

inductive PanelPhase where
  | command | address
  /-- In the pixels of a line, with what has come of them. -/
  | line (address : Nat) (received : List (BitVec 8))
  | written | ignored
  deriving DecidableEq

/-- The glass has the lines of the framebuffer and its colors. -/
structure Panel where
  glass : Framebuffer
  phase : PanelPhase

/-- A line is written if the panel has it. -/
def writeLine (glass : Framebuffer) (address : Nat) (line : List (BitVec 8)) : Framebuffer :=
  ⟨fun i => if i / bytesPerRow + 1 = address ∧ address ≤ displaySize
    then line.getD (i % bytesPerRow) 0 else glass i⟩

def whiteGlass : Framebuffer := ⟨fun _ => 0xFF⟩

def Panel.receive (p : Panel) (byte : BitVec 8) : Panel :=
  match p.phase with
  | .command =>
    if byte.getLsbD 0 then ⟨p.glass, .address⟩
    else if byte.getLsbD 2 then ⟨whiteGlass, .ignored⟩
    else ⟨p.glass, .ignored⟩
  | .address => ⟨p.glass, .line byte.toNat []⟩
  | .line address received =>
    if received.length + 1 < bytesPerRow then ⟨p.glass, .line address (received ++ [byte])⟩
    else ⟨writeLine p.glass address (received ++ [byte]), .written⟩
  | .written => ⟨p.glass, .address⟩
  | .ignored => p

def Panel.receiveAll (p : Panel) (bytes : List (BitVec 8)) : Panel := bytes.foldl receive p

/-- What is on the glass after a transfer; what has come of a line when the chip select
falls is lost. -/
def transfer (glass : Framebuffer) (bytes : List (BitVec 8)) : Framebuffer :=
  (Panel.receiveAll ⟨glass, .command⟩ bytes).glass

/-! ## What a transfer writes -/

section
variable (p : Panel) (glass : Framebuffer)

@[simp] theorem receiveAll_nil : p.receiveAll [] = p := rfl

@[simp] theorem receiveAll_cons (byte : BitVec 8) (rest : List (BitVec 8)) :
    p.receiveAll (byte :: rest) = (p.receive byte).receiveAll rest := rfl

theorem receiveAll_append (first rest : List (BitVec 8)) :
    p.receiveAll (first ++ rest) = (p.receiveAll first).receiveAll rest := List.foldl_append

theorem receive_line (address : Nat) (received : List (BitVec 8)) (byte : BitVec 8) :
    Panel.receive ⟨glass, .line address received⟩ byte =
      if received.length + 1 < bytesPerRow then ⟨glass, .line address (received ++ [byte])⟩
      else ⟨writeLine glass address (received ++ [byte]), .written⟩ := rfl

theorem transfer_clear : transfer glass slMemlcdClear = whiteGlass := rfl

/-- The bytes of a line are collected to its end. -/
theorem receiveAll_line (address : Nat) (received bytes : List (BitVec 8))
    (complete : received.length + bytes.length = bytesPerRow) (nonempty : bytes ≠ []) :
    Panel.receiveAll ⟨glass, .line address received⟩ bytes =
      ⟨writeLine glass address (received ++ bytes), .written⟩ := by
  induction bytes generalizing received with
  | nil => exact absurd rfl nonempty
  | cons byte rest ih =>
    have longer : (received ++ [byte]).length = received.length + 1 := List.length_append
    rw [List.length_cons] at complete
    rw [receiveAll_cons, receive_line]
    by_cases last : rest = []
    · subst last
      rw [if_neg (by rw [List.length_nil] at complete; omega), receiveAll_nil]
    · have more : 0 < rest.length := List.length_pos_of_ne_nil last
      rw [if_pos (by omega), ih _ (by omega) last, List.append_assoc]
      rfl

theorem spiTxLine_length (data : Nat → BitVec 8) : (spiTxLine data).length = bytesPerRow := by
  rw [spiTxLine, List.length_map, List.length_range]

theorem spiTxLine_getD (data : Nat → BitVec 8) {k : Nat} (inside : k < bytesPerRow) :
    (spiTxLine data).getD k 0 = data k := by
  simp [spiTxLine, List.getD_eq_getElem?_getD, List.getElem?_range inside]

theorem address_byte {low address : Nat} (byte : low < 256) (small : address < 256) :
    (BitVec.ofNat 8 ((low ||| address <<< 8) >>> 8)).toNat = address := by
  have none : low >>> 8 = 0 := by
    rw [Nat.shiftRight_eq_div_pow]
    omega
  rw [Nat.shiftRight_or_distrib, none, Nat.zero_or, Nat.shiftLeft_shiftRight, BitVec.toNat_ofNat]
  omega

/-- A line with what follows it: the pixels are written and the next address is known. -/
theorem receiveAll_drawLine (data : Nat → BitVec 8) (rowStart rowCount i address : Nat)
    (small : rowStart + i + 1 < 256) :
    Panel.receiveAll ⟨glass, .line address []⟩ (drawLine data rowStart rowCount i) =
      ⟨writeLine glass address (spiTxLine fun k => data (i * bytesPerRow + k)),
        .line (if i = rowCount - 1 then 255 else rowStart + i + 1) []⟩ := by
  have nonempty : spiTxLine (fun k => data (i * bytesPerRow + k)) ≠ [] :=
    List.ne_nil_of_length_pos (by rw [spiTxLine_length]; decide)
  rw [drawLine, receiveAll_append, receiveAll_line glass address [] _
    (by rw [spiTxLine_length]; rfl) nonempty, List.nil_append]
  split
  · rfl
  · conv_rhs => rw [← address_byte (show 0xff < 256 by decide) small]
    rfl

/-- The glass after some lines from a first one on. -/
def drawn (data : Nat → BitVec 8) (rowStart count : Nat) (glass : Framebuffer) : Framebuffer :=
  ⟨fun i => if rowStart ≤ i / bytesPerRow ∧ i / bytesPerRow < rowStart + count
    then data (i - rowStart * bytesPerRow) else glass i⟩

theorem writeLine_drawn (data : Nat → BitVec 8) {rowStart count : Nat} (onPanel : rowStart + count < displaySize) :
    writeLine (drawn data rowStart count glass) (rowStart + count + 1)
        (spiTxLine fun k => data (count * bytesPerRow + k)) =
      drawn data rowStart (count + 1) glass := by
  unfold writeLine drawn
  congr
  funext i
  have inside : i % bytesPerRow < bytesPerRow := Nat.mod_lt i (by decide)
  by_cases here : i / bytesPerRow = rowStart + count
  · have place : count * bytesPerRow + i % bytesPerRow = i - rowStart * bytesPerRow := by
      unfold bytesPerRow displaySize at *
      omega
    rw [if_pos ⟨by omega, by omega⟩, if_pos ⟨by omega, by omega⟩, spiTxLine_getD _ inside, place]
  · rw [if_neg (by omega)]
    exact if_congr (by omega) rfl rfl

/-- Until the last line is through, the address of the next one is known. -/
theorem receiveAll_lines (data : Nat → BitVec 8) {rowStart rowCount : Nat}
    (onPanel : rowStart + rowCount ≤ displaySize) {count : Nat} (within : count ≤ rowCount) :
    ∃ address, Panel.receiveAll ⟨glass, .line (rowStart + 1) []⟩
        ((List.range count).flatMap (drawLine data (rowStart + 1) rowCount)) =
      ⟨drawn data rowStart count glass, .line address []⟩ ∧
        (count < rowCount → address = rowStart + count + 1) := by
  induction count with
  | zero =>
    have nothing : drawn data rowStart 0 glass = glass := by
      unfold drawn
      congr
      funext i
      rw [if_neg (by omega)]
    exact ⟨rowStart + 1, by rw [nothing]; rfl, fun _ => rfl⟩
  | succ count ih =>
    obtain ⟨address, before, known⟩ := ih (by omega)
    have small : rowStart + 1 + count + 1 < 256 := by
      unfold displaySize at onPanel
      omega
    have line := receiveAll_drawLine (drawn data rowStart count glass) data (rowStart + 1) rowCount
      count address small
    rw [known (by omega), writeLine_drawn glass data (by omega)] at line
    refine ⟨if count = rowCount - 1 then 255 else rowStart + 1 + count + 1, ?_, fun more => ?_⟩
    · rw [List.range_succ, List.flatMap_append, receiveAll_append, before, List.flatMap_singleton,
        known (by omega), line]
    · rw [if_neg (by omega)]
      omega

/-- A transfer puts the lines it is given on the glass and leaves the others. -/
theorem transfer_draw (data : Nat → BitVec 8) {rowStart rowCount : Nat}
    (onPanel : rowStart + rowCount ≤ displaySize) :
    transfer glass (slMemlcdDraw data rowStart rowCount) = drawn data rowStart rowCount glass := by
  have update : (BitVec.ofNat 8 (cmdUpdate ||| (rowStart + 1) <<< 8)).getLsbD 0 = true := by
    simp [cmdUpdate]
  have address := address_byte (show cmdUpdate < 256 by decide)
    (show rowStart + 1 < 256 by unfold displaySize at onPanel; omega)
  obtain ⟨_, after, -⟩ := receiveAll_lines glass data onPanel le_rfl
  simp only [transfer, slMemlcdDraw, receiveAll_append, spiTxHalfword, receiveAll_cons, receiveAll_nil]
  simp only [Panel.receive, update, if_true, address, after]

/-! ## Transfers one after the other -/

/-- The transfers that the driver makes. -/
inductive Transfer where
  | clear
  | draw (data : Nat → BitVec 8) (rowStart rowCount : Nat)

def Transfer.bytes : Transfer → List (BitVec 8)
  | .clear => slMemlcdClear
  | .draw data rowStart rowCount => slMemlcdDraw data rowStart rowCount

def Transfer.OnPanel : Transfer → Prop
  | .clear => True
  | .draw _ rowStart rowCount => rowStart + rowCount ≤ displaySize

/-- What a transfer means to have on the glass at a place, if anything. -/
def Transfer.puts (i : Nat) : Transfer → Option (BitVec 8)
  | .clear => some 0xFF
  | .draw data rowStart rowCount =>
    if rowStart ≤ i / bytesPerRow ∧ i / bytesPerRow < rowStart + rowCount then
      some (data (i - rowStart * bytesPerRow))
    else none

end

end BleRemote.Lcd
