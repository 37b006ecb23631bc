import BleRemote.Device.Globals
import Mathlib.Logic.Function.Basic

/-! The external interrupts of the GPIO block: what `gpio.c` sets up with
`em_gpio.c`, what an edge on a pin does, and the two interrupt handlers of `irq.c`
with the signals they raise through `scheduler.c`. -/

set_option autoImplicit false
namespace BleRemote.Device

open Stack

/-! ## Registers -/

structure ExtIntConfig where
  /-- `EXTIPSELL` and `EXTIPSELH`: the port of each line. -/
  extIPSel : Nat → GpioPort
  /-- `EXTIPINSELL` and `EXTIPINSELH`: the pin of each line, within its group of four. -/
  extIPinSel : Nat → Nat
  extIRise : BitVec 32
  extIFall : BitVec 32
  ien : BitVec 32

structure Gpio where
  level : GpioPin → Bool
  config : ExtIntConfig
  intFlag : BitVec 32

def busRegBitWrite (register : BitVec 32) (bitNumber : Nat) (value : Bool) : BitVec 32 :=
  if value then register ||| (1#32 <<< bitNumber) else register &&& ~~~(1#32 <<< bitNumber)

def gpioIntClear (flags : BitVec 32) (gpio : Gpio) : Gpio :=
  { gpio with intFlag := gpio.intFlag &&& ~~~flags }

def gpioIntGetEnabled (gpio : Gpio) : BitVec 32 := gpio.intFlag &&& gpio.config.ien

def gpioExtIntConfig (port : GpioPort) (pin intNo : Nat) (risingEdge fallingEdge enable : Bool)
    (gpio : Gpio) : Gpio :=
  gpioIntClear (1#32 <<< intNo) { gpio with config := {
    extIPSel := Function.update gpio.config.extIPSel intNo port
    extIPinSel := Function.update gpio.config.extIPinSel intNo (pin % 4)
    extIRise := busRegBitWrite gpio.config.extIRise intNo risingEdge
    extIFall := busRegBitWrite gpio.config.extIFall intNo fallingEdge
    ien := busRegBitWrite gpio.config.ien intNo enable } }

def gpioReset (level : GpioPin → Bool) : Gpio :=
  ⟨level, ⟨fun _ => .a, fun line => line % 4, 0, 0, 0⟩, 0⟩

/-- `gpioInit`, as far as it concerns interrupts: the two keys and PB0, each on the
line of its pin number and on both edges. -/
def gpioInit (gpio : Gpio) : Gpio :=
  gpioExtIntConfig pb0ButtonPin.port pb0ButtonPin.pin pb0ButtonPin.pin true true true
    (gpioExtIntConfig keypadGpioPin4.port keypadGpioPin4.pin keypadGpioPin4.pin true true true
      (gpioExtIntConfig keypadGpioPin3.port keypadGpioPin3.pin keypadGpioPin3.pin true true true
        gpio))

/-! ## Edges -/

def ExtIntConfig.watches (config : ExtIntConfig) (line : Nat) : GpioPin :=
  ⟨config.extIPSel line, line / 4 * 4 + config.extIPinSel line⟩

/-- The flags an edge raises: of the lines that watch the pin for this direction. -/
def ExtIntConfig.raised (config : ExtIntConfig) (pin : GpioPin) (rising : Bool) : BitVec 32 :=
  (List.range 16).foldl (fun flags line =>
    if config.watches line = pin ∧
        (if rising then config.extIRise else config.extIFall).getLsbD line = true
    then flags ||| (1#32 <<< line) else flags) 0

def Gpio.edge (gpio : Gpio) (pin : GpioPin) : Gpio :=
  { gpio with
    level := Function.update gpio.level pin (!gpio.level pin)
    intFlag := gpio.intFlag ||| gpio.config.raised pin (!gpio.level pin) }

/-! ## Handlers -/

/-- `sl_bt_external_signal`: the bits join those the stack has not delivered yet. -/
def slBtExternalSignal (signals pending : UInt32) : UInt32 := pending ||| signals

/-- `schedulerSetEvent_PB0`. No handler calls it. -/
def schedulerSetEventPb0 (pending : UInt32) : UInt32 := slBtExternalSignal evtPb0Pressed pending

def schedulerSetEventKeypadEven (pending : UInt32) : UInt32 :=
  slBtExternalSignal evtButtonEvenPressed pending

def schedulerSetEventKeypadOdd (pending : UInt32) : UInt32 :=
  slBtExternalSignal evtButtonOddPressed pending

/-- `GPIO_EVEN_IRQHandler`, over the pending signals. It reads the levels of PD12
and PB0 and uses neither. -/
def gpioEvenIrqHandler (gpio : Gpio) (pending : UInt32) : Gpio × UInt32 :=
  let flags := gpioIntGetEnabled gpio &&& 0x55555555#32
  (gpioIntClear flags gpio, schedulerSetEventKeypadEven pending)

def gpioOddIrqHandler (gpio : Gpio) (pending : UInt32) : Gpio × UInt32 :=
  let flags := gpioIntGetEnabled gpio &&& 0xAAAAAAAA#32
  (gpioIntClear flags gpio, schedulerSetEventKeypadOdd pending)

/-! ## The configuration of `gpioInit` -/

def initConfig : ExtIntConfig := (gpioInit (gpioReset fun _ => true)).config

theorem gpioInit_config (level : GpioPin → Bool) :
    (gpioInit (gpioReset level)).config = initConfig := rfl

theorem raised_enabled {pin : GpioPin}
    (wired : pin = keypadGpioPin3 ∨ pin = keypadGpioPin4 ∨ pin = pb0ButtonPin) (rising : Bool) :
    initConfig.raised pin rising &&& initConfig.ien ≠ 0 := by
  rcases wired with rfl | rfl | rfl <;> cases rising <;> decide

theorem Gpio.edge_enabled (gpio : Gpio) (pin : GpioPin) :
    gpioIntGetEnabled (gpio.edge pin) = gpioIntGetEnabled gpio |||
      (gpio.config.raised pin (!gpio.level pin) &&& gpio.config.ien) :=
  BitVec.and_or_distrib_right

theorem Gpio.edge_pending {gpio : Gpio} (pin : GpioPin) (pending : gpioIntGetEnabled gpio ≠ 0) :
    gpioIntGetEnabled (gpio.edge pin) ≠ 0 := by
  rw [gpio.edge_enabled]
  exact fun none => pending (BitVec.or_eq_zero_iff.mp none).1

theorem Gpio.edge_raises {gpio : Gpio} (configured : gpio.config = initConfig) {pin : GpioPin}
    (wired : pin = keypadGpioPin3 ∨ pin = keypadGpioPin4 ∨ pin = pb0ButtonPin) :
    gpioIntGetEnabled (gpio.edge pin) ≠ 0 := by
  rw [gpio.edge_enabled, configured]
  exact fun none => raised_enabled wired _ (BitVec.or_eq_zero_iff.mp none).2

end BleRemote.Device
