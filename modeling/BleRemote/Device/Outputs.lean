import BleRemote.Device.Globals
import BleRemote.Packed.Fields
import BleRemote.Reactive.Waveform

/-! The pins as outputs: the port registers of `em_gpio.c`, what `gpio.c` sets up and drives, and
the two patterns of `ble.c` on the LEDs. -/

set_option autoImplicit false
namespace BleRemote.Device

open Reactive Packed

/-! ## Registers -/

/-- `GPIO_Mode_TypeDef`, in the order of its values. -/
inductive GpioMode where
  | disabled | input | inputPull | inputPullFilter
  | pushPull | pushPullAlternate | wiredOr | wiredOrPullDown
  | wiredAnd | wiredAndFilter | wiredAndPullUp | wiredAndPullUpFilter
  | wiredAndAlternate | wiredAndAlternateFilter | wiredAndAlternatePullUp | wiredAndAlternatePullUpFilter
  deriving DecidableEq

def GpioMode.value (mode : GpioMode) : BitVec 4 := .ofNat 4 mode.ctorIdx

/-- `GPIO_P_TypeDef`, the registers the pin functions write. -/
structure PortRegisters where
  modeL : BitVec 32
  modeH : BitVec 32
  dout : BitVec 32

abbrev Ports := GpioPort → PortRegisters

/-- `GPIO_PinOutSet` and `GPIO_PinOutClear`. -/
def gpioPinOutSet (pin : GpioPin) (ports : Ports) : Ports :=
  Function.update ports pin.port
    { ports pin.port with dout := (ports pin.port).dout ||| (1#32 <<< pin.pin) }

def gpioPinOutClear (pin : GpioPin) (ports : Ports) : Ports :=
  Function.update ports pin.port
    { ports pin.port with dout := (ports pin.port).dout &&& ~~~(1#32 <<< pin.pin) }

def gpioPinOutWrite (pin : GpioPin) (high : Bool) : Ports → Ports :=
  if high then gpioPinOutSet pin else gpioPinOutClear pin

def gpioPinOutGet (pin : GpioPin) (ports : Ports) : Bool := (ports pin.port).dout.getLsbD pin.pin

/-- The field of the pin, four bits of `MODEL` or of `MODEH`. -/
def gpioModeField (pin : GpioPin) (mode : GpioMode) (registers : PortRegisters) : PortRegisters :=
  if pin.pin < 8 then { registers with modeL := put registers.modeL pin.pin mode.value }
  else { registers with modeH := put registers.modeH (pin.pin - 8) mode.value }

def gpioPinModeSet (pin : GpioPin) (mode : GpioMode) (out : Bool) (ports : Ports) : Ports :=
  -- a pin that is disabled keeps its output until it is
  let ports := if mode ≠ .disabled then gpioPinOutWrite pin out ports else ports
  let ports := Function.update ports pin.port (gpioModeField pin mode (ports pin.port))
  if mode = .disabled then gpioPinOutWrite pin out ports else ports

def gpioPinModeGet (pin : GpioPin) (ports : Ports) : BitVec 4 :=
  if pin.pin < 8 then get 4 (ports pin.port).modeL pin.pin
  else get 4 (ports pin.port).modeH (pin.pin - 8)

/-! ## `gpio.c` -/

-- `LED1_pin`, PF5.
def led1Pin : GpioPin := ⟨.f, 5⟩

/-- `gpioInit`, as far as it concerns modes and outputs. -/
def gpioInitPins (ports : Ports) : Ports :=
  gpioPinModeSet pb0ButtonPin .input true
    (gpioPinModeSet keypadGpioPin4 .input true
      (gpioPinModeSet keypadGpioPin3 .input true
        (gpioPinModeSet extcominPin .pushPull false
          (gpioPinModeSet led1Pin .pushPull false
            (gpioPinModeSet led0Pin .pushPull false ports)))))

abbrev PinWrite := GpioPin × Bool

def gpioLed0SetOn : PinWrite := (led0Pin, true)
def gpioLed0SetOff : PinWrite := (led0Pin, false)
def gpioLed1SetOn : PinWrite := (led1Pin, true)
def gpioLed1SetOff : PinWrite := (led1Pin, false)

/-- One round of the loop of `LED_pattern_odd`, without its delays. -/
def ledPatternOddRound : List PinWrite :=
  [gpioLed0SetOn, gpioLed0SetOff, gpioLed1SetOn, gpioLed1SetOff,
    gpioLed0SetOn, gpioLed0SetOff, gpioLed1SetOn, gpioLed1SetOff]

def ledPatternEvenRound : List PinWrite :=
  [gpioLed0SetOn, gpioLed1SetOn, gpioLed0SetOff, gpioLed0SetOn, gpioLed1SetOff, gpioLed0SetOff]

def ledPatternOdd : List PinWrite := (List.replicate 2000 ledPatternOddRound).flatten

def ledPatternEven : List PinWrite := (List.replicate 2000 ledPatternEvenRound).flatten

def pinWrites : Effect → List PinWrite
  | .gpioPinOut pin high => [(pin, high)]
  | .ledPatternOdd => ledPatternOdd
  | .ledPatternEven => ledPatternEven
  | _ => []

def Ports.write (ports : Ports) (writes : List PinWrite) : Ports :=
  writes.foldl (fun ports w => gpioPinOutWrite w.1 w.2 ports) ports

/-! ## What is read back -/

section
variable (pin other : GpioPin) (high : Bool) (mode : GpioMode) (ports : Ports)

theorem gpioPinOutGet_write {pin : GpioPin} (fits : pin.pin < 32) (other : GpioPin) :
    gpioPinOutGet other (gpioPinOutWrite pin high ports) =
      if other = pin then high else gpioPinOutGet other ports := by
  obtain ⟨port, number⟩ := pin
  obtain ⟨port', number'⟩ := other
  simp only [GpioPin.mk.injEq]
  by_cases samePort : port' = port
  · subst samePort
    cases high with
    | false =>
      simp only [gpioPinOutGet, gpioPinOutWrite, gpioPinOutClear, Bool.false_eq_true, if_false,
        Function.update_self, clear_getLsbD, true_and]
    | true =>
      simp only [gpioPinOutGet, gpioPinOutWrite, gpioPinOutSet, if_true, Function.update_self,
        set_getLsbD _ fits, true_and]
  · cases high <;> simp [gpioPinOutGet, gpioPinOutWrite, gpioPinOutSet, gpioPinOutClear, samePort]

@[simp] theorem gpioPinModeGet_write :
    gpioPinModeGet other (gpioPinOutWrite pin high ports) = gpioPinModeGet other ports := by
  by_cases samePort : other.port = pin.port
  · cases high <;> simp [gpioPinModeGet, gpioPinOutWrite, gpioPinOutSet, gpioPinOutClear, samePort]
  · cases high <;> simp [gpioPinModeGet, gpioPinOutWrite, gpioPinOutSet, gpioPinOutClear, samePort]

theorem gpioModeField_dout (registers : PortRegisters) :
    (gpioModeField pin mode registers).dout = registers.dout := by
  unfold gpioModeField
  split <;> rfl

@[simp] theorem gpioPinOutGet_field :
    gpioPinOutGet other (Function.update ports pin.port (gpioModeField pin mode (ports pin.port))) =
      gpioPinOutGet other ports := by
  by_cases samePort : other.port = pin.port
  · simp [gpioPinOutGet, samePort, gpioModeField_dout]
  · simp [gpioPinOutGet, samePort]

/-- The mode that `GPIO_PinModeSet` stores for a pin is read back for this pin, and the modes of all
other pins are read as before, in either register of any port. -/
theorem gpioPinModeGet_field {pin : GpioPin} (fits : pin.pin < 16) (other : GpioPin) :
    gpioPinModeGet other (Function.update ports pin.port (gpioModeField pin mode (ports pin.port))) =
      if other = pin then mode.value else gpioPinModeGet other ports := by
  obtain ⟨port, number⟩ := pin
  obtain ⟨port', number'⟩ := other
  have fits : number < 16 := fits
  simp only [GpioPin.mk.injEq]
  by_cases samePort : port' = port
  · subst samePort
    by_cases samePin : number' = number
    · subst samePin
      rcases Nat.lt_or_ge number' 8 with low | highHalf
      · have inside : number' * 4 + 4 ≤ 32 := by omega
        simp [gpioPinModeGet, gpioModeField, low, get_put inside]
      · have inside : (number' - 8) * 4 + 4 ≤ 32 := by omega
        simp [gpioPinModeGet, gpioModeField, Nat.not_lt_of_le highHalf, get_put inside]
    · simp only [gpioPinModeGet, gpioModeField, samePin, and_false, if_false, Function.update_self]
      split
      · split
        · exact get_put_of_ne _ _ samePin
        · rfl
      · split
        · rfl
        · exact get_put_of_ne _ _ (by omega)
  · simp [gpioPinModeGet, samePort]

theorem gpioPinModeGet_set {pin : GpioPin} (fits : pin.pin < 16) (other : GpioPin) :
    gpioPinModeGet other (gpioPinModeSet pin mode high ports) =
      if other = pin then mode.value else gpioPinModeGet other ports := by
  unfold gpioPinModeSet
  by_cases disabled : mode = .disabled
  · simp [disabled, gpioPinModeGet_field _ _ fits]
  · simp [disabled, gpioPinModeGet_field _ _ fits]

theorem gpioPinOutGet_set {pin : GpioPin} (fits : pin.pin < 32) (other : GpioPin) :
    gpioPinOutGet other (gpioPinModeSet pin mode high ports) =
      if other = pin then high else gpioPinOutGet other ports := by
  unfold gpioPinModeSet
  by_cases disabled : mode = .disabled
  · simp [disabled, gpioPinOutGet_write _ _ fits]
  · simp [disabled, gpioPinOutGet_write _ _ fits]

end

/-! ## Runs of writes -/

/-- Every write is to a pin that the registers have. -/
def InPorts (writes : List PinWrite) : Prop := ∀ w ∈ writes, w.1.pin < 16

instance (writes : List PinWrite) : Decidable (InPorts writes) :=
  inferInstanceAs (Decidable (∀ w ∈ writes, w.1.pin < 16))

theorem inPorts_append (first rest : List PinWrite) :
    InPorts (first ++ rest) ↔ InPorts first ∧ InPorts rest := List.forall_mem_append

theorem inPorts_optional (c : Bool) {writes : List PinWrite} (inPorts : InPorts writes) :
    InPorts (if c then writes else []) := by
  cases c with
  | false => exact fun _ => nofun
  | true => exact inPorts

theorem inPorts_repeat {round : List PinWrite} (inPorts : InPorts round) (n : Nat) :
    InPorts (List.replicate n round).flatten := by
  intro w member
  obtain ⟨_, copy, inside⟩ := List.mem_flatten.mp member
  rw [List.eq_of_mem_replicate copy] at inside
  exact inPorts w inside

@[simp] theorem write_modes (ports : Ports) (writes : List PinWrite) (pin : GpioPin) :
    gpioPinModeGet pin (ports.write writes) = gpioPinModeGet pin ports := by
  unfold Ports.write
  induction writes generalizing ports with
  | nil => rfl
  | cons w rest ih => rw [List.foldl_cons, ih, gpioPinModeGet_write]

/-- The data out registers hold the levels that the writes drive. -/
theorem write_drives (ports : Ports) {writes : List PinWrite} (inPorts : InPorts writes) (pin : GpioPin) :
    gpioPinOutGet pin (ports.write writes) = drive (fun pin => gpioPinOutGet pin ports) writes pin := by
  unfold Ports.write
  induction writes generalizing ports with
  | nil => rfl
  | cons w rest ih =>
    obtain ⟨fits, later⟩ := List.forall_mem_cons.mp inPorts
    have step : (fun pin => gpioPinOutGet pin (gpioPinOutWrite w.1 w.2 ports)) =
        Function.update (fun pin => gpioPinOutGet pin ports) w.1 w.2 := by
      funext other
      rw [gpioPinOutGet_write _ _ (Nat.lt_trans fits (by decide)), Function.update_apply]
    rw [List.foldl_cons, ih _ later, step, drive_cons]

end BleRemote.Device
