import BleRemote.Reactive.Body
import BleRemote.Stack.Api

/-! The globals of the firmware, what a handler body reads and what it does.

Both builds compile the same sources, so the globals of both are one record: the
`ble_data` of `ble.c`, its `address_check`, the function statics of
`scheduler.c` and the toggle kept by `lcd.c`. All start zeroed.
-/

set_option autoImplicit false
namespace BleRemote.Device

open Reactive Stack

/-! ## Constants of the headers -/

def keypadServiceUuid : List UInt8 := [0x09, 0x18]

def keypadCharacUuid : List UInt8 := [0x1c, 0x2a]

def ledServiceUuid : List UInt8 :=
  [0x89, 0x62, 0x13, 0x2d, 0x2a, 0x65, 0xec, 0x87, 0x3e, 0x43, 0xc8, 0x38, 0x01, 0x00, 0x00, 0x00]

def ledCharacUuid : List UInt8 :=
  [0x89, 0x62, 0x13, 0x2d, 0x2a, 0x65, 0xec, 0x87, 0x3e, 0x43, 0xc8, 0x38, 0x02, 0x00, 0x00, 0x00]

def serverBtAddress : BdAddr := ⟨#v[0x2c, 0x03, 0x92, 0x27, 0xfd, 0x84]⟩

-- `myEvent` of `scheduler.h`: the bits of the external signal.
def evtButtonEvenPressed : UInt32 := 1
def evtButtonOddPressed : UInt32 := 2
def evtPb0Pressed : UInt32 := 4

/-- The handles of `gatt_db.h`, which the build generates from the GATT
configuration: each attribute gets a handle of its own. -/
structure GattDb where
  buttonInput : UInt16
  ledOutput : UInt16
  distinct : buttonInput ≠ ledOutput

/-! ## Pins -/

inductive GpioPort where
  | a | b | c | d | f
  deriving DecidableEq

structure GpioPin where
  port : GpioPort
  pin : Nat
  deriving DecidableEq

def led0Pin : GpioPin := ⟨.f, 4⟩

def extcominPin : GpioPin := ⟨.d, 13⟩

-- `TEMP_SENSOR_PIN`, PD15: it also enables the display.
def tempSensorPin : GpioPin := ⟨.d, 15⟩

-- `KEYPAD_GPIO_PIN3`, PD11, the odd key.
def keypadGpioPin3 : GpioPin := ⟨.d, 11⟩

-- `KEYPAD_GPIO_PIN4`, PD12, the even key.
def keypadGpioPin4 : GpioPin := ⟨.d, 12⟩

def pb0ButtonPin : GpioPin := ⟨.f, 6⟩

/-! ## Globals -/

structure BleData where
  myAddress : BdAddr
  myAddressType : UInt8
  advertisingSetHandle : UInt8
  connectionOpen : Bool
  okToSendHtmNotif : Bool
  notifInFlight : Bool
  buttonNotificationFlag : Bool
  handleForClient : UInt16
  connectionHandle : UInt8
  keypadServiceHandle : UInt32
  keypadCharacteristicsHandle : UInt16
  ledServiceHandle : UInt32
  ledCharacteristicsHandle : UInt16
  bondingFlag : Bool
  passkeyFlag : Bool
  deriving DecidableEq

inductive KeypadState where
  | stateIdle | stateKeypadToGatt
  deriving DecidableEq

inductive ClientState where
  | stateOpen | stateDiscoverKeypadServices | stateDiscoverLedServices
  | stateDiscoverKeypadCharacteristics | stateDiscoverLedCharacteristics
  | stateKeypadNotif | stateWait
  deriving DecidableEq

structure Globals where
  bleData : BleData
  /-- `address_check`, a C `int`; the wrap at its bounds is two's complement. -/
  addressCheck : Int32
  keypadState : KeypadState
  discoveryState : ClientState
  lastExtcominStateHigh : Bool
  deriving DecidableEq

def BleData.zero : BleData :=
  ⟨⟨Vector.replicate 6 0⟩, 0, 0, false, false, false, false, 0, 0, 0, 0, 0, 0, false, false⟩

def Globals.reset : Globals := ⟨.zero, 0, .stateIdle, .stateOpen, false⟩

/-! ## Effects -/

inductive DisplayRow where
  | name | btaddr | btaddr2 | clientaddr | connection | passkey | action | tempvalue
  | row8 | row9 | row10 | row11 | assignment
  deriving DecidableEq

inductive LogLevel where
  | error | warn | info
  deriving DecidableEq

/-- What a body does to the world, in program order. A display text is the
expanded one; a log line keeps its format and its arguments. -/
inductive Effect where
  | call (call : Call) (status : Status)
  | displayInit
  | displayPrintf (row : DisplayRow) (text : String)
  | gpioPinOut (pin : GpioPin) (high : Bool)
  | ledPatternOdd
  | ledPatternEven
  | log (level : LogLevel) (format : String) (args : List UInt32)
  deriving DecidableEq

/-- What one event handling finds: the status each command returns, the values
the stack stores through out parameters, and the pin levels. No handling issues
one command twice, so a status for each command is one for each call. -/
structure Env where
  status : Call → Status
  identityAddress : BdAddr
  identityAddressType : UInt8
  advertisingSet : UInt8
  connection : UInt8
  pinHigh : GpioPin → Bool

def Env.issued (env : Env) (requests : List Call) : List (Call × Status) :=
  requests.map fun c => (c, env.status c)

@[simp] theorem Env.issued_nil (env : Env) : env.issued [] = [] := rfl

@[simp] theorem Env.issued_cons (env : Env) (c : Call) (rest : List Call) :
    env.issued (c :: rest) = (c, env.status c) :: env.issued rest := rfl

@[simp] theorem Env.issued_fst (env : Env) (requests : List Call) :
    (env.issued requests).map Prod.fst = requests := by
  rw [issued, List.map_map]
  exact List.map_id _

theorem Env.issued_append (env : Env) (first rest : List Call) :
    env.issued (first ++ rest) = env.issued first ++ env.issued rest := List.map_append

theorem Env.mem_issued {env : Env} {requests : List Call} {c : Call × Status} :
    c ∈ env.issued requests ↔ c.1 ∈ requests ∧ c.2 = env.status c.1 := by
  obtain ⟨call, status⟩ := c
  simp only [issued, List.mem_map, Prod.mk.injEq]
  constructor
  · rintro ⟨_, member, rfl, rfl⟩
    exact ⟨member, rfl⟩
  · rintro ⟨member, rfl⟩
    exact ⟨call, member, rfl, rfl⟩

theorem Env.issued_filter (env : Env) (kind : Call → Bool) (requests : List Call) :
    (env.issued requests).filter (fun c => kind c.1) = env.issued (requests.filter kind) := by
  rw [issued, List.filter_map]
  rfl

abbrev Handler := Body Env Globals Effect

def calls (effects : List Effect) : List (Call × Status) :=
  effects.filterMap fun
    | .call call status => some (call, status)
    | _ => none

@[simp] theorem calls_nil : calls [] = [] := rfl

@[simp] theorem calls_append (first rest : List Effect) :
    calls (first ++ rest) = calls first ++ calls rest := List.filterMap_append

@[simp] theorem calls_ite (c : Prop) [Decidable c] (x y : List Effect) :
    calls (if c then x else y) = if c then calls x else calls y := by
  split <;> rfl

@[simp] theorem calls_cons_call (call : Call) (status : Status) (rest : List Effect) :
    calls (.call call status :: rest) = (call, status) :: calls rest := rfl

@[simp] theorem calls_cons_display (row : DisplayRow) (text : String) (rest : List Effect) :
    calls (.displayPrintf row text :: rest) = calls rest := rfl

@[simp] theorem calls_cons_displayInit (rest : List Effect) :
    calls (.displayInit :: rest) = calls rest := rfl

@[simp] theorem calls_cons_gpio (pin : GpioPin) (high : Bool) (rest : List Effect) :
    calls (.gpioPinOut pin high :: rest) = calls rest := rfl

@[simp] theorem calls_cons_ledPatternOdd (rest : List Effect) :
    calls (.ledPatternOdd :: rest) = calls rest := rfl

@[simp] theorem calls_cons_ledPatternEven (rest : List Effect) :
    calls (.ledPatternEven :: rest) = calls rest := rfl

@[simp] theorem calls_cons_log (level : LogLevel) (format : String) (args : List UInt32)
    (rest : List Effect) : calls (.log level format args :: rest) = calls rest := rfl

/-! ## Statements of the bodies -/

def hexByte (b : UInt8) : String :=
  String.ofList [Nat.digitChar (b.toNat / 16), Nat.digitChar (b.toNat % 16)]

/-- `%d` applied to an unsigned 32-bit argument. -/
def decimal (n : UInt32) : String := toString n.toInt32.toInt

def modifyBle (f : BleData → BleData) : Handler Unit :=
  Body.modify fun g => { g with bleData := f g.bleData }

def bleData : Handler BleData := do return (← Body.get).bleData

def logInfo (format : String) (args : List UInt32) : Handler Unit :=
  Body.emit [.log .info format args]

def logError (format : String) (args : List UInt32) : Handler Unit :=
  Body.emit [.log .error format args]

def logUnlessOk (command : String) (status : Status) : Handler Unit :=
  Body.emit (if status = statusOk then []
    else [.log .error (command ++ "() returned != 0 status=0x%04x") [status]])

def call (c : Call) : Handler Status := fun env g => ⟨env.status c, g, [.call c (env.status c)]⟩

def gpioPinInGet (pin : GpioPin) : Handler Bool := do return (← Body.environment).pinHigh pin

def gpioPinOut (pin : GpioPin) (high : Bool) : Handler Unit := Body.emit [.gpioPinOut pin high]

section
variable (env : Env) (g : Globals)

@[simp] theorem run_modifyBle (f : BleData → BleData) :
    (modifyBle f).run env g = ⟨(), { g with bleData := f g.bleData }, []⟩ := (rfl)

@[simp] theorem run_bleData : bleData.run env g = ⟨g.bleData, g, []⟩ := (rfl)

@[simp] theorem run_logInfo (format : String) (args : List UInt32) :
    (logInfo format args).run env g = ⟨(), g, [.log .info format args]⟩ := (rfl)

@[simp] theorem run_logError (format : String) (args : List UInt32) :
    (logError format args).run env g = ⟨(), g, [.log .error format args]⟩ := (rfl)

@[simp] theorem run_logUnlessOk_state (command : String) (status : Status) :
    ((logUnlessOk command status).run env g).state = g := (rfl)

@[simp] theorem calls_logUnlessOk (command : String) (status : Status) :
    calls ((logUnlessOk command status).run env g).effects = [] := by
  unfold logUnlessOk
  split <;> rfl

@[simp] theorem run_call (c : Call) :
    (call c).run env g = ⟨env.status c, g, [.call c (env.status c)]⟩ := (rfl)

@[simp] theorem run_gpioPinInGet (pin : GpioPin) :
    (gpioPinInGet pin).run env g = ⟨env.pinHigh pin, g, []⟩ := (rfl)

@[simp] theorem run_gpioPinOut (pin : GpioPin) (high : Bool) :
    (gpioPinOut pin high).run env g = ⟨(), g, [.gpioPinOut pin high]⟩ := (rfl)

end

end BleRemote.Device
