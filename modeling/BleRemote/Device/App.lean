import BleRemote.Device.Ble
import BleRemote.Device.Scheduler
import BleRemote.Reactive.Machine

/-! `sl_bt_on_event` of `app.c`: the handler of the build's role, then its state
machine. One build is one machine over the globals. -/

set_option autoImplicit false
namespace BleRemote.Device

open Reactive Stack

/-- The value of `DEVICE_IS_BLE_SERVER` the build was made with. -/
inductive Role where
  | server | client
  deriving DecidableEq

/-- An event and what its handling finds. -/
structure Input where
  env : Env
  msg : Msg

/-- The effects of `handle_ble_event_*`, then those of the state machine. -/
structure Output where
  handler : List Effect
  stateMachine : List Effect
  deriving DecidableEq

def Output.effects (o : Output) : List Effect := o.handler ++ o.stateMachine

def Output.calls (o : Output) : List (Call × Status) := Device.calls o.effects

def handleBleEvent (db : GattDb) : Role → Msg → Handler Unit
  | .server => handleBleEventServer db
  | .client => handleBleEventClient db

def stateMachine : Role → Msg → Handler Unit
  | .server => keypadServerStateMachine
  | .client => discoveryStateMachine

def slBtOnEvent (db : GattDb) (role : Role) (g : Globals) (i : Input) : Globals × Output :=
  let handled := (handleBleEvent db role i.msg).run i.env g
  let stepped := (stateMachine role i.msg).run i.env handled.state
  (stepped.state, ⟨handled.effects, stepped.effects⟩)

def firmware (db : GattDb) (role : Role) : Machine Globals Input Output :=
  ⟨.reset, slBtOnEvent db role⟩

abbrev Handled := Moment Globals Input Output

def Handled.msg (t : Handled) : Msg := t.input.msg

def run (db : GattDb) (role : Role) (inputs : List Input) : List Handled :=
  (firmware db role).history .reset inputs

def globals (db : GattDb) (role : Role) (inputs : List Input) : Globals :=
  (firmware db role).after .reset inputs

end BleRemote.Device
