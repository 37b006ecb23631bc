import Mathlib.Init

/-! The Bluetooth stack as the application sees it: the data types of
`sl_bgapi.h`, and the events, commands and constants of `sl_bt_api.h` that this
application names. Names drop the `sl_bt_` prefix. -/

set_option autoImplicit false
namespace BleRemote.Stack

abbrev Status := UInt32

def statusOk : Status := 0

/-- `bd_addr`, six bytes in reverse order. -/
structure BdAddr where
  addr : Vector UInt8 6
  deriving DecidableEq

/-- `uint8array`. The event buffer goes on past the bytes counted by `len`, and
the C code can read there: `data` is defined at every offset. -/
structure Uint8Array where
  len : UInt8
  data : Nat → UInt8

/-- The array stores exactly these bytes; what follows them is not constrained. -/
def Uint8Array.Holds (array : Uint8Array) (bytes : List UInt8) : Prop :=
  array.len.toNat = bytes.length ∧ ∀ i (h : i < bytes.length), array.data i = bytes[i]

instance (array : Uint8Array) (bytes : List UInt8) : Decidable (array.Holds bytes) :=
  inferInstanceAs (Decidable (_ ∧ _))

def Uint8Array.exactly (bytes : List UInt8) : Uint8Array where
  len := .ofNat bytes.length
  data i := bytes.getD i 0

theorem Uint8Array.exactly_holds {bytes : List UInt8} (short : bytes.length < 256) :
    (exactly bytes).Holds bytes :=
  ⟨Nat.mod_eq_of_lt short, fun i h => by simp [exactly, h]⟩

def gapPublicAddress : UInt8 := 0x0
def gapPhy1m : UInt8 := 0x1
def advertiserGeneralDiscoverable : UInt8 := 0x2
def advertiserConnectableScannable : UInt8 := 0x2
def scannerDiscoverGeneric : UInt8 := 0x1
def smIoCapabilityDisplayyesno : UInt8 := 0x1
def gattReadResponse : UInt8 := 0xb
def gattHandleValueNotification : UInt8 := 0x1b

def gattDisable : UInt8 := 0x0
def gattNotification : UInt8 := 0x1

def gattServerClientConfig : UInt8 := 0x1
def gattServerConfirmation : UInt8 := 0x2

/-- The commands of the stack, with the arguments the caller passes. A buffer
argument is the list of bytes it points to; out parameters are replies and stand
in the environment. `gattServerSendIndication` is not called by this
application: it is the command whose delivery the peer confirms. -/
inductive Call where
  | systemGetIdentityAddress
  | systemSetSoftTimer (time : UInt32) (handle singleShot : UInt8)
  | advertiserCreateSet
  | advertiserSetTiming (handle : UInt8) (intervalMin intervalMax : UInt32) (duration : UInt16)
      (maxevents : UInt8)
  | advertiserStart (handle discover connect : UInt8)
  | advertiserStop (handle : UInt8)
  | scannerSetMode (phys scanMode : UInt8)
  | scannerSetTiming (phys : UInt8) (scanInterval scanWindow : UInt16)
  | scannerStart (scanningPhy discoverMode : UInt8)
  | scannerStop
  | connectionSetDefaultParameters
      (minInterval maxInterval latency timeout minCeLength maxCeLength : UInt16)
  | connectionSetParameters (connection : UInt8)
      (minInterval maxInterval latency timeout minCeLength maxCeLength : UInt16)
  | connectionOpen (address : BdAddr) (addressType initiatingPhy : UInt8)
  | gattDiscoverPrimaryServicesByUuid (connection : UInt8) (uuid : List UInt8)
  | gattDiscoverCharacteristicsByUuid (connection : UInt8) (service : UInt32) (uuid : List UInt8)
  | gattSetCharacteristicNotification (connection : UInt8) (characteristic : UInt16) (flags : UInt8)
  | gattReadCharacteristicValue (connection : UInt8) (characteristic : UInt16)
  | gattServerWriteAttributeValue (attributeHandle offset : UInt16) (value : List UInt8)
  | gattServerSendNotification (connection : UInt8) (characteristic : UInt16) (value : List UInt8)
  | gattServerSendIndication (connection : UInt8) (characteristic : UInt16) (value : List UInt8)
  | smConfigure (flags ioCapabilities : UInt8)
  | smDeleteBondings
  | smIncreaseSecurity (connection : UInt8)
  | smPasskeyConfirm (connection confirm : UInt8)
  | smBondingConfirm (connection confirm : UInt8)
  deriving DecidableEq

def Call.isGattRequest : Call → Bool
  | .gattDiscoverPrimaryServicesByUuid .. | .gattDiscoverCharacteristicsByUuid ..
  | .gattSetCharacteristicNotification .. | .gattReadCharacteristicValue .. => true
  | _ => false

/-! ## Events -/

structure GattService where
  connection : UInt8
  service : UInt32
  uuid : Uint8Array

structure GattCharacteristic where
  connection : UInt8
  characteristic : UInt16
  properties : UInt8
  uuid : Uint8Array

structure GattCharacteristicValue where
  connection : UInt8
  characteristic : UInt16
  attOpcode : UInt8
  offset : UInt16
  value : Uint8Array

structure CharacteristicStatus where
  connection : UInt8
  characteristic : UInt16
  statusFlags : UInt8
  clientConfigFlags : UInt16

-- The identifiers (`SL_BT_MSG_ID` of the header) that a handler has a case for.
def handledIds : List UInt32 :=
  [0x000100a0, 0x000600a0, 0x010600a0, 0x020600a0, 0x030100a0, 0x070100a0, 0x010500a0,
   0x060900a0, 0x010900a0, 0x020900a0, 0x040900a0, 0x030a00a0, 0x090f00a0, 0x020f00a0,
   0x030f00a0, 0x040f00a0]

/-- `sl_bt_msg_t`, by event. Every other event of the stack is `other`, which no
handler has a case for. -/
inductive Msg where
  | systemBoot
  | connectionOpened (connection : UInt8)
  | connectionClosed (connection : UInt8)
  | connectionParameters (connection : UInt8)
  | systemExternalSignal (extsignals : UInt32)
  | systemSoftTimer (handle : UInt8)
  | scannerScanReport (address : BdAddr)
  | gattProcedureCompleted (connection : UInt8) (result : UInt16)
  | gattService (event : GattService)
  | gattCharacteristic (event : GattCharacteristic)
  | gattCharacteristicValue (event : GattCharacteristicValue)
  | gattServerCharacteristicStatus (event : CharacteristicStatus)
  | smConfirmBonding (connection : UInt8)
  | smConfirmPasskey (connection : UInt8) (passkey : UInt32)
  | smBonded (connection : UInt8)
  | smBondingFailed (connection : UInt8)
  | other (id : UInt32) (unhandled : id ∉ handledIds)

namespace Msg

def id : Msg → UInt32
  | .systemBoot => 0x000100a0
  | .connectionOpened _ => 0x000600a0
  | .connectionClosed _ => 0x010600a0
  | .connectionParameters _ => 0x020600a0
  | .systemExternalSignal _ => 0x030100a0
  | .systemSoftTimer _ => 0x070100a0
  | .scannerScanReport _ => 0x010500a0
  | .gattProcedureCompleted .. => 0x060900a0
  | .gattService _ => 0x010900a0
  | .gattCharacteristic _ => 0x020900a0
  | .gattCharacteristicValue _ => 0x040900a0
  | .gattServerCharacteristicStatus _ => 0x030a00a0
  | .smConfirmBonding _ => 0x090f00a0
  | .smConfirmPasskey .. => 0x020f00a0
  | .smBonded _ => 0x030f00a0
  | .smBondingFailed _ => 0x040f00a0
  | .other id _ => id

theorem id_systemBoot_iff (msg : Msg) : msg.id = 0x000100a0 ↔ msg = .systemBoot := by
  constructor
  · intro same
    cases msg
    case systemBoot => rfl
    case other id unhandled =>
      obtain rfl : id = 0x000100a0 := same
      exact absurd (by decide) unhandled
    all_goals exact absurd same (by simp [id])
  · rintro rfl
    rfl

/-- The events of the security manager, class `0x0f` of the interface. -/
def isSecurityManager (msg : Msg) : Bool := msg.id &&& 0x00ff0000 == 0x000f0000

theorem isSecurityManager_of_id {msg : Msg} (id : UInt32) (same : msg.id = id)
    (pairing : (id &&& 0x00ff0000 == 0x000f0000) = true) : msg.isSecurityManager = true := by
  rw [isSecurityManager, same]
  exact pairing

end Msg
end BleRemote.Stack
