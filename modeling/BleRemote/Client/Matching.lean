import BleRemote.Client.Bounds

/-! Which received UUIDs the client takes for the keypad and the LED. -/

set_option autoImplicit false
namespace BleRemote.Client

open Reactive Stack Device

/-! ## Exact matches -/

/-- The value goes into a handle exactly when the UUID is the expected one. -/
def stored {A : Type} (uuid : Uint8Array) (expected : List UInt8) (value old : A) : A :=
  if uuid.Holds expected then value else old

/-- `ble_data` after a found service or characteristic: the handle of the UUID that was
received, and nothing else. -/
def identified (ble : BleData) : Msg → BleData
  | .gattService event => { ble with
      keypadServiceHandle := stored event.uuid keypadServiceUuid event.service ble.keypadServiceHandle
      ledServiceHandle := stored event.uuid ledServiceUuid event.service ble.ledServiceHandle }
  | .gattCharacteristic event => { ble with
      keypadCharacteristicsHandle :=
        stored event.uuid keypadCharacUuid event.characteristic ble.keypadCharacteristicsHandle
      ledCharacteristicsHandle :=
        stored event.uuid ledCharacUuid event.characteristic ble.ledCharacteristicsHandle }
  | _ => ble

def isFound : Msg → Bool
  | .gattService _ | .gattCharacteristic _ => true
  | _ => false

def IdentifiesExactly (db : GattDb) (env : Env) (g : Globals) (msg : Msg) : Prop :=
  isFound msg = true → (slBtOnEvent db .client g ⟨env, msg⟩).1.bleData = identified g.bleData msg

/-! ## The condition -/

/-- A UUID that begins with the expected bytes has the expected length, or its handle is
stored already. -/
def LengthFits {A : Type} (uuid : Uint8Array) (expected : List UInt8) (value old : A) : Prop :=
  uuidAgrees uuid expected = true → uuid.len.toNat = expected.length ∨ old = value

def LengthsFit (ble : BleData) : Msg → Prop
  | .gattService event =>
    LengthFits event.uuid keypadServiceUuid event.service ble.keypadServiceHandle ∧
      LengthFits event.uuid ledServiceUuid event.service ble.ledServiceHandle
  | .gattCharacteristic event =>
    LengthFits event.uuid keypadCharacUuid event.characteristic ble.keypadCharacteristicsHandle ∧
      LengthFits event.uuid ledCharacUuid event.characteristic ble.ledCharacteristicsHandle
  | _ => True

/-! ## One comparison -/

theorem holds_iff (uuid : Uint8Array) (expected : List UInt8) :
    uuid.Holds expected ↔ uuid.len.toNat = expected.length ∧ uuidAgrees uuid expected = true := by
  apply and_congr_right
  intro _
  rw [uuidAgrees_iff]
  exact ⟨fun bytes k => bytes k k.isLt, fun agrees i h => agrees ⟨i, h⟩⟩

theorem stored_iff {A : Type} (uuid : Uint8Array) (expected : List UInt8) (value old : A) :
    (if uuidAgrees uuid expected = true then value else old) = stored uuid expected value old ↔
      LengthFits uuid expected value old := by
  simp only [stored, LengthFits, holds_iff]
  by_cases agrees : uuidAgrees uuid expected = true
  · by_cases fits : uuid.len.toNat = expected.length
    · simp [agrees, fits]
    · simp [agrees, fits, eq_comm]
  · simp [agrees]

/-! ## The two events -/

section
variable (db : GattDb) (env : Env) (g : Globals)

theorem service_bleData (event : GattService) :
    (slBtOnEvent db .client g ⟨env, .gattService event⟩).1.bleData = { g.bleData with
      keypadServiceHandle := if uuidAgrees event.uuid keypadServiceUuid = true then
        event.service else g.bleData.keypadServiceHandle
      ledServiceHandle := if uuidAgrees event.uuid ledServiceUuid = true then
        event.service else g.bleData.ledServiceHandle } := by
  rw [step_bleData]
  simp [handledState, handleBleEventClient, discoveryBleData]

theorem characteristic_bleData (event : GattCharacteristic) :
    (slBtOnEvent db .client g ⟨env, .gattCharacteristic event⟩).1.bleData = { g.bleData with
      keypadCharacteristicsHandle := if uuidAgrees event.uuid keypadCharacUuid = true then
        event.characteristic else g.bleData.keypadCharacteristicsHandle
      ledCharacteristicsHandle := if uuidAgrees event.uuid ledCharacUuid = true then
        event.characteristic else g.bleData.ledCharacteristicsHandle } := by
  rw [step_bleData]
  simp [handledState, handleBleEventClient, discoveryBleData]

/-- The client stores the handles of exactly the UUIDs it looks for when no shorter or longer
UUID agrees with one of them in the bytes that are compared. -/
theorem identifies_exactly_iff (msg : Msg) :
    IdentifiesExactly db env g msg ↔ LengthsFit g.bleData msg := by
  cases msg
  case gattService event =>
    constructor
    · intro identifies
      have same := identifies rfl
      rw [service_bleData] at same
      exact ⟨(stored_iff ..).mp (congrArg BleData.keypadServiceHandle same),
        (stored_iff ..).mp (congrArg BleData.ledServiceHandle same)⟩
    · intro ⟨keypad, led⟩ _
      rw [service_bleData, identified, (stored_iff ..).mpr keypad, (stored_iff ..).mpr led]
  case gattCharacteristic event =>
    constructor
    · intro identifies
      have same := identifies rfl
      rw [characteristic_bleData] at same
      exact ⟨(stored_iff ..).mp (congrArg BleData.keypadCharacteristicsHandle same),
        (stored_iff ..).mp (congrArg BleData.ledCharacteristicsHandle same)⟩
    · intro ⟨keypad, led⟩ _
      rw [characteristic_bleData, identified, (stored_iff ..).mpr keypad, (stored_iff ..).mpr led]
  all_goals exact iff_of_true (fun found => Bool.noConfusion found) trivial

end

-- A service with a 16-byte UUID that begins with the two bytes of the keypad's.
def longerService : GattService :=
  ⟨1, 7, .exactly (keypadServiceUuid ++ List.replicate 14 0)⟩

theorem longer_uuid_stored :
    ¬ longerService.uuid.Holds keypadServiceUuid ∧
      (slBtOnEvent exampleDb .client .reset
        ⟨obliging fun _ => true, .gattService longerService⟩).1.bleData.keypadServiceHandle = 7 ∧
      ¬ IdentifiesExactly exampleDb (obliging fun _ => true) .reset (.gattService longerService) := by
  have taken : (slBtOnEvent exampleDb .client .reset
      ⟨obliging fun _ => true, .gattService longerService⟩).1.bleData.keypadServiceHandle = 7 := by
    decide +kernel
  refine ⟨by decide, taken, fun identifies => ?_⟩
  have same := taken.symm.trans (congrArg BleData.keypadServiceHandle (identifies rfl))
  exact absurd same (by decide +kernel)

end BleRemote.Client
