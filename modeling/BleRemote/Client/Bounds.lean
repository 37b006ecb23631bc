import BleRemote.Client.Cases

/-! What the client reads of a received UUID or value, against the bytes it received. The
comparisons and the value case use fixed offsets and never look at `len`. -/

set_option autoImplicit false
namespace BleRemote.Client

open Reactive Stack Device

/-! ## Two events with the same received bytes -/

def SameBytes (array other : Uint8Array) : Prop :=
  other.len = array.len ∧ ∀ k < array.len.toNat, other.data k = array.data k

/-- The other event agrees in everything that was received. -/
def SameReceived : Msg → Msg → Prop
  | .gattService event, .gattService other =>
    other.connection = event.connection ∧ other.service = event.service ∧
      SameBytes event.uuid other.uuid
  | .gattCharacteristic event, .gattCharacteristic other =>
    other.connection = event.connection ∧ other.characteristic = event.characteristic ∧
      other.properties = event.properties ∧ SameBytes event.uuid other.uuid
  | .gattCharacteristicValue event, .gattCharacteristicValue other =>
    other.connection = event.connection ∧ other.characteristic = event.characteristic ∧
      other.attOpcode = event.attOpcode ∧ other.offset = event.offset ∧
      SameBytes event.value other.value
  | _, _ => False

def isLog : Effect → Bool
  | .log .. => true
  | _ => false

/-- What the handler makes of `ble_data`, and everything it does but log. -/
def reaction (db : GattDb) (env : Env) (g : Globals) (msg : Msg) : BleData × List Effect :=
  let outcome := (handleBleEventClient db msg).run env g
  (outcome.state.bleData, outcome.effects.filter fun e => !isLog e)

def BoundsRespected (db : GattDb) (env : Env) (g : Globals) (msg : Msg) : Prop :=
  ∀ other, SameReceived msg other → reaction db env g other = reaction db env g msg

/-! ## The condition -/

/-- The comparison with these bytes is decided by the received ones. -/
def ReadsWithin (array : Uint8Array) (expected : List UInt8) : Prop :=
  expected.length ≤ array.len.toNat ∨
    ∃ k : Fin expected.length, k < array.len.toNat ∧ array.data k ≠ expected.get k

/-- The comparison is decided, or its outcome changes nothing. -/
def StoredWithin {A : Type} (array : Uint8Array) (expected : List UInt8) (value stored : A) : Prop :=
  ReadsWithin array expected ∨ stored = value

def WithinBounds (ble : BleData) : Msg → Prop
  | .gattService event =>
    StoredWithin event.uuid keypadServiceUuid event.service ble.keypadServiceHandle ∧
      StoredWithin event.uuid ledServiceUuid event.service ble.ledServiceHandle
  | .gattCharacteristic event =>
    StoredWithin event.uuid keypadCharacUuid event.characteristic
        ble.keypadCharacteristicsHandle ∧
      StoredWithin event.uuid ledCharacUuid event.characteristic ble.ledCharacteristicsHandle
  | .gattCharacteristicValue event => KeyValue ble event → 3 ≤ event.value.len.toNat
  | _ => True

/-! ## One comparison -/

theorem uuidAgrees_iff (uuid : Uint8Array) (expected : List UInt8) :
    uuidAgrees uuid expected = true ↔ ∀ k : Fin expected.length, uuid.data k = expected.get k := by
  simp [uuidAgrees, List.all_eq_true]

theorem uuidAgrees_congr {array other : Uint8Array} {expected : List UInt8}
    (same : SameBytes array other) (within : ReadsWithin array expected) :
    uuidAgrees other expected = uuidAgrees array expected := by
  rw [Bool.eq_iff_iff, uuidAgrees_iff, uuidAgrees_iff]
  rcases within with long | ⟨k, received, differs⟩
  · apply forall_congr'
    intro k
    rw [same.2 k (by omega)]
  · -- both comparisons fail at this byte
    apply iff_of_false
    · intro agrees
      exact differs ((same.2 k received).symm.trans (agrees k))
    · exact fun agrees => differs (agrees k)

/-- The array with other bytes behind the received ones. -/
def behind (array : Uint8Array) (rest : Nat → UInt8) : Uint8Array where
  len := array.len
  data k := if k < array.len.toNat then array.data k else rest k

theorem behind_same (array : Uint8Array) (rest : Nat → UInt8) :
    SameBytes array (behind array rest) :=
  ⟨rfl, fun _ received => if_pos received⟩

theorem undecided {array : Uint8Array} {expected : List UInt8}
    (outside : ¬ ReadsWithin array expected) :
    (∃ other, SameBytes array other ∧ uuidAgrees other expected = true) ∧
      ∃ other, SameBytes array other ∧ uuidAgrees other expected = false := by
  unfold ReadsWithin at outside
  push Not at outside
  obtain ⟨short, received⟩ := outside
  constructor
  · refine ⟨behind array fun k => expected.getD k 0, behind_same _ _, ?_⟩
    rw [uuidAgrees_iff]
    intro k
    by_cases here : (k : Nat) < array.len.toNat
    · simpa [behind, here] using received k here
    · simp [behind, here]
  · refine ⟨behind array fun k => expected.getD k 0 + 1, behind_same _ _, ?_⟩
    rw [← Bool.not_eq_true, uuidAgrees_iff]
    intro agrees
    have first := agrees ⟨array.len.toNat, short⟩
    simp [behind, short] at first

theorem storedWithin_iff {A : Type} (array : Uint8Array) (expected : List UInt8) (value stored : A) :
    (∀ other, SameBytes array other →
      (if uuidAgrees other expected = true then value else stored) =
        if uuidAgrees array expected = true then value else stored) ↔
      StoredWithin array expected value stored := by
  constructor
  · intro respects
    by_cases within : ReadsWithin array expected
    · exact .inl within
    · -- what stands behind decides between the new value and the old one
      obtain ⟨⟨left, same, agrees⟩, right, same', differs⟩ := undecided within
      have first := respects left same
      have second := respects right same'
      rw [if_pos agrees] at first
      rw [differs, if_neg Bool.false_ne_true] at second
      exact .inr (second.trans first.symm)
  · rintro (within | same) other bytes
    · rw [uuidAgrees_congr bytes within]
    · rw [same, ite_self, ite_self]

/-! ## The three events -/

variable (db : GattDb) (env : Env) (g : Globals)

theorem service_reaction (event : GattService) : reaction db env g (.gattService event) =
    ({ g.bleData with
        keypadServiceHandle := if uuidAgrees event.uuid keypadServiceUuid = true then
          event.service else g.bleData.keypadServiceHandle
        ledServiceHandle := if uuidAgrees event.uuid ledServiceUuid = true then
          event.service else g.bleData.ledServiceHandle }, []) := by
  apply Prod.ext
  · simp [reaction, handleBleEventClient]
  · simp [reaction, handleBleEventClient, clientGattService, isLog]
    split_ifs <;> simp

theorem characteristic_reaction (event : GattCharacteristic) :
    reaction db env g (.gattCharacteristic event) =
      ({ g.bleData with
          keypadCharacteristicsHandle := if uuidAgrees event.uuid keypadCharacUuid = true then
            event.characteristic else g.bleData.keypadCharacteristicsHandle
          ledCharacteristicsHandle := if uuidAgrees event.uuid ledCharacUuid = true then
            event.characteristic else g.bleData.ledCharacteristicsHandle }, []) := by
  apply Prod.ext
  · simp [reaction, handleBleEventClient]
  · simp [reaction, handleBleEventClient, clientGattCharacteristic, isLog]
    split_ifs <;> simp

theorem service_respected_iff (event : GattService) :
    BoundsRespected db env g (.gattService event) ↔ WithinBounds g.bleData (.gattService event) := by
  simp only [WithinBounds, ← storedWithin_iff]
  constructor
  · intro respects
    constructor
    · intro uuid bytes
      have same := respects (.gattService { event with uuid := uuid }) ⟨rfl, rfl, bytes⟩
      rw [service_reaction, service_reaction] at same
      exact congrArg (fun r => r.1.keypadServiceHandle) same
    · intro uuid bytes
      have same := respects (.gattService { event with uuid := uuid }) ⟨rfl, rfl, bytes⟩
      rw [service_reaction, service_reaction] at same
      exact congrArg (fun r => r.1.ledServiceHandle) same
  · rintro ⟨keypad, led⟩ other received
    cases other <;> simp only [SameReceived] at received
    obtain ⟨-, service, bytes⟩ := received
    rw [service_reaction, service_reaction, service, keypad _ bytes, led _ bytes]

theorem characteristic_respected_iff (event : GattCharacteristic) :
    BoundsRespected db env g (.gattCharacteristic event) ↔
      WithinBounds g.bleData (.gattCharacteristic event) := by
  simp only [WithinBounds, ← storedWithin_iff]
  constructor
  · intro respects
    constructor
    · intro uuid bytes
      have same := respects (.gattCharacteristic { event with uuid := uuid }) ⟨rfl, rfl, rfl, bytes⟩
      rw [characteristic_reaction, characteristic_reaction] at same
      exact congrArg (fun r => r.1.keypadCharacteristicsHandle) same
    · intro uuid bytes
      have same := respects (.gattCharacteristic { event with uuid := uuid }) ⟨rfl, rfl, rfl, bytes⟩
      rw [characteristic_reaction, characteristic_reaction] at same
      exact congrArg (fun r => r.1.ledCharacteristicsHandle) same
  · rintro ⟨keypad, led⟩ other received
    cases other <;> simp only [SameReceived] at received
    obtain ⟨-, characteristic, -, bytes⟩ := received
    rw [characteristic_reaction, characteristic_reaction, characteristic, keypad _ bytes,
      led _ bytes]

/-- The LED pattern of the even key is shown exactly when the byte at offset 2 is not zero. -/
theorem even_pattern_iff (event : GattCharacteristicValue) (key : KeyValue g.bleData event) :
    .ledPatternEven ∈ (reaction db env g (.gattCharacteristicValue event)).2 ↔
      event.value.data 2 ≠ 0 := by
  have silent (ledState : UInt8) :
      Effect.ledPatternEven ∉ ((ledStateToGatt db ledState).run env g).effects := by
    simp only [ledStateToGatt, Body.run_bind_effects, run_call, logUnlessOk, Body.run_emit]
    split_ifs <;> simp
  unfold KeyValue at key
  by_cases odd : event.value.data 1 = 0 <;> by_cases even : event.value.data 2 = 0 <;>
    by_cases none : event.value.data 0 = 0 <;>
    simp [reaction, handleBleEventClient, clientGattCharacteristicValue, isLog, key, silent, odd,
      even, none]

theorem value_ignored {event : GattCharacteristicValue} (other : ¬ KeyValue g.bleData event) :
    reaction db env g (.gattCharacteristicValue event) = (g.bleData, []) := by
  unfold KeyValue at other
  simp [reaction, handleBleEventClient, clientGattCharacteristicValue, other]

theorem value_respected_iff (event : GattCharacteristicValue) :
    BoundsRespected db env g (.gattCharacteristicValue event) ↔
      WithinBounds g.bleData (.gattCharacteristicValue event) := by
  simp only [WithinBounds]
  constructor
  · intro respects key
    by_contra short
    -- the byte at offset 2 was not received: nothing says whether it is zero
    have shown (rest : UInt8) : .ledPatternEven ∈
        (reaction db env g (.gattCharacteristicValue event)).2 ↔ rest ≠ 0 := by
      have same := respects
        (.gattCharacteristicValue { event with value := behind event.value fun _ => rest })
        ⟨rfl, rfl, rfl, rfl, behind_same _ _⟩
      have outside : ¬ 2 < event.value.len.toNat := by omega
      rw [← same]
      apply (even_pattern_iff db env g _ _).trans
      · simp [behind, outside]
      · exact key
    exact (shown 0).mp ((shown 1).mpr (by decide)) rfl
  · intro long other received
    cases other <;> simp only [SameReceived] at received
    obtain ⟨-, characteristic, opcode, -, bytes⟩ := received
    by_cases key : KeyValue g.bleData event
    · have within := long key
      simp only [reaction, handleBleEventClient, clientGattCharacteristicValue, characteristic,
        opcode, bytes.2 0 (by omega), bytes.2 1 (by omega), bytes.2 2 (by omega)]
    · rw [value_ignored db env g key, value_ignored db env g]
      unfold KeyValue at key ⊢
      rwa [characteristic, opcode]

/-- The client's reaction to an event depends on nothing behind the received bytes exactly
when every comparison it makes is decided by them, or changes nothing, and a key value
brings the three bytes that are read. -/
theorem bounds_respected_iff (msg : Msg) :
    BoundsRespected db env g msg ↔ WithinBounds g.bleData msg := by
  cases msg
  case gattService event => exact service_respected_iff db env g event
  case gattCharacteristic event => exact characteristic_respected_iff db env g event
  case gattCharacteristicValue event => exact value_respected_iff db env g event
  all_goals exact iff_of_true (fun _ received => received.elim) trivial

-- A value of one byte, as the server notifies it, before what the buffer holds next.
def oneByte (next : UInt8) : GattCharacteristicValue :=
  ⟨1, 21, gattHandleValueNotification, 0, ⟨1, fun k => if k = 0 then 1 else next⟩⟩

def keypadFound : Globals :=
  { Globals.reset with
    bleData := { BleData.zero with connectionHandle := 1, keypadCharacteristicsHandle := 21 } }

theorem next_byte_shown :
    SameReceived (.gattCharacteristicValue (oneByte 0)) (.gattCharacteristicValue (oneByte 1)) ∧
      .ledPatternEven ∉ (reaction exampleDb (obliging fun _ => true) keypadFound
        (.gattCharacteristicValue (oneByte 0))).2 ∧
      .ledPatternEven ∈ (reaction exampleDb (obliging fun _ => true) keypadFound
        (.gattCharacteristicValue (oneByte 1))).2 ∧
      ¬ BoundsRespected exampleDb (obliging fun _ => true) keypadFound
        (.gattCharacteristicValue (oneByte 0)) := by
  refine ⟨⟨rfl, rfl, rfl, rfl, rfl, by decide⟩, by decide +kernel, by decide +kernel, ?_⟩
  intro respects
  have same := respects (.gattCharacteristicValue (oneByte 1))
    ⟨rfl, rfl, rfl, rfl, rfl, by decide⟩
  exact absurd (congrArg (fun r => decide (.ledPatternEven ∈ r.2)) same) (by decide +kernel)

end BleRemote.Client
