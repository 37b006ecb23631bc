import BleRemote.Client.Discovery
import BleRemote.Device.Screen
import BleRemote.System.Passkey

/-! The connection row of the display against the link it reports. -/

set_option autoImplicit false
namespace BleRemote.System

open Reactive Stack Device

/-- The connection row of a device that has no connection. -/
def idleText : Role → String
  | .server => "Advertising"
  | .client => "Discovering"

/-- What an event draws on the connection row. -/
def connectionWrite (role : Role) : Msg → Option String
  | .systemBoot | .connectionClosed _ => some (idleText role)
  | .connectionOpened _ => some "Connected"
  | .smBonded _ => some "Bonded"
  | .smBondingFailed _ => some "Failed"
  | _ => none

section
variable (db : GattDb) (env : Env) (g : Globals) (row : DisplayRow) (shown : String) (msg : Msg)

-- The two state machines draw on one row only.
theorem keypadServerStateMachine_rowAfter (other : row ≠ .tempvalue) :
    rowAfter row shown ((keypadServerStateMachine msg).run env g).effects = shown := by
  cases msg <;> cases state : g.keypadState <;> simp [keypadServerStateMachine, state, other.symm]

theorem discoveryStateMachine_rowAfter (other : row ≠ .tempvalue) :
    rowAfter row shown ((discoveryStateMachine msg).run env g).effects = shown := by
  cases state : g.discoveryState <;> cases msg <;>
    simp [discoveryStateMachine, state, discoveryOpen, discoveryDiscoverKeypadServices,
      discoveryDiscoverLedServices, discoveryDiscoverKeypadCharacteristics,
      discoveryDiscoverLedCharacteristics, discoveryKeypadNotif, discoveryAwait, discoveryRequest,
      discoveryWait, other.symm]

@[simp] theorem buttonStateToGatt_rowAfter (button : UInt8) :
    rowAfter row shown ((buttonStateToGatt db button).run env g).effects = shown := by
  simp [buttonStateToGatt]

@[simp] theorem ledStateToGatt_rowAfter (ledState : UInt8) :
    rowAfter row shown ((ledStateToGatt db ledState).run env g).effects = shown := by
  simp [ledStateToGatt]

theorem handleBleEventServer_connectionRow :
    rowAfter .connection shown ((handleBleEventServer db msg).run env g).effects =
      (connectionWrite .server msg).getD shown := by
  have drawn : drawnText "Advertising" = "Advertising" ∧ drawnText "Connected" = "Connected" ∧
      drawnText "Bonded" = "Bonded" ∧ drawnText "Failed" = "Failed" := by decide
  cases msg <;>
    simp [handleBleEventServer, connectionWrite, serverSystemBoot, displayInit, idleText,
      serverConnectionOpened, serverConnectionClosed, serverSystemExternalSignal,
      serverCharacteristicStatus, smConfirmBonding, serverSmBonded, serverSmConfirmPasskey,
      serverSmBondingFailed, drawn]

theorem handleBleEventClient_connectionRow :
    rowAfter .connection shown ((handleBleEventClient db msg).run env g).effects =
      (connectionWrite .client msg).getD shown := by
  have drawn : drawnText "Discovering" = "Discovering" ∧ drawnText "Connected" = "Connected" ∧
      drawnText "Bonded" = "Bonded" ∧ drawnText "Failed" = "Failed" := by decide
  cases msg <;>
    simp [handleBleEventClient, connectionWrite, clientSystemBoot, displayInit, idleText,
      clientConnectionOpened, clientConnectionClosed, clientScannerScanReport,
      clientGattProcedureCompleted, clientGattService, clientGattCharacteristic,
      clientGattCharacteristicValue, smConfirmBonding, clientSmConfirmPasskey, clientSmBonded,
      clientSmBondingFailed, clientSystemExternalSignal, drawn]

end

section
variable (db : GattDb) (role : Role) (shown : String) (g : Globals) (i : Input)

theorem step_connectionRow : rowAfter .connection shown (slBtOnEvent db role g i).2.effects =
    (connectionWrite role i.msg).getD shown := by
  rcases i with ⟨env, msg⟩
  simp only [slBtOnEvent, Output.effects, rowAfter_append]
  cases role with
  | server =>
    rw [handleBleEvent, stateMachine, keypadServerStateMachine_rowAfter _ _ _ _ _ (by decide),
      handleBleEventServer_connectionRow]
  | client =>
    rw [handleBleEvent, stateMachine, discoveryStateMachine_rowAfter _ _ _ _ _ (by decide),
      handleBleEventClient_connectionRow]

theorem step_connectionOpen_follows {past : List Handled}
    (follows : g.bleData.connectionOpen = (openConnection past).isSome) :
    (slBtOnEvent db role g i).1.bleData.connectionOpen =
      (openConnection (past ++ [handled db role g i])).isSome := by
  rw [openConnection_concat, isSome_linkAfter, ← follows]
  cases role with
  | server => exact Server.step_connectionOpen db g i
  | client => exact Client.step_connectionOpen db g i

end

/-! ## The indicator -/

/-- What the flags and the connection row say about the link. -/
structure TruthfulIndicator (role : Role) (row : String) (ble : BleData) : Prop where
  bondedOpen : ble.bondingFlag = true → ble.connectionOpen = true
  passkeyOpen : ble.passkeyFlag = true → ble.connectionOpen = true
  bonded : row = "Bonded" ↔ ble.bondingFlag = true
  idle : row = idleText role ↔ ble.connectionOpen = false

/-- After an event the row and the flags agree. -/
def IndicatesTruly (role : Role) (past : List Handled) (t : Handled) : Prop :=
  TruthfulIndicator role (rowShown .connection (past ++ [t])) t.after.bleData

/-- The run begins with its only boot event, and the events on the link come in order. -/
def BootedInOrder (past : List Handled) (t : Handled) : Prop := BootsOnce past t ∧ LinkOrdered past t

instance (past : List Handled) (t : Handled) : Decidable (BootedInOrder past t) :=
  inferInstanceAs (Decidable (_ ∧ _))

/-- What is known before a step: nothing of the row until something has drawn it. -/
structure IndicatorKept (role : Role) (past : List Handled) (g : Globals) : Prop where
  paired : PairedWhileOpen (openConnection past) g.bleData
  follows : g.bleData.connectionOpen = (openConnection past).isSome
  truthful : past ≠ [] → TruthfulIndicator role (rowShown .connection past) g.bleData

theorem idleText_other (role : Role) :
    idleText role ≠ "Bonded" ∧ "Connected" ≠ idleText role ∧ "Bonded" ≠ idleText role ∧
      "Failed" ≠ idleText role := by
  cases role <;> decide

section
variable {db : GattDb} {role : Role} {past : List Handled} {g : Globals} {i : Input}

theorem IndicatorKept.row (kept : IndicatorKept role past g)
    (ordered : BootedInOrder past (handled db role g i)) :
    let row := rowShown .connection (past ++ [handled db role g i])
    let ble := (slBtOnEvent db role g i).1.bleData
    (row = "Bonded" ↔ ble.bondingFlag = true) ∧
      (row = idleText role ↔ ble.connectionOpen = false) := by
  obtain ⟨idle, connected, bonded, failed⟩ := idleText_other role
  intro row ble
  simp only [row, ble]
  rw [rowShown_concat, handled_output, step_connectionRow, (step_pairingFlags db role g i).2,
    step_connectionOpen_follows db role g i kept.follows, openConnection_concat]
  obtain ⟨boots, alternates, secure⟩ := ordered
  rcases i with ⟨env, msg⟩
  cases msg
  case systemBoot =>
    -- the first event: no connection was opened before
    obtain rfl := boots.mp rfl
    simp [connectionWrite, bondingWrite, linkAfter, idle]
  case connectionOpened connection =>
    have closed : openConnection past = none := alternates
    have unbonded : g.bleData.bondingFlag = false :=
      Bool.eq_false_iff.mpr fun flag => kept.paired.2 flag closed
    simp [connectionWrite, bondingWrite, linkAfter, connected, unbonded]
  case connectionClosed => simp [connectionWrite, bondingWrite, linkAfter, idle]
  case smBonded =>
    have opened : openConnection past ≠ none :=
      secure (Msg.isSecurityManager_of_id 0x030f00a0 rfl (by decide))
    simp [connectionWrite, bondingWrite, linkAfter, bonded, opened]
  case smBondingFailed =>
    have opened : openConnection past ≠ none :=
      secure (Msg.isSecurityManager_of_id 0x040f00a0 rfl (by decide))
    simp [connectionWrite, bondingWrite, linkAfter, failed, opened]
  all_goals
    have before := kept.truthful fun first => Msg.noConfusion (boots.mpr first)
    have idleBefore := before.idle
    rw [kept.follows] at idleBefore
    exact ⟨before.bonded, idleBefore⟩

theorem IndicatorKept.step (kept : IndicatorKept role past g)
    (ordered : BootedInOrder past (handled db role g i)) :
    IndicatorKept role (past ++ [handled db role g i]) (slBtOnEvent db role g i).1 := by
  have paired := step_pairedWhileOpen kept.paired ordered.2.2
  have follows := step_connectionOpen_follows db role g i kept.follows
  have opens (opened : openConnection (past ++ [handled db role g i]) ≠ none) :
      (slBtOnEvent db role g i).1.bleData.connectionOpen = true :=
    follows.trans (Option.isSome_iff_ne_none.mpr opened)
  obtain ⟨bonded, idle⟩ := kept.row ordered
  refine ⟨paired, follows, fun _ => ⟨?_, ?_, bonded, idle⟩⟩
  · exact fun on => opens (paired.2 on)
  · exact fun on => opens (paired.1 on)

end

/-- In a run that boots once, with its connections and pairings in order, the connection
row and the flags tell the state of the link after every event. -/
theorem indicates_truly (db : GattDb) (role : Role) (inputs : List Input)
    (ordered : Always BootedInOrder (run db role inputs)) :
    Always (IndicatesTruly role) (run db role inputs) := by
  refine run_always_under (R := IndicatorKept role) ?_ ?_ inputs ordered
  · exact ⟨⟨Bool.noConfusion, Bool.noConfusion⟩, rfl, absurd rfl⟩
  · intro past g i kept fits
    have after := kept.step fits
    exact ⟨after.truthful (List.append_ne_nil_of_right_ne_nil past (List.cons_ne_nil _ [])), after⟩

-- Paired, failed, paired again and reconnected.
def pairedTwice : List Input :=
  obligingInputs [.systemBoot, .connectionOpened 1, .smConfirmPasskey 1 123456, .smBondingFailed 1,
    .smConfirmPasskey 1 654321, .smBonded 1, .connectionClosed 1, .connectionOpened 2]

theorem paired_twice_indicates : Always (IndicatesTruly .server) (run exampleDb .server pairedTwice) ∧
    Always (IndicatesTruly .client) (run exampleDb .client pairedTwice) := by
  constructor
  · exact indicates_truly exampleDb .server pairedTwice (by decide +kernel)
  · exact indicates_truly exampleDb .client pairedTwice (by decide +kernel)

end BleRemote.System
