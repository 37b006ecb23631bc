import BleRemote.System.Texts

/-! The address rows: the server shows its own address, the client the address of the server
it looks for, and the two texts agree just when the addresses do. -/

set_option autoImplicit false
namespace BleRemote.System

open Reactive Stack Device

def ownAddress (env : Env) : String := addressText env.identityAddress.addr.toList

/-- The address that every client looks for. -/
def soughtAddress : String := addressText serverBtAddress.addr.toList

/-- What an event draws on the row of the server's own address. -/
def ownRowWrite (i : Input) : Option String :=
  match i.msg with
  | .systemBoot => some (ownAddress i.env)
  | _ => none

/-- What an event draws on the client's row for the address of the server. -/
def soughtRowWrite (g : Globals) (msg : Msg) : Option String :=
  match msg with
  | .systemBoot | .connectionClosed _ => some " "
  | .scannerScanReport address =>
    if addressCheckLoop address g.addressCheck = 6 then some soughtAddress else none
  | _ => none

theorem drawnText_address (address : BdAddr) :
    drawnText (addressText address.addr.toList) = addressText address.addr.toList := by
  obtain ⟨-, length⟩ := addressText_legible address.addr.toList
  rw [Vector.length_toList] at length
  have nonempty : addressText address.addr.toList ≠ "" := by
    intro empty
    rw [empty] at length
    exact absurd length (by decide)
  rw [drawnText, if_neg nonempty, List.take_of_length_le, String.ofList_toList]
  rw [String.length_toList, length, displayRowLen]
  decide

section
variable (db : GattDb) (shown : String) (g : Globals) (i : Input)

theorem step_ownRow : rowAfter .btaddr shown (slBtOnEvent db .server g i).2.effects =
    (ownRowWrite i).getD shown := by
  rcases i with ⟨env, msg⟩
  have drawn := drawnText_address env.identityAddress
  simp only [slBtOnEvent, Output.effects, rowAfter_append]
  rw [stateMachine, keypadServerStateMachine_rowAfter _ _ _ _ _ (by decide)]
  cases msg <;>
    simp [handleBleEvent, handleBleEventServer, ownRowWrite, ownAddress, serverSystemBoot, displayInit,
      serverConnectionOpened, serverConnectionClosed, serverSystemExternalSignal,
      serverCharacteristicStatus, smConfirmBonding, serverSmBonded, serverSmConfirmPasskey,
      serverSmBondingFailed, drawn]

theorem step_soughtRow : rowAfter .btaddr2 shown (slBtOnEvent db .client g i).2.effects =
    (soughtRowWrite g i.msg).getD shown := by
  rcases i with ⟨env, msg⟩
  have drawn := drawnText_address serverBtAddress
  have blank : drawnText " " = " " := by decide
  simp only [slBtOnEvent, Output.effects, rowAfter_append]
  rw [stateMachine, discoveryStateMachine_rowAfter _ _ _ _ _ (by decide)]
  cases msg <;>
    simp [handleBleEvent, handleBleEventClient, soughtRowWrite, soughtAddress, clientSystemBoot,
      displayInit, clientConnectionOpened, clientConnectionClosed, clientScannerScanReport,
      clientGattProcedureCompleted, clientGattService, clientGattCharacteristic,
      clientGattCharacteristicValue, smConfirmBonding, clientSmConfirmPasskey, clientSmBonded,
      clientSmBondingFailed, clientSystemExternalSignal, drawn, blank]
  split <;> rfl

end

/-- The client's row is blank, or it has the one address. -/
theorem soughtRow_run (db : GattDb) (inputs : List Input) :
    rowShown .btaddr2 (run db .client inputs) ∈ ["", " ", soughtAddress] := by
  refine run_invariant (P := fun past _ => rowShown .btaddr2 past ∈ ["", " ", soughtAddress])
    List.mem_cons_self ?_ inputs
  intro past g i known
  rw [rowShown_concat, handled_output, step_soughtRow]
  cases write : soughtRowWrite g i.msg with
  | none => exact known
  | some text =>
    unfold soughtRowWrite at write
    split at write
    · simp [← Option.some.inj write]
    · simp [← Option.some.inj write]
    · split_ifs at write
      simp [← Option.some.inj write]
    · cases write

/-- After a server has booted and a client has found one, the texts on their rows are the same if
and only if the address of that server is the one that clients look for. -/
theorem addresses_agree (db db' : GattDb) {boot : Input} (boots : boot.msg = .systemBoot)
    {rest : List Input} (once : ∀ j ∈ rest, j.msg ≠ .systemBoot) {inputs : List Input}
    (found : rowShown .btaddr2 (run db' .client inputs) ∉ ["", " "]) :
    rowShown .btaddr2 (run db' .client inputs) = rowShown .btaddr (run db .server (boot :: rest)) ↔
      boot.env.identityAddress = serverBtAddress := by
  have sought : rowShown .btaddr2 (run db' .client inputs) = soughtAddress := by
    simpa [List.mem_cons, not_or.mp (by simpa using found)] using soughtRow_run db' inputs
  have drawn : ownRowWrite boot = some (ownAddress boot.env) := by rw [ownRowWrite, boots]
  have quiet : ∀ g : Globals, ∀ j ∈ rest, ownRowWrite j = none := by
    intro _ j member
    rw [ownRowWrite]
    split
    · next again => exact absurd again (once j member)
    · rfl
  have own := rowShown_kept (step_ownRow db) [] drawn quiet
  rw [List.nil_append] at own
  rw [sought, own]
  constructor
  · intro same
    have bytes := addressText_injective same
    rw [Vector.toList_inj] at bytes
    generalize boot.env.identityAddress = address at bytes
    cases address
    exact congrArg BdAddr.mk bytes.symm
  · intro same
    rw [ownAddress, same]
    rfl

theorem addresses_agree_found :
    rowShown .btaddr2 (run exampleDb .client
        (obligingInputs [.systemBoot, .scannerScanReport serverBtAddress])) =
      rowShown .btaddr (run exampleDb .server (obligingInputs [.systemBoot])) :=
  (addresses_agree exampleDb exampleDb rfl (List.forall_mem_nil _) (by decide)).mpr rfl

end BleRemote.System
