import BleRemote.Client.Attempts
import BleRemote.Device.Link
import BleRemote.Server.Cases
import Mathlib.Logic.Function.Basic

/-! Whether a device without a connection can get one: what its radio has been told,
against the failures of the commands that tell it. -/

set_option autoImplicit false
namespace BleRemote.System

open Reactive Stack Device

/-! ## The radio -/

structure Radio where
  /-- The advertising sets that have been started. -/
  advertising : UInt8 → Bool
  scanning : Bool
  /-- A connection attempt has been accepted and has neither succeeded nor ended. -/
  attempt : Bool

/-- The commands that are assumed to succeed. -/
def isSwitch : Call → Bool
  | .scannerStop | .scannerStart .. | .advertiserStart .. | .advertiserStop _ => true
  | _ => false

def isRadio (c : Call) : Bool := isSwitch c || Client.opensConnection c

namespace Radio

/-- What a command does to the radio. -/
def switch (radio : Radio) : Call → Radio
  | .scannerStop => { radio with scanning := false }
  | .advertiserStart handle _ _ =>
    { radio with advertising := Function.update radio.advertising handle true }
  | .advertiserStop handle =>
    { radio with advertising := Function.update radio.advertising handle false }
  | .scannerStart .. => { radio with scanning := true }
  | .connectionOpen .. => { radio with attempt := true }
  | _ => radio

/-- A command takes effect if it succeeds. -/
def obey (radio : Radio) (command : Call × Status) : Radio :=
  if command.2 = statusOk then radio.switch command.1 else radio

def deliver (radio : Radio) : Msg → Radio
  | .connectionOpened _ | .connectionClosed _ => { radio with attempt := false }
  | _ => radio

end Radio

def radioCalls (t : Handled) : List (Call × Status) := t.output.calls.filter fun c => isRadio c.1

def radioObserver : Observer Handled Radio where
  start := ⟨fun _ => false, false, false⟩
  observe radio t := (radioCalls t).foldl Radio.obey (radio.deliver t.msg)

def radio (h : List Handled) : Radio := radioObserver.seen h

@[simp] theorem radio_concat (h : List Handled) (t : Handled) :
    radio (h ++ [t]) = (radioCalls t).foldl Radio.obey ((radio h).deliver t.msg) :=
  radioObserver.seen_concat h t

/-! ## Reachable -/

def Reachable (role : Role) (radio : Radio) (ble : BleData) : Prop :=
  match role with
  | .server => radio.advertising ble.advertisingSetHandle = true
  | .client => radio.scanning = true ∨ radio.attempt = true

instance (role : Role) (radio : Radio) (ble : BleData) : Decidable (Reachable role radio ble) :=
  match role with
  | .server => inferInstanceAs (Decidable (_ = true))
  | .client => inferInstanceAs (Decidable (_ ∨ _))

/-- After an event that leaves no connection open the device is reachable. -/
def StaysReachable (role : Role) (past : List Handled) (t : Handled) : Prop :=
  openConnection (past ++ [t]) = none → Reachable role (radio (past ++ [t])) t.after.bleData

def SwitchesSucceed (t : Handled) : Prop :=
  ∀ c, isSwitch c = true → t.input.env.status c = statusOk

/-- A run that begins with the boot event, and in which starting and stopping succeeds. -/
def Switchable (past : List Handled) (t : Handled) : Prop := BootsFirst past t ∧ SwitchesSucceed t

/-- A report that makes the client connect, with no connection open and no attempt
pending, has its connection request accepted. -/
def OpensAccepted (role : Role) (past : List Handled) (t : Handled) : Prop :=
  role = .client → openConnection past = none → (radio past).attempt = false →
    match t.msg with
    | .scannerScanReport address =>
      addressCheckLoop address t.before.addressCheck = 6 →
        t.input.env.status (.connectionOpen address gapPublicAddress gapPhy1m) = statusOk
    | _ => True

/-! ## One step -/

variable (db : GattDb) (g : Globals) (i : Input)

theorem server_radioCalls : radioCalls (handled db .server g i) = i.env.issued
    (match i.msg with
      | .systemBoot => [.advertiserStart i.env.advertisingSet advertiserGeneralDiscoverable
          advertiserConnectableScannable]
      | .connectionOpened _ => [.advertiserStop g.bleData.advertisingSetHandle]
      | .connectionClosed _ => [.advertiserStart g.bleData.advertisingSetHandle
          advertiserGeneralDiscoverable advertiserConnectableScannable]
      | _ => []) := by
  unfold radioCalls
  rw [handled_output, Server.step_calls]
  rcases i with ⟨env, msg⟩
  cases msg
  case systemExternalSignal extsignals =>
    simp only [handleBleEventServer, Server.serverSystemExternalSignal_calls,
      Server.buttonStateToGatt_calls]
    split_ifs <;> rfl
  all_goals simp [handleBleEventServer, isRadio, isSwitch, Client.opensConnection]

theorem client_radioCalls : radioCalls (handled db .client g i) = i.env.issued
    (match i.msg with
      | .systemBoot | .connectionClosed _ => [.scannerStart gapPhy1m scannerDiscoverGeneric]
      | .scannerScanReport address =>
        if addressCheckLoop address g.addressCheck = 6 then
          [.scannerStop, .connectionOpen address gapPublicAddress gapPhy1m]
        else []
      | _ => []) := by
  unfold radioCalls
  rw [handled_output, Client.step_calls_filter db g i
    (fun c radio => by cases c <;> first | rfl | cases radio) fun _ => rfl]
  rcases i with ⟨env, msg⟩
  cases msg <;> simp only [Client.controlCalls] <;> first | rfl | (split_ifs <;> rfl)

/-- The part of the steps that leave radio and connection as they are. -/
theorem reachable_of_quiet {role : Role} {past : List Handled}
    (known : past ≠ [] → openConnection past = none → Reachable role (radio past) g.bleData)
    (switchable : Switchable past (handled db role g i)) (notBoot : i.msg ≠ .systemBoot)
    (closed : openConnection past = none) : Reachable role (radio past) g.bleData := by
  apply known _ closed
  intro first
  exact notBoot (switchable.1 first)

theorem server_reachable {past : List Handled}
    (known : past ≠ [] → openConnection past = none → Reachable .server (radio past) g.bleData)
    (switchable : Switchable past (handled db .server g i)) :
    StaysReachable .server past (handled db .server g i) := by
  rcases i with ⟨env, msg⟩
  have quiet := reachable_of_quiet db g ⟨env, msg⟩ known switchable
  have started (handle discover connect : UInt8) :
      env.status (.advertiserStart handle discover connect) = statusOk := switchable.2 _ rfl
  unfold StaysReachable Reachable at *
  rw [openConnection_concat, radio_concat, server_radioCalls, handled_after,
    Server.step_advertisingSetHandle]
  cases msg
  case systemBoot =>
    intro _
    simp [Radio.obey, Radio.switch, started]
  case connectionOpened =>
    intro closed
    cases closed
  case connectionClosed =>
    intro _
    simp [Radio.obey, Radio.switch, started]
  all_goals exact quiet Msg.noConfusion

theorem client_reachable_iff {past : List Handled}
    (known : past ≠ [] → openConnection past = none → Reachable .client (radio past) g.bleData)
    (switchable : Switchable past (handled db .client g i)) :
    StaysReachable .client past (handled db .client g i) ↔
      OpensAccepted .client past (handled db .client g i) := by
  rcases i with ⟨env, msg⟩
  have quiet := reachable_of_quiet db g ⟨env, msg⟩ known switchable
  have started (phy mode : UInt8) : env.status (.scannerStart phy mode) = statusOk :=
    switchable.2 _ rfl
  have stopped : env.status .scannerStop = statusOk := switchable.2 _ rfl
  unfold StaysReachable OpensAccepted Reachable at *
  rw [openConnection_concat, radio_concat, client_radioCalls, forall_prop_of_true rfl]
  cases msg
  case systemBoot =>
    apply iff_of_true _ fun _ _ => trivial
    simp [Radio.obey, Radio.switch, started]
  case connectionOpened =>
    apply iff_of_true _ fun _ _ => trivial
    intro closed
    cases closed
  case connectionClosed =>
    apply iff_of_true _ fun _ _ => trivial
    simp [Radio.obey, Radio.switch, started]
  case scannerScanReport address =>
    have here := quiet Msg.noConfusion
    by_cases full : addressCheckLoop address g.addressCheck = 6
    · -- the scanner is off, so there must be an attempt
      by_cases accepted : env.status (.connectionOpen address gapPublicAddress gapPhy1m) = statusOk <;>
        cases pending : (radio past).attempt <;>
        simp [full, Radio.obey, Radio.switch, Radio.deliver, stopped, linkAfter, pending, accepted]
    · simpa [full, Radio.deliver, linkAfter] using here
  all_goals exact iff_of_true (quiet Msg.noConfusion) fun _ _ => trivial

/-! ## Whole runs -/

/-- The server stays reachable in every run; the client exactly when no connection request
fails that the scanner has been stopped for. -/
theorem stays_reachable_iff (role : Role) (inputs : List Input)
    (switchable : Always Switchable (run db role inputs)) :
    Always (StaysReachable role) (run db role inputs) ↔
      Always (OpensAccepted role) (run db role inputs) := by
  refine run_always_iff_under (R := fun past g =>
    past ≠ [] → openConnection past = none → Reachable role (radio past) g.bleData)
    (absurd rfl) ?_ inputs switchable
  intro past g i known fits
  suffices agree : StaysReachable role past (handled db role g i) ↔
      OpensAccepted role past (handled db role g i) from
    ⟨agree, fun accepted _ => agree.mpr accepted⟩
  cases role with
  | server => exact iff_of_true (server_reachable db g i known fits) Role.noConfusion
  | client => exact client_reachable_iff db g i known fits

theorem switchable_of_boot {role : Role} {rest : List Input}
    (succeeds : ∀ i ∈ rest, ∀ c, isSwitch c = true → i.env.status c = statusOk) :
    Always Switchable (run exampleDb role (⟨obliging fun _ => true, .systemBoot⟩ :: rest)) := by
  intro past t later same
  obtain ⟨first, i, after, split, rfl, rfl⟩ := run_split same
  cases first with
  | nil =>
    obtain ⟨rfl, -⟩ := List.cons.inj split
    exact ⟨fun _ => rfl, fun _ _ => rfl⟩
  | cons boot first =>
    obtain ⟨-, rfl⟩ := List.cons.inj split
    exact ⟨fun empty => (List.cons_ne_nil _ _ empty).elim, succeeds i (by simp)⟩

def reconnecting : List Input :=
  obligingInputs [.scannerScanReport serverBtAddress, .connectionOpened 1, .connectionClosed 1]

theorem reconnecting_reachable : Always (StaysReachable .client)
    (run exampleDb .client (⟨obliging fun _ => true, .systemBoot⟩ :: reconnecting)) := by
  have accepted {i : Input} (member : i ∈ reconnecting) (c : Call) : i.env.status c = statusOk :=
    obligingInputs_accepted member c
  apply (stays_reachable_iff exampleDb .client _
    (switchable_of_boot fun i member c _ => accepted member c)).mpr
  intro past t later same
  obtain ⟨first, i, after, split, rfl, rfl⟩ := run_split same
  have member : i ∈ ⟨obliging fun _ => true, .systemBoot⟩ :: reconnecting := by rw [split]; simp
  intro _ _ _
  rcases List.mem_cons.mp member with rfl | later
  · trivial
  · rcases i with ⟨env, msg⟩
    cases msg
    case scannerScanReport => exact fun _ => accepted later _
    all_goals trivial

-- The server is found, and the request to connect to it is refused.
def refusedConnection : List Input :=
  [⟨obliging fun _ => true, .systemBoot⟩,
    ⟨{ obliging fun _ => true with
        status := fun c => if Client.opensConnection c then 0x0004 else statusOk },
      .scannerScanReport serverBtAddress⟩]

theorem refused_connection_silent : ∃ past t,
    run exampleDb .client refusedConnection = past ++ [t] ∧ Always Switchable (past ++ [t]) ∧
      openConnection (past ++ [t]) = none ∧ (radio (past ++ [t])).scanning = false ∧
      (radio (past ++ [t])).attempt = false ∧ ¬ StaysReachable .client past t := by
  refine ⟨_, _, run_concat _ (refusedConnection.take 1), ?_, by decide +kernel, by decide +kernel,
    by decide +kernel, fun reachable => ?_⟩
  · rw [← run_concat]
    apply switchable_of_boot
    intro i member c switch
    rw [List.mem_singleton.mp member]
    cases c <;> first | rfl | cases switch
  · exact absurd (reachable (by decide +kernel)) (by decide +kernel)

end BleRemote.System
