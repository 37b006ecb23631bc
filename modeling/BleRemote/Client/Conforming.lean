import BleRemote.Client.GattClient

/-! Discovery against a peer that answers every request, with unrelated events in between. -/

set_option autoImplicit false
namespace BleRemote.Client

open Reactive Stack Device

/-! ## The UUIDs of the answers -/

theorem uuidAgrees_of_holds {uuid : Uint8Array} {bytes : List UInt8} (holds : uuid.Holds bytes) :
    uuidAgrees uuid bytes = true := by
  apply List.all_eq_true.mpr
  intro i _
  simpa using holds.2 i i.isLt

theorem not_uuidAgrees_of_head {uuid : Uint8Array} {b c : UInt8} {bytes rest : List UInt8}
    (holds : uuid.Holds (b :: bytes)) (differ : b ≠ c) : uuidAgrees uuid (c :: rest) = false := by
  have first : uuid.data 0 = b := holds.2 0 (Nat.succ_pos _)
  refine List.all_eq_false.mpr ⟨⟨0, Nat.succ_pos _⟩, List.mem_finRange _, ?_⟩
  simpa [first] using differ

/-! ## Conforming answers -/

def isUnrelated : Msg → Bool
  | .systemSoftTimer _ | .connectionParameters _ => true
  | msg => msg.isSecurityManager

theorem isUnrelated_scan (address : BdAddr) : isUnrelated (.scannerScanReport address) = false := by
  simp only [isUnrelated, Msg.isSecurityManager, Msg.id]
  decide

/-- The events of a discovery in protocol order. -/
def conformingEvents (h : UInt8) (keypadService ledService : GattService)
    (keypadCharac ledCharac : GattCharacteristic) : List Msg :=
  [.connectionOpened h,
    .gattService keypadService, .gattProcedureCompleted h 0,
    .gattService ledService, .gattProcedureCompleted h 0,
    .gattCharacteristic keypadCharac, .gattProcedureCompleted h 0,
    .gattCharacteristic ledCharac, .gattProcedureCompleted h 0,
    .gattProcedureCompleted h 0]

/-- Leaving unrelated events aside, the connection is opened and the peer answers
in protocol order: each search finds one service or characteristic, with exactly
the UUID asked for, and every procedure completes without error. -/
def ConformingAnswers (h : UInt8) (s1 s2 : UInt32) (c1 c2 : UInt16) (msgs : List Msg) : Prop :=
  ∃ (keypadService ledService : GattService) (keypadCharac ledCharac : GattCharacteristic),
    (keypadService.uuid.Holds keypadServiceUuid ∧ keypadService.service = s1) ∧
    (ledService.uuid.Holds ledServiceUuid ∧ ledService.service = s2) ∧
    (keypadCharac.uuid.Holds keypadCharacUuid ∧ keypadCharac.characteristic = c1) ∧
    (ledCharac.uuid.Holds ledCharacUuid ∧ ledCharac.characteristic = c2) ∧
    msgs.filter (fun msg => !isUnrelated msg) =
      conformingEvents h keypadService ledService keypadCharac ledCharac

variable (db : GattDb)

theorem ignores_unrelated : GattClient.machine.Ignores fun i => isUnrelated i.msg := by
  intro v ⟨env, msg⟩ unrelated
  cases msg <;> first
    | rfl
    | simp [isUnrelated, Msg.isSecurityManager, Msg.id] at unrelated
      exact absurd unrelated (by decide)

def accepted (msg : Msg) : Input := ⟨obliging fun _ => true, msg⟩

theorem step_accepted (v : GattClient) (i : Input) (ok : ∀ c, i.env.status c = statusOk)
    (noScan : ∀ address, i.msg ≠ .scannerScanReport address) :
    v.step i = v.step (accepted i.msg) := by
  rcases i with ⟨⟨status, _, _, _, _, _⟩, msg⟩
  obtain rfl : status = fun _ => statusOk := funext ok
  cases msg
  case scannerScanReport address => exact absurd rfl (noScan address)
  all_goals rfl

theorem run_accepted (v : GattClient) (inputs : List Input)
    (ok : ∀ i ∈ inputs, ∀ c, i.env.status c = statusOk)
    (noScan : ∀ i ∈ inputs, ∀ address, i.msg ≠ .scannerScanReport address) :
    GattClient.machine.after v inputs =
        GattClient.machine.after v ((inputs.map Input.msg).map accepted) ∧
      GattClient.machine.trace v inputs =
        GattClient.machine.trace v ((inputs.map Input.msg).map accepted) := by
  induction inputs generalizing v with
  | nil => exact ⟨rfl, rfl⟩
  | cons i rest ih =>
    have later (w : GattClient) := ih w (fun j member => ok j (List.mem_cons_of_mem _ member))
      (fun j member => noScan j (List.mem_cons_of_mem _ member))
    have now : GattClient.machine.step v i = GattClient.machine.step v (accepted i.msg) :=
      step_accepted v i (ok i List.mem_cons_self) (noScan i List.mem_cons_self)
    rw [List.map_cons, List.map_cons, Machine.after, Machine.after, Machine.trace_cons,
      Machine.trace_cons, now, (later _).1, (later _).2]
    exact ⟨rfl, rfl⟩

theorem run_related (v : GattClient) (inputs : List Input)
    (ok : ∀ i ∈ inputs, ∀ c, i.env.status c = statusOk)
    (noScan : ∀ i ∈ inputs, ∀ address, i.msg ≠ .scannerScanReport address) :
    let events := ((inputs.map Input.msg).filter fun msg => !isUnrelated msg).map accepted
    GattClient.machine.after v inputs = GattClient.machine.after v events ∧
      GattClient.machine.trace v inputs = GattClient.machine.trace v events := by
  obtain ⟨sameEnd, sameTrace⟩ := ignores_unrelated.filter v inputs
  rw [← sameEnd, ← sameTrace, List.filter_map]
  exact run_accepted v _ (fun i member => ok i (List.mem_of_mem_filter member))
    (fun i member => noScan i (List.mem_of_mem_filter member))

def expectedRequests (h : UInt8) (s1 s2 : UInt32) (c1 : UInt16) : List Call :=
  [.gattDiscoverPrimaryServicesByUuid h keypadServiceUuid,
    .gattDiscoverPrimaryServicesByUuid h ledServiceUuid,
    .gattDiscoverCharacteristicsByUuid h s1 keypadCharacUuid,
    .gattDiscoverCharacteristicsByUuid h s2 ledCharacUuid,
    .gattSetCharacteristicNotification h c1 gattNotification]

theorem abstract_conforming {v : GattClient} (idle : v.discovery = .stateOpen) (h : UInt8)
    {keypadService ledService : GattService} {keypadCharac : GattCharacteristic}
    {ledCharac : GattCharacteristic}
    (keypadServiceHolds : keypadService.uuid.Holds keypadServiceUuid)
    (ledServiceHolds : ledService.uuid.Holds ledServiceUuid)
    (keypadCharacHolds : keypadCharac.uuid.Holds keypadCharacUuid)
    (ledCharacHolds : ledCharac.uuid.Holds ledCharacUuid) :
    let inputs := (conformingEvents h keypadService ledService keypadCharac ledCharac).map accepted
    (GattClient.machine.trace v inputs).map Prod.fst =
        expectedRequests h keypadService.service ledService.service keypadCharac.characteristic ∧
      (GattClient.machine.after v inputs).discovery = .stateWait ∧
      (GattClient.machine.after v inputs).notifying = true := by
  have finds1 := uuidAgrees_of_holds keypadServiceHolds
  have finds2 := uuidAgrees_of_holds ledServiceHolds
  have finds3 := uuidAgrees_of_holds keypadCharacHolds
  have keeps1 : uuidAgrees keypadService.uuid ledServiceUuid = false :=
    not_uuidAgrees_of_head keypadServiceHolds (by decide)
  have keeps2 : uuidAgrees ledService.uuid keypadServiceUuid = false :=
    not_uuidAgrees_of_head ledServiceHolds (by decide)
  have keeps3 : uuidAgrees ledCharac.uuid keypadCharacUuid = false :=
    not_uuidAgrees_of_head ledCharacHolds (by decide)
  simp [conformingEvents, Machine.trace_cons, Machine.after, GattClient.machine, GattClient.step,
    accepted, idle, finds1, finds2, finds3, keeps1, keeps2, keeps3, advance, GattClient.answer,
    expectedRequests, firstRequest, obliging]

/-- After any history that ends without a connection, opening one to a conforming
peer finishes the discovery: the client sends exactly the five requests, with the
handles of this peer, and ends in `stateWAIT` with notifications on. -/
theorem discovery_conforming (past rest : List Input) (h : UInt8) (s1 s2 : UInt32) (c1 c2 : UInt16)
    (closed : (globals db .client past).bleData.connectionOpen = false)
    (ok : ∀ i ∈ rest, ∀ c, i.env.status c = statusOk)
    (answers : ConformingAnswers h s1 s2 c1 c2 (rest.map Input.msg)) :
    ((firmware db .client).history (globals db .client past) rest).flatMap
        (fun t => (gattRequests t.output).map Prod.fst) = expectedRequests h s1 s2 c1 ∧
      (globals db .client (past ++ rest)).discoveryState = .stateWait ∧
      (globals db .client (past ++ rest)).bleData.buttonNotificationFlag = true := by
  obtain ⟨keypadService, ledService, keypadCharac, ledCharac, ⟨holds1, rfl⟩, ⟨holds2, rfl⟩,
    ⟨holds3, rfl⟩, ⟨holds4, rfl⟩, shape⟩ := answers
  have idle : (GattClient.ofGlobals (globals db .client past)).discovery = .stateOpen := by
    by_contra active
    exact Bool.false_ne_true (closed.symm.trans (connectionOpen_run db past active))
  -- a scan report would neither be unrelated nor part of the discovery
  have noScan : ∀ i ∈ rest, ∀ address, i.msg ≠ .scannerScanReport address := by
    intro i member address scan
    have listed : Msg.scannerScanReport address ∈
        (rest.map Input.msg).filter fun msg => !isUnrelated msg :=
      List.mem_filter.mpr ⟨List.mem_map.mpr ⟨i, member, scan⟩, by simp [isUnrelated_scan]⟩
    rw [shape] at listed
    exact absurd listed (by simp [conformingEvents])
  obtain ⟨sameEnd, sameTrace⟩ := run_related (.ofGlobals (globals db .client past)) rest ok noScan
  rw [shape, ← gattClient_after db] at sameEnd
  rw [shape, ← gattClient_trace db] at sameTrace
  obtain ⟨requested, finished, notifying⟩ := abstract_conforming idle h holds1 holds2 holds3 holds4
  refine ⟨?_, (congrArg GattClient.discovery sameEnd).trans finished,
    (congrArg GattClient.notifying sameEnd).trans notifying⟩
  rw [← requested, ← sameTrace, List.map_flatMap]

def peerAnswers : List Input :=
  (.systemSoftTimer 0 :: conformingEvents 1 ⟨1, 40, .exactly keypadServiceUuid⟩
    ⟨1, 50, .exactly ledServiceUuid⟩ ⟨1, 42, 0, .exactly keypadCharacUuid⟩
    ⟨1, 53, 0, .exactly ledCharacUuid⟩).map accepted

theorem discovery_of_peerAnswers :
    let past := [accepted .systemBoot]
    ((firmware exampleDb .client).history (globals exampleDb .client past) peerAnswers).flatMap
        (fun t => (gattRequests t.output).map Prod.fst) = expectedRequests 1 40 50 42 ∧
      (globals exampleDb .client (past ++ peerAnswers)).discoveryState = .stateWait ∧
      (globals exampleDb .client (past ++ peerAnswers)).bleData.buttonNotificationFlag = true :=
  discovery_conforming _ [accepted .systemBoot] peerAnswers 1 40 50 42 53 rfl
    (by simp [peerAnswers, conformingEvents, accepted, obliging])
    ⟨_, _, _, _, ⟨Uint8Array.exactly_holds (by decide), rfl⟩,
      ⟨Uint8Array.exactly_holds (by decide), rfl⟩, ⟨Uint8Array.exactly_holds (by decide), rfl⟩,
      ⟨Uint8Array.exactly_holds (by decide), rfl⟩, rfl⟩

end BleRemote.Client
