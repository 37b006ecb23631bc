import BleRemote.Client.Attempts
import BleRemote.System.Passkey

/-! The connection handles that both builds pass to the security manager. -/

set_option autoImplicit false
namespace BleRemote.System

open Reactive Stack Device

def securityConnection : Call → Option UInt8
  | .smBondingConfirm connection _ | .smPasskeyConfirm connection _
  | .smIncreaseSecurity connection => some connection
  | _ => none

/-- The handles an event passed to the three commands of the security manager. -/
def securityHandles (t : Handled) : List UInt8 :=
  t.output.calls.filterMap fun c => securityConnection c.1

def SecurityAddressed (past : List Handled) (t : Handled) : Prop :=
  ∀ connection ∈ securityHandles t, openConnection past = some connection

instance (past : List Handled) (t : Handled) : Decidable (SecurityAddressed past t) :=
  inferInstanceAs (Decidable (∀ connection ∈ securityHandles t, _))

/-! ## What the client relies on -/

/-- The handle that a scan report has had stored since the connection was opened. -/
def redirectObserver : Observer Handled (Option UInt8) where
  start := none
  observe redirect t :=
    match t.msg with
    | .connectionOpened _ => none
    | _ =>
      if (t.output.calls.filter fun c => Client.opensConnection c.1) = [] then redirect
      else some t.input.env.connection

def redirect (h : List Handled) : Option UInt8 := redirectObserver.seen h

@[simp] theorem redirect_concat (h : List Handled) (t : Handled) :
    redirect (h ++ [t]) = redirectObserver.observe (redirect h) t :=
  redirectObserver.seen_concat h t

/-- A connection is open, and no report has had the handle of another one stored. -/
def NotRedirected (past : List Handled) : Prop :=
  openConnection past ≠ none ∧ (redirect past = none ∨ redirect past = openConnection past)

instance (past : List Handled) : Decidable (NotRedirected past) :=
  inferInstanceAs (Decidable (_ ∧ _))

/-- What the client needs for a command of the security manager. Bonding is confirmed with
`handle_for_client`, which this build never writes; the other two pass the handle stored
on opening. -/
def ClientHandleRight (past : List Handled) (env : Env) (ble : BleData) : Msg → Prop
  | .smConfirmBonding _ => openConnection past = some 0
  | .systemExternalSignal extsignals =>
    Client.ConfirmSignal env.pinHigh ble extsignals → NotRedirected past
  | .gattProcedureCompleted _ result => result = 0x110F → NotRedirected past
  | _ => True

instance (past : List Handled) (env : Env) (ble : BleData) (msg : Msg) :
    Decidable (ClientHandleRight past env ble msg) := by
  apply Msg.casesOn (motive := fun msg => Decidable (ClientHandleRight past env ble msg)) msg <;>
    intros <;> unfold ClientHandleRight <;> infer_instance

def HandleRight (role : Role) (past : List Handled) (t : Handled) : Prop :=
  role = .client → ClientHandleRight past t.input.env t.before.bleData t.msg

instance (role : Role) (past : List Handled) (t : Handled) : Decidable (HandleRight role past t) :=
  inferInstanceAs (Decidable (_ → _))

variable (db : GattDb)

/-! ## One step -/

theorem server_securityHandles (g : Globals) (i : Input) :
    securityHandles (handled db .server g i) =
      match i.msg with
      | .smConfirmBonding _ => [g.bleData.handleForClient.toUInt8]
      | .systemExternalSignal extsignals =>
        if Server.ConfirmSignal g.bleData (.systemExternalSignal extsignals) then
          [g.bleData.handleForClient.toUInt8]
        else []
      | _ => [] := by
  unfold securityHandles
  rw [handled_output, Server.step_calls]
  rcases i with ⟨env, msg⟩
  cases msg
  case systemExternalSignal extsignals =>
    have keys (button : UInt8) : (calls ((buttonStateToGatt db button).run env g).effects).filterMap
        (fun c => securityConnection c.1) = [] := by
      rw [Server.buttonStateToGatt_calls]
      split_ifs <;> rfl
    simp only [handleBleEventServer, Server.serverSystemExternalSignal_calls, List.filterMap_append]
    split_ifs <;> first | rfl | (rw [keys]; rfl)
  all_goals simp [handleBleEventServer, securityConnection]

theorem client_securityHandles (g : Globals) (i : Input) :
    securityHandles (handled db .client g i) =
      match i.msg with
      | .smConfirmBonding _ => [g.bleData.handleForClient.toUInt8]
      | .systemExternalSignal extsignals =>
        if Client.ConfirmSignal i.env.pinHigh g.bleData extsignals then
          [g.bleData.connectionHandle]
        else []
      | .gattProcedureCompleted _ result =>
        if result = 0x110F then [g.bleData.connectionHandle] else []
      | _ => [] := by
  have attributes : (i.env.issued (Client.attributeCalls db g i.msg)).filterMap
      (fun c => securityConnection c.1) = [] := by
    apply List.filterMap_eq_nil_iff.mpr
    intro c asked
    rcases Client.attributeCalls_cases db g (Env.mem_issued.mp asked).1 with request | ⟨ledState, led⟩
    · obtain ⟨call, status⟩ := c
      cases call <;> first | rfl | cases request
    · rw [led]
      rfl
  unfold securityHandles
  rw [handled_output, Client.step_calls, Env.issued_append, List.filterMap_append, attributes,
    List.append_nil]
  rcases i with ⟨env, msg⟩
  cases msg <;> simp only [Client.controlCalls] <;> first | rfl | (split_ifs <;> rfl)

theorem client_handleForClient (g : Globals) (i : Input) :
    (slBtOnEvent db .client g i).1.bleData.handleForClient = g.bleData.handleForClient := by
  rw [Client.step_bleData, Client.handledState]
  rcases i with ⟨env, msg⟩
  cases msg <;> simp [handleBleEventClient, Client.discoveryBleData] <;> split <;> rfl

/-! ## Whole runs -/

/-- The server stores every opened handle; the client stores it too, and a report may then
overwrite it. Passkeys and bonds do not outlive their connection. -/
structure HandlesKept (role : Role) (past : List Handled) (g : Globals) : Prop where
  paired : PairedWhileOpen (openConnection past) g.bleData
  server : role = .server → ∀ connection, openConnection past = some connection →
    g.bleData.handleForClient = connection.toUInt16
  unwritten : role = .client → g.bleData.handleForClient = 0
  client : role = .client → ∀ connection, openConnection past = some connection →
    g.bleData.connectionHandle = (redirect past).getD connection
  idle : role = .client → openConnection past = none → g.discoveryState = .stateOpen

theorem server_kept {past : List Handled} {g : Globals} {i : Input}
    (kept : HandlesKept .server past g) (ordered : LinkOrdered past (handled db .server g i)) :
    HandlesKept .server (past ++ [handled db .server g i]) (slBtOnEvent db .server g i).1 := by
  refine ⟨step_pairedWhileOpen kept.paired ordered.2, fun _ connection => ?_, Role.noConfusion,
    Role.noConfusion, Role.noConfusion⟩
  rw [openConnection_concat, Server.step_handleForClient, handled_msg]
  rcases i with ⟨env, msg⟩
  cases msg
  case connectionOpened =>
    intro same
    rw [Option.some.inj same]
  case connectionClosed =>
    intro closed
    cases closed
  all_goals exact kept.server rfl connection

theorem client_kept {past : List Handled} {g : Globals} {i : Input}
    (kept : HandlesKept .client past g) (ordered : LinkOrdered past (handled db .client g i)) :
    HandlesKept .client (past ++ [handled db .client g i]) (slBtOnEvent db .client g i).1 := by
  refine ⟨step_pairedWhileOpen kept.paired ordered.2, Role.noConfusion, fun _ => ?_,
    fun _ connection => ?_, fun _ => ?_⟩
  · rw [client_handleForClient]
    exact kept.unwritten rfl
  · have idle (closed : openConnection past = none) := kept.idle rfl closed
    have stored := kept.client rfl connection
    rw [openConnection_concat, redirect_concat, Client.step_connectionHandle, handled_msg]
    simp only [redirectObserver, handled_output, Client.step_opens, handled_msg, handled_input]
    rcases i with ⟨env, msg⟩
    cases msg
    case connectionOpened opened =>
      intro same
      have free : g.discoveryState = .stateOpen := idle ordered.1
      simpa [free, linkAfter] using same
    case connectionClosed =>
      intro closed
      cases closed
    case scannerScanReport address =>
      by_cases full : addressCheckLoop address g.addressCheck = 6
      · simp [full]
      · simpa [full, linkAfter] using stored
    all_goals exact stored
  · rw [openConnection_concat, Client.step_discoveryState, handled_msg]
    have idle := kept.idle rfl
    rcases i with ⟨env, msg⟩
    cases msg
    case connectionOpened =>
      intro closed
      cases closed
    case connectionClosed => exact fun _ => rfl
    case gattProcedureCompleted =>
      intro closed
      simp [Client.nextState, idle closed, Client.advance]
    all_goals exact idle

theorem HandlesKept.server_handle {past : List Handled} {g : Globals}
    (kept : HandlesKept .server past g) (isOpen : openConnection past ≠ none) :
    openConnection past = some g.bleData.handleForClient.toUInt8 := by
  obtain ⟨connection, same⟩ := Option.ne_none_iff_exists'.mp isOpen
  rw [same, kept.server rfl connection same, UInt8.toUInt8_toUInt16]

theorem HandlesKept.client_handle {past : List Handled} {g : Globals}
    (kept : HandlesKept .client past g) :
    openConnection past = some g.bleData.connectionHandle ↔ NotRedirected past := by
  unfold NotRedirected
  constructor
  · intro same
    refine ⟨by rw [same]; exact Option.some_ne_none _, ?_⟩
    have handle := kept.client rfl _ same
    cases stored : redirect past with
    | none => exact .inl rfl
    | some other =>
      rw [stored, Option.getD_some] at handle
      exact .inr (by rw [same, handle])
  · intro ⟨isOpen, agrees⟩
    obtain ⟨connection, same⟩ := Option.ne_none_iff_exists'.mp isOpen
    rw [kept.client rfl connection same]
    rcases agrees with never | agrees
    · rw [never]
      exact same
    · rw [agrees, same]
      rfl

theorem server_addressed {past : List Handled} {g : Globals} {i : Input}
    (kept : HandlesKept .server past g) (ordered : LinkOrdered past (handled db .server g i)) :
    SecurityAddressed past (handled db .server g i) := by
  intro connection member
  rw [server_securityHandles] at member
  rcases i with ⟨env, msg⟩
  cases msg
  case smConfirmBonding =>
    rw [List.mem_singleton.mp member]
    exact kept.server_handle (ordered.2 (Msg.isSecurityManager_of_id 0x090f00a0 rfl (by decide)))
  case systemExternalSignal extsignals =>
    -- the guard of this build asks for a bond, and so for a connection
    simp only at member
    split_ifs at member with confirm
    · rw [List.mem_singleton.mp member]
      exact kept.server_handle (kept.paired.2 confirm.1)
    · cases member
  all_goals cases member

theorem client_addressed_iff {past : List Handled} {g : Globals} {i : Input}
    (kept : HandlesKept .client past g) :
    SecurityAddressed past (handled db .client g i) ↔
      HandleRight .client past (handled db .client g i) := by
  unfold SecurityAddressed HandleRight
  rw [client_securityHandles, forall_prop_of_true rfl]
  simp only [handled_msg, handled_input, handled_before]
  rcases i with ⟨env, msg⟩
  cases msg
  case smConfirmBonding connection =>
    simp only [kept.unwritten rfl, List.mem_singleton, forall_eq]
    exact Iff.rfl
  case systemExternalSignal extsignals =>
    simp only [ClientHandleRight, ← kept.client_handle]
    split_ifs with confirm <;> simp [confirm]
  case gattProcedureCompleted connection result =>
    simp only [ClientHandleRight, ← kept.client_handle]
    split_ifs with encryption <;> simp [encryption]
  all_goals simp [ClientHandleRight]

/-- Every command of the security manager names the open connection on the server; on the
client exactly when each event that issues one finds the right handle. -/
theorem security_addressed_iff (role : Role) (inputs : List Input)
    (ordered : Always LinkOrdered (run db role inputs)) :
    Always SecurityAddressed (run db role inputs) ↔
      Always (HandleRight role) (run db role inputs) := by
  refine run_always_iff_under (R := HandlesKept role) ?_ ?_ inputs ordered
  · have never (connection : UInt8) : openConnection [] ≠ some connection := by simp
    exact ⟨⟨Bool.noConfusion, Bool.noConfusion⟩, fun _ c same => absurd same (never c), fun _ => rfl,
      fun _ c same => absurd same (never c), fun _ _ => rfl⟩
  intro past g i kept ordered
  cases role with
  | server =>
    exact ⟨iff_of_true (server_addressed db kept ordered) Role.noConfusion,
      fun _ => server_kept db kept ordered⟩
  | client => exact ⟨client_addressed_iff db kept, fun _ => client_kept db kept ordered⟩

-- A connection with this handle is paired, with PB0 held down.
def pairingWith (connection : UInt8) : List Input :=
  ([.systemBoot, .connectionOpened connection, .smConfirmBonding connection,
    .smConfirmPasskey connection 123456, .systemExternalSignal evtPb0Pressed,
    .smBonded connection, .connectionClosed connection] : List Msg).map
      fun msg => ⟨obliging fun pin => pin ≠ pb0ButtonPin, msg⟩

theorem pairing_addressed :
    Always SecurityAddressed (run exampleDb .server (pairingWith 1)) ∧
      Always SecurityAddressed (run exampleDb .client (pairingWith 0)) := by
  constructor
  · exact (security_addressed_iff exampleDb .server (pairingWith 1) (by decide +kernel)).mpr
      (by decide +kernel)
  · exact (security_addressed_iff exampleDb .client (pairingWith 0) (by decide +kernel)).mpr
      (by decide +kernel)

theorem bonding_confirmed_elsewhere : ∃ past t,
    run exampleDb .client ((pairingWith 1).take 3) = past ++ [t] ∧ Always LinkOrdered (past ++ [t]) ∧
      openConnection past = some 1 ∧ t.output.calls = [(.smBondingConfirm 0 1, statusOk)] ∧
      ¬ SecurityAddressed past t := by
  refine ⟨_, _, run_concat _ ((pairingWith 1).take 2), ?_⟩
  decide +kernel

end BleRemote.System
