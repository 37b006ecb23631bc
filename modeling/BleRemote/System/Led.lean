import BleRemote.System.Pair

/-! Whether the client's LED state follows the key state the server notifies.

The server sends one byte, the code of the key. The client tests three bytes of the
event, each for being nonzero, and lets each test write its own code.
-/

set_option autoImplicit false
namespace BleRemote.System

open Reactive Stack Device

variable (db : GattDb)

/-! ## What the client writes -/

theorem requests_not_written (env : Env) (g : Globals) (msg : Msg) :
    written db.ledOutput (env.issued (Client.requests g msg)) = [] := by
  cases msg <;> simp only [Client.requests, Env.issued_nil, written_nil]
  case connectionOpened => split_ifs <;> rfl
  case gattProcedureCompleted => cases g.discoveryState <;> rfl

theorem written_issued_leds {env : Env} (ok : ∀ c, env.status c = statusOk) (codes : List UInt8) :
    written db.ledOutput (env.issued (codes.map (Client.writeLed db))) =
      codes.map fun code => [code] := by
  induction codes with
  | nil => rfl
  | cons code codes ih =>
    rw [List.map_cons, Env.issued_cons, Client.writeLed, written_cons_write, ok, ih]
    simp

theorem client_written (g : Globals) (i : Input) (ok : ∀ c, i.env.status c = statusOk) :
    written db.ledOutput (slBtOnEvent db .client g i).2.calls =
      match i.msg with
      | .gattCharacteristicValue event =>
        if Client.KeyValue g.bleData event then
          (Client.ledCodes event.value).map fun code => [code] else []
      | _ => [] := by
  simp only [Output.calls, Output.effects, calls_append, Client.step_handler, Client.step_requests,
    written_append, requests_not_written, List.append_nil]
  rcases i with ⟨env, msg⟩
  have accepted (c : Call) : env.status c = statusOk := ok c
  cases msg
  case gattCharacteristicValue event =>
    simp only [handleBleEventClient, Client.clientGattCharacteristicValue_calls, written_ite,
      written_nil, Env.issued_cons]
    split_ifs
    · exact written_issued_leds db accepted _
    · rfl
  case systemExternalSignal extsignals =>
    simp only [handleBleEventClient, Client.clientSystemExternalSignal_calls, written_append,
      written_ite]
    split_ifs <;> rfl
  case scannerScanReport address =>
    simp only [handleBleEventClient, Client.clientScannerScanReport_calls, written_ite]
    split_ifs <;> rfl
  case gattProcedureCompleted connection result =>
    simp only [handleBleEventClient, Client.clientGattProcedureCompleted_calls, written_ite]
    split_ifs <;> rfl
  all_goals simp [handleBleEventClient, written]

theorem ledCodes_delivery (g : Globals) (connection : UInt8) (offset : UInt16)
    (beyond : Nat → UInt8) (code : UInt8) :
    Client.ledCodes (delivery g connection offset beyond [code]).value =
      (if beyond 1 ≠ 0 then [1] else []) ++ (if beyond 2 ≠ 0 then [2] else []) ++
        (if code ≠ 0 then [0] else []) := rfl

-- The last write of a delivery is right when it is no write at all, the byte is
-- zero and so was the LED.
theorem last_code_iff (earlier : List (List UInt8)) (b1 b2 code : UInt8) :
    (earlier ++ ((if b1 ≠ 0 then [1] else []) ++ (if b2 ≠ 0 then [2] else []) ++
        (if code ≠ 0 then [0] else []) : List UInt8).map fun code => [code]).getLast? =
        some [code] ↔
      code = 0 ∧ b1 = 0 ∧ b2 = 0 ∧ earlier.getLast? = some [0] := by
  -- the test of the code itself comes last and overrides the other two
  by_cases pressed : code = 0
  · subst pressed
    by_cases even : b2 = 0
    · by_cases odd : b1 = 0
      · simp [odd, even]
      · simp [odd, even]
    · simp [even]
  · simp [pressed, eq_comm]

/-! ## One exchange -/

theorem clientCommands_moment (p : Pair) (e : Exchange) :
    clientCommands [(pair db).moment p e] =
      match ((pair db).moment p e).output.client with
      | some t => t.output.calls
      | none => [] := by
  generalize (pair db).moment p e = m
  rcases client : m.output.client with _ | t <;> simp [clientCommands, commands, client]

theorem written_deliver {p : Pair} {env : Env} (ok : ∀ c, env.status c = statusOk)
    (connection : UInt8) (offset : UInt16) (beyond : Nat → UInt8) {payload : List UInt8}
    {rest : List (List UInt8)} (oldest : p.channel = payload :: rest) :
    written db.ledOutput
        (clientCommands [(pair db).moment p (.deliver env connection offset beyond)]) =
      (Client.ledCodes (delivery p.client connection offset beyond payload).value).map
        fun code => [code] := by
  rcases p with ⟨server, client, channel⟩
  obtain rfl : channel = payload :: rest := oldest
  rw [clientCommands_moment]
  exact (client_written db client ⟨env, _⟩ ok).trans (if_pos ⟨rfl, .inl rfl⟩)

theorem quiet_moment (p : Pair) (e : Exchange) (ok : ∀ c, e.env.status c = statusOk)
    (quiet : handlesValue ((pair db).moment p e) = false) :
    written db.ledOutput (clientCommands [(pair db).moment p e]) = [] ∧
      delivered ((pair db).moment p e) = none := by
  cases e with
  | server i => exact ⟨rfl, rfl⟩
  | client i other =>
    refine ⟨?_, rfl⟩
    rw [clientCommands_moment]
    apply (client_written db p.client i ok).trans
    rcases i with ⟨env, msg⟩
    cases msg
    case gattCharacteristicValue => cases quiet
    all_goals rfl
  | deliver env connection offset beyond =>
    rcases p with ⟨server, client, _ | ⟨payload, channel⟩⟩
    · exact ⟨rfl, rfl⟩
    · cases quiet

/-! ## Runs -/

/-- A delivery changes nothing, and what it carries is what the LED shows already. -/
def Harmless (past : List Exchanged) (m : Exchanged) : Prop :=
  ∀ payload beyond, delivered m = some (payload, beyond) →
    payload = [0] ∧ beyond 1 = 0 ∧ beyond 2 = 0 ∧ ledState db past = some [0]

def ShowsDelivered (past : List Exchanged) (m : Exchanged) : Prop :=
  ∀ payload beyond, delivered m = some (payload, beyond) →
    ledState db (past ++ [m]) = some payload

/-- The client has read no value since the last one delivered to it. -/
def OnlyDelivered (h : List Exchanged) : Prop :=
  ∀ m, (h.filter handlesValue).getLast? = some m → (delivered m).isSome

/-- The LED shows what is delivered, and with nothing in flight it is in the state
that the server notified last. -/
def LedFollows (past : List Exchanged) (m : Exchanged) : Prop :=
  ShowsDelivered db past m ∧
    (m.after.channel = [] → OnlyDelivered (past ++ [m]) →
      ledState db (past ++ [m]) = keyState db (past ++ [m]))

theorem showsDelivered_iff (exchanges : List Exchange) (e : Exchange)
    (ok : ∀ c, e.env.status c = statusOk) :
    ShowsDelivered db (pairRun db exchanges) ((pair db).moment (pairAfter db exchanges) e) ↔
      Harmless db (pairRun db exchanges) ((pair db).moment (pairAfter db exchanges) e) := by
  apply forall_congr'
  intro payload
  apply forall_congr'
  intro beyond
  apply imp_congr_right
  intro delivers
  cases e with
  | server | client => cases delivers
  | deliver env connection offset behind =>
    obtain ⟨oldest, head, same⟩ := Option.map_eq_some_iff.mp delivers
    obtain ⟨rfl, rfl⟩ := Prod.mk.inj same
    obtain ⟨rest, channel⟩ := List.head?_eq_some_iff.mp head
    have channel : (pairAfter db exchanges).channel = oldest :: rest := channel
    have ok : ∀ c, env.status c = statusOk := ok
    obtain ⟨code, rfl⟩ := channel_single exchanges (channel ▸ List.mem_cons_self)
    rw [ledState, clientCommands_append, written_append,
      written_deliver db ok connection offset behind channel, ledCodes_delivery, last_code_iff]
    simp [ledState]

theorem ledState_eq (exchanges : List Exchange)
    (ok : ∀ e ∈ exchanges, ∀ c, e.env.status c = statusOk)
    (shown : Always (ShowsDelivered db) (pairRun db exchanges))
    (only : OnlyDelivered (pairRun db exchanges)) :
    ledState db (pairRun db exchanges) =
      (((pairRun db exchanges).filterMap delivered).map Prod.fst).getLast? := by
  induction exchanges using List.reverseRecOn with
  | nil => rfl
  | append_singleton exchanges e ih =>
    rw [pairRun_concat] at shown only ⊢
    obtain ⟨earlier, now⟩ := (always_concat _ _ _).mp shown
    have okNow : ∀ c, e.env.status c = statusOk := ok e (by simp)
    -- only the last value handled matters: a delivery, or none in this step
    rcases carries : delivered ((pair db).moment (pairAfter db exchanges) e) with _ | ⟨payload, beyond⟩
    · have quiet : handlesValue ((pair db).moment (pairAfter db exchanges) e) = false := by
        rw [Bool.eq_false_iff]
        intro handles
        have known := only ((pair db).moment (pairAfter db exchanges) e) (by simp [handles])
        rw [carries] at known
        cases known
      have kept : OnlyDelivered (pairRun db exchanges) := by
        simpa [OnlyDelivered, List.filter_append, quiet] using only
      have unwritten := (quiet_moment db (pairAfter db exchanges) e okNow quiet).1
      rw [ledState, clientCommands_append, written_append, unwritten, List.append_nil,
        List.filterMap_append, List.filterMap_cons, carries, List.filterMap_nil, List.append_nil]
      exact ih (fun d member => ok d (List.mem_append_left _ member)) earlier kept
    · rw [now payload beyond carries]
      simp [carries]

theorem ledFollows_iff (exchanges : List Exchange) (e : Exchange)
    (ok : ∀ d ∈ exchanges ++ [e], ∀ c, d.env.status c = statusOk)
    (follows : Always (LedFollows db) (pairRun db exchanges)) :
    LedFollows db (pairRun db exchanges) ((pair db).moment (pairAfter db exchanges) e) ↔
      Harmless db (pairRun db exchanges) ((pair db).moment (pairAfter db exchanges) e) := by
  rw [← showsDelivered_iff db exchanges e (ok e (by simp))]
  refine ⟨And.left, fun shown => ⟨shown, fun empty only => ?_⟩⟩
  -- with the channel empty, the last value delivered is the last one notified
  have whole : Always (ShowsDelivered db) (pairRun db (exchanges ++ [e])) := by
    rw [pairRun_concat, always_concat]
    exact ⟨follows.mono fun _ _ => And.left, shown⟩
  have empty : (pairAfter db (exchanges ++ [e])).channel = [] := by
    rw [pairAfter_concat]
    exact empty
  rw [← pairRun_concat] at only ⊢
  rw [ledState_eq db _ ok whole only, keyState, notified_eq, empty, List.append_nil]

/-- With every command accepted, the LED follows the keys in a run exactly when each
delivery of the run is harmless. -/
theorem led_follows_iff (exchanges : List Exchange)
    (ok : ∀ e ∈ exchanges, ∀ c, e.env.status c = statusOk) :
    Always (LedFollows db) (pairRun db exchanges) ↔
      Always (Harmless db) (pairRun db exchanges) := by
  induction exchanges using List.reverseRecOn with
  | nil => exact ⟨fun _ => always_nil _, fun _ => always_nil _⟩
  | append_singleton exchanges e ih =>
    rw [pairRun_concat, always_concat, always_concat,
      ← ih fun d member => ok d (List.mem_append_left _ member)]
    exact and_congr_right (ledFollows_iff db exchanges e ok)

def readsValue : Exchange :=
  .client ⟨obliging fun _ => true, .gattCharacteristicValue ⟨1, 0, gattReadResponse, 0, .exactly [1]⟩⟩
    (by rintro _ ⟨⟩; decide)

def keySignal (pinHigh : GpioPin → Bool) : List Exchange :=
  [.server ⟨obliging fun _ => true, .systemBoot⟩,
    .server ⟨obliging fun _ => true, .connectionOpened 1⟩,
    .server ⟨obliging fun _ => true, .gattServerCharacteristicStatus
      ⟨1, 21, gattServerClientConfig, gattNotification.toUInt16⟩⟩,
    .server ⟨obliging pinHigh, .systemExternalSignal evtButtonOddPressed⟩]

def arrival : Exchange := .deliver (obliging fun _ => true) 1 0 fun _ => 0

theorem key_release_shown :
    Always (LedFollows exampleDb)
      (pairRun exampleDb (readsValue :: keySignal (fun _ => true) ++ [arrival])) := by
  refine (led_follows_iff _ _ ?_).mpr ?_
  · simp [readsValue, keySignal, arrival, Exchange.env, obliging]
  · rw [pairRun_concat, always_concat]
    constructor
    · intro past m rest position payload beyond delivers
      have member : (payload, beyond) ∈ (pairRun exampleDb
          (readsValue :: keySignal fun _ => true)).filterMap delivered :=
        List.mem_filterMap.mpr ⟨m, position ▸ List.mem_append_right _ List.mem_cons_self, delivers⟩
      cases member
    · rintro payload beyond ⟨⟩
      exact ⟨rfl, rfl, rfl, by decide +kernel⟩

theorem odd_key_not_shown :
    let exchanges := keySignal (fun pin => pin ≠ keypadGpioPin3) ++ [arrival]
    let h := pairRun exampleDb exchanges
    (∀ e ∈ exchanges, ∀ c, e.env.status c = statusOk) ∧
      (pairAfter exampleDb exchanges).channel = [] ∧
      keyState exampleDb h = some [1] ∧ ledState exampleDb h = some [0] ∧
      ¬ Always (LedFollows exampleDb) h := by
  refine ⟨?_, by decide +kernel, by decide +kernel, by decide +kernel, fun follows => ?_⟩
  · simp [keySignal, arrival, Exchange.env, obliging]
  · have shown := (follows _ _ [] (pairRun_concat _ arrival)).1 [1] (fun _ => 0) rfl
    exact absurd shown (by decide +kernel)

end BleRemote.System
