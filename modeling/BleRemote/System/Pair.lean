import BleRemote.Client.Cases
import BleRemote.Server.Cases

/-! A server and a client, and the notifications in flight between them.

The radio delivers the notified values in order. A value arrives in an event buffer
that goes on past it with arbitrary bytes.
-/

set_option autoImplicit false
namespace BleRemote.System

open Reactive Stack Device

structure Pair where
  server : Globals
  client : Globals
  /-- The values notified and not yet delivered, oldest first. -/
  channel : List (List UInt8)

/-- What can happen next: an event of the server, an event of the client other than
a notification, or the delivery of the oldest value in flight. -/
inductive Exchange where
  | server (i : Input)
  | client (i : Input) (other : ∀ event, i.msg = .gattCharacteristicValue event →
      event.attOpcode ≠ gattHandleValueNotification)
  | deliver (env : Env) (connection : UInt8) (offset : UInt16) (beyond : Nat → UInt8)

/-- A notified value as the client's event, for the characteristic it knows as the keypad. -/
def delivery (g : Globals) (connection : UInt8) (offset : UInt16) (beyond : Nat → UInt8)
    (payload : List UInt8) : GattCharacteristicValue where
  connection := connection
  characteristic := g.bleData.keypadCharacteristicsHandle
  attOpcode := gattHandleValueNotification
  offset := offset
  value := ⟨.ofNat payload.length, fun i => payload.getD i (beyond i)⟩

structure Traffic where
  server : Option Handled
  client : Option Handled

namespace Pair

def step (db : GattDb) (p : Pair) : Exchange → Pair × Traffic
  | .server i =>
    let t := handled db .server p.server i
    (⟨t.after, p.client, p.channel ++ notified db.buttonInput t.output.calls⟩, ⟨some t, none⟩)
  | .client i _ =>
    let t := handled db .client p.client i
    (⟨p.server, t.after, p.channel⟩, ⟨none, some t⟩)
  | .deliver env connection offset beyond =>
    match p.channel with
    | [] => (p, ⟨none, none⟩)
    | payload :: rest =>
      let event := delivery p.client connection offset beyond payload
      let t := handled db .client p.client ⟨env, .gattCharacteristicValue event⟩
      (⟨p.server, t.after, rest⟩, ⟨none, some t⟩)

end Pair

def pair (db : GattDb) : Machine Pair Exchange Traffic := ⟨⟨.reset, .reset, []⟩, Pair.step db⟩

abbrev Exchanged := Moment Pair Exchange Traffic

def pairRun (db : GattDb) (exchanges : List Exchange) : List Exchanged :=
  (pair db).history (pair db).start exchanges

def pairAfter (db : GattDb) (exchanges : List Exchange) : Pair :=
  (pair db).after (pair db).start exchanges

def serverCommands (h : List Exchanged) : List (Call × Status) :=
  commands (h.filterMap fun m => m.output.server)

def clientCommands (h : List Exchanged) : List (Call × Status) :=
  commands (h.filterMap fun m => m.output.client)

/-- The value a step delivers, and the bytes behind it. -/
def delivered (m : Exchanged) : Option (List UInt8 × (Nat → UInt8)) :=
  match m.input with
  | .deliver _ _ _ beyond => m.before.channel.head?.map fun payload => (payload, beyond)
  | _ => none

def handlesValue (m : Exchanged) : Bool :=
  match m.output.client with
  | some t => match t.msg with
    | .gattCharacteristicValue _ => true
    | _ => false
  | none => false

variable (db : GattDb)

def keyState (h : List Exchanged) : Option (List UInt8) :=
  (notified db.buttonInput (serverCommands h)).getLast?

def ledState (h : List Exchanged) : Option (List UInt8) :=
  (written db.ledOutput (clientCommands h)).getLast?

def Exchange.env : Exchange → Env
  | .server i => i.env
  | .client i _ => i.env
  | .deliver env .. => env

section
variable {db}

theorem pairRun_concat (exchanges : List Exchange) (e : Exchange) :
    pairRun db (exchanges ++ [e]) =
      pairRun db exchanges ++ [(pair db).moment (pairAfter db exchanges) e] :=
  (pair db).history_concat _ _ _

theorem pairAfter_concat (exchanges : List Exchange) (e : Exchange) :
    pairAfter db (exchanges ++ [e]) = ((pairAfter db exchanges).step db e).1 :=
  (pair db).after_concat _ _ _

theorem serverCommands_append (first rest : List Exchanged) :
    serverCommands (first ++ rest) = serverCommands first ++ serverCommands rest := by
  rw [serverCommands, List.filterMap_append, commands_append]
  rfl

theorem clientCommands_append (first rest : List Exchanged) :
    clientCommands (first ++ rest) = clientCommands first ++ clientCommands rest := by
  rw [clientCommands, List.filterMap_append, commands_append]
  rfl

/-! ## The channel -/

theorem moment_server (p : Pair) (i : Input) :
    serverCommands [(pair db).moment p (.server i)] = (slBtOnEvent db .server p.server i).2.calls ∧
      [(pair db).moment p (.server i)].filterMap delivered = [] := by
  refine ⟨?_, rfl⟩
  simp [serverCommands, commands, Machine.moment, pair, Pair.step]

theorem moment_client (p : Pair) (i : Input)
    (other : ∀ event, i.msg = .gattCharacteristicValue event →
      event.attOpcode ≠ gattHandleValueNotification) :
    serverCommands [(pair db).moment p (.client i other)] = [] ∧
      [(pair db).moment p (.client i other)].filterMap delivered = [] :=
  ⟨rfl, rfl⟩

theorem moment_deliver (p : Pair) (env : Env) (connection : UInt8) (offset : UInt16)
    (beyond : Nat → UInt8) :
    serverCommands [(pair db).moment p (.deliver env connection offset beyond)] = [] ∧
      (([(pair db).moment p (.deliver env connection offset beyond)].filterMap delivered).map
        Prod.fst ++ (p.step db (.deliver env connection offset beyond)).1.channel) = p.channel := by
  rcases p with ⟨server, client, _ | ⟨payload, rest⟩⟩ <;> exact ⟨rfl, rfl⟩

theorem notified_eq (exchanges : List Exchange) :
    notified db.buttonInput (serverCommands (pairRun db exchanges)) =
      ((pairRun db exchanges).filterMap delivered).map Prod.fst ++
        (pairAfter db exchanges).channel := by
  induction exchanges using List.reverseRecOn with
  | nil => rfl
  | append_singleton exchanges e ih =>
    rw [pairRun_concat, pairAfter_concat, serverCommands_append, notified_append, ih,
      List.filterMap_append, List.map_append]
    generalize pairAfter db exchanges = p
    -- the server's step appends to both sides, a delivery moves the oldest value over
    cases e with
    | server i =>
      rw [(moment_server p i).1, (moment_server p i).2, List.map_nil, List.append_nil,
        List.append_assoc]
      rfl
    | client i other =>
      rw [(moment_client p i other).1, (moment_client p i other).2, List.map_nil, List.append_nil,
        notified_nil, List.append_nil]
      rfl
    | deliver env connection offset beyond =>
      rw [(moment_deliver p env connection offset beyond).1, notified_nil, List.append_nil,
        List.append_assoc, (moment_deliver p env connection offset beyond).2]

theorem channel_single (exchanges : List Exchange) {payload : List UInt8}
    (member : payload ∈ (pairAfter db exchanges).channel) : ∃ code, payload = [code] := by
  induction exchanges using List.reverseRecOn with
  | nil => cases member
  | append_singleton exchanges e ih =>
    rw [pairAfter_concat] at member
    generalize pairAfter db exchanges = p at *
    cases e with
    | server i =>
      rcases List.mem_append.mp member with earlier | sent
      · exact ih earlier
      · change payload ∈ notified db.buttonInput (slBtOnEvent db .server p.server i).2.calls at sent
        rw [Server.step_notified] at sent
        split_ifs at sent
        · exact ⟨_, List.mem_singleton.mp sent⟩
        · cases sent
    | client i other => exact ih member
    | deliver env connection offset beyond =>
      rcases p with ⟨server, client, _ | ⟨first, rest⟩⟩
      · cases member
      · exact ih (List.mem_cons_of_mem _ member)

end

end BleRemote.System
