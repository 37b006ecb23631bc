import BleRemote.Client.GattClient
import BleRemote.Device.Link

/-! The client's connection as its stack sees it: the GATT requests it has accepted
and not completed, and what the completed ones have left in force. -/

set_option autoImplicit false
namespace BleRemote.Client

open Reactive Stack Device

def requestConnection : Call → Option UInt8
  | .gattDiscoverPrimaryServicesByUuid connection _
  | .gattDiscoverCharacteristicsByUuid connection _ _
  | .gattSetCharacteristicNotification connection _ _
  | .gattReadCharacteristicValue connection _ => some connection
  | _ => none

def isSubscription : Call → Bool
  | .gattSetCharacteristicNotification .. => true
  | _ => false

structure GattLink where
  /-- The open connection. -/
  connection : Option UInt8
  /-- The accepted requests that have not completed, oldest first. -/
  outstanding : List Call
  /-- The last subscription that completed without an error asked for notifications. -/
  notifying : Bool

namespace GattLink

/-- A completion ends the oldest request outstanding on its connection. -/
def complete (link : GattLink) (connection : UInt8) (result : UInt16) : GattLink :=
  let ended := fun c => requestConnection c == some connection
  { link with
    outstanding := link.outstanding.eraseP ended
    notifying := match link.outstanding.find? ended with
      | some (.gattSetCharacteristicNotification _ _ flags) =>
        if result = 0 ∧ link.connection = some connection then flags == gattNotification
        else link.notifying
      | _ => link.notifying }

def deliver (link : GattLink) : Msg → GattLink
  | .connectionOpened connection => ⟨some connection, [], false⟩
  | .connectionClosed _ => ⟨none, [], false⟩
  | .gattProcedureCompleted connection result => link.complete connection result
  | _ => link

def accept (link : GattLink) (requests : List (Call × Status)) : GattLink :=
  { link with outstanding :=
      link.outstanding ++ (requests.filter fun c => c.2 == statusOk).map Prod.fst }

def Subscribed (link : GattLink) : Prop := link.connection ≠ none ∧ link.notifying = true

/-- No subscription is outstanding. -/
def Quiet (link : GattLink) : Prop := ∀ c ∈ link.outstanding, isSubscription c = false

def Idle (link : GattLink) : Prop := link.connection ≠ none ∧ link.outstanding = []

instance (link : GattLink) : Decidable link.Subscribed := inferInstanceAs (Decidable (_ ∧ _))

instance (link : GattLink) : Decidable link.Quiet :=
  inferInstanceAs (Decidable (∀ c ∈ link.outstanding, _))

instance (link : GattLink) : Decidable link.Idle := inferInstanceAs (Decidable (_ ∧ _))

@[simp] theorem accept_nil (link : GattLink) : link.accept [] = link := by
  rw [accept, List.filter_nil, List.map_nil, List.append_nil]

@[simp] theorem accept_connection (link : GattLink) (requests : List (Call × Status)) :
    (link.accept requests).connection = link.connection := rfl

@[simp] theorem accept_subscribed (link : GattLink) (requests : List (Call × Status)) :
    (link.accept requests).Subscribed ↔ link.Subscribed := Iff.rfl

theorem deliver_connection (link : GattLink) (msg : Msg) :
    (link.deliver msg).connection = linkAfter link.connection msg := by
  cases msg <;> rfl

end GattLink

theorem accept_issued_quiet (link : GattLink) (env : Env) (cs : List Call) :
    (link.accept (env.issued cs)).Quiet ↔
      link.Quiet ∧ ∀ c ∈ cs, isSubscription c = true → env.status c ≠ statusOk := by
  simp only [GattLink.Quiet, GattLink.accept, Env.issued, List.mem_append, List.mem_map,
    List.mem_filter]
  constructor
  · intro quiet
    constructor
    · intro c member
      exact quiet c (.inl member)
    · intro c member subscribes ok
      have silent := quiet c (.inr ⟨(c, env.status c), ⟨⟨c, member, rfl⟩, by simp [ok]⟩, rfl⟩)
      exact Bool.false_ne_true (silent.symm.trans subscribes)
  · rintro ⟨quiet, rejected⟩ c (earlier | ⟨_, ⟨⟨d, member, rfl⟩, ok⟩, rfl⟩)
    · exact quiet c earlier
    · by_contra subscribes
      exact rejected d member (by simpa using subscribes) (by simpa using ok)

def gattLinkObserver : Observer Handled GattLink where
  start := ⟨none, [], false⟩
  observe link t := (link.deliver t.msg).accept (gattRequests t.output)

/-- The connection after a history: what its last event brings takes effect before
the requests of its handling. -/
def gattLink (h : List Handled) : GattLink := gattLinkObserver.seen h

@[simp] theorem gattLink_concat (h : List Handled) (t : Handled) :
    gattLink (h ++ [t]) = ((gattLink h).deliver t.msg).accept (gattRequests t.output) :=
  gattLinkObserver.seen_concat h t

theorem gattLink_connection (h : List Handled) : (gattLink h).connection = openConnection h := by
  induction h using List.reverseRecOn with
  | nil => rfl
  | append_singleton h t ih =>
    rw [gattLink_concat, GattLink.accept_connection, GattLink.deliver_connection, ih,
      openConnection_concat]

end BleRemote.Client
