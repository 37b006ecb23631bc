import BleRemote.Device.Trace
import BleRemote.Reactive.Observer

/-! The connection a history leaves open, and what may be assumed of the order in
which the stack reports connections and pairings. -/

set_option autoImplicit false
namespace BleRemote.Device

open Reactive Stack

/-- What an event makes of the open connection. -/
def linkAfter (link : Option UInt8) : Msg → Option UInt8
  | .connectionOpened connection => some connection
  | .connectionClosed _ => none
  | _ => link

def linkObserver : Observer Handled (Option UInt8) where
  start := none
  observe link t := linkAfter link t.msg

/-- The handle of the last connection opened, unless one was closed since. -/
def openConnection (h : List Handled) : Option UInt8 := linkObserver.seen h

@[simp] theorem openConnection_nil : openConnection [] = none := rfl

@[simp] theorem openConnection_concat (h : List Handled) (t : Handled) :
    openConnection (h ++ [t]) = linkAfter (openConnection h) t.msg :=
  linkObserver.seen_concat h t

theorem isSome_linkAfter (link : Option UInt8) (msg : Msg) : (linkAfter link msg).isSome =
    match msg with
    | .connectionOpened _ => true
    | .connectionClosed _ => false
    | _ => link.isSome := by
  cases msg <;> rfl

theorem connectionOpen_follows {db : GattDb} {role : Role}
    (step : ∀ g i, (slBtOnEvent db role g i).1.bleData.connectionOpen =
      match i.msg with
      | .connectionOpened _ => true
      | .connectionClosed _ => false
      | _ => g.bleData.connectionOpen) (inputs : List Input) :
    (globals db role inputs).bleData.connectionOpen =
      (openConnection (run db role inputs)).isSome := by
  refine run_invariant (P := fun past g => g.bleData.connectionOpen = (openConnection past).isSome)
    rfl ?_ inputs
  intro past g i follows
  rw [step, openConnection_concat, isSome_linkAfter, ← follows]
  rfl

/-! ## Assumptions on the events -/

/-- A connection is opened only when none is open, and closed only when one is. -/
def Alternates (past : List Handled) (t : Handled) : Prop :=
  match t.msg with
  | .connectionOpened _ => openConnection past = none
  | .connectionClosed _ => openConnection past ≠ none
  | _ => True

instance (past : List Handled) (t : Handled) : Decidable (Alternates past t) := by
  unfold Alternates
  cases t.msg <;> infer_instance

def SecurityWhileOpen (past : List Handled) (t : Handled) : Prop :=
  t.msg.isSecurityManager = true → openConnection past ≠ none

instance (past : List Handled) (t : Handled) : Decidable (SecurityWhileOpen past t) :=
  inferInstanceAs (Decidable (_ → _))

/-- One connection at a time, and pairing events on an open one only. -/
def LinkOrdered (past : List Handled) (t : Handled) : Prop :=
  Alternates past t ∧ SecurityWhileOpen past t

instance (past : List Handled) (t : Handled) : Decidable (LinkOrdered past t) :=
  inferInstanceAs (Decidable (_ ∧ _))

def BootsFirst (past : List Handled) (t : Handled) : Prop :=
  past = [] → t.msg = .systemBoot

/-- The run begins with the boot event, and it has no other. -/
def BootsOnce (past : List Handled) (t : Handled) : Prop :=
  t.msg = .systemBoot ↔ past = []

instance (past : List Handled) (t : Handled) : Decidable (BootsOnce past t) :=
  decidable_of_iff (t.msg.id = 0x000100a0 ↔ past.isEmpty = true)
    (iff_congr t.msg.id_systemBoot_iff List.isEmpty_iff)

end BleRemote.Device
