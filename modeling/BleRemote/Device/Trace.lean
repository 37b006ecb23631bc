import BleRemote.Device.App

/-! What a run has asked of the stack: the commands of its events in order, and
the attribute values and notifications among them. -/

set_option autoImplicit false
namespace BleRemote.Device

open Reactive Stack

/-- The values the stack accepted for an attribute, oldest first. -/
def written (attributeHandle : UInt16) (commands : List (Call × Status)) : List (List UInt8) :=
  commands.filterMap fun
    | (.gattServerWriteAttributeValue handle _ value, status) =>
      if handle = attributeHandle ∧ status = statusOk then some value else none
    | _ => none

def notified (characteristic : UInt16) (commands : List (Call × Status)) : List (List UInt8) :=
  commands.filterMap fun
    | (.gattServerSendNotification _ handle value, status) =>
      if handle = characteristic ∧ status = statusOk then some value else none
    | _ => none

@[simp] theorem written_nil (handle : UInt16) : written handle [] = [] := rfl

@[simp] theorem notified_nil (handle : UInt16) : notified handle [] = [] := rfl

theorem written_cons_write (attributeHandle handle offset : UInt16) (value : List UInt8)
    (status : Status) (rest : List (Call × Status)) :
    written attributeHandle ((.gattServerWriteAttributeValue handle offset value, status) :: rest) =
      (if handle = attributeHandle ∧ status = statusOk then [value] else []) ++
        written attributeHandle rest := by
  simp only [written, List.filterMap_cons]
  split <;> simp_all

theorem notified_cons_send (characteristic handle : UInt16) (connection : UInt8)
    (value : List UInt8) (status : Status) (rest : List (Call × Status)) :
    notified characteristic ((.gattServerSendNotification connection handle value, status) :: rest) =
      (if handle = characteristic ∧ status = statusOk then [value] else []) ++
        notified characteristic rest := by
  simp only [notified, List.filterMap_cons]
  split <;> simp_all

@[simp] theorem written_append (handle : UInt16) (first rest : List (Call × Status)) :
    written handle (first ++ rest) = written handle first ++ written handle rest :=
  List.filterMap_append

@[simp] theorem notified_append (handle : UInt16) (first rest : List (Call × Status)) :
    notified handle (first ++ rest) = notified handle first ++ notified handle rest :=
  List.filterMap_append

@[simp] theorem written_ite (handle : UInt16) (c : Prop) [Decidable c]
    (x y : List (Call × Status)) :
    written handle (if c then x else y) = if c then written handle x else written handle y := by
  split <;> rfl

@[simp] theorem notified_ite (handle : UInt16) (c : Prop) [Decidable c]
    (x y : List (Call × Status)) :
    notified handle (if c then x else y) = if c then notified handle x else notified handle y := by
  split <;> rfl

def commands (h : List Handled) : List (Call × Status) := h.flatMap fun t => t.output.calls

@[simp] theorem commands_nil : commands [] = [] := rfl

theorem commands_append (first rest : List Handled) :
    commands (first ++ rest) = commands first ++ commands rest := List.flatMap_append

@[simp] theorem commands_concat (h : List Handled) (t : Handled) :
    commands (h ++ [t]) = commands h ++ t.output.calls := by
  simp [commands]

def handled (db : GattDb) (role : Role) (g : Globals) (i : Input) : Handled :=
  (firmware db role).moment g i

/-- A configuration with two of its handles. -/
def exampleDb : GattDb := ⟨21, 24, by decide⟩

def obliging (pinHigh : GpioPin → Bool) : Env where
  status _ := statusOk
  identityAddress := serverBtAddress
  identityAddressType := gapPublicAddress
  advertisingSet := 0
  connection := 1
  pinHigh := pinHigh

/-- Events that find every command accepted and every pin high. -/
def obligingInputs (msgs : List Msg) : List Input :=
  msgs.map fun msg => ⟨obliging fun _ => true, msg⟩

theorem obligingInputs_accepted {msgs : List Msg} {i : Input} (member : i ∈ obligingInputs msgs)
    (c : Call) : i.env.status c = statusOk := by
  obtain ⟨msg, _, rfl⟩ := List.mem_map.mp member
  rfl

section
variable {db : GattDb} {role : Role} (g : Globals) (i : Input)

@[simp] theorem handled_before : (handled db role g i).before = g := rfl

@[simp] theorem handled_input : (handled db role g i).input = i := rfl

@[simp] theorem handled_msg : (handled db role g i).msg = i.msg := rfl

@[simp] theorem handled_output : (handled db role g i).output = (slBtOnEvent db role g i).2 := rfl

@[simp] theorem handled_after : (handled db role g i).after = (slBtOnEvent db role g i).1 := rfl

theorem run_split {inputs : List Input} {past rest : List Handled} {t : Handled}
    (same : run db role inputs = past ++ t :: rest) :
    ∃ first i later, inputs = first ++ i :: later ∧ past = run db role first ∧
      t = handled db role (globals db role first) i :=
  (firmware db role).history_split same

theorem run_always_iff {p q : List Handled → Handled → Prop}
    (agree : ∀ inputs i, Always p (run db role inputs) →
      (p (run db role inputs) (handled db role (globals db role inputs) i) ↔
        q (run db role inputs) (handled db role (globals db role inputs) i)))
    (inputs : List Input) : Always p (run db role inputs) ↔ Always q (run db role inputs) :=
  (firmware db role).always_iff agree inputs

theorem run_invariant {P : List Handled → Globals → Prop} (start : P [] .reset)
    (step : ∀ past g i, P past g → P (past ++ [handled db role g i]) (slBtOnEvent db role g i).1)
    (inputs : List Input) : P (run db role inputs) (globals db role inputs) :=
  (firmware db role).invariant start step inputs

theorem run_always_iff_under {assumed p q : List Handled → Handled → Prop}
    {R : List Handled → Globals → Prop} (start : R [] .reset)
    (step : ∀ past g i, R past g → assumed past (handled db role g i) →
      (p past (handled db role g i) ↔ q past (handled db role g i)) ∧
        (q past (handled db role g i) →
          R (past ++ [handled db role g i]) (slBtOnEvent db role g i).1))
    (inputs : List Input) (fits : Always assumed (run db role inputs)) :
    Always p (run db role inputs) ↔ Always q (run db role inputs) :=
  (firmware db role).always_iff_under start step inputs fits

theorem run_always_iff_kept {p q : List Handled → Handled → Prop} {R : List Handled → Globals → Prop}
    (start : R [] .reset)
    (step : ∀ past g i, R past g →
      (p past (handled db role g i) ↔ q past (handled db role g i)) ∧
        (q past (handled db role g i) →
          R (past ++ [handled db role g i]) (slBtOnEvent db role g i).1))
    (inputs : List Input) : Always p (run db role inputs) ↔ Always q (run db role inputs) :=
  (firmware db role).always_iff_kept start step inputs

theorem run_always_under {assumed p : List Handled → Handled → Prop}
    {R : List Handled → Globals → Prop} (start : R [] .reset)
    (step : ∀ past g i, R past g → assumed past (handled db role g i) →
      p past (handled db role g i) ∧ R (past ++ [handled db role g i]) (slBtOnEvent db role g i).1)
    (inputs : List Input) (fits : Always assumed (run db role inputs)) :
    Always p (run db role inputs) :=
  (firmware db role).always_under start step inputs fits

theorem run_concat (inputs : List Input) :
    run db role (inputs ++ [i]) =
      run db role inputs ++ [handled db role (globals db role inputs) i] :=
  (firmware db role).history_concat _ _ _

theorem globals_concat (inputs : List Input) :
    globals db role (inputs ++ [i]) = (slBtOnEvent db role (globals db role inputs) i).1 :=
  (firmware db role).after_concat _ _ _

end

end BleRemote.Device
