import BleRemote.Lcd.Shown
import BleRemote.System.PasskeyShown
import Std.Data.String.ToInt

/-! The texts that the firmware prints: each fits in its row and is printable, and the numbers
and addresses among them can be read back. -/

set_option autoImplicit false
namespace BleRemote.System

open Reactive Stack Device
open Lcd (Printable)

/-- A text that a row shows as it is. -/
structure Legible (text : String) : Prop where
  printable : ∀ c ∈ text.toList, Printable c
  fits : text.length ≤ displayRowLen

instance (text : String) : Decidable (Legible text) :=
  @decidable_of_iff _ ((∀ c ∈ text.toList, Printable c) ∧ text.length ≤ displayRowLen)
    ⟨fun both => ⟨both.1, both.2⟩, fun legible => ⟨legible.1, legible.2⟩⟩
    (@instDecidableAnd _ _ (List.decidableBAll Printable text.toList) _)

theorem Legible.append {first rest : String} (legible : ∀ c ∈ first.toList, Printable c)
    (legible' : ∀ c ∈ rest.toList, Printable c) (fits : first.length + rest.length ≤ displayRowLen) :
    Legible (first ++ rest) := by
  constructor
  · rw [String.toList_append]
    exact fun c member => (List.mem_append.mp member).elim (legible c) (legible' c)
  · rw [String.length_append]
    exact fits

/-! ## Numbers -/

theorem printable_of_isDigit {c : Char} (digit : c.isDigit = true) : Printable c := by
  rw [Char.isDigit_iff_toNat] at digit
  exact ⟨(show 0x20 ≤ '0'.toNat by decide).trans digit.1, digit.2.trans (show '9'.toNat ≤ 0x7E by decide)⟩

theorem repr_printable (n : Nat) : ∀ c ∈ n.repr.toList, Printable c := by
  intro c member
  rw [Nat.toList_repr] at member
  exact printable_of_isDigit (Nat.isDigit_of_mem_toDigits (by decide) (by decide) member)

theorem repr_length {n : Nat} (small : n < 10000000000) : n.repr.length ≤ 10 := by
  rw [← String.length_toList, Nat.toList_repr]
  exact (Nat.length_toDigits_le_iff (by decide) (by decide)).mpr small

/-- A sign and ten digits at most. -/
theorem decimal_legible (n : UInt32) :
    (∀ c ∈ (decimal n).toList, Printable c) ∧ (decimal n).length ≤ 11 := by
  have below : n.toInt32.toInt < 2 ^ 31 := n.toInt32.toInt_lt
  have above : -2 ^ 31 ≤ n.toInt32.toInt := n.toInt32.le_toInt
  unfold decimal
  generalize n.toInt32.toInt = i at below above
  cases i with
  | ofNat k =>
    refine ⟨repr_printable k, (repr_length ?_).trans (by decide)⟩
    rw [Int.ofNat_eq_natCast] at below
    omega
  | negSucc k =>
    have length : (k + 1).repr.length ≤ 10 := by
      apply repr_length
      omega
    change (∀ c ∈ ("-" ++ (k + 1).repr).toList, Printable c) ∧ ("-" ++ (k + 1).repr).length ≤ 11
    rw [String.toList_append, String.length_append]
    constructor
    · intro c member
      rcases List.mem_append.mp member with sign | digit
      · rw [List.mem_singleton.mp sign]
        decide
      · exact repr_printable _ c digit
    · have sign : "-".length = 1 := rfl
      omega

theorem decimal_injective {n m : UInt32} (same : decimal n = decimal m) : n = m := by
  have value : n.toInt32.toInt = m.toInt32.toInt := Int.repr_injective same
  rw [← n.toUInt32_toInt32, ← m.toUInt32_toInt32, Int32.toInt_inj.mp value]

theorem passkeyText_legible (role : Role) (passkey : UInt32) : Legible (passkeyText role passkey) := by
  obtain ⟨printable, length⟩ := decimal_legible passkey
  have blank : Legible " " := by decide
  have label : Legible "Passkey " := by decide
  cases role with
  | server =>
    exact .append blank.printable printable (by rw [show " ".length = 1 from rfl, displayRowLen]; omega)
  | client =>
    exact .append label.printable printable (by rw [show "Passkey ".length = 8 from rfl, displayRowLen]; omega)

/-! ## Addresses -/

theorem hexByte_toList (b : UInt8) :
    (hexByte b).toList = [Nat.digitChar (b.toNat / 16), Nat.digitChar (b.toNat % 16)] :=
  String.toList_ofList

theorem digitChar_printable : ∀ n < 16, Printable (Nat.digitChar n) := by decide

theorem digitChar_injective : ∀ n < 16, ∀ m < 16, Nat.digitChar n = Nat.digitChar m → n = m := by decide

theorem addressText_cons (b : UInt8) (rest : List UInt8) :
    (addressText (b :: rest)).toList = (hexByte b).toList ++ (addressText rest).toList := by
  simp [addressText, String.toList_join]

theorem addressText_legible (bytes : List UInt8) :
    (∀ c ∈ (addressText bytes).toList, Printable c) ∧ (addressText bytes).length = 2 * bytes.length := by
  rw [← String.length_toList]
  induction bytes with
  | nil => exact ⟨fun _ => nofun, rfl⟩
  | cons b rest ih =>
    have high : b.toNat / 16 < 16 := by
      have := b.toNat_lt
      omega
    rw [addressText_cons, hexByte_toList]
    constructor
    · simp only [List.cons_append, List.nil_append, List.forall_mem_cons]
      exact ⟨digitChar_printable _ high, digitChar_printable _ (Nat.mod_lt _ (by decide)), ih.1⟩
    · simp only [List.cons_append, List.nil_append, List.length_cons, ih.2]
      omega

theorem addressText_six {bytes : List UInt8} (six : bytes.length = 6) : Legible (addressText bytes) := by
  obtain ⟨printable, length⟩ := addressText_legible bytes
  exact ⟨printable, by rw [length, six]; decide⟩

theorem addressText_injective {first second : List UInt8} (same : addressText first = addressText second) :
    first = second := by
  have chars := congrArg String.toList same
  clear same
  induction first generalizing second with
  | nil =>
    cases second with
    | nil => rfl
    | cons b rest => simp [hexByte_toList, addressText] at chars
  | cons a first ih =>
    cases second with
    | nil => simp [hexByte_toList, addressText] at chars
    | cons b second =>
      have bound := a.toNat_lt
      have bound' := b.toNat_lt
      simp only [addressText_cons, hexByte_toList, List.cons_append, List.nil_append, List.cons.injEq] at chars
      have high := digitChar_injective _ (by omega) _ (by omega) chars.1
      have low := digitChar_injective _ (Nat.mod_lt _ (by decide)) _ (Nat.mod_lt _ (by decide)) chars.2.1
      rw [ih chars.2.2, UInt8.toNat_inj.mp (show a.toNat = b.toNat by omega)]

/-! ## The texts of the firmware -/

/-- Everything that is printed can be read. -/
def PrintsLegibly (effects : List Effect) : Prop := ∀ p ∈ prints effects, Legible p.2

section
variable (db : GattDb) (env : Env) (g : Globals) (msg : Msg)

@[simp] theorem printsLegibly_nil : PrintsLegibly [] := fun _ => nofun

@[simp] theorem printsLegibly_append (first rest : List Effect) :
    PrintsLegibly (first ++ rest) ↔ PrintsLegibly first ∧ PrintsLegibly rest := by
  unfold PrintsLegibly
  rw [prints_append]
  exact List.forall_mem_append

@[simp] theorem printsLegibly_cons (effect : Effect) (rest : List Effect) :
    PrintsLegibly (effect :: rest) ↔ (∀ p, effect.print = some p → Legible p.2) ∧ PrintsLegibly rest := by
  unfold PrintsLegibly
  rw [prints_cons, List.forall_mem_append]
  simp only [Option.mem_toList]

@[simp] theorem printsLegibly_ite (c : Prop) [Decidable c] (x y : List Effect) :
    PrintsLegibly (if c then x else y) ↔ (c → PrintsLegibly x) ∧ (¬ c → PrintsLegibly y) := by
  split <;> simp [*]

@[simp] theorem printsLegibly_logUnlessOk (command : String) (status : Status) :
    PrintsLegibly ((logUnlessOk command status).run env g).effects := by
  unfold PrintsLegibly
  rw [prints_logUnlessOk]
  exact fun _ => nofun

@[simp] theorem printsLegibly_ledStateToGatt (ledState : UInt8) :
    PrintsLegibly ((ledStateToGatt db ledState).run env g).effects := by
  simp [ledStateToGatt]

@[simp] theorem printsLegibly_buttonStateToGatt (button : UInt8) :
    PrintsLegibly ((buttonStateToGatt db button).run env g).effects := by
  simp [buttonStateToGatt]

theorem keypadServerStateMachine_legible :
    PrintsLegibly ((keypadServerStateMachine msg).run env g).effects := by
  have text : Legible "Handling notif" := by decide
  cases msg <;> cases state : g.keypadState <;> simp [keypadServerStateMachine, state, text]

theorem discoveryStateMachine_legible :
    PrintsLegibly ((discoveryStateMachine msg).run env g).effects := by
  have text : Legible "Handling notif" := by decide
  cases state : g.discoveryState <;> cases msg <;>
    simp [discoveryStateMachine, state, discoveryOpen, discoveryDiscoverKeypadServices,
      discoveryDiscoverLedServices, discoveryDiscoverKeypadCharacteristics,
      discoveryDiscoverLedCharacteristics, discoveryKeypadNotif, discoveryAwait, discoveryRequest,
      discoveryWait, text]

/-- The texts that are the same each time. -/
def fixedTexts : List String :=
  ["Server", "Client", "PROJECT", "Advertising", "Discovering", "Connected", "Bonded", "Failed",
    "Confirm with PB0", "Button ODD", "Button EVEN", "No Button", "", " "]

theorem fixedTexts_legible : ∀ text ∈ fixedTexts, Legible text := by decide

theorem handleBleEventServer_legible :
    PrintsLegibly ((handleBleEventServer db msg).run env g).effects := by
  have texts := fixedTexts_legible
  have passkey := passkeyText_legible .server
  have address : Legible (addressText env.identityAddress.addr.toList) :=
    addressText_six Vector.length_toList
  simp only [fixedTexts, List.forall_mem_cons] at texts
  simp only [passkeyText] at passkey
  cases msg <;>
    simp [handleBleEventServer, serverSystemBoot, displayInit, serverConnectionOpened,
      serverConnectionClosed, serverSystemExternalSignal, serverCharacteristicStatus,
      smConfirmBonding, serverSmBonded, serverSmConfirmPasskey, serverSmBondingFailed, texts, passkey,
      address]

theorem handleBleEventClient_legible :
    PrintsLegibly ((handleBleEventClient db msg).run env g).effects := by
  have texts := fixedTexts_legible
  have passkey := passkeyText_legible .client
  have address : Legible (addressText env.identityAddress.addr.toList.reverse) :=
    addressText_six (by rw [List.length_reverse, Vector.length_toList])
  have address' : Legible (addressText serverBtAddress.addr.toList) := addressText_six Vector.length_toList
  simp only [fixedTexts, List.forall_mem_cons] at texts
  simp only [passkeyText] at passkey
  cases msg <;>
    simp [handleBleEventClient, clientSystemBoot, displayInit, clientConnectionOpened,
      clientConnectionClosed, clientScannerScanReport, clientGattProcedureCompleted,
      clientGattService, clientGattCharacteristic, clientGattCharacteristicValue, smConfirmBonding,
      clientSmConfirmPasskey, clientSmBonded, clientSmBondingFailed, clientSystemExternalSignal,
      texts, passkey, address, address']

end

/-- Whatever the state and the event, everything that is printed can be read. -/
theorem step_printsLegibly (db : GattDb) (role : Role) (g : Globals) (i : Input) :
    PrintsLegibly (slBtOnEvent db role g i).2.effects := by
  simp only [slBtOnEvent, Output.effects, printsLegibly_append]
  cases role with
  | server => exact ⟨handleBleEventServer_legible db i.env g i.msg, keypadServerStateMachine_legible i.env _ i.msg⟩
  | client => exact ⟨handleBleEventClient_legible db i.env g i.msg, discoveryStateMachine_legible i.env _ i.msg⟩

/-- What fits is drawn whole, and nobody is warned. -/
theorem Legible.drawn {text : String} (legible : Legible text) (env : Lcd.LcdEnv) (d : Lcd.Display)
    (row : DisplayRow) :
    Lcd.drawings ((Lcd.displayPrintf (Lcd.rowIndex row) text).run env d).effects =
        [Lcd.strToErase, if text = "" then [' '] else text.toList] ∧
      ¬ Lcd.Warned (Lcd.rowIndex row) ((Lcd.displayPrintf (Lcd.rowIndex row) text).run env d).effects := by
  have fits : text.length ≤ 20 := legible.fits
  have within := Lcd.rowIndex_lt row
  rw [Lcd.drawings_displayPrintf env d text within, Lcd.warned_displayPrintf env d text within,
    Lcd.rowText, if_pos fits]
  simp only [String.length_eq_zero_iff]
  exact ⟨trivial, by omega⟩

/-- Whatever the role, the state and the event: every text that is printed is printable and drawn
whole, so that no text of the firmware is ever cut. -/
theorem no_text_cut (db : GattDb) (role : Role) (g : Globals) (i : Input) (env : Lcd.LcdEnv)
    (d : Lcd.Display) : ∀ p ∈ prints (slBtOnEvent db role g i).2.effects,
      (∀ c ∈ p.2.toList, Printable c) ∧
        Lcd.drawings ((Lcd.displayPrintf (Lcd.rowIndex p.1) p.2).run env d).effects =
          [Lcd.strToErase, if p.2 = "" then [' '] else p.2.toList] ∧
        ¬ Lcd.Warned (Lcd.rowIndex p.1) ((Lcd.displayPrintf (Lcd.rowIndex p.1) p.2).run env d).effects := by
  intro p member
  have legible := step_printsLegibly db role g i p member
  exact ⟨legible.printable, legible.drawn env d p.1⟩

theorem no_text_cut_advertising :
    Lcd.drawings ((Lcd.displayPrintf (Lcd.rowIndex .connection) "Advertising").run Lcd.panelEnv .reset).effects =
        [Lcd.strToErase, "Advertising".toList] ∧
      ¬ Lcd.Warned (Lcd.rowIndex .connection)
        ((Lcd.displayPrintf (Lcd.rowIndex .connection) "Advertising").run Lcd.panelEnv .reset).effects := by
  have printed : (DisplayRow.connection, "Advertising") ∈
      prints (slBtOnEvent exampleDb .server .reset ⟨obliging fun _ => true, .systemBoot⟩).2.effects := by
    decide
  exact (no_text_cut exampleDb .server _ _ Lcd.panelEnv .reset _ printed).2

/-! ## Comparing passkeys -/

theorem drawnText_passkey (role : Role) (passkey : UInt32) :
    drawnText (passkeyText role passkey) = passkeyText role passkey := by
  have long := passkeyText_length role passkey
  have fits := (passkeyText_legible role passkey).fits
  have nonempty : passkeyText role passkey ≠ "" := by
    intro empty
    rw [empty] at long
    exact absurd long (by decide)
  rw [drawnText, if_neg nonempty, List.take_of_length_le (by rwa [String.length_toList]), String.ofList_toList]

/-- A row shows what was drawn on it last, until an event draws on it again. -/
theorem rowShown_kept {db : GattDb} {role : Role} {row : DisplayRow} {write : Globals → Input → Option String}
    (step : ∀ shown g i, rowAfter row shown (slBtOnEvent db role g i).2.effects = (write g i).getD shown)
    (inputs : List Input) {i : Input} {later : List Input} {text : String}
    (drawn : write (globals db role inputs) i = some text) (quiet : ∀ g, ∀ j ∈ later, write g j = none) :
    rowShown row (run db role (inputs ++ i :: later)) = text := by
  induction later using List.reverseRecOn with
  | nil => rw [run_concat, rowShown_concat, handled_output, step, drawn, Option.getD_some]
  | append_singleton later j ih =>
    rw [← List.cons_append, ← List.append_assoc, run_concat, rowShown_concat, handled_output, step,
      quiet _ j (List.mem_append_right _ List.mem_cons_self), Option.getD_none]
    exact ih fun g j member => quiet g j (List.mem_append_left _ member)

def passkeyLabel : Role → String
  | .server => " "
  | .client => "Passkey "

end BleRemote.System
