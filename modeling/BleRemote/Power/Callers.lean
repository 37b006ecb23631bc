import BleRemote.Power.Runs

/-! The callers of the power manager on this board.

The main loop initialises the application, logs through the serial port of
`sl_iostream_uart.c` and sleeps. It is interrupted by the end of a transmission and by
everything else, between any two of its critical sections: what it has loaded before is kept
with the place where it is.
-/

set_option autoImplicit false
namespace BleRemote.Power

open Reactive

/-- What the serial port keeps for the power manager. -/
structure UartContext where
  txIdle : Bool
  emReqAdded : Bool

/-- As `sl_iostream_usart_init` asks for them. -/
def txEm : Requirement := .em1
def rxEm : Requirement := .em1

def lowestEnergyMode : Em := .em2

/-- Where the main context is. -/
inductive MainContext where
  | loop
  /-- In `uart_write`, after its first critical section. -/
  | writing (idle : Bool)
  | sending
  | added
  /-- In `set_rx_energy_mode_restriction`, with the flag loaded. -/
  | restricting (on emReqAdded : Bool)
  | restricted (on : Bool)
  /-- In `sl_power_manager_sleep`. -/
  | asleep

structure Callers where
  uart : UartContext
  main : MainContext
  appInitialized : Bool

inductive CallerEvent where
  /-- The main context calls one of these. -/
  | appInit
  | uartWrite
  | setRxEnergyModeRestriction (on : Bool)
  | sleep
  /-- It goes on, up to its next critical section. -/
  | proceed
  /-- The interrupt at the end of a transmission. -/
  | uartTxc
  | resume
  /-- Other interrupts and components. -/
  | other (entry : Entry)

structure CallerInput where
  env : PowerEnv
  event : CallerEvent

namespace Callers

/-- After `sli_iostream_uart_context_init`, but for the restriction that it sets. -/
def powerOn : Callers := ⟨⟨true, false⟩, .loop, false⟩

/-- `app_init` -/
def appInit (c : Callers) : Callers × List Entry :=
  ({ c with appInitialized := true },
    match lowestEnergyMode with
    | .em1 => [.updateEmRequirement .em1 true]
    | .em2 => [.updateEmRequirement .em2 true]
    | .em0 | .em3 => [])

def proceed (c : Callers) : Callers × List Entry :=
  match c.main with
  | .writing idle =>
    ({ c with main := .sending }, if idle = false then [.updateEmRequirement txEm false] else [])
  | .sending => ({ c with main := .added }, [.updateEmRequirement txEm true])
  | .added => ({ c with uart := { c.uart with txIdle := false }, main := .loop }, [])
  | .restricting on emReqAdded =>
    if on = true ∧ emReqAdded = false then
      ({ c with main := .restricted true }, [.updateEmRequirement rxEm true])
    else if on = false ∧ emReqAdded = true then
      ({ c with main := .restricted false }, [.updateEmRequirement rxEm false])
    else ({ c with main := .loop }, [])
  | .restricted on => ({ c with uart := { c.uart with emReqAdded := on }, main := .loop }, [])
  | .loop | .asleep => (c, [])

/-- `sli_uart_txc` -/
def uartTxc (c : Callers) : Callers × List Entry :=
  if c.uart.txIdle = false then
    ({ c with uart := { c.uart with txIdle := true } }, [.updateEmRequirement txEm false])
  else (c, [])

def react (c : Callers) (i : CallerInput) : Callers × List Entry :=
  match i.event, c.main with
  | .appInit, .loop => if c.appInitialized = true then (c, []) else c.appInit
  | .uartWrite, .loop =>
    ({ c with uart := { c.uart with txIdle := true }, main := .writing c.uart.txIdle }, [])
  | .setRxEnergyModeRestriction on, .loop => ({ c with main := .restricting on c.uart.emReqAdded }, [])
  | .sleep, .loop =>
    -- the loop comes after `app_init`
    if c.appInitialized = true then
      (if i.env.isOkToSleep = true then { c with main := .asleep } else c, [.sleep])
    else (c, [])
  | .resume, .asleep =>
    (if i.env.sleepOnIsrExit = true then c else { c with main := .loop }, [.resume])
  | .proceed, _ => c.proceed
  | .uartTxc, _ => c.uartTxc
  | .other .sleep, _ | .other .resume, _ => (c, [])
  | .other entry, _ => (c, [entry])
  | _, _ => (c, [])

def step (c : Callers) (i : CallerInput) : Callers × List PowerInput :=
  ((c.react i).1, (c.react i).2.map (⟨i.env, ·⟩))

def machine : Machine Callers CallerInput (List PowerInput) := ⟨powerOn, step⟩

end Callers

/-! ## Who holds what -/

/-- The requirements of everyone else. -/
abbrev Others := Requirement → Nat

def Others.step (l : Others) (i : CallerInput) : Others :=
  match i.event with
  | .other (.updateEmRequirement em add) => recount l em add
  | _ => l

def Others.machine : Machine Others CallerInput Unit := ⟨fun _ => 0, fun l i => (l.step i, ())⟩

/-- What is left for the others: the serial port may have two requirements, the application one. -/
def Others.limit : Requirement → Nat
  | .em1 => 252
  | .em2 => 254

/-- The others, too, remove only what they have added. -/
def Others.Allows (l : Others) (i : CallerInput) : Prop :=
  match i.event with
  | .other (.updateEmRequirement em true) => l em < Others.limit em
  | .other (.updateEmRequirement em false) => 0 < l em
  | _ => True

instance (l : Others) (i : CallerInput) : Decidable (l.Allows i) := by
  unfold Others.Allows
  split <;> infer_instance

namespace Callers

/-- The requirement of the transmitter. -/
def transmits (c : Callers) : Nat :=
  match c.main with
  | .writing idle => (!idle).toNat
  | .added => 1
  | _ => (!c.uart.txIdle).toNat

/-- The requirement of the receiver. -/
def receives (c : Callers) : Nat :=
  match c.main with
  | .restricted on => on.toNat
  | _ => c.uart.emReqAdded.toNat

/-- What the main context has loaded is still so, and it sleeps in its loop only. -/
def Consistent (c : Callers) : Prop :=
  match c.main with
  | .writing _ | .sending | .added => c.uart.txIdle = true
  | .restricting _ emReqAdded => c.uart.emReqAdded = emReqAdded
  | .restricted on => c.uart.emReqAdded = !on
  | .loop => True
  | .asleep => c.appInitialized = true

end Callers

structure Balanced (c : Callers) (l : Others) (v : Demand) : Prop where
  em1 : v.outstanding .em1 = l .em1 + c.transmits + c.receives
  em2 : v.outstanding .em2 = l .em2 + c.appInitialized.toNat
  asleep : v.asleep = true ↔ c.main = .asleep
  consistent : c.Consistent
  room : ∀ em, l em ≤ Others.limit em

section
variable {em3Allowed : Bool} {frequency : UInt32} {env : PowerEnv} {c c' : Callers} {l l' : Others} {v : Demand}

/-- What the callers ask for is allowed, and the balance is kept. -/
def Served (em3Allowed : Bool) (frequency : UInt32) (v : Demand) (c : Callers) (l : Others)
    (asks : List PowerInput) : Prop :=
  (Demand.machine em3Allowed frequency).Permits Demand.Allows v asks ∧
    Balanced c l ((Demand.machine em3Allowed frequency).after v asks)

theorem Callers.transmits_le (c : Callers) : c.transmits ≤ 1 := by
  unfold Callers.transmits
  split
  · exact Bool.toNat_le _
  · exact Nat.le_refl 1
  · exact Bool.toNat_le _

theorem Callers.receives_le (c : Callers) : c.receives ≤ 1 := by
  unfold Callers.receives
  split <;> exact Bool.toNat_le _

section
variable (balanced : Balanced c l v)
include balanced

/-- The callers are somewhere else and hold as much. -/
theorem Balanced.moves (same : c'.transmits + c'.receives = c.transmits + c.receives)
    (app : c'.appInitialized = c.appInitialized) (main : c'.main = .asleep ↔ c.main = .asleep)
    (consistent : c'.Consistent) : Balanced c' l v where
  em1 := by rw [balanced.em1, Nat.add_assoc, Nat.add_assoc, same]
  em2 := app ▸ balanced.em2
  asleep := balanced.asleep.trans main.symm
  consistent := consistent
  room := balanced.room

theorem Balanced.adds (more : c'.transmits + c'.receives = c.transmits + c.receives + 1)
    (app : c'.appInitialized = c.appInitialized) (main : c'.main = .asleep ↔ c.main = .asleep)
    (consistent : c'.Consistent) :
    Served em3Allowed frequency v c' l [⟨env, .updateEmRequirement .em1 true⟩] := by
  have before := balanced.em1
  have others : l .em1 ≤ 252 := balanced.room .em1
  have transmits := c'.transmits_le
  have receives := c'.receives_le
  have may : v.outstanding .em1 < 254 := by omega
  refine ⟨⟨may, trivial⟩, ?_, ?_, balanced.asleep.trans main.symm, consistent, balanced.room⟩
  · change recount v.outstanding .em1 true .em1 = _
    rw [recount_add]
    omega
  · change recount v.outstanding .em1 true .em2 = _
    rw [recount_other _ _ (show Requirement.em2 ≠ .em1 by decide), app]
    exact balanced.em2

theorem Balanced.removes (fewer : c'.transmits + c'.receives + 1 = c.transmits + c.receives)
    (app : c'.appInitialized = c.appInitialized) (main : c'.main = .asleep ↔ c.main = .asleep)
    (consistent : c'.Consistent) :
    Served em3Allowed frequency v c' l [⟨env, .updateEmRequirement .em1 false⟩] := by
  have before := balanced.em1
  have may : 0 < v.outstanding .em1 := by omega
  refine ⟨⟨may, trivial⟩, ?_, ?_, balanced.asleep.trans main.symm, consistent, balanced.room⟩
  · change recount v.outstanding .em1 false .em1 = _
    rw [recount_remove]
    omega
  · change recount v.outstanding .em1 false .em2 = _
    rw [recount_other _ _ (show Requirement.em2 ≠ .em1 by decide), app]
    exact balanced.em2

/-- The main context goes on. -/
theorem proceed_served :
    Served em3Allowed frequency v c.proceed.1 l (c.proceed.2.map (⟨env, ·⟩)) := by
  obtain ⟨⟨txIdle, emReqAdded⟩, main, appInitialized⟩ := c
  have consistent := balanced.consistent
  cases main with
  | loop | asleep => exact ⟨trivial, balanced⟩
  | writing idle =>
    obtain rfl : txIdle = true := consistent
    cases idle with
    | true => exact ⟨trivial, balanced.moves rfl rfl ⟨nofun, nofun⟩ rfl⟩
    | false =>
      have held : emReqAdded.toNat + 1 = 1 + emReqAdded.toNat := Nat.add_comm ..
      exact balanced.removes (by simpa [Callers.proceed, Callers.transmits, Callers.receives] using held) rfl
        ⟨nofun, nofun⟩ rfl
  | sending =>
    obtain rfl : txIdle = true := consistent
    have held : 1 + emReqAdded.toNat = emReqAdded.toNat + 1 := Nat.add_comm ..
    exact balanced.adds (by simpa [Callers.proceed, Callers.transmits, Callers.receives] using held) rfl
      ⟨nofun, nofun⟩ rfl
  | added =>
    obtain rfl : txIdle = true := consistent
    exact ⟨trivial, balanced.moves rfl rfl ⟨nofun, nofun⟩ trivial⟩
  | restricting on loaded =>
    obtain rfl : emReqAdded = loaded := consistent
    cases on <;> cases emReqAdded
    · exact ⟨trivial, balanced.moves rfl rfl ⟨nofun, nofun⟩ trivial⟩
    · exact balanced.removes rfl rfl ⟨nofun, nofun⟩ rfl
    · exact balanced.adds rfl rfl ⟨nofun, nofun⟩ rfl
    · exact ⟨trivial, balanced.moves rfl rfl ⟨nofun, nofun⟩ trivial⟩
  | restricted on =>
    obtain rfl : emReqAdded = !on := consistent
    exact ⟨trivial, balanced.moves rfl rfl ⟨nofun, nofun⟩ trivial⟩

/-- The end of a transmission takes the requirement away that the flag stands for. -/
theorem uartTxc_served :
    Served em3Allowed frequency v c.uartTxc.1 l (c.uartTxc.2.map (⟨env, ·⟩)) := by
  obtain ⟨⟨txIdle, emReqAdded⟩, main, appInitialized⟩ := c
  have consistent := balanced.consistent
  cases txIdle with
  | true => exact ⟨trivial, balanced⟩
  | false =>
    cases main with
    | loop => exact balanced.removes (Nat.add_right_comm ..) rfl .rfl trivial
    | asleep => exact balanced.removes (Nat.add_right_comm ..) rfl .rfl consistent
    | writing | sending | added => cases consistent
    | restricting on loaded => exact balanced.removes (Nat.add_right_comm ..) rfl .rfl consistent
    | restricted on => exact balanced.removes (Nat.add_right_comm ..) rfl .rfl consistent

theorem appInit_served (first : c.appInitialized = false) (main : c.main = .loop) :
    Served em3Allowed frequency v c.appInit.1 l (c.appInit.2.map (⟨env, ·⟩)) := by
  have before := balanced.em2
  have others : l .em2 ≤ 254 := balanced.room .em2
  rw [first, Bool.toNat_false] at before
  have may : v.outstanding .em2 < 255 := by omega
  refine ⟨⟨may, trivial⟩, ?_, ?_, balanced.asleep, ?_, balanced.room⟩
  · change recount v.outstanding .em2 true .em1 = _
    rw [recount_other _ _ (show Requirement.em1 ≠ .em2 by decide)]
    exact balanced.em1
  · change recount v.outstanding .em2 true .em2 = _
    rw [recount_add, before]
    rfl
  · unfold Callers.Consistent
    rw [show c.appInit.1.main = .loop from main]
    trivial

end

theorem loop_ne_asleep : MainContext.loop ≠ .asleep := nofun

theorem slept_served (balanced : Balanced c l v) (main : c.main = .loop) (app : c.appInitialized = true) :
    Served em3Allowed frequency v (if env.isOkToSleep = true then { c with main := .asleep } else c) l
      [⟨env, .sleep⟩] := by
  have up : v.asleep = false := by
    rw [Bool.eq_false_iff, ne_eq, balanced.asleep, main]
    exact loop_ne_asleep
  have sleeps : v.step em3Allowed ⟨env, .sleep⟩ = if env.isOkToSleep = true then
      ({ v with asleep := true }, v.sleepEvents em3Allowed env) else (v, []) := by
    simp [Demand.step, up]
  obtain ⟨uart, main', appInitialized⟩ := c
  obtain rfl : main' = .loop := main
  refine ⟨⟨trivial, trivial⟩, ?_⟩
  change Balanced _ l (v.step em3Allowed ⟨env, .sleep⟩).1
  rw [sleeps]
  split
  · exact ⟨balanced.em1, balanced.em2, ⟨fun _ => rfl, fun _ => rfl⟩, app, balanced.room⟩
  · exact balanced

theorem resumed_served (balanced : Balanced c l v) (main : c.main = .asleep) :
    Served em3Allowed frequency v (if env.sleepOnIsrExit = true then c else { c with main := .loop }) l
      [⟨env, .resume⟩] := by
  have down : v.asleep = true := balanced.asleep.mpr main
  have resumes : v.step em3Allowed ⟨env, .resume⟩ = if env.sleepOnIsrExit = true then
      (v, v.sleepEvents em3Allowed env) else ({ v with asleep := false }, []) := by
    simp [Demand.step, down]
  obtain ⟨uart, main', appInitialized⟩ := c
  obtain rfl : main' = .asleep := main
  refine ⟨⟨trivial, trivial⟩, ?_⟩
  change Balanced _ l (v.step em3Allowed ⟨env, .resume⟩).1
  rw [resumes]
  split
  · exact balanced
  · exact ⟨balanced.em1, balanced.em2, ⟨fun is => absurd is Bool.false_ne_true, fun is => absurd is loop_ne_asleep⟩,
      trivial, balanced.room⟩

theorem Balanced.le_limit (balanced : Balanced c l v) (em : Requirement) :
    l em ≤ v.outstanding em ∧ v.outstanding em + Others.limit em ≤ l em + Demand.limit em := by
  have transmits := c.transmits_le
  have receives := c.receives_le
  have app := Bool.toNat_le c.appInitialized
  cases em with
  | em1 =>
    rw [balanced.em1, Others.limit, Demand.limit]
    omega
  | em2 =>
    rw [balanced.em2, Others.limit, Demand.limit]
    omega

/-- Somebody else's requirement is counted on both sides. -/
theorem counted_served (balanced : Balanced c l v) {em : Requirement} {add : Bool}
    (allows : l.Allows ⟨env, .other (.updateEmRequirement em add)⟩) :
    Served em3Allowed frequency v c (recount l em add) [⟨env, .updateEmRequirement em add⟩] := by
  obtain ⟨below, above⟩ := balanced.le_limit em
  have room := balanced.room
  suffices counts : v.MayCount em add ∧ ∀ other, recount v.outstanding em add other + l other =
      recount l em add other + v.outstanding other ∧ recount l em add other ≤ Others.limit other by
    have em1 := (counts.2 .em1).1
    have em2 := (counts.2 .em2).1
    rw [balanced.em1] at em1
    rw [balanced.em2] at em2
    refine ⟨⟨counts.1, trivial⟩, ?_, ?_, balanced.asleep, balanced.consistent, fun other => (counts.2 other).2⟩
    · change recount v.outstanding em add .em1 = _
      omega
    · change recount v.outstanding em add .em2 = _
      omega
  cases add with
  | true =>
    have few : l em < Others.limit em := allows
    have may : v.outstanding em < Demand.limit em := by omega
    refine ⟨may, fun other => ?_⟩
    by_cases same : other = em
    · subst same
      rw [recount_add, recount_add]
      omega
    · rw [recount_other _ _ same, recount_other _ _ same]
      exact ⟨Nat.add_comm .., room other⟩
  | false =>
    have some : 0 < l em := allows
    have may : 0 < v.outstanding em := by omega
    refine ⟨may, fun other => ?_⟩
    by_cases same : other = em
    · subst same
      have most := room other
      rw [recount_remove, recount_remove]
      omega
    · rw [recount_other _ _ same, recount_other _ _ same]
      exact ⟨Nat.add_comm .., room other⟩

/-- Whatever happens, what is asked for is allowed, and everyone's requirements add up. -/
theorem react_served (balanced : Balanced c l v) (i : CallerInput) (allows : l.Allows i) :
    Served em3Allowed frequency v (c.step i).1 (l.step i) (c.step i).2 := by
  obtain ⟨env, event⟩ := i
  obtain ⟨uart, main, appInitialized⟩ := c
  have idle : Served em3Allowed frequency v ⟨uart, main, appInitialized⟩ l [] := ⟨trivial, balanced⟩
  cases event with
  | proceed => exact proceed_served balanced
  | uartTxc => exact uartTxc_served balanced
  | appInit =>
    cases main with
    | loop =>
      cases appInitialized with
      | true => exact idle
      | false => exact appInit_served balanced rfl rfl
    | _ => exact idle
  | uartWrite =>
    cases main with
    | loop => exact ⟨trivial, balanced.moves rfl rfl ⟨nofun, nofun⟩ rfl⟩
    | _ => exact idle
  | setRxEnergyModeRestriction on =>
    cases main with
    | loop => exact ⟨trivial, balanced.moves rfl rfl ⟨nofun, nofun⟩ rfl⟩
    | _ => exact idle
  | sleep =>
    cases main with
    | loop =>
      cases appInitialized with
      | true => exact slept_served balanced rfl rfl
      | false => exact idle
    | _ => exact idle
  | resume =>
    cases main with
    | asleep => exact resumed_served balanced rfl
    | _ => exact idle
  | other entry =>
    cases entry with
    | sleep | resume => exact idle
    | updateEmRequirement em add => exact counted_served balanced allows
    | _ =>
      exact ⟨⟨trivial, trivial⟩, balanced.em1, balanced.em2, balanced.asleep, balanced.consistent, balanced.room⟩

theorem balanced_powerOn (frequency : UInt32) :
    Balanced Callers.powerOn (fun _ => 0) (Demand.powerOn frequency) :=
  ⟨rfl, rfl, ⟨fun is => absurd is Bool.false_ne_true, fun is => absurd is loop_ne_asleep⟩, trivial, fun _ => Nat.zero_le _⟩

end

end BleRemote.Power
