import BleRemote.Reactive.Body
import BleRemote.Reactive.Machine
import Mathlib.Logic.Function.Basic

/-! The power manager of `sl_power_manager.c`, on a device of series 1.

`sl_power_manager_sleep` is called from the main loop and left by an interrupt. Between two of
its critical sections the interrupts are served, and what they call runs in critical sections,
too: one entry of the machine is what happens in one of them. What the functions of
`sl_power_manager_hal_s0_s1.c` do to the clocks are effects; those that are empty there are
empty here.
-/

set_option autoImplicit false
namespace BleRemote.Power

open Reactive

/-- `sl_power_manager_em_t`, without the shutoff mode, which no function here enters. -/
inductive Em where
  | em0 | em1 | em2 | em3
  deriving DecidableEq

def Em.number : Em → Nat
  | .em0 => 0
  | .em1 => 1
  | .em2 => 2
  | .em3 => 3

/-- The modes that a requirement may name. -/
inductive Requirement where
  | em1 | em2
  deriving DecidableEq

structure Subscriber where
  handle : Nat
  eventMask : UInt32
  deriving DecidableEq

def enteringEvent : Em → UInt32
  | .em0 => 0x01
  | .em1 => 0x04
  | .em2 => 0x10
  | .em3 => 0x40

def leavingEvent : Em → UInt32
  | .em0 => 0x02
  | .em1 => 0x08
  | .em2 => 0x20
  | .em3 => 0x80

/-- The statics. The counter of requirements on the high accuracy clock is not among them:
without EM1P nothing changes it. -/
structure PowerManager where
  requirementEmTable : Requirement → UInt8
  currentEm : Em
  waitingClockRestoreFromEm : Em
  isSleepingWaitingForClockRestore : Bool
  isStatesSaved : Bool
  emTransitionEventList : List Subscriber
  requirementOnEm1Added : Bool
  highFrequencyMinOfftimeTick : UInt32
  wakeupTimeConfigOverheadTick : Int32
  isHfXOscillatorNotPreserved : Bool
  isActivelyWaitingForClockRestore : Bool

/-- What a critical section finds. -/
structure PowerEnv where
  /-- `sl_power_manager_is_ok_to_sleep` -/
  isOkToSleep : Bool
  /-- `sl_sleeptimer_get_remaining_time_of_first_timer`, if there is such a timer. -/
  tickRemaining : Option UInt32
  /-- `sli_power_manager_get_wakeup_process_time_overhead` -/
  wakeupProcessTimeOverhead : UInt32
  /-- `sl_power_manager_sleep_on_isr_exit` -/
  sleepOnIsrExit : Bool

inductive PowerEffect where
  | assertionFailed
  | saveStates | restoreStates | lowFrequencyRestore
  | applyEm (em : Em)
  | notifyEmTransition (leaving entering : Em)
  | onEvent (handle : Nat) (leaving entering : Em)
  | restartClockWakeupTimer (timeout : UInt32)
  | stopClockWakeupTimer
  deriving DecidableEq

abbrev PowerBody := Body PowerEnv PowerManager PowerEffect

/-- `EFM_ASSERT` as in a release, where what follows it runs in any case. -/
def efmAssert (holds : Prop) [Decidable holds] : PowerBody Unit :=
  if holds then pure () else Body.emit [.assertionFailed]

def convertDelayUsToTick (frequency timeUs : UInt32) : UInt32 :=
  (timeUs * frequency + (1000000 - 1)) / 1000000

/-- `sl_power_manager_init`, with the frequency of the sleeptimer. -/
def init (frequency : UInt32) : PowerManager where
  requirementEmTable := fun _ => 0
  currentEm := .em0
  waitingClockRestoreFromEm := .em0
  isSleepingWaitingForClockRestore := false
  isStatesSaved := false
  emTransitionEventList := []
  requirementOnEm1Added := false
  highFrequencyMinOfftimeTick := convertDelayUsToTick frequency 600
  wakeupTimeConfigOverheadTick := 0
  isHfXOscillatorNotPreserved := false
  isActivelyWaitingForClockRestore := false

/-! ## Clocks and notifications -/

def handlePreDeepsleepOperations : PowerBody Unit := pure ()

def restoreHighFreqAccuracyClk : PowerBody Unit := pure ()

def isHighFreqAccuracyClkReady (_wait : Bool) : Bool := true

/-- The subscribers that want to hear of the transition. -/
def PowerManager.listeners (p : PowerManager) (leaving entering : Em) : List Subscriber :=
  p.emTransitionEventList.filter fun s =>
    0 < s.eventMask &&& (enteringEvent entering ||| leavingEvent leaving)

def PowerManager.notified (p : PowerManager) (leaving entering : Em) : List PowerEffect :=
  .notifyEmTransition leaving entering ::
    (p.listeners leaving entering).map fun s => .onEvent s.handle leaving entering

def notifyEmTransition (leaving entering : Em) : PowerBody Unit := do
  let p ← Body.get
  Body.emit (p.notified leaving entering)

def clockRestore : PowerBody Unit := do
  let p ← Body.get
  if p.isStatesSaved = true then
    if p.isHfXOscillatorNotPreserved = true then
      restoreHighFreqAccuracyClk
      Body.modify fun p => { p with isHfXOscillatorNotPreserved := false }
    if isHighFreqAccuracyClkReady false = true then
      Body.emit [.restoreStates]
      Body.modify fun p => { p with isStatesSaved := false }
      notifyEmTransition p.currentEm .em1
      Body.modify fun p => { p with currentEm := .em1 }
    else
      Body.modify fun p => { p with
        isSleepingWaitingForClockRestore := true
        waitingClockRestoreFromEm := p.currentEm }

/-- Its only caller is in a critical section, which leaving the inner one does not end. -/
def clockRestoreAndWait : PowerBody Unit := do
  let p ← Body.get
  if p.isStatesSaved = true then
    if p.isActivelyWaitingForClockRestore = false then
      Body.modify fun p => { p with
        isActivelyWaitingForClockRestore := true
        isSleepingWaitingForClockRestore := false }
    if p.isHfXOscillatorNotPreserved = true then
      restoreHighFreqAccuracyClk
      Body.modify fun p => { p with isHfXOscillatorNotPreserved := false }
    let p ← Body.get
    if p.isActivelyWaitingForClockRestore = true then
      Body.emit [.restoreStates]
      Body.modify fun p => { p with isActivelyWaitingForClockRestore := false }
    Body.modify fun p => { p with isStatesSaved := false }

/-! ## Requirements -/

def PowerManager.counted (p : PowerManager) (em : Requirement) (add : Bool) : PowerManager :=
  let counter := p.requirementEmTable em + if add = true then 1 else -1
  { p with requirementEmTable := Function.update p.requirementEmTable em counter }

/-- The assertions and the counting that both kinds of requirement have in common. -/
def countRequirement (em : Requirement) (add : Bool) : PowerBody Unit := do
  let p ← Body.get
  efmAssert ¬(p.requirementEmTable em = 255 ∧ add = true)
  efmAssert ¬(p.requirementEmTable em = 0 ∧ add = false)
  Body.modify fun p => p.counted em add

def updateEm1Requirement (add : Bool) : PowerBody Unit := do
  countRequirement .em1 add
  let p ← Body.get
  if add = true ∧ 2 ≤ p.currentEm.number ∧ p.isSleepingWaitingForClockRestore = false then
    clockRestore

section
variable (em3Allowed : Bool)

/-- The mode at which the loop over the table stops, with `SL_POWER_MANAGER_LOWEST_EM_ALLOWED`
3 or 2. -/
def getLowestEm (p : PowerManager) : Em :=
  if p.requirementEmTable .em1 ≠ 0 then .em1
  else if em3Allowed = false ∨ p.requirementEmTable .em2 ≠ 0 then .em2
  else .em3

def updateEmRequirement (em : Requirement) (add : Bool) : PowerBody Unit := do
  countRequirement em add
  let p ← Body.get
  if add = true ∧ 2 ≤ p.currentEm.number then
    let lowestEm := getLowestEm em3Allowed p
    if lowestEm.number ≤ 1 then
      clockRestoreAndWait
    else if p.currentEm = .em3 ∧ lowestEm = .em2 then
      Body.emit [.lowFrequencyRestore]
    if p.currentEm ≠ lowestEm then
      notifyEmTransition p.currentEm lowestEm
      Body.modify fun p => { p with currentEm := lowestEm }

/-- The power manager's own requirement goes, if it is there. -/
def removeOwnRequirement : PowerBody Unit := do
  let p ← Body.get
  if p.requirementOnEm1Added = true then
    updateEm1Requirement false
    Body.modify fun p => { p with requirementOnEm1Added := false }

def addOwnRequirement : PowerBody Unit := do
  updateEm1Requirement true
  Body.modify fun p => { p with requirementOnEm1Added := true }

/-! ## Sleeping -/

/-- The sum of an `int32_t` and an `uint32_t`, as the latter. -/
def wakeupDelay (cfgOverheadTick : Int32) (processTimeOverhead : UInt32) : UInt32 :=
  cfgOverheadTick.toUInt32 + processTimeOverhead

def evaluateWakeup : Em → PowerBody Unit
  | .em0 => removeOwnRequirement
  | .em1 => pure ()
  | .em2 | .em3 => do
    let env ← Body.environment
    let p ← Body.get
    match env.tickRemaining with
    | none => pure ()
    | some tickRemaining =>
      if tickRemaining ≤ p.highFrequencyMinOfftimeTick then
        addOwnRequirement
      else
        let delay := wakeupDelay p.wakeupTimeConfigOverheadTick env.wakeupProcessTimeOverhead
        efmAssert (0 ≤ delay.toInt32)
        if tickRemaining ≤ delay then
          addOwnRequirement
        else
          Body.emit [.restartClockWakeupTimer (tickRemaining - delay)]

/-- The part of the sleep loop that enters the mode. -/
def enterLowestEm : PowerBody Unit := do
  let p ← Body.get
  let lowestEm := getLowestEm em3Allowed p
  if 2 ≤ lowestEm.number ∧ p.isStatesSaved = false then
    Body.emit [.saveStates]
  if lowestEm ≠ p.currentEm then
    if p.isSleepingWaitingForClockRestore = false then
      notifyEmTransition p.currentEm lowestEm
    Body.modify fun p => { p with currentEm := lowestEm }
  if 2 ≤ lowestEm.number ∧ p.isStatesSaved = false then
    handlePreDeepsleepOperations
    Body.modify fun p => { p with isHfXOscillatorNotPreserved := true, isStatesSaved := true }
  let p ← Body.get
  Body.emit [.applyEm p.currentEm]
  if p.isSleepingWaitingForClockRestore = true then
    Body.modify fun p => { p with currentEm := p.waitingClockRestoreFromEm }

/-- The sleep loop up to the interrupts that end the sleep. -/
def goToSleep : PowerBody Unit := do
  removeOwnRequirement
  let p ← Body.get
  evaluateWakeup (getLowestEm em3Allowed p)
  enterLowestEm em3Allowed

/-- What follows the sleep loop. The loop in there that sleeps until the clock is ready is
never entered: it is. -/
def wakeUp : PowerBody Unit := do
  let p ← Body.get
  if p.isStatesSaved = true then
    Body.modify fun p => { p with isSleepingWaitingForClockRestore := false }
    if p.isHfXOscillatorNotPreserved = true then
      restoreHighFreqAccuracyClk
      Body.modify fun p => { p with isHfXOscillatorNotPreserved := false }
    Body.emit [.restoreStates]
    Body.modify fun p => { p with isStatesSaved := false }
  evaluateWakeup .em0
  let p ← Body.get
  notifyEmTransition p.currentEm .em0
  Body.modify fun p => { p with currentEm := .em0 }

/-- `sl_power_manager_sleep` until the CPU sleeps; the value says whether it does. -/
def sleep : PowerBody Bool := do
  let env ← Body.environment
  if env.isOkToSleep = true then
    goToSleep em3Allowed
    pure true
  else
    pure false

/-- `sl_power_manager_sleep` from there on, until the CPU sleeps again or the call returns. -/
def resume : PowerBody Bool := do
  Body.emit [.stopClockWakeupTimer]
  let env ← Body.environment
  if env.sleepOnIsrExit = true then
    goToSleep em3Allowed
    pure true
  else
    wakeUp
    pure false

def onClockWakeupTimeout : PowerBody Unit := do
  let p ← Body.get
  if p.isActivelyWaitingForClockRestore = true then
    pure ()
  else
    clockRestore

/-! ## The machine -/

inductive Entry where
  /-- The main loop calls `sl_power_manager_sleep`. -/
  | sleep
  /-- The interrupts that ended the sleep are served. -/
  | resume
  | updateEmRequirement (em : Requirement) (add : Bool)
  | clockWakeupTimeout
  | initiateRestore
  | subscribe (subscriber : Subscriber)
  | unsubscribe (handle : Nat)
  | setRestoreOverheadTick (overheadTick : Int32)
  | setMinimumOfftimeTick (offtimeTick : UInt32)

structure PowerInput where
  env : PowerEnv
  entry : Entry

structure PowerState where
  manager : PowerManager
  /-- In the sleep loop, where interrupts are served and the main loop is not. -/
  asleep : Bool

def Entry.body : Entry → PowerBody Unit
  | .updateEmRequirement em add => Power.updateEmRequirement em3Allowed em add
  | .clockWakeupTimeout => onClockWakeupTimeout
  | .initiateRestore => clockRestore
  | .subscribe subscriber => Body.modify fun p =>
    { p with emTransitionEventList := subscriber :: p.emTransitionEventList }
  | .unsubscribe handle => Body.modify fun p =>
    { p with emTransitionEventList := p.emTransitionEventList.eraseP (·.handle == handle) }
  | .setRestoreOverheadTick overheadTick => Body.modify fun p =>
    { p with wakeupTimeConfigOverheadTick := overheadTick }
  | .setMinimumOfftimeTick offtimeTick => Body.modify fun p =>
    { p with highFrequencyMinOfftimeTick := offtimeTick }
  | .sleep | .resume => pure ()

/-- The main loop cannot call while it sleeps, and only a sleep can be resumed. -/
def step (s : PowerState) (i : PowerInput) : PowerState × List PowerEffect :=
  match i.entry, s.asleep with
  | .sleep, false =>
    let r := (sleep em3Allowed).run i.env s.manager
    (⟨r.state, r.value⟩, r.effects)
  | .resume, true =>
    let r := (resume em3Allowed).run i.env s.manager
    (⟨r.state, r.value⟩, r.effects)
  | entry, asleep =>
    let r := (entry.body em3Allowed).run i.env s.manager
    (⟨r.state, asleep⟩, r.effects)

def powerOn (frequency : UInt32) : PowerState := ⟨init frequency, false⟩

def machine (frequency : UInt32) : Machine PowerState PowerInput (List PowerEffect) :=
  ⟨powerOn frequency, step em3Allowed⟩

end
end BleRemote.Power
