import BleRemote.Power.Manager

/-! What the functions of the power manager do, in the states in which they are called: no wait
for the clock is under way, and the clocks are saved if and only if the mode is a deep one. -/

set_option autoImplicit false
namespace BleRemote.Power

open Reactive

def Em.deep (em : Em) : Bool := 2 ≤ em.number

@[simp] theorem Em.deep_em0 : Em.em0.deep = false := rfl

@[simp] theorem Em.deep_em1 : Em.em1.deep = false := rfl

@[simp] theorem Em.deep_em2 : Em.em2.deep = true := rfl

@[simp] theorem Em.deep_em3 : Em.em3.deep = true := rfl

@[simp] theorem Em.two_le_number (em : Em) : 2 ≤ em.number ↔ em.deep = true :=
  decide_eq_true_iff.symm

@[simp] theorem Em.number_le_one (em : Em) : em.number ≤ 1 ↔ em.deep = false := by
  cases em <;> decide

/-- The clocks are as the mode wants them, and nobody waits for them. -/
structure Settled (p : PowerManager) : Prop where
  waiting : p.isSleepingWaitingForClockRestore = false
  active : p.isActivelyWaitingForClockRestore = false
  saved : p.isStatesSaved = p.currentEm.deep
  off : p.isHfXOscillatorNotPreserved = p.currentEm.deep

variable (env : PowerEnv) {p : PowerManager}

theorem outcome_eq {r : Outcome PowerManager PowerEffect Unit} {state : PowerManager}
    {effects : List PowerEffect} (left : r.state = state) (shown : r.effects = effects) :
    r = ⟨(), state, effects⟩ := by
  obtain rfl := left
  obtain rfl := shown
  rfl

@[simp] theorem run_efmAssert (holds : Prop) [Decidable holds] (p : PowerManager) :
    (efmAssert holds).run env p = ⟨(), p, if holds then [] else [.assertionFailed]⟩ := by
  unfold efmAssert
  split <;> rfl

@[simp] theorem run_notifyEmTransition (leaving entering : Em) (p : PowerManager) :
    (notifyEmTransition leaving entering).run env p = ⟨(), p, p.notified leaving entering⟩ := rfl

@[simp] theorem run_handlePreDeepsleepOperations (p : PowerManager) :
    handlePreDeepsleepOperations.run env p = ⟨(), p, []⟩ := rfl

@[simp] theorem run_restoreHighFreqAccuracyClk (p : PowerManager) :
    restoreHighFreqAccuracyClk.run env p = ⟨(), p, []⟩ := rfl

@[simp] theorem isHighFreqAccuracyClkReady_eq (wait : Bool) : isHighFreqAccuracyClkReady wait = true := rfl

/-! ## Counting -/

@[simp] theorem counted_table (em other : Requirement) (add : Bool) :
    (p.counted em add).requirementEmTable other =
      if other = em then p.requirementEmTable em + if add = true then 1 else -1
      else p.requirementEmTable other :=
  Function.update_apply ..

theorem succ_toNat {counter : UInt8} (room : counter ≠ 255) : (counter + 1).toNat = counter.toNat + 1 := by
  have small : counter.toNat ≠ 255 := fun full => room (UInt8.toNat_inj.mp full)
  have bound := counter.toNat_lt
  rw [UInt8.toNat_add]
  simp
  omega

theorem pred_toNat {counter : UInt8} (held : counter ≠ 0) : (counter + -1).toNat = counter.toNat - 1 := by
  have positive : counter.toNat ≠ 0 := fun zero => held (UInt8.toNat_inj.mp zero)
  have bound := counter.toNat_lt
  rw [UInt8.toNat_add]
  simp
  omega

theorem succ_ne_zero {counter : UInt8} (room : counter ≠ 255) : counter + 1 ≠ 0 := by
  intro zero
  have next := succ_toNat room
  rw [zero] at next
  simp at next

theorem run_countRequirement (em : Requirement) (add : Bool)
    (room : add = true → p.requirementEmTable em ≠ 255)
    (held : add = false → p.requirementEmTable em ≠ 0) :
    (countRequirement em add).run env p = ⟨(), p.counted em add, []⟩ := by
  have above : ¬(p.requirementEmTable em = 255 ∧ add = true) := fun full => room full.2 full.1
  have below : ¬(p.requirementEmTable em = 0 ∧ add = false) := fun empty => held empty.2 empty.1
  apply outcome_eq
  · simp [countRequirement]
  · simp only [countRequirement, Body.run_bind_effects, Body.run_get, run_efmAssert, above, below,
      not_false_eq_true, if_true, Body.run_modify, List.append_nil]

/-! ## Restoring the clocks -/

def PowerManager.restored (p : PowerManager) : PowerManager :=
  { p with isStatesSaved := false, isHfXOscillatorNotPreserved := false }

theorem run_clockRestore_idle (restored : p.isStatesSaved = false) :
    clockRestore.run env p = ⟨(), p, []⟩ := by
  apply outcome_eq <;> simp [clockRestore, restored]

theorem run_clockRestore_saved (saved : p.isStatesSaved = true)
    (off : p.isHfXOscillatorNotPreserved = true) :
    clockRestore.run env p =
      ⟨(), { p.restored with currentEm := .em1 }, .restoreStates :: p.notified p.currentEm .em1⟩ := by
  apply outcome_eq
  · simp [clockRestore, saved, off, PowerManager.restored]
  · simp [clockRestore, saved, off]
    rfl

theorem run_clockRestoreAndWait (settled : Settled p) (deep : p.currentEm.deep = true) :
    clockRestoreAndWait.run env p = ⟨(), p.restored, [.restoreStates]⟩ := by
  obtain ⟨waiting, active, saved, off⟩ := settled
  obtain ⟨table, em, waitingFrom, isWaiting, isSaved, list, own, minOfftime, overhead, isOff, isActive⟩ := p
  obtain rfl : isWaiting = false := waiting
  obtain rfl : isActive = false := active
  obtain rfl : isSaved = true := saved.trans deep
  obtain rfl : isOff = true := off.trans deep
  rfl

/-! ## The power manager's own requirement -/

/-- Its own requirement is gone. -/
def PowerManager.withoutOwn (p : PowerManager) : PowerManager :=
  { p with
    requirementEmTable := if p.requirementOnEm1Added = true then (p.counted .em1 false).requirementEmTable
      else p.requirementEmTable
    requirementOnEm1Added := false }

@[simp] theorem withoutOwn_notified (p : PowerManager) (leaving entering : Em) :
    p.withoutOwn.notified leaving entering = p.notified leaving entering := rfl

theorem run_removeOwnRequirement (held : p.requirementOnEm1Added = true → p.requirementEmTable .em1 ≠ 0) :
    removeOwnRequirement.run env p = ⟨(), p.withoutOwn, []⟩ := by
  unfold PowerManager.withoutOwn
  by_cases added : p.requirementOnEm1Added = true
  · have counted := run_countRequirement env (p := p) .em1 false nofun fun _ => held added
    apply outcome_eq <;>
      simp [removeOwnRequirement, updateEm1Requirement, added, counted, PowerManager.counted]
  · obtain ⟨table, em, waitingFrom, waiting, saved, list, own, minOfftime, overhead, off, active⟩ := p
    obtain rfl : own = false := Bool.eq_false_iff.mpr added
    rfl

def PowerManager.withOwn (p : PowerManager) : PowerManager :=
  { p.counted .em1 true with requirementOnEm1Added := true }

theorem run_addOwnRequirement_awake (room : p.requirementEmTable .em1 ≠ 255)
    (awake : p.currentEm.deep = false) :
    addOwnRequirement.run env p = ⟨(), p.withOwn, []⟩ := by
  have counted := run_countRequirement env (p := p) .em1 true (fun _ => room) nofun
  have deep : (p.counted .em1 true).currentEm.deep = false := awake
  apply outcome_eq <;>
    simp [addOwnRequirement, updateEm1Requirement, counted, deep, PowerManager.withOwn]

theorem run_addOwnRequirement_deep (room : p.requirementEmTable .em1 ≠ 255) (settled : Settled p)
    (deep : p.currentEm.deep = true) :
    addOwnRequirement.run env p =
      ⟨(), { p.withOwn.restored with currentEm := .em1 }, .restoreStates :: p.notified p.currentEm .em1⟩ := by
  have counted := run_countRequirement env (p := p) .em1 true (fun _ => room) nofun
  have mode : (p.counted .em1 true).currentEm.deep = true := deep
  have waiting : (p.counted .em1 true).isSleepingWaitingForClockRestore = false := settled.waiting
  have restore := run_clockRestore_saved env (p := p.counted .em1 true) (settled.saved.trans deep)
    (settled.off.trans deep)
  apply outcome_eq
  · simp [addOwnRequirement, updateEm1Requirement, counted, mode, waiting, restore, PowerManager.withOwn,
      PowerManager.restored]
  · simp [addOwnRequirement, updateEm1Requirement, counted, mode, waiting, restore]
    rfl

/-- With its own requirement, for which the clocks had to be restored if the mode was a deep one. -/
def PowerManager.ownAdded (p : PowerManager) : PowerManager :=
  if p.currentEm.deep = true then { p.withOwn.restored with currentEm := .em1 } else p.withOwn

def PowerManager.ownEffects (p : PowerManager) : List PowerEffect :=
  if p.currentEm.deep = true then .restoreStates :: p.notified p.currentEm .em1 else []

theorem run_addOwnRequirement (room : p.requirementEmTable .em1 ≠ 255) (settled : Settled p) :
    addOwnRequirement.run env p = ⟨(), p.ownAdded, p.ownEffects⟩ := by
  unfold PowerManager.ownAdded PowerManager.ownEffects
  cases deep : p.currentEm.deep with
  | true => exact run_addOwnRequirement_deep env room settled deep
  | false => exact run_addOwnRequirement_awake env room deep

/-! ## Evaluating the wakeup -/

/-- The next timer is due before sleeping deeply is worth it, or before the wakeup is done. -/
def PowerManager.timerSoon (p : PowerManager) (env : PowerEnv) : Bool :=
  env.tickRemaining.any fun t => t ≤ p.highFrequencyMinOfftimeTick ||
    t ≤ wakeupDelay p.wakeupTimeConfigOverheadTick env.wakeupProcessTimeOverhead

/-- The assertion on the delay, where it is reached. -/
def PowerManager.delayCheck (p : PowerManager) (env : PowerEnv) : List PowerEffect :=
  if env.tickRemaining.any (p.highFrequencyMinOfftimeTick < ·) = true then
    if 0 ≤ (wakeupDelay p.wakeupTimeConfigOverheadTick env.wakeupProcessTimeOverhead).toInt32 then []
    else [.assertionFailed]
  else []

def PowerManager.earlyWakeup (p : PowerManager) (env : PowerEnv) : List PowerEffect :=
  env.tickRemaining.toList.map fun t => .restartClockWakeupTimer
    (t - wakeupDelay p.wakeupTimeConfigOverheadTick env.wakeupProcessTimeOverhead)

theorem run_evaluateWakeup_soon {em : Em} (deep : em.deep = true) (soon : p.timerSoon env = true)
    (room : p.requirementEmTable .em1 ≠ 255) (settled : Settled p) :
    (evaluateWakeup em).run env p = ⟨(), p.ownAdded, p.delayCheck env ++ p.ownEffects⟩ := by
  have own := run_addOwnRequirement env room settled
  unfold PowerManager.timerSoon at soon
  unfold PowerManager.delayCheck
  cases remaining : env.tickRemaining with
  | none => simp [remaining] at soon
  | some t =>
    rw [remaining, Option.any_some, Bool.or_eq_true, decide_eq_true_iff, decide_eq_true_iff] at soon
    have eq : evaluateWakeup em = evaluateWakeup .em2 := by cases em <;> first | rfl | cases deep
    rw [eq]
    by_cases short : t ≤ p.highFrequencyMinOfftimeTick
    · apply outcome_eq <;> simp [evaluateWakeup, remaining, short, own, UInt32.not_lt.mpr short]
    · have slow := soon.resolve_left short
      apply outcome_eq <;> simp [evaluateWakeup, remaining, short, slow, own, UInt32.not_le.mp short]

theorem run_evaluateWakeup_far {em : Em} (deep : em.deep = true) (far : p.timerSoon env = false) :
    (evaluateWakeup em).run env p = ⟨(), p, p.delayCheck env ++ p.earlyWakeup env⟩ := by
  unfold PowerManager.timerSoon at far
  unfold PowerManager.delayCheck PowerManager.earlyWakeup
  have eq : evaluateWakeup em = evaluateWakeup .em2 := by cases em <;> first | rfl | cases deep
  rw [eq]
  cases remaining : env.tickRemaining with
  | none => apply outcome_eq <;> simp [evaluateWakeup, remaining]
  | some t =>
    rw [remaining, Option.any_some, Bool.or_eq_false_iff, decide_eq_false_iff_not,
      decide_eq_false_iff_not] at far
    apply outcome_eq <;> simp [evaluateWakeup, remaining, far.1, far.2, UInt32.not_le.mp far.1]

/-! ## Entering and leaving a mode -/

/-- In this mode, with the clocks as it wants them. -/
def PowerManager.entered (p : PowerManager) (em : Em) : PowerManager :=
  { p with currentEm := em, isStatesSaved := em.deep, isHfXOscillatorNotPreserved := em.deep }

def PowerManager.moves (p : PowerManager) (em : Em) : List PowerEffect :=
  if em = p.currentEm then [] else p.notified p.currentEm em

section
variable (em3Allowed : Bool)

theorem run_enterLowestEm {em : Em} (lowest : getLowestEm em3Allowed p = em) (settled : Settled p)
    (stays : p.currentEm.deep = true → em.deep = true) :
    (enterLowestEm em3Allowed).run env p =
      ⟨(), p.entered em,
        (if em.deep = true ∧ p.currentEm.deep = false then [.saveStates] else []) ++ p.moves em ++
          [.applyEm em]⟩ := by
  obtain ⟨waiting, active, saved, off⟩ := settled
  obtain ⟨table, mode, waitingFrom, isWaiting, isSaved, list, own, minOfftime, overhead, isOff, isActive⟩ := p
  obtain rfl : isWaiting = false := waiting
  obtain rfl : isActive = false := active
  obtain rfl : isSaved = mode.deep := saved
  obtain rfl : isOff = mode.deep := off
  have deep : mode.deep = true → em.deep = true := stays
  apply outcome_eq
  · rw [enterLowestEm, Body.run_bind_state, Body.run_get, lowest]
    cases em <;> cases mode <;> first | rfl | exact absurd (deep rfl) Bool.false_ne_true
  · rw [enterLowestEm, Body.run_bind_effects, Body.run_get, lowest]
    cases em <;> cases mode <;> rfl

theorem run_wakeUp (settled : Settled p)
    (held : p.requirementOnEm1Added = true → p.requirementEmTable .em1 ≠ 0) :
    wakeUp.run env p =
      ⟨(), p.withoutOwn.entered .em0,
        (if p.currentEm.deep = true then [.restoreStates] else []) ++ p.notified p.currentEm .em0⟩ := by
  obtain ⟨waiting, -, saved, off⟩ := settled
  cases deep : p.currentEm.deep with
  | false =>
    have own := run_removeOwnRequirement env held
    apply outcome_eq
    · simp [wakeUp, evaluateWakeup, saved, deep, own, PowerManager.entered, PowerManager.withoutOwn, off]
    · simp [wakeUp, evaluateWakeup, saved, deep, own]
      rfl
  | true =>
    have own := run_removeOwnRequirement env (p := { p with
      isSleepingWaitingForClockRestore := false
      isStatesSaved := false
      isHfXOscillatorNotPreserved := false }) held
    apply outcome_eq
    · simp [wakeUp, evaluateWakeup, saved, off, deep, own, PowerManager.entered, PowerManager.withoutOwn,
        waiting]
      rfl
    · simp [wakeUp, evaluateWakeup, saved, off, deep, own]
      rfl

theorem run_updateEmRequirement_counted {em : Requirement} {add : Bool}
    (room : add = true → p.requirementEmTable em ≠ 255)
    (held : add = false → p.requirementEmTable em ≠ 0)
    (plain : add = true → p.currentEm.deep = false) :
    (updateEmRequirement em3Allowed em add).run env p = ⟨(), p.counted em add, []⟩ := by
  have counted := run_countRequirement env em add room held
  have mode : ¬(add = true ∧ (p.counted em add).currentEm.deep = true) :=
    fun both => Bool.false_ne_true ((plain both.1).symm.trans both.2)
  apply outcome_eq <;> simp [updateEmRequirement, counted, mode]

theorem getLowestEm_em1 (held : p.requirementEmTable .em1 ≠ 0) : getLowestEm em3Allowed p = .em1 :=
  if_pos held

theorem getLowestEm_em2 (free : p.requirementEmTable .em1 = 0) (held : p.requirementEmTable .em2 ≠ 0) :
    getLowestEm em3Allowed p = .em2 := by
  rw [getLowestEm, if_neg (not_not.mpr free), if_pos (.inr held)]

theorem run_updateEmRequirement_em1 (settled : Settled p) (deep : p.currentEm.deep = true)
    (room : p.requirementEmTable .em1 ≠ 255) :
    (updateEmRequirement em3Allowed .em1 true).run env p =
      ⟨(), { (p.counted .em1 true).restored with currentEm := .em1 },
        .restoreStates :: p.notified p.currentEm .em1⟩ := by
  have counted := run_countRequirement env (p := p) .em1 true (fun _ => room) nofun
  have lowest : getLowestEm em3Allowed (p.counted .em1 true) = .em1 := by
    apply getLowestEm_em1
    simpa using succ_ne_zero room
  have restore := run_clockRestoreAndWait env (p := p.counted .em1 true)
    ⟨settled.waiting, settled.active, settled.saved, settled.off⟩ deep
  have mode : (p.counted .em1 true).currentEm.deep = true := deep
  have moved : (p.counted .em1 true).currentEm ≠ .em1 := fun same => by simp [same] at mode
  apply outcome_eq
  · simp [updateEmRequirement, counted, lowest, mode, restore, moved]
  · simp [updateEmRequirement, counted, lowest, mode, restore, moved]
    rfl

theorem run_updateEmRequirement_em2 (deep : p.currentEm.deep = true)
    (room : p.requirementEmTable .em2 ≠ 255) (free : p.requirementEmTable .em1 = 0) :
    (updateEmRequirement em3Allowed .em2 true).run env p =
      ⟨(), { p.counted .em2 true with currentEm := .em2 },
        if p.currentEm = .em3 then .lowFrequencyRestore :: p.notified .em3 .em2 else []⟩ := by
  have counted := run_countRequirement env (p := p) .em2 true (fun _ => room) nofun
  have lowest : getLowestEm em3Allowed (p.counted .em2 true) = .em2 := by
    apply getLowestEm_em2
    · simpa using free
    · simpa using succ_ne_zero room
  have mode : (p.counted .em2 true).currentEm = p.currentEm := rfl
  cases current : p.currentEm with
  | em0 | em1 => simp [current] at deep
  | em2 =>
    have same : { p.counted .em2 true with currentEm := .em2 } = p.counted .em2 true := by
      rw [← current]
      rfl
    apply outcome_eq <;> simp [updateEmRequirement, counted, lowest, mode, current, same]
  | em3 =>
    apply outcome_eq
    · simp [updateEmRequirement, counted, lowest, mode, current]
    · simp [updateEmRequirement, counted, lowest, mode, current]
      rfl

end
end BleRemote.Power
