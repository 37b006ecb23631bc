import BleRemote.Power.Cases
import BleRemote.Reactive.Simulation

/-! What the power manager is for: it sleeps in the deepest mode that nothing forbids, and the
clocks are always there when they are needed. The code refines the machine that only counts
the requirements, as long as nobody removes a requirement that nobody has.
-/

set_option autoImplicit false
namespace BleRemote.Power

open Reactive

/-! ## The abstract machine -/

inductive SleepEvent where
  /-- There will be an early wakeup after so many ticks. -/
  | wakesAfter (ticks : UInt32)
  | sleeps (em : Em)
  deriving DecidableEq

/-- One more or one fewer of these requirements. -/
def recount (outstanding : Requirement → Nat) (em : Requirement) (add : Bool) : Requirement → Nat :=
  Function.update outstanding em (if add = true then outstanding em + 1 else outstanding em - 1)

theorem recount_apply (outstanding : Requirement → Nat) (em other : Requirement) (add : Bool) :
    recount outstanding em add other =
      if other = em then if add = true then outstanding em + 1 else outstanding em - 1
      else outstanding other :=
  Function.update_apply ..

@[simp] theorem recount_add (outstanding : Requirement → Nat) (em : Requirement) :
    recount outstanding em true em = outstanding em + 1 := by
  rw [recount_apply, if_pos rfl, if_pos rfl]

@[simp] theorem recount_remove (outstanding : Requirement → Nat) (em : Requirement) :
    recount outstanding em false em = outstanding em - 1 := by
  rw [recount_apply, if_pos rfl, if_neg Bool.false_ne_true]

theorem recount_other (outstanding : Requirement → Nat) {em other : Requirement} (add : Bool)
    (apart : other ≠ em) : recount outstanding em add other = outstanding other := by
  rw [recount_apply, if_neg apart]

structure Demand where
  outstanding : Requirement → Nat
  asleep : Bool
  minOfftime : UInt32
  overhead : Int32

namespace Demand

def delay (v : Demand) (env : PowerEnv) : UInt32 := wakeupDelay v.overhead env.wakeupProcessTimeOverhead

/-- Too soon for a deep sleep. -/
def timerSoon (v : Demand) (env : PowerEnv) : Bool :=
  env.tickRemaining.any fun t => t ≤ v.minOfftime || t ≤ v.delay env

def counted (v : Demand) (em : Requirement) (add : Bool) : Demand :=
  { v with outstanding := recount v.outstanding em add }

@[simp] theorem counted_outstanding (v : Demand) (em : Requirement) (add : Bool) :
    (v.counted em add).outstanding = recount v.outstanding em add := rfl

section
variable (em3Allowed : Bool)

/-- The deepest mode that no requirement forbids. -/
def lowest (v : Demand) : Em :=
  if 0 < v.outstanding .em1 then .em1
  else if em3Allowed = false ∨ 0 < v.outstanding .em2 then .em2
  else .em3

def sleepEvents (v : Demand) (env : PowerEnv) : List SleepEvent :=
  if 0 < v.outstanding .em1 ∨ v.timerSoon env = true then [.sleeps .em1]
  else env.tickRemaining.toList.map (fun t => .wakesAfter (t - v.delay env)) ++
    [.sleeps (v.lowest em3Allowed)]

def step (v : Demand) (i : PowerInput) : Demand × List SleepEvent :=
  match i.entry, v.asleep with
  | .sleep, false =>
    if i.env.isOkToSleep = true then ({ v with asleep := true }, v.sleepEvents em3Allowed i.env)
    else (v, [])
  | .resume, true =>
    if i.env.sleepOnIsrExit = true then (v, v.sleepEvents em3Allowed i.env)
    else ({ v with asleep := false }, [])
  | .updateEmRequirement em add, _ => (v.counted em add, [])
  | .setRestoreOverheadTick overheadTick, _ => ({ v with overhead := overheadTick }, [])
  | .setMinimumOfftimeTick offtimeTick, _ => ({ v with minOfftime := offtimeTick }, [])
  | _, _ => (v, [])

def powerOn (frequency : UInt32) : Demand := ⟨fun _ => 0, false, convertDelayUsToTick frequency 600, 0⟩

def machine (frequency : UInt32) : Machine Demand PowerInput (List SleepEvent) :=
  ⟨powerOn frequency, step em3Allowed⟩

end

/-- How many requirements there may be: the counters have eight bits, and the power manager adds
its own to the first. -/
def limit : Requirement → Nat
  | .em1 => 254
  | .em2 => 255

/-- Only what was added is removed, and not more is added than can be counted. -/
def MayCount (v : Demand) (em : Requirement) (add : Bool) : Prop :=
  if add = true then v.outstanding em < limit em else 0 < v.outstanding em

instance (v : Demand) (em : Requirement) (add : Bool) : Decidable (v.MayCount em add) :=
  inferInstanceAs (Decidable (ite _ _ _))

def Allows (v : Demand) (i : PowerInput) : Prop :=
  match i.entry with
  | .updateEmRequirement em add => v.MayCount em add
  | _ => True

instance (v : Demand) (i : PowerInput) : Decidable (v.Allows i) := by
  unfold Allows
  split <;> infer_instance

/-- The delay of a wakeup is not negative. -/
def DelayFits (v : Demand) (env : PowerEnv) : Prop := 0 ≤ (v.delay env).toInt32

instance (v : Demand) (env : PowerEnv) : Decidable (v.DelayFits env) :=
  inferInstanceAs (Decidable (_ ≤ _))

end Demand

def SleepEvent.ofEffect : PowerEffect → Option SleepEvent
  | .applyEm em => some (.sleeps em)
  | .restartClockWakeupTimer timeout => some (.wakesAfter timeout)
  | _ => none

def sleepEventsOf (effects : List PowerEffect) : List SleepEvent := effects.filterMap SleepEvent.ofEffect

/-! ## The clocks -/

/-- The mode that was announced last, and the clocks: the high frequency is off while it is saved. -/
structure Clocks where
  mode : Em
  saved : Bool
  lowFrequency : Bool
  deriving DecidableEq

/-- What may happen when: a mode is announced from the one announced before, when the clocks are
as the mode wants them; it is entered after that; nothing is saved or restored twice. -/
def Clocks.next (c : Clocks) : PowerEffect → Option Clocks
  | .saveStates => if c.saved = false then some { c with saved := true } else none
  | .restoreStates => if c.saved = true then some { c with saved := false, lowFrequency := true } else none
  | .lowFrequencyRestore => some { c with lowFrequency := true }
  | .notifyEmTransition leaving entering =>
    if leaving = c.mode ∧ leaving ≠ entering ∧ c.saved = entering.deep ∧
        (entering = .em3 ∨ c.lowFrequency = true) then some { c with mode := entering }
    else none
  | .applyEm em =>
    if em = c.mode ∧ em ≠ .em0 ∧ c.saved = em.deep then some { c with lowFrequency := em ≠ .em3 }
    else none
  | .assertionFailed | .onEvent .. | .restartClockWakeupTimer _ | .stopClockWakeupTimer => some c

def clocks (p : PowerManager) : Clocks := ⟨p.currentEm, p.isStatesSaved, p.currentEm ≠ .em3⟩

/-! ## The invariant -/

structure Sound (em3Allowed : Bool) (p : PowerManager) (v : Demand) : Prop where
  settled : Settled p
  em1 : (p.requirementEmTable .em1).toNat =
    v.outstanding .em1 + if p.requirementOnEm1Added = true then 1 else 0
  em2 : (p.requirementEmTable .em2).toNat = v.outstanding .em2
  minOfftime : p.highFrequencyMinOfftimeTick = v.minOfftime
  overhead : p.wakeupTimeConfigOverheadTick = v.overhead
  deep : p.currentEm.deep = true → p.requirementOnEm1Added = false ∧ v.outstanding .em1 = 0
  em3 : p.currentEm = .em3 → v.lowest em3Allowed = .em3

structure Kept (em3Allowed : Bool) (s : PowerState) (v : Demand) : Prop where
  sound : Sound em3Allowed s.manager v
  asleep : s.asleep = v.asleep
  awake : v.asleep = false → s.manager.currentEm = .em0 ∧ s.manager.requirementOnEm1Added = false
  sleeping : v.asleep = true → s.manager.currentEm ≠ .em0

section
variable {em3Allowed : Bool} {p : PowerManager} {v : Demand} (sound : Sound em3Allowed p v)
include sound

theorem Sound.held (added : p.requirementOnEm1Added = true) : p.requirementEmTable .em1 ≠ 0 := by
  intro zero
  have counted := sound.em1
  rw [zero, added, if_pos rfl, UInt8.toNat_zero] at counted
  omega

theorem Sound.withoutOwn : Sound em3Allowed p.withoutOwn v := by
  refine ⟨⟨sound.settled.waiting, sound.settled.active, sound.settled.saved, sound.settled.off⟩, ?_,
    ?_, sound.minOfftime, sound.overhead, fun deep => ⟨rfl, (sound.deep deep).2⟩, sound.em3⟩
  · have counted := sound.em1
    cases added : p.requirementOnEm1Added with
    | true =>
      have table : p.withoutOwn.requirementEmTable .em1 = p.requirementEmTable .em1 + -1 := by
        simp [PowerManager.withoutOwn, added]
      rw [added, if_pos rfl] at counted
      rw [table, pred_toNat (sound.held added)]
      simp only [PowerManager.withoutOwn, Bool.false_eq_true, if_false]
      omega
    | false => simpa [PowerManager.withoutOwn, added] using counted
  · have counted := sound.em2
    unfold PowerManager.withoutOwn
    split
    · simpa using counted
    · exact counted

theorem Sound.lowest (none : p.requirementOnEm1Added = false) :
    getLowestEm em3Allowed p = v.lowest em3Allowed := by
  have em1 := sound.em1
  rw [none, if_neg Bool.false_ne_true, Nat.add_zero] at em1
  have held (em : Requirement) (count : (p.requirementEmTable em).toNat = v.outstanding em) :
      p.requirementEmTable em ≠ 0 ↔ 0 < v.outstanding em := by
    rw [← count, Nat.pos_iff_ne_zero, ne_eq, ← UInt8.toNat_inj]
    rfl
  simp only [getLowestEm, Demand.lowest, held .em1 em1, held .em2 sound.em2]

theorem Sound.timerSoon (env : PowerEnv) : p.timerSoon env = v.timerSoon env := by
  rw [PowerManager.timerSoon, Demand.timerSoon, Demand.delay, sound.minOfftime, sound.overhead]

theorem Sound.entered {em : Em}
    (deep : em.deep = true → p.requirementOnEm1Added = false ∧ v.outstanding .em1 = 0)
    (em3 : em = .em3 → v.lowest em3Allowed = .em3) : Sound em3Allowed (p.entered em) v :=
  ⟨⟨sound.settled.waiting, sound.settled.active, rfl, rfl⟩, sound.em1, sound.em2, sound.minOfftime,
    sound.overhead, deep, em3⟩

theorem Sound.empty (none : p.requirementOnEm1Added = false) (free : v.outstanding .em1 = 0) :
    p.requirementEmTable .em1 = 0 := by
  have counted := sound.em1
  rw [none, free, if_neg Bool.false_ne_true] at counted
  exact UInt8.toNat_inj.mp counted

theorem Sound.withOwn (none : p.requirementOnEm1Added = false) (free : v.outstanding .em1 = 0) :
    p.withOwn.requirementEmTable .em1 = 1 ∧
      p.withOwn.requirementEmTable .em2 = p.requirementEmTable .em2 := by
  simp [PowerManager.withOwn, sound.empty none free]

theorem Sound.ownAdded (none : p.requirementOnEm1Added = false) (free : v.outstanding .em1 = 0) :
    Sound em3Allowed p.ownAdded v ∧ p.ownAdded.currentEm.deep = false ∧
      p.ownAdded.requirementEmTable .em1 ≠ 0 := by
  obtain ⟨em1, em2⟩ := sound.withOwn none free
  have one : (p.withOwn.requirementEmTable .em1).toNat =
      v.outstanding .em1 + if p.withOwn.requirementOnEm1Added = true then 1 else 0 := by
    rw [em1, free]
    rfl
  have two := (congrArg UInt8.toNat em2).trans sound.em2
  unfold PowerManager.ownAdded
  split
  · next deep =>
    refine ⟨⟨⟨sound.settled.waiting, sound.settled.active, rfl, rfl⟩, one, two, sound.minOfftime,
      sound.overhead, nofun, nofun⟩, rfl, ?_⟩
    exact em1 ▸ by decide
  · next awake =>
    refine ⟨⟨⟨sound.settled.waiting, sound.settled.active, sound.settled.saved, sound.settled.off⟩, one,
      two, sound.minOfftime, sound.overhead, fun deep => absurd deep awake, sound.em3⟩, Bool.eq_false_iff.mpr awake, ?_⟩
    exact em1 ▸ by decide

end

/-! ## What the effects do -/

def transitionsOf (effects : List PowerEffect) : List (Em × Em) :=
  effects.filterMap fun
    | .notifyEmTransition leaving entering => some (leaving, entering)
    | _ => none

def callbacksOf (effects : List PowerEffect) : List (Nat × Em × Em) :=
  effects.filterMap fun
    | .onEvent handle leaving entering => some (handle, leaving, entering)
    | _ => none

section
variable (p : PowerManager) (leaving entering : Em) (first rest : List PowerEffect)

theorem follow_notified (c : Clocks) :
    follow Clocks.next c (p.notified leaving entering) = c.next (.notifyEmTransition leaving entering) := by
  rw [PowerManager.notified, follow_cons]
  cases moved : c.next (.notifyEmTransition leaving entering) with
  | none => rfl
  | some d =>
    apply follow_idle
    intro e member
    obtain ⟨s, -, rfl⟩ := List.mem_map.mp member
    rfl

@[simp] theorem sleepEventsOf_append :
    sleepEventsOf (first ++ rest) = sleepEventsOf first ++ sleepEventsOf rest :=
  List.filterMap_append

@[simp] theorem transitionsOf_append :
    transitionsOf (first ++ rest) = transitionsOf first ++ transitionsOf rest :=
  List.filterMap_append

@[simp] theorem callbacksOf_append :
    callbacksOf (first ++ rest) = callbacksOf first ++ callbacksOf rest :=
  List.filterMap_append

@[simp] theorem sleepEventsOf_notified : sleepEventsOf (p.notified leaving entering) = [] := by
  simp [sleepEventsOf, PowerManager.notified, SleepEvent.ofEffect]

@[simp] theorem transitionsOf_notified :
    transitionsOf (p.notified leaving entering) = [(leaving, entering)] := by
  simp [transitionsOf, PowerManager.notified]

@[simp] theorem callbacksOf_notified : callbacksOf (p.notified leaving entering) =
    (p.listeners leaving entering).map fun s => (s.handle, leaving, entering) := by
  simp [callbacksOf, PowerManager.notified]

theorem notified_quiet : .assertionFailed ∉ p.notified leaving entering := by
  simp [PowerManager.notified]

end

/-- Effects after which the clocks are so: the sleeps in them are these, every transition is
announced to those who want to hear of it and to nobody else, and under the assumption no
assertion fails. -/
structure Does (fine : Prop) (p : PowerManager) (c : Clocks) (effects : List PowerEffect) (d : Clocks)
    (events : List SleepEvent) : Prop where
  clocks : follow Clocks.next c effects = some d
  events : sleepEventsOf effects = events
  callbacks : callbacksOf effects = (transitionsOf effects).flatMap fun t =>
    (p.listeners t.1 t.2).map fun s => (s.handle, t)
  quiet : fine → .assertionFailed ∉ effects

section
variable {fine : Prop} {p q : PowerManager} {v : Demand} {b c d : Clocks} {first rest : List PowerEffect}
  {events later : List SleepEvent}

theorem Does.append (before : Does fine p b first c events) (after : Does fine p c rest d later) :
    Does fine p b (first ++ rest) d (events ++ later) where
  clocks := by rw [follow_append, before.clocks, Option.bind_some, after.clocks]
  events := by rw [sleepEventsOf_append, before.events, after.events]
  callbacks := by
    rw [callbacksOf_append, transitionsOf_append, List.flatMap_append, before.callbacks, after.callbacks]
  quiet assumed := by
    rw [List.mem_append, not_or]
    exact ⟨before.quiet assumed, after.quiet assumed⟩

theorem does_nothing : Does fine p c [] c [] := ⟨rfl, rfl, rfl, fun _ => List.not_mem_nil⟩

theorem does_notified {leaving entering : Em} (next : c.next (.notifyEmTransition leaving entering) = some d) :
    Does fine p c (p.notified leaving entering) d [] where
  clocks := by rw [follow_notified, next]
  events := sleepEventsOf_notified p leaving entering
  callbacks := by simp
  quiet _ := notified_quiet p leaving entering

theorem does_saveStates (running : c.saved = false) :
    Does fine p c [.saveStates] { c with saved := true } [] :=
  ⟨by simp [Clocks.next, running], rfl, rfl, fun _ => by simp⟩

theorem does_restoreStates (saved : c.saved = true) :
    Does fine p c [.restoreStates] { c with saved := false, lowFrequency := true } [] :=
  ⟨by simp [Clocks.next, saved], rfl, rfl, fun _ => by simp⟩

theorem does_lowFrequencyRestore : Does fine p c [.lowFrequencyRestore] { c with lowFrequency := true } [] :=
  ⟨rfl, rfl, rfl, fun _ => by simp⟩

theorem does_applyEm {em : Em} (announced : em = c.mode) (sleeps : em ≠ .em0) (saved : c.saved = em.deep) :
    Does fine p c [.applyEm em] { c with lowFrequency := em ≠ .em3 } [.sleeps em] :=
  ⟨by simp [Clocks.next, announced.symm, sleeps, saved], rfl, rfl, fun _ => by simp⟩

theorem does_stopClockWakeupTimer : Does fine p c [.stopClockWakeupTimer] c [] :=
  ⟨rfl, rfl, rfl, fun _ => by simp⟩

theorem does_delayCheck (env : PowerEnv) :
    Does (0 ≤ (wakeupDelay p.wakeupTimeConfigOverheadTick env.wakeupProcessTimeOverhead).toInt32) p c
      (p.delayCheck env) c [] := by
  unfold PowerManager.delayCheck
  split
  · split
    · exact does_nothing
    · next negative => exact ⟨rfl, rfl, rfl, fun positive => absurd positive negative⟩
  · exact does_nothing

theorem does_earlyWakeup (env : PowerEnv) :
    Does fine p c (p.earlyWakeup env) c (env.tickRemaining.toList.map fun t =>
      .wakesAfter (t - wakeupDelay p.wakeupTimeConfigOverheadTick env.wakeupProcessTimeOverhead)) := by
  unfold PowerManager.earlyWakeup
  cases env.tickRemaining with
  | none => exact does_nothing
  | some t => exact ⟨rfl, rfl, rfl, fun _ => by simp⟩

/-- The clocks are restored, and then the mode that needs them is announced. -/
theorem does_restore {em : Em} (settled : Settled p) (deep : p.currentEm.deep = true) (light : em.deep = false) :
    Does fine p (clocks p) (.restoreStates :: p.notified p.currentEm em) ⟨em, false, true⟩ [] := by
  have saved : (clocks p).saved = true := settled.saved.trans deep
  have other : p.currentEm ≠ em := fun same => by rw [same, light] at deep; cases deep
  have announced : Does fine p ⟨p.currentEm, false, true⟩ (p.notified p.currentEm em) ⟨em, false, true⟩ [] := by
    apply does_notified
    simp [Clocks.next, other, light]
  exact (does_restoreStates saved).append announced

theorem does_ownEffects (settled : Settled p) : Does fine p (clocks p) p.ownEffects (clocks p.ownAdded) [] := by
  unfold PowerManager.ownEffects PowerManager.ownAdded
  split
  · next deep => exact does_restore settled deep rfl
  · exact does_nothing

/-- The mode is announced and entered, with the clocks saved before if it is the first deep one. -/
theorem does_enter {em : Em} (settled : Settled p) (sleeps : em ≠ .em0)
    (stays : p.currentEm.deep = true → em.deep = true) (deepest : p.currentEm = .em3 → em = .em3) :
    Does fine p (clocks p)
      ((if em.deep = true ∧ p.currentEm.deep = false then [.saveStates] else []) ++ p.moves em ++ [.applyEm em])
      (clocks (p.entered em)) [.sleeps em] := by
  have save : Does fine p (clocks p)
      (if em.deep = true ∧ p.currentEm.deep = false then [.saveStates] else [])
      ⟨p.currentEm, em.deep, p.currentEm ≠ .em3⟩ [] := by
    have saved : (clocks p).saved = p.currentEm.deep := settled.saved
    split
    · next first =>
      rw [first.1]
      exact does_saveStates (saved.trans first.2)
    · next already =>
      have same : em.deep = p.currentEm.deep := by
        cases mode : p.currentEm.deep with
        | true => exact stays mode
        | false => simpa [mode] using already
      rw [same, ← settled.saved]
      exact does_nothing
  have move : Does fine p ⟨p.currentEm, em.deep, p.currentEm ≠ .em3⟩ (p.moves em)
      ⟨em, em.deep, p.currentEm ≠ .em3⟩ [] := by
    unfold PowerManager.moves
    split
    · next same =>
      rw [← same]
      exact does_nothing
    · next other =>
      have low : ¬ em = .em3 → ¬ p.currentEm = .em3 := mt deepest
      apply does_notified
      simpa [Clocks.next, Ne.symm other] using low
  exact (save.append move).append (does_applyEm rfl sleeps rfl)

theorem does_wake (settled : Settled p) (sleeping : p.currentEm ≠ .em0) :
    Does fine p (clocks p)
      ((if p.currentEm.deep = true then [.restoreStates] else []) ++ p.notified p.currentEm .em0)
      ⟨.em0, false, true⟩ [] := by
  cases deep : p.currentEm.deep with
  | true => exact does_restore settled deep rfl
  | false =>
    have low : p.currentEm ≠ .em3 := fun same => by simp [same] at deep
    apply does_notified
    simp [Clocks.next, clocks, settled.saved, deep, sleeping, low]

end
end BleRemote.Power
