import BleRemote.Power.Demand

/-! The power manager refines the machine that counts requirements, and every step keeps the
order in which the clocks, the announcements and the sleeps have to come. -/

set_option autoImplicit false
namespace BleRemote.Power

open Reactive

variable {em3Allowed : Bool} {s : PowerState} {p q : PowerManager} {v : Demand}

theorem Does.of_listeners {fine : Prop} {c d : Clocks} {effects : List PowerEffect} {events : List SleepEvent}
    (does : Does fine q c effects d events) (same : q.emTransitionEventList = p.emTransitionEventList) :
    Does fine p c effects d events where
  clocks := does.clocks
  events := does.events
  callbacks := by
    rw [does.callbacks]
    simp only [PowerManager.listeners, same]
  quiet := does.quiet

/-! ## Going to sleep -/

theorem run_goToSleep (env : PowerEnv) (held : p.requirementOnEm1Added = true → p.requirementEmTable .em1 ≠ 0)
    {middle final : PowerManager} {first rest : List PowerEffect}
    (evaluated : (evaluateWakeup (getLowestEm em3Allowed p.withoutOwn)).run env p.withoutOwn =
      ⟨(), middle, first⟩)
    (entered : (enterLowestEm em3Allowed).run env middle = ⟨(), final, rest⟩) :
    (goToSleep em3Allowed).run env p = ⟨(), final, first ++ rest⟩ := by
  have own := run_removeOwnRequirement env held
  apply outcome_eq <;> simp [goToSleep, own, evaluated, entered]

/-- What a part of the power manager has done for a demand. -/
structure Serves (em3Allowed : Bool) (fine : Prop) (v : Demand) (p : PowerManager)
    (r : Outcome PowerManager PowerEffect Unit) (events : List SleepEvent) : Prop where
  sound : Sound em3Allowed r.state v
  listeners : r.state.emTransitionEventList = p.emTransitionEventList
  does : Does fine p (clocks p) r.effects (clocks r.state) events

theorem Demand.lowest_ne_em0 (v : Demand) : v.lowest em3Allowed ≠ .em0 := by
  unfold Demand.lowest
  split
  · nofun
  · split <;> nofun

theorem Demand.lowest_deep (free : v.outstanding .em1 = 0) : (v.lowest em3Allowed).deep = true := by
  unfold Demand.lowest
  rw [free, if_neg (Nat.lt_irrefl 0)]
  split <;> rfl

/-- After the evaluation, the lowest mode is entered: a deep one only if nothing forbids it. -/
theorem goToSleep_entering {fine : Prop} (middle : PowerManager) (em : Em) {first : List PowerEffect}
    (events : List SleepEvent) (sound : Sound em3Allowed p v) (env : PowerEnv)
    (evaluated : (evaluateWakeup (getLowestEm em3Allowed p.withoutOwn)).run env p.withoutOwn =
      ⟨(), middle, first⟩)
    (does : Does fine p (clocks p) first (clocks middle) events) (kept : Sound em3Allowed middle v)
    (listeners : middle.emTransitionEventList = p.emTransitionEventList)
    (lowest : getLowestEm em3Allowed middle = em) (sleeps : em ≠ .em0)
    (stays : middle.currentEm.deep = true → em = v.lowest em3Allowed)
    (deep : em.deep = true → em = v.lowest em3Allowed ∧ middle.requirementOnEm1Added = false ∧
      v.outstanding .em1 = 0) :
    Serves em3Allowed fine v p ((goToSleep em3Allowed).run env p) (events ++ [.sleeps em]) ∧
      ((goToSleep em3Allowed).run env p).state.currentEm ≠ .em0 := by
  have staysDeep (was : middle.currentEm.deep = true) : em.deep = true := by
    rw [stays was]
    exact Demand.lowest_deep (kept.deep was).2
  have deepest (was : middle.currentEm = .em3) : em = .em3 :=
    (stays (by rw [was]; rfl)).trans (kept.em3 was)
  have entered := run_enterLowestEm env em3Allowed lowest kept.settled staysDeep
  have enters : Does fine middle (clocks middle) _ _ _ := does_enter kept.settled sleeps staysDeep deepest
  rw [run_goToSleep env sound.held evaluated entered]
  refine ⟨⟨kept.entered (fun is => (deep is).2) fun is => ?_, listeners, does.append (enters.of_listeners listeners)⟩, sleeps⟩
  rw [← (deep (by rw [is]; rfl)).1, is]

/-- The check of the delay and what follows it, as the demand sees them. -/
theorem does_evaluated (sound : Sound em3Allowed p v) (env : PowerEnv) {d : Clocks} {rest : List PowerEffect}
    {events : List SleepEvent}
    (does : Does (v.DelayFits env) p.withoutOwn (clocks p.withoutOwn) rest d events) :
    Does (v.DelayFits env) p (clocks p) (p.withoutOwn.delayCheck env ++ rest) d events := by
  have check : Does _ p.withoutOwn (clocks p.withoutOwn) _ _ _ := does_delayCheck env
  rw [sound.withoutOwn.overhead] at check
  exact (check.append does).of_listeners rfl

theorem ownAdded_listeners (p : PowerManager) :
    p.ownAdded.emTransitionEventList = p.emTransitionEventList := by
  unfold PowerManager.ownAdded
  split <;> rfl

theorem goToSleep_serves (sound : Sound em3Allowed p v) (env : PowerEnv) :
    Serves em3Allowed (v.DelayFits env) v p ((goToSleep em3Allowed).run env p) (v.sleepEvents em3Allowed env) ∧
      ((goToSleep em3Allowed).run env p).state.currentEm ≠ .em0 := by
  have fresh := sound.withoutOwn
  have lowest := fresh.lowest rfl
  unfold Demand.sleepEvents
  by_cases busy : 0 < v.outstanding .em1
  · -- a requirement on EM1: there is nothing to evaluate
    have em1 : v.lowest em3Allowed = .em1 := if_pos busy
    rw [if_pos (.inl busy)]
    apply goToSleep_entering p.withoutOwn .em1 [] sound env (by rw [lowest, em1]; rfl) does_nothing fresh
      rfl (lowest.trans em1) nofun
    · exact fun _ => em1.symm
    · exact fun is => absurd is Bool.false_ne_true
  · have free : v.outstanding .em1 = 0 := Nat.eq_zero_of_not_pos busy
    have deep : (getLowestEm em3Allowed p.withoutOwn).deep = true := lowest ▸ Demand.lowest_deep free
    have same := fresh.timerSoon env
    cases soon : v.timerSoon env with
    | true =>
      have room : p.withoutOwn.requirementEmTable .em1 ≠ 255 := by
        rw [fresh.empty rfl free]
        decide
      obtain ⟨kept, light, held⟩ := fresh.ownAdded rfl free
      have evaluated := run_evaluateWakeup_soon env deep (same.trans soon) room fresh.settled
      rw [if_pos (.inr rfl)]
      apply goToSleep_entering p.withoutOwn.ownAdded .em1 [] sound env evaluated
        (does_evaluated sound env (does_ownEffects fresh.settled)) kept (ownAdded_listeners _)
        (getLowestEm_em1 _ held) nofun
      · exact fun was => absurd (light.symm.trans was) Bool.false_ne_true
      · exact fun is => absurd is Bool.false_ne_true
    | false =>
      have evaluated := run_evaluateWakeup_far env deep (same.trans soon)
      have early : Does (v.DelayFits env) p.withoutOwn (clocks p.withoutOwn) _ _ _ := does_earlyWakeup env
      rw [fresh.overhead] at early
      rw [if_neg (by simp [busy])]
      apply goToSleep_entering p.withoutOwn (v.lowest em3Allowed) _ sound env evaluated
        (does_evaluated sound env early) fresh rfl lowest v.lowest_ne_em0
      · exact fun _ => rfl
      · exact fun _ => ⟨rfl, rfl, free⟩

/-! ## Waking up -/

theorem wakeUp_serves (sound : Sound em3Allowed p v) (env : PowerEnv) (sleeping : p.currentEm ≠ .em0) :
    Serves em3Allowed (v.DelayFits env) v p (wakeUp.run env p) [] ∧
      (wakeUp.run env p).state.currentEm = .em0 ∧
      (wakeUp.run env p).state.requirementOnEm1Added = false := by
  rw [run_wakeUp env sound.settled sound.held]
  exact ⟨⟨sound.withoutOwn.entered nofun nofun, rfl, does_wake sound.settled sleeping⟩, rfl, rfl⟩

/-- The clocks come back by themselves, at the early wakeup or when a function asks for them. -/
theorem clockRestore_serves {fine : Prop} (sound : Sound em3Allowed p v) (env : PowerEnv) :
    Serves em3Allowed fine v p (clockRestore.run env p) [] ∧
      ((clockRestore.run env p).state.currentEm = .em0 ↔ p.currentEm = .em0) ∧
      (clockRestore.run env p).state.requirementOnEm1Added = p.requirementOnEm1Added := by
  cases deep : p.currentEm.deep with
  | false =>
    rw [run_clockRestore_idle env (sound.settled.saved.trans deep)]
    exact ⟨⟨sound, rfl, does_nothing⟩, .rfl, rfl⟩
  | true =>
    have light : p.currentEm ≠ .em0 := fun same => by simp [same] at deep
    rw [run_clockRestore_saved env (sound.settled.saved.trans deep) (sound.settled.off.trans deep)]
    exact ⟨⟨sound.entered nofun nofun, rfl, does_restore sound.settled deep rfl⟩, by simp [light], rfl⟩

/-! ## Requirements -/

section
variable {em : Requirement} {add : Bool} (sound : Sound em3Allowed p v)
include sound

theorem Sound.room (may : v.MayCount em true) : p.requirementEmTable em ≠ 255 := by
  intro full
  cases em with
  | em1 =>
    have counted := sound.em1
    have below : v.outstanding .em1 < 254 := may
    rw [full] at counted
    change 255 = _ at counted
    split at counted <;> omega
  | em2 =>
    have counted := sound.em2
    have below : v.outstanding .em2 < 255 := may
    rw [full] at counted
    change 255 = _ at counted
    omega

theorem Sound.occupied (may : v.MayCount em false) : p.requirementEmTable em ≠ 0 := by
  intro zero
  cases em with
  | em1 =>
    have counted := sound.em1
    have above : 0 < v.outstanding .em1 := may
    rw [zero, UInt8.toNat_zero] at counted
    omega
  | em2 =>
    have counted := sound.em2
    have above : 0 < v.outstanding .em2 := may
    rw [zero, UInt8.toNat_zero] at counted
    omega

/-- Both sides count the same. -/
theorem Sound.counts (may : v.MayCount em add) (other : Requirement) :
    ((p.counted em add).requirementEmTable other).toNat + v.outstanding other =
      (p.requirementEmTable other).toNat + (v.counted em add).outstanding other := by
  rw [counted_table, Demand.counted_outstanding, recount_apply]
  by_cases same : other = em
  · subst same
    rw [if_pos rfl, if_pos rfl]
    cases add with
    | true =>
      rw [if_pos rfl, if_pos rfl, succ_toNat (sound.room may)]
      omega
    | false =>
      have held := sound.occupied may
      have above : 0 < v.outstanding other := may
      have positive : (p.requirementEmTable other).toNat ≠ 0 := fun zero => held (UInt8.toNat_inj.mp zero)
      rw [if_neg Bool.false_ne_true, if_neg Bool.false_ne_true, pred_toNat held]
      omega
  · rw [if_neg same, if_neg same]

/-- The counters are right again; the mode and the clocks are the caller's. -/
theorem Sound.counted (may : v.MayCount em add) {q : PowerManager} (settled : Settled q)
    (table : q.requirementEmTable = (p.counted em add).requirementEmTable)
    (own : q.requirementOnEm1Added = p.requirementOnEm1Added)
    (minOfftime : q.highFrequencyMinOfftimeTick = p.highFrequencyMinOfftimeTick)
    (overhead : q.wakeupTimeConfigOverheadTick = p.wakeupTimeConfigOverheadTick)
    (deep : q.currentEm.deep = true →
      q.requirementOnEm1Added = false ∧ (v.counted em add).outstanding .em1 = 0)
    (em3 : q.currentEm = .em3 → (v.counted em add).lowest em3Allowed = .em3) :
    Sound em3Allowed q (v.counted em add) := by
  refine ⟨settled, ?_, ?_, minOfftime.trans sound.minOfftime, overhead.trans sound.overhead, deep, em3⟩
  · have counted := sound.em1
    have counts := sound.counts may .em1
    rw [table, own]
    omega
  · have counted := sound.em2
    have counts := sound.counts may .em2
    rw [table]
    omega

end

theorem Demand.lowest_em3 : v.lowest em3Allowed = .em3 ↔
    v.outstanding .em1 = 0 ∧ em3Allowed = true ∧ v.outstanding .em2 = 0 := by
  unfold Demand.lowest
  split
  · next held => simp [Nat.pos_iff_ne_zero.mp held]
  · next free =>
    split
    · next held =>
      have never : ¬(em3Allowed = true ∧ v.outstanding .em2 = 0) := by
        rintro ⟨rfl, none⟩
        exact held.elim nofun fun some => absurd none (Nat.pos_iff_ne_zero.mp some)
      simp [never]
    · next none =>
      rw [not_or, Bool.not_eq_false] at none
      simp [none.1, Nat.eq_zero_of_not_pos free, Nat.eq_zero_of_not_pos none.2]

theorem Demand.removed_le (v : Demand) (em other : Requirement) :
    (v.counted em false).outstanding other ≤ v.outstanding other := by
  rw [Demand.counted_outstanding, recount_apply]
  split
  · next same =>
    subst same
    exact Nat.sub_le ..
  · exact Nat.le_refl _

/-- What is allowed without a requirement is allowed without another one. -/
theorem Demand.lowest_removed {em : Requirement} (deepest : v.lowest em3Allowed = .em3) :
    (v.counted em false).lowest em3Allowed = .em3 := by
  obtain ⟨em1, allowed, em2⟩ := Demand.lowest_em3.mp deepest
  have fewer (other : Requirement) := v.removed_le em other
  exact Demand.lowest_em3.mpr
    ⟨Nat.le_zero.mp (em1 ▸ fewer .em1), allowed, Nat.le_zero.mp (em2 ▸ fewer .em2)⟩

theorem does_lowFrequency {fine : Prop} (settled : Settled p) (deep : p.currentEm.deep = true) :
    Does fine p (clocks p) (if p.currentEm = .em3 then .lowFrequencyRestore :: p.notified .em3 .em2 else [])
      ⟨.em2, p.isStatesSaved, true⟩ [] := by
  unfold clocks
  rw [settled.saved.trans deep]
  split
  · next deepest =>
    have announced : Does fine p ⟨.em3, true, true⟩ (p.notified .em3 .em2) ⟨.em2, true, true⟩ [] :=
      does_notified rfl
    rw [deepest]
    exact does_lowFrequencyRestore.append announced
  · next other =>
    have em2 : p.currentEm = .em2 := by
      cases mode : p.currentEm with
      | em0 | em1 => simp [mode] at deep
      | em2 => rfl
      | em3 => exact absurd mode other
    rw [em2]
    exact does_nothing

theorem updateEmRequirement_serves {fine : Prop} {em : Requirement} {add : Bool}
    (sound : Sound em3Allowed p v) (env : PowerEnv) (may : v.MayCount em add) :
    Serves em3Allowed fine (v.counted em add) p ((updateEmRequirement em3Allowed em add).run env p) [] ∧
      (((updateEmRequirement em3Allowed em add).run env p).state.currentEm = .em0 ↔ p.currentEm = .em0) ∧
      ((updateEmRequirement em3Allowed em add).run env p).state.requirementOnEm1Added =
        p.requirementOnEm1Added := by
  obtain ⟨waiting, active, saved, off⟩ := sound.settled
  by_cases restores : add = true ∧ p.currentEm.deep = true
  · obtain ⟨rfl, deep⟩ := restores
    have light : p.currentEm ≠ .em0 := fun same => by simp [same] at deep
    have room := sound.room may
    obtain ⟨none, free⟩ := sound.deep deep
    cases em with
    | em1 =>
      rw [run_updateEmRequirement_em1 env em3Allowed sound.settled deep room]
      exact ⟨⟨sound.counted may ⟨waiting, active, rfl, rfl⟩ rfl rfl rfl rfl nofun nofun, rfl,
        does_restore sound.settled deep rfl⟩, by simp [light], rfl⟩
    | em2 =>
      rw [run_updateEmRequirement_em2 env em3Allowed deep room (sound.empty none free)]
      exact ⟨⟨sound.counted may ⟨waiting, active, saved.trans deep, off.trans deep⟩ rfl rfl rfl rfl
        (fun _ => ⟨none, free⟩) nofun, rfl, does_lowFrequency sound.settled deep⟩, by simp [light], rfl⟩
  · have removes (deep : p.currentEm.deep = true) : add = false :=
      Bool.eq_false_iff.mpr fun adds => restores ⟨adds, deep⟩
    rw [run_updateEmRequirement_counted env em3Allowed (fun adds => sound.room (adds ▸ may))
      (fun removes => sound.occupied (removes ▸ may))
      (fun adds => Bool.eq_false_iff.mpr fun deep => restores ⟨adds, deep⟩)]
    refine ⟨⟨sound.counted may ⟨waiting, active, saved, off⟩ rfl rfl rfl rfl (fun deep => ?_)
      (fun deepest => ?_), rfl, does_nothing⟩, .rfl, rfl⟩
    · have fewer := v.removed_le em .em1
      rw [(sound.deep deep).2, Nat.le_zero] at fewer
      rw [removes deep]
      exact ⟨(sound.deep deep).1, fewer⟩
    · rw [removes (by rw [show p.currentEm = .em3 from deepest]; rfl)]
      exact Demand.lowest_removed (sound.em3 deepest)

/-! ## One step -/

/-- The subscribers after this entry. -/
def Entry.subscribers (subscribers : List Subscriber) : Entry → List Subscriber
  | .subscribe subscriber => subscriber :: subscribers
  | .unsubscribe handle => subscribers.eraseP (·.handle == handle)
  | _ => subscribers

/-- What a step does for the demand, from a state that keeps the invariant. -/
structure StepServes (em3Allowed : Bool) (s : PowerState) (v : Demand) (i : PowerInput) : Prop where
  kept : Kept em3Allowed (step em3Allowed s i).1 (v.step em3Allowed i).1
  does : Does (v.DelayFits i.env) s.manager (clocks s.manager) (step em3Allowed s i).2
    (clocks (step em3Allowed s i).1.manager) (v.step em3Allowed i).2
  listeners : (step em3Allowed s i).1.manager.emTransitionEventList =
    i.entry.subscribers s.manager.emTransitionEventList

theorem outcome_ext {r r' : Outcome PowerManager PowerEffect Bool} (value : r.value = r'.value)
    (state : r.state = r'.state) (effects : r.effects = r'.effects) : r = r' := by
  cases r
  cases r'
  simp_all

section
variable (em3Allowed) (env : PowerEnv) (p)

theorem run_sleep : (sleep em3Allowed).run env p = if env.isOkToSleep = true then
    ⟨true, ((goToSleep em3Allowed).run env p).state, ((goToSleep em3Allowed).run env p).effects⟩
    else ⟨false, p, []⟩ := by
  cases ok : env.isOkToSleep <;> apply outcome_ext <;> simp [sleep, ok]

theorem run_resume : (resume em3Allowed).run env p = if env.sleepOnIsrExit = true then
    ⟨true, ((goToSleep em3Allowed).run env p).state,
      .stopClockWakeupTimer :: ((goToSleep em3Allowed).run env p).effects⟩
    else ⟨false, (wakeUp.run env p).state, .stopClockWakeupTimer :: (wakeUp.run env p).effects⟩ := by
  cases again : env.sleepOnIsrExit <;> apply outcome_ext <;> simp [resume, again]

end

/-- Outside of the sleep loop, nothing changes whether the CPU sleeps. -/
theorem Kept.update {w : Demand} (kept : Kept em3Allowed s v) (sound : Sound em3Allowed q w)
    (asleep : w.asleep = v.asleep) (mode : q.currentEm = .em0 ↔ s.manager.currentEm = .em0)
    (own : q.requirementOnEm1Added = s.manager.requirementOnEm1Added) :
    Kept em3Allowed ⟨q, s.asleep⟩ w where
  sound := sound
  asleep := kept.asleep.trans asleep.symm
  awake up := by
    obtain ⟨em0, none⟩ := kept.awake (asleep ▸ up)
    exact ⟨mode.mpr em0, own.trans none⟩
  sleeping down := mt mode.mp (kept.sleeping (asleep ▸ down))

theorem sleep_serves (kept : Kept em3Allowed s v) (env : PowerEnv) : StepServes em3Allowed s v ⟨env, .sleep⟩ := by
  obtain ⟨p, asleep⟩ := s
  cases asleep with
  | true =>
    have same : v.asleep = true := kept.asleep.symm
    have idle : v.step em3Allowed ⟨env, .sleep⟩ = (v, []) := by simp [Demand.step, same]
    refine ⟨?_, ?_, rfl⟩ <;> rw [idle]
    · exact kept
    · exact does_nothing
  | false =>
    have same : v.asleep = false := kept.asleep.symm
    have demand : v.step em3Allowed ⟨env, .sleep⟩ = if env.isOkToSleep = true then
        ({ v with asleep := true }, v.sleepEvents em3Allowed env) else (v, []) := by
      simp [Demand.step, same]
    have code : step em3Allowed ⟨p, false⟩ ⟨env, .sleep⟩ =
        (⟨((sleep em3Allowed).run env p).state, ((sleep em3Allowed).run env p).value⟩,
          ((sleep em3Allowed).run env p).effects) := rfl
    obtain ⟨⟨sound, listeners, does⟩, light⟩ := goToSleep_serves kept.sound env
    cases ok : env.isOkToSleep with
    | true =>
      refine ⟨?_, ?_, ?_⟩
      · rw [demand, code, run_sleep, ok, if_pos rfl, if_pos rfl]
        exact ⟨⟨sound.settled, sound.em1, sound.em2, sound.minOfftime, sound.overhead, sound.deep, sound.em3⟩,
          rfl, fun up => absurd up.symm Bool.false_ne_true, fun _ => light⟩
      · rw [demand, code, run_sleep, ok, if_pos rfl, if_pos rfl]
        exact does
      · rw [code, run_sleep, ok, if_pos rfl]
        exact listeners
    | false =>
      refine ⟨?_, ?_, ?_⟩
      · rw [demand, code, run_sleep, ok, if_neg Bool.false_ne_true, if_neg Bool.false_ne_true]
        exact kept
      · rw [demand, code, run_sleep, ok, if_neg Bool.false_ne_true, if_neg Bool.false_ne_true]
        exact does_nothing
      · rw [code, run_sleep, ok, if_neg Bool.false_ne_true]
        rfl

theorem resume_serves (kept : Kept em3Allowed s v) (env : PowerEnv) :
    StepServes em3Allowed s v ⟨env, .resume⟩ := by
  obtain ⟨p, asleep⟩ := s
  cases asleep with
  | false =>
    have same : v.asleep = false := kept.asleep.symm
    have idle : v.step em3Allowed ⟨env, .resume⟩ = (v, []) := by simp [Demand.step, same]
    refine ⟨?_, ?_, rfl⟩ <;> rw [idle]
    · exact kept
    · exact does_nothing
  | true =>
    have same : v.asleep = true := kept.asleep.symm
    have demand : v.step em3Allowed ⟨env, .resume⟩ = if env.sleepOnIsrExit = true then
        (v, v.sleepEvents em3Allowed env) else ({ v with asleep := false }, []) := by
      simp [Demand.step, same]
    have code : step em3Allowed ⟨p, true⟩ ⟨env, .resume⟩ =
        (⟨((resume em3Allowed).run env p).state, ((resume em3Allowed).run env p).value⟩,
          ((resume em3Allowed).run env p).effects) := rfl
    cases again : env.sleepOnIsrExit with
    | true =>
      obtain ⟨⟨sound, listeners, does⟩, light⟩ := goToSleep_serves kept.sound env
      refine ⟨?_, ?_, ?_⟩
      · rw [demand, code, run_resume, again, if_pos rfl, if_pos rfl]
        exact ⟨sound, kept.asleep, fun up => absurd (up.symm.trans same) Bool.false_ne_true, fun _ => light⟩
      · rw [demand, code, run_resume, again, if_pos rfl, if_pos rfl]
        exact does_stopClockWakeupTimer.append does
      · rw [code, run_resume, again, if_pos rfl]
        exact listeners
    | false =>
      obtain ⟨⟨sound, listeners, does⟩, em0, none⟩ := wakeUp_serves kept.sound env (kept.sleeping same)
      refine ⟨?_, ?_, ?_⟩
      · rw [demand, code, run_resume, again, if_neg Bool.false_ne_true, if_neg Bool.false_ne_true]
        exact ⟨⟨sound.settled, sound.em1, sound.em2, sound.minOfftime, sound.overhead, sound.deep, sound.em3⟩,
          rfl, fun _ => ⟨em0, none⟩, fun down => absurd down Bool.false_ne_true⟩
      · rw [demand, code, run_resume, again, if_neg Bool.false_ne_true, if_neg Bool.false_ne_true]
        exact does_stopClockWakeupTimer.append does
      · rw [code, run_resume, again, if_neg Bool.false_ne_true]
        exact listeners

theorem Sound.configured (sound : Sound em3Allowed p v) (subscribers : List Subscriber)
    {minOfftime minOfftime' : UInt32} {overhead overhead' : Int32} (same : minOfftime = minOfftime')
    (equal : overhead = overhead') :
    Sound em3Allowed { p with
      emTransitionEventList := subscribers
      highFrequencyMinOfftimeTick := minOfftime
      wakeupTimeConfigOverheadTick := overhead } { v with minOfftime := minOfftime', overhead := overhead' } :=
  ⟨⟨sound.settled.waiting, sound.settled.active, sound.settled.saved, sound.settled.off⟩, sound.em1, sound.em2,
    same, equal, sound.deep, sound.em3⟩

theorem clockRestore_step (kept : Kept em3Allowed s v) (env : PowerEnv) :
    StepServes em3Allowed s v ⟨env, .initiateRestore⟩ := by
  obtain ⟨⟨sound, listeners, does⟩, mode, own⟩ := clockRestore_serves kept.sound env
  exact ⟨kept.update sound rfl mode own, does, listeners⟩

theorem run_onClockWakeupTimeout (env : PowerEnv) (settled : Settled p) :
    onClockWakeupTimeout.run env p = clockRestore.run env p := by
  have code : onClockWakeupTimeout.run env p =
      (if p.isActivelyWaitingForClockRestore = true then pure () else clockRestore : PowerBody Unit).run env p := rfl
  rw [code, settled.active, if_neg Bool.false_ne_true]

theorem step_serves (kept : Kept em3Allowed s v) (i : PowerInput) (allows : v.Allows i) :
    StepServes em3Allowed s v i := by
  obtain ⟨env, entry⟩ := i
  have sound := kept.sound
  cases entry with
  | sleep => exact sleep_serves kept env
  | resume => exact resume_serves kept env
  | updateEmRequirement em add =>
    obtain ⟨⟨counted, listeners, does⟩, mode, own⟩ := updateEmRequirement_serves sound env allows
    exact ⟨kept.update counted rfl mode own, does, listeners⟩
  | clockWakeupTimeout =>
    have same : step em3Allowed s ⟨env, .clockWakeupTimeout⟩ = step em3Allowed s ⟨env, .initiateRestore⟩ := by
      change (PowerState.mk (onClockWakeupTimeout.run env s.manager).state s.asleep,
        (onClockWakeupTimeout.run env s.manager).effects) = _
      rw [run_onClockWakeupTimeout env sound.settled]
      rfl
    obtain ⟨restored, does, listeners⟩ := clockRestore_step kept env
    rw [← same] at restored does listeners
    exact ⟨restored, does, listeners⟩
  | initiateRestore => exact clockRestore_step kept env
  | subscribe subscriber =>
    exact ⟨kept.update (sound.configured _ sound.minOfftime sound.overhead) rfl .rfl rfl, does_nothing, rfl⟩
  | unsubscribe handle =>
    exact ⟨kept.update (sound.configured _ sound.minOfftime sound.overhead) rfl .rfl rfl, does_nothing, rfl⟩
  | setRestoreOverheadTick overheadTick =>
    exact ⟨kept.update (sound.configured _ sound.minOfftime rfl) rfl .rfl rfl, does_nothing, rfl⟩
  | setMinimumOfftimeTick offtimeTick =>
    exact ⟨kept.update (sound.configured _ rfl sound.overhead) rfl .rfl rfl, does_nothing, rfl⟩

theorem kept_powerOn (em3Allowed : Bool) (frequency : UInt32) :
    Kept em3Allowed (powerOn frequency) (Demand.powerOn frequency) :=
  ⟨⟨⟨rfl, rfl, rfl, rfl⟩, rfl, rfl, rfl, rfl, nofun, nofun⟩, rfl, fun _ => ⟨rfl, rfl⟩, nofun⟩

end BleRemote.Power
