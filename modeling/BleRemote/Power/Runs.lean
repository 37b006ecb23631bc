import BleRemote.Power.Sleeps

/-! Whole runs of the power manager from its initialisation on, as long as its callers remove
only what they have added. -/

set_option autoImplicit false
namespace BleRemote.Power

open Reactive

section
variable (em3Allowed : Bool) (frequency : UInt32)

theorem refines : Simulates (machine em3Allowed frequency) (Demand.machine em3Allowed frequency)
    Demand.Allows (Kept em3Allowed) sleepEventsOf := by
  constructor
  intro s v i kept allows
  have serves := step_serves kept i allows
  exact ⟨serves.kept, serves.does.events⟩

/-- The CPU sleeps as the machine does that only counts the requirements: in the deepest mode that
none of them forbids, or in EM1 if a timer is due too soon, and with the early wakeup set. -/
theorem sleeps_as_demanded (inputs : List PowerInput)
    (permits : (Demand.machine em3Allowed frequency).Permits Demand.Allows (Demand.powerOn frequency) inputs) :
    (machine em3Allowed frequency).shown sleepEventsOf (powerOn frequency) inputs =
      (Demand.machine em3Allowed frequency).trace (Demand.powerOn frequency) inputs ∧
    ((machine em3Allowed frequency).after (powerOn frequency) inputs).asleep =
      ((Demand.machine em3Allowed frequency).after (Demand.powerOn frequency) inputs).asleep := by
  have start := kept_powerOn em3Allowed frequency
  have simulates := refines em3Allowed frequency
  exact ⟨simulates.trace start permits, (simulates.after start permits).asleep⟩

/-- With a timer due after so many ticks, and nobody who wants to sleep again. -/
def exampleEnv (tickRemaining : Option UInt32) : PowerEnv := ⟨true, tickRemaining, 10, false⟩

/-- A deep sleep up to the early wakeup, and one that a timer keeps from being deep. -/
def exampleDay : List PowerInput :=
  [⟨exampleEnv none, .updateEmRequirement .em2 true⟩, ⟨exampleEnv (some 1000), .sleep⟩,
    ⟨exampleEnv none, .clockWakeupTimeout⟩, ⟨exampleEnv none, .resume⟩, ⟨exampleEnv (some 15), .sleep⟩]

theorem sleeps_as_demanded_day : (machine true 32768).shown sleepEventsOf (powerOn 32768) exampleDay =
    [.wakesAfter 990, .sleeps .em2, .sleeps .em1] :=
  (sleeps_as_demanded true 32768 exampleDay (by decide)).1.trans (by decide)

/-- Clocks are saved, announced, entered and restored in the one order that works, over the
whole run; while the CPU does not sleep, they are there. -/
theorem clocks_ordered (inputs : List PowerInput)
    (permits : (Demand.machine em3Allowed frequency).Permits Demand.Allows (Demand.powerOn frequency) inputs) :
    let s := (machine em3Allowed frequency).after (powerOn frequency) inputs
    follow Clocks.next ⟨.em0, false, true⟩ ((machine em3Allowed frequency).trace (powerOn frequency) inputs) =
        some ⟨s.manager.currentEm, s.manager.currentEm.deep, s.manager.currentEm ≠ .em3⟩ ∧
      (s.asleep = false → s.manager.currentEm = .em0) := by
  intro s
  have start := kept_powerOn em3Allowed frequency
  have simulates := refines em3Allowed frequency
  have kept := simulates.after start permits
  have follows := simulates.follows (fun s => clocks s.manager) id
    (fun s v i kept allows => (step_serves kept i allows).does.clocks) start permits
  refine ⟨?_, fun up => (kept.awake (kept.asleep ▸ up)).1⟩
  rw [← kept.sound.settled.saved]
  exact follows

theorem clocks_ordered_day :
    follow Clocks.next ⟨.em0, false, true⟩ ((machine true 32768).trace (powerOn 32768) exampleDay) =
      some ⟨.em1, false, true⟩ :=
  (clocks_ordered true 32768 exampleDay (by decide)).1.trans (by decide)

/-- No assertion of the power manager fails. -/
theorem no_assertion_fails (inputs : List PowerInput)
    (permits : (Demand.machine em3Allowed frequency).Permits (fun v i => v.Allows i ∧ v.DelayFits i.env)
      (Demand.powerOn frequency) inputs) :
    .assertionFailed ∉ (machine em3Allowed frequency).trace (powerOn frequency) inputs := by
  have simulates : Simulates (machine em3Allowed frequency) (Demand.machine em3Allowed frequency)
      (fun v i => v.Allows i ∧ v.DelayFits i.env) (Kept em3Allowed) sleepEventsOf :=
    ⟨fun s v i kept both => (refines em3Allowed frequency).step s v i kept both.1⟩
  exact simulates.shows_no id (fun s v i kept both => (step_serves kept i both.1).does.quiet both.2)
    (kept_powerOn em3Allowed frequency) permits

theorem no_assertion_fails_day : .assertionFailed ∉ (machine true 32768).trace (powerOn 32768) exampleDay :=
  no_assertion_fails true 32768 exampleDay (by decide)

end

/-! ## Subscribers -/

def Subscriber.wants (subscriber : Subscriber) (move : Em × Em) : Bool :=
  0 < subscriber.eventMask &&& (enteringEvent move.2 ||| leavingEvent move.1)

def heardBy (handle : Nat) (effects : List PowerEffect) : List (Em × Em) :=
  (callbacksOf effects).filterMap fun c => if c.1 = handle then some c.2 else none

def Subscribed (subscriber : Subscriber) (p : PowerManager) : Prop :=
  (p.emTransitionEventList.filter fun s => s.handle = subscriber.handle) = [subscriber]

/-- The entry neither adds nor removes this handle. -/
def Entry.Leaves (handle : Nat) : Entry → Prop
  | .subscribe subscriber => subscriber.handle ≠ handle
  | .unsubscribe other => other ≠ handle
  | _ => True

theorem filter_eraseP {handle other : Nat} (apart : other ≠ handle) (subscribers : List Subscriber) :
    (subscribers.eraseP (·.handle == other)).filter (fun s => s.handle = handle) =
      subscribers.filter fun s => s.handle = handle := by
  induction subscribers with
  | nil => rfl
  | cons s rest ih =>
    by_cases found : s.handle = other
    · simp [found, apart]
    · simp [found, List.filter_cons, ih]

theorem Subscribed.leaves {subscriber : Subscriber} {p q : PowerManager} {entry : Entry}
    (subscribed : Subscribed subscriber p) (leaves : entry.Leaves subscriber.handle)
    (list : q.emTransitionEventList = entry.subscribers p.emTransitionEventList) :
    Subscribed subscriber q := by
  unfold Subscribed
  rw [list]
  cases entry with
  | subscribe other =>
    have other : other.handle ≠ subscriber.handle := leaves
    rw [Entry.subscribers, List.filter_cons_of_neg (by simpa using other)]
    exact subscribed
  | unsubscribe other =>
    rw [Entry.subscribers, filter_eraseP leaves]
    exact subscribed
  | _ => exact subscribed

theorem heardBy_append (handle : Nat) (first rest : List PowerEffect) :
    heardBy handle (first ++ rest) = heardBy handle first ++ heardBy handle rest := by
  rw [heardBy, callbacksOf_append, List.filterMap_append]
  rfl

/-- Of all the callbacks, those of one handle. -/
theorem callbacks_of_handle {Move : Type} (wants : Subscriber → Bool) (handle : Nat) (move : Move)
    (subscribers : List Subscriber) :
    (((subscribers.filter wants).map fun s => (s.handle, move)).filterMap fun c =>
        if c.1 = handle then some c.2 else none) =
      ((subscribers.filter fun s => s.handle = handle).filter wants).map fun _ => move := by
  induction subscribers with
  | nil => rfl
  | cons s rest ih =>
    by_cases here : s.handle = handle <;> by_cases wanted : wants s = true <;> simp [here, wanted, ih]

/-- The callbacks of a subscriber are the transitions that its mask selects. -/
theorem Does.heard {fine : Prop} {p : PowerManager} {c d : Clocks} {effects : List PowerEffect}
    {events : List SleepEvent} (does : Does fine p c effects d events) {subscriber : Subscriber}
    (subscribed : Subscribed subscriber p) :
    heardBy subscriber.handle effects = (transitionsOf effects).filter subscriber.wants := by
  unfold heardBy
  rw [does.callbacks]
  induction transitionsOf effects with
  | nil => rfl
  | cons t rest ih =>
    have listens : p.listeners t.1 t.2 = p.emTransitionEventList.filter (·.wants t) := rfl
    rw [List.flatMap_cons, List.filterMap_append, ih, listens, callbacks_of_handle, subscribed]
    cases wanted : subscriber.wants t <;> simp [wanted]

/-- The announced modes are a walk. -/
theorem transitions_walk {c d : Clocks} {effects : List PowerEffect}
    (leads : follow Clocks.next c effects = some d) :
    follow walk c.mode (transitionsOf effects) = some d.mode := by
  refine follow_project Clocks.mode ?_ leads
  intro c e d next
  cases e with
  | notifyEmTransition leaving entering =>
    simp only [Clocks.next] at next
    split at next
    · next fits =>
      obtain rfl := Option.some.inj next
      simp [walk, fits.1]
    · cases next
  | saveStates | restoreStates | applyEm em =>
    simp only [Clocks.next] at next
    split at next
    · obtain rfl := Option.some.inj next
      rfl
    · cases next
  | assertionFailed | lowFrequencyRestore | onEvent | restartClockWakeupTimer | stopClockWakeupTimer =>
    obtain rfl := Option.some.inj next
    rfl

section
variable {em3Allowed : Bool} {frequency : UInt32} {subscriber : Subscriber}

/-- From a state in which it is subscribed, as long as its handle is left alone. -/
theorem heard_run {s : PowerState} {v : Demand} {inputs : List PowerInput} (kept : Kept em3Allowed s v)
    (subscribed : Subscribed subscriber s.manager) (alone : ∀ i ∈ inputs, i.entry.Leaves subscriber.handle)
    (permits : (Demand.machine em3Allowed frequency).Permits Demand.Allows v inputs) :
    heardBy subscriber.handle ((machine em3Allowed frequency).trace s inputs) =
      (transitionsOf ((machine em3Allowed frequency).trace s inputs)).filter subscriber.wants := by
  induction inputs generalizing s v with
  | nil => rfl
  | cons i rest ih =>
    obtain ⟨leaves, later⟩ := List.forall_mem_cons.mp alone
    have serves := step_serves kept i permits.1
    rw [Machine.trace_cons, heardBy_append, transitionsOf_append, List.filter_append]
    exact congrArg₂ _ (serves.does.heard subscribed)
      (ih serves.kept (subscribed.leaves leaves serves.listeners) later permits.2)

/-- The mask has both events of every mode of a region. -/
def Subscriber.Watches (subscriber : Subscriber) (region : Em → Bool) : Prop :=
  ∀ em, region em = true →
    subscriber.eventMask &&& enteringEvent em ≠ 0 ∧ subscriber.eventMask &&& leavingEvent em ≠ 0

theorem Subscriber.Watches.border {region : Em → Bool} (watches : subscriber.Watches region) (move : Em × Em)
    (crosses : region move.1 ≠ region move.2) : subscriber.wants move = true := by
  have distributes (mask entering leaving : UInt32) :
      mask &&& (entering ||| leaving) = mask &&& entering ||| mask &&& leaving := by
    rw [← UInt32.toBitVec_inj]
    exact BitVec.and_or_distrib_left
  unfold Subscriber.wants
  rw [decide_eq_true_iff, UInt32.pos_iff_ne_zero, distributes, ne_eq, UInt32.or_eq_zero_iff, not_and_or]
  -- the move enters the region or leaves it
  cases inside : region move.2 with
  | true => exact .inl (watches move.2 inside).1
  | false =>
    rw [inside, ne_eq, Bool.not_eq_false] at crosses
    exact .inr (watches move.1 crosses).2

end

end BleRemote.Power
