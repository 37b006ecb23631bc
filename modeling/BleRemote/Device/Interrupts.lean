import BleRemote.Device.Gpio
import BleRemote.Reactive.Machine

/-! The two interrupt handlers of `irq.c`, one access at a time.

A handler reads the enabled flags of its parity, clears what it read and signals
the stack. Edges and the steps of the other handler may fall between any two of
these. The interrupt controller enters a handler that is not running while an
enabled flag of its parity is set.
-/

set_option autoImplicit false
namespace BleRemote.Device

open Reactive Stack

inductive Parity where
  | even | odd
  deriving DecidableEq

/-- The lines that the handler of this parity looks at. -/
def Parity.mask : Parity → BitVec 32
  | .even => 0x55555555
  | .odd => 0xAAAAAAAA

def lineParity (line : Fin 32) : Parity := if (line : Nat) % 2 = 0 then .even else .odd

def schedulerSetEventKeypad : Parity → UInt32 → UInt32
  | .even => schedulerSetEventKeypadEven
  | .odd => schedulerSetEventKeypadOdd

def gpioIrqHandler : Parity → Gpio → UInt32 → Gpio × UInt32
  | .even => gpioEvenIrqHandler
  | .odd => gpioOddIrqHandler

/-! ## The handlers in steps -/

inductive Phase where
  | idle | entered
  | read (flags : BitVec 32)
  | cleared
  deriving DecidableEq

structure Interrupts where
  gpio : Gpio
  phase : Parity → Phase
  /-- The signals the stack has not delivered yet. -/
  pending : UInt32

inductive Action where
  | edge (line : Fin 32)
  | enter (parity : Parity)
  | read (parity : Parity)
  | clear (parity : Parity)
  | signal (parity : Parity)
  deriving DecidableEq

def due (parity : Parity) (gpio : Gpio) : Prop := gpioIntGetEnabled gpio &&& parity.mask ≠ 0

instance (parity : Parity) (gpio : Gpio) : Decidable (due parity gpio) :=
  inferInstanceAs (Decidable (_ ≠ _))

namespace Interrupts

def moveTo (s : Interrupts) (parity : Parity) (phase : Phase) : Interrupts :=
  { s with phase := Function.update s.phase parity phase }

@[simp] theorem moveTo_gpio (s : Interrupts) (parity : Parity) (phase : Phase) :
    (s.moveTo parity phase).gpio = s.gpio := rfl

@[simp] theorem moveTo_phase (s : Interrupts) (parity other : Parity) (phase : Phase) :
    (s.moveTo parity phase).phase other = if other = parity then phase else s.phase other :=
  Function.update_apply ..

/-- An action, where it is possible. -/
def perform (s : Interrupts) : Action → Option Interrupts
  | .edge line =>
    some { s with gpio := { s.gpio with intFlag := s.gpio.intFlag ||| 1#32 <<< (line : Nat) } }
  | .enter parity =>
    if s.phase parity = .idle ∧ due parity s.gpio then some (s.moveTo parity .entered) else none
  | .read parity =>
    if s.phase parity = .entered then
      some (s.moveTo parity (.read (gpioIntGetEnabled s.gpio &&& parity.mask)))
    else none
  | .clear parity =>
    match s.phase parity with
    | .read flags => some ({ s with gpio := gpioIntClear flags s.gpio }.moveTo parity .cleared)
    | _ => none
  | .signal parity =>
    if s.phase parity = .cleared then
      some ({ s with pending := schedulerSetEventKeypad parity s.pending }.moveTo parity .idle)
    else none

/-- An action that is not possible changes nothing; the output says whether it happened. -/
def step (s : Interrupts) (action : Action) : Interrupts × Bool :=
  match s.perform action with
  | some next => (next, true)
  | none => (s, false)

/-- With both handlers idle. -/
def start (gpio : Gpio) : Interrupts := ⟨gpio, fun _ => .idle, 0⟩

end Interrupts

def interrupts (gpio : Gpio) : Machine Interrupts Action Bool := ⟨.start gpio, Interrupts.step⟩

abbrev Tick := Moment Interrupts Action Bool

/-- This action was taken in this tick. -/
def did (action : Action) (t : Tick) : Bool := t.input == action && t.output

section
variable (gpio : Gpio) {s next : Interrupts} {action : Action}

theorem tick_taken (performed : s.perform action = some next) :
    (interrupts gpio).moment s action = ⟨s, action, true, next⟩ := by
  simp [Machine.moment, interrupts, Interrupts.step, performed]

theorem tick_impossible (impossible : s.perform action = none) :
    (interrupts gpio).moment s action = ⟨s, action, false, s⟩ := by
  simp [Machine.moment, interrupts, Interrupts.step, impossible]

end

/-! ## Lines and masks -/

theorem mask_getLsbD (parity : Parity) (line : Fin 32) :
    parity.mask.getLsbD line = decide (lineParity line = parity) := by
  revert line
  cases parity <;> decide

theorem bit_getLsbD (line other : Fin 32) :
    (1#32 <<< (other : Nat)).getLsbD line = decide (line = other) := by
  revert line other
  decide

theorem enabled_getLsbD (gpio : Gpio) (parity : Parity) (line : Fin 32) :
    (gpioIntGetEnabled gpio &&& parity.mask).getLsbD line =
      (gpio.intFlag.getLsbD line && gpio.config.ien.getLsbD line &&
        decide (lineParity line = parity)) := by
  rw [BitVec.getLsbD_and, mask_getLsbD, gpioIntGetEnabled, BitVec.getLsbD_and]

theorem gpioIntClear_getLsbD (flags : BitVec 32) (gpio : Gpio) (line : Fin 32) :
    (gpioIntClear flags gpio).intFlag.getLsbD line =
      (gpio.intFlag.getLsbD line && !flags.getLsbD line) := by
  simp [gpioIntClear]

theorem not_due_iff (parity : Parity) (gpio : Gpio) : ¬ due parity gpio ↔
    ∀ line : Fin 32, lineParity line = parity → gpio.config.ien.getLsbD line = true →
      gpio.intFlag.getLsbD line = false := by
  have bits : ¬ due parity gpio ↔
      ∀ line : Fin 32, (gpioIntGetEnabled gpio &&& parity.mask).getLsbD line = false := by
    rw [due, not_not]
    constructor
    · intro none line
      rw [none]
      exact BitVec.getLsbD_zero
    · intro none
      apply BitVec.eq_of_getLsbD_eq
      intro i below
      exact (none ⟨i, below⟩).trans BitVec.getLsbD_zero.symm
  rw [bits]
  apply forall_congr'
  intro line
  rw [enabled_getLsbD]
  cases gpio.intFlag.getLsbD line <;> simp [imp.swap]

/-! ## What holds at every tick -/

/-- Of the handlers' steps only clearing changes flags: it clears what was read since the
last signal, and these are pending, enabled and of the handler's parity. -/
def ClearsWhatItRead (past : List Tick) (t : Tick) : Prop :=
  match t.input with
  | .edge line => t.after.gpio.intFlag = t.before.gpio.intFlag ||| 1#32 <<< (line : Nat)
  | .clear parity =>
    if t.output = true then
      ∃ u ∈ sinceLast (did (.signal parity)) past, did (.read parity) u = true ∧
        let flags := gpioIntGetEnabled u.before.gpio &&& parity.mask
        t.after.gpio.intFlag = t.before.gpio.intFlag &&& ~~~flags ∧
          ∀ line : Fin 32, flags.getLsbD line = true → t.before.gpio.intFlag.getLsbD line = true ∧
            t.before.gpio.config.ien.getLsbD line = true ∧ lineParity line = parity
    else t.after.gpio.intFlag = t.before.gpio.intFlag
  | _ => t.after.gpio.intFlag = t.before.gpio.intFlag

/-- No handler is running and none is due. -/
def Interrupts.Quiet (s : Interrupts) : Prop :=
  ∀ parity, s.phase parity = .idle ∧ ¬ due parity s.gpio

/-- Every edge on an enabled line is followed by a signal of its parity. -/
def EdgesSignalled (ien : BitVec 32) (h : List Tick) : Prop :=
  ∀ past t rest (line : Fin 32), h = past ++ t :: rest → t.input = .edge line → ien.getLsbD line = true →
    ∃ u ∈ rest, did (.signal (lineParity line)) u = true

/-! ## The invariant -/

def Phase.hasRead : Phase → Bool
  | .read _ | .cleared => true
  | _ => false

/-- An edge on the line that no signal has followed. -/
def Unsignalled (line : Fin 32) (past : List Tick) : Prop :=
  ∃ t ∈ sinceLast (did (.signal (lineParity line))) past, t.input = .edge line

structure Accounted (ien : BitVec 32) (past : List Tick) (s : Interrupts) : Prop where
  enabled : s.gpio.config.ien = ien
  /-- What a handler has read is what it saw then, and still pending. -/
  read (parity : Parity) (flags : BitVec 32) : s.phase parity = .read flags →
    (∃ u ∈ sinceLast (did (.signal parity)) past, did (.read parity) u = true ∧
      flags = gpioIntGetEnabled u.before.gpio &&& parity.mask) ∧
    ∀ line : Fin 32, flags.getLsbD line = true → s.gpio.intFlag.getLsbD line = true ∧
      ien.getLsbD line = true ∧ lineParity line = parity
  /-- An edge waits in its flag, or for a handler that has seen it. -/
  edge (line : Fin 32) : Unsignalled line past → ien.getLsbD line = true →
    s.gpio.intFlag.getLsbD line = true ∨ (s.phase (lineParity line)).hasRead = true

section
variable {ien : BitVec 32} {past : List Tick} {s next : Interrupts}

theorem Unsignalled.concat {line : Fin 32} {t : Tick} (waiting : Unsignalled line (past ++ [t])) :
    did (.signal (lineParity line)) t = false ∧ (Unsignalled line past ∨ t.input = .edge line) := by
  obtain ⟨u, member, edge⟩ := waiting
  rw [sinceLast_concat] at member
  split at member
  · cases member
  · next silent =>
    refine ⟨Bool.eq_false_iff.mpr silent, ?_⟩
    rcases List.mem_append.mp member with earlier | last
    · exact .inl ⟨u, earlier, edge⟩
    · obtain rfl := List.mem_singleton.mp last
      exact .inr edge

/-- What was read stays read while the handler has not signalled. -/
theorem read_concat {parity : Parity} {flags : BitVec 32} {t : Tick}
    (seen : ∃ u ∈ sinceLast (did (.signal parity)) past, did (.read parity) u = true ∧
      flags = gpioIntGetEnabled u.before.gpio &&& parity.mask)
    (silent : did (.signal parity) t = false) :
    ∃ u ∈ sinceLast (did (.signal parity)) (past ++ [t]), did (.read parity) u = true ∧
      flags = gpioIntGetEnabled u.before.gpio &&& parity.mask := by
  obtain ⟨u, member, facts⟩ := seen
  refine ⟨u, ?_, facts⟩
  rw [sinceLast_concat, silent, if_neg Bool.false_ne_true]
  exact List.mem_append_left _ member

theorem Accounted.edge_step (kept : Accounted ien past s) (line : Fin 32)
    (performed : s.perform (.edge line) = some next) :
    Accounted ien (past ++ [⟨s, .edge line, true, next⟩]) next := by
  obtain rfl := Option.some.inj performed
  refine ⟨kept.enabled, fun parity flags reads => ?_, fun other waiting on => ?_⟩
  · obtain ⟨seen, pending⟩ := kept.read parity flags reads
    refine ⟨read_concat seen rfl, fun other flag => ?_⟩
    obtain ⟨set, on, own⟩ := pending other flag
    exact ⟨by simp [set], on, own⟩
  · rcases waiting.concat.2 with earlier | same
    · rcases kept.edge other earlier on with set | seen
      · exact .inl (by simp [set])
      · exact .inr seen
    · obtain rfl := Action.edge.inj same
      left
      rw [BitVec.getLsbD_or, bit_getLsbD]
      simp

theorem Accounted.enter_step {parity : Parity} (kept : Accounted ien past s)
    (performed : s.perform (.enter parity) = some next) :
    Accounted ien (past ++ [⟨s, .enter parity, true, next⟩]) next := by
  simp only [Interrupts.perform, Option.ite_none_right_eq_some, Option.some.injEq] at performed
  obtain ⟨⟨idle, -⟩, rfl⟩ := performed
  refine ⟨kept.enabled, fun other flags reads => ?_, fun line waiting on => ?_⟩
  · rw [Interrupts.moveTo_phase] at reads
    split at reads
    · cases reads
    · obtain ⟨seen, pending⟩ := kept.read other flags reads
      exact ⟨read_concat seen rfl, pending⟩
  · rcases waiting.concat.2 with earlier | same
    · rw [Interrupts.moveTo_gpio, Interrupts.moveTo_phase]
      rcases kept.edge line earlier on with set | seen
      · exact .inl set
      · split
        · next own =>
          rw [own, idle] at seen
          cases seen
        · exact .inr seen
    · cases same

theorem Accounted.read_step {parity : Parity} (kept : Accounted ien past s)
    (performed : s.perform (.read parity) = some next) :
    Accounted ien (past ++ [⟨s, .read parity, true, next⟩]) next := by
  simp only [Interrupts.perform, Option.ite_none_right_eq_some, Option.some.injEq] at performed
  obtain ⟨entered, rfl⟩ := performed
  refine ⟨kept.enabled, fun other flags reads => ?_, fun line waiting on => ?_⟩
  · rw [Interrupts.moveTo_phase] at reads
    split at reads
    · next own =>
      obtain rfl := own
      obtain rfl := Phase.read.inj reads
      refine ⟨⟨_, sinceLast_cons past rfl (List.forall_mem_nil _), by simp [did], rfl⟩, ?_⟩
      intro line flag
      simp only [enabled_getLsbD, Bool.and_eq_true, decide_eq_true_eq, kept.enabled] at flag
      exact ⟨flag.1.1, flag.1.2, flag.2⟩
    · obtain ⟨seen, pending⟩ := kept.read other flags reads
      exact ⟨read_concat seen rfl, pending⟩
  · rcases waiting.concat.2 with earlier | same
    · rw [Interrupts.moveTo_gpio, Interrupts.moveTo_phase]
      rcases kept.edge line earlier on with set | seen
      · exact .inl set
      · split
        · exact .inr rfl
        · exact .inr seen
    · cases same

theorem Accounted.clear_step {parity : Parity} (kept : Accounted ien past s)
    (performed : s.perform (.clear parity) = some next) :
    Accounted ien (past ++ [⟨s, .clear parity, true, next⟩]) next := by
  simp only [Interrupts.perform] at performed
  split at performed
  · next flags reading =>
    obtain rfl := Option.some.inj performed
    have own (line : Fin 32) (other : lineParity line ≠ parity) : flags.getLsbD line = false :=
      Bool.eq_false_iff.mpr fun flag => other ((kept.read parity flags reading).2 line flag).2.2
    have stays (line : Fin 32) (other : lineParity line ≠ parity) :
        (gpioIntClear flags s.gpio).intFlag.getLsbD line = s.gpio.intFlag.getLsbD line := by
      rw [gpioIntClear_getLsbD, own line other, Bool.not_false, Bool.and_true]
    refine ⟨kept.enabled, fun other others reads => ?_, fun line waiting on => ?_⟩
    · rw [Interrupts.moveTo_phase] at reads
      split at reads
      · cases reads
      · next apart =>
        obtain ⟨seen, pending⟩ := kept.read other others reads
        refine ⟨read_concat seen rfl, fun line flag => ?_⟩
        obtain ⟨set, on, same⟩ := pending line flag
        refine ⟨?_, on, same⟩
        rw [Interrupts.moveTo_gpio, stays line (same.trans_ne apart)]
        exact set
    · rcases waiting.concat.2 with earlier | same
      · rw [Interrupts.moveTo_gpio, Interrupts.moveTo_phase]
        split
        · exact .inr rfl
        · next apart =>
          rw [stays line apart]
          exact kept.edge line earlier on
      · cases same
  · cases performed

theorem Accounted.signal_step {parity : Parity} (kept : Accounted ien past s)
    (performed : s.perform (.signal parity) = some next) :
    Accounted ien (past ++ [⟨s, .signal parity, true, next⟩]) next := by
  simp only [Interrupts.perform, Option.ite_none_right_eq_some, Option.some.injEq] at performed
  obtain ⟨cleared, rfl⟩ := performed
  refine ⟨kept.enabled, fun other flags reads => ?_, fun line waiting on => ?_⟩
  · rw [Interrupts.moveTo_phase] at reads
    split at reads
    · cases reads
    · next apart =>
      obtain ⟨seen, pending⟩ := kept.read other flags reads
      refine ⟨read_concat seen ?_, pending⟩
      simp [did, Ne.symm apart]
  · obtain ⟨before, earlier | same⟩ := waiting.concat
    · have apart : lineParity line ≠ parity := by
        rintro rfl
        simp [did] at before
      rw [Interrupts.moveTo_gpio, Interrupts.moveTo_phase, if_neg apart]
      exact kept.edge line earlier on
    · cases same

/-- An action that was not possible leaves the account as it is. -/
theorem Accounted.idle_step {action : Action} (kept : Accounted ien past s)
    (impossible : s.perform action = none) :
    Accounted ien (past ++ [⟨s, action, false, s⟩]) s := by
  refine ⟨kept.enabled, fun parity flags reads => ?_, fun line waiting on => ?_⟩
  · obtain ⟨seen, pending⟩ := kept.read parity flags reads
    exact ⟨read_concat seen (Bool.and_false _), pending⟩
  · rcases waiting.concat.2 with earlier | same
    · exact kept.edge line earlier on
    · obtain rfl : action = .edge line := same
      cases impossible

end

theorem Accounted.step {ien : BitVec 32} {past : List Tick} {s : Interrupts} (gpio : Gpio)
    (kept : Accounted ien past s) (action : Action) :
    Accounted ien (past ++ [(interrupts gpio).moment s action])
      ((interrupts gpio).moment s action).after := by
  cases performed : s.perform action with
  | none =>
    rw [tick_impossible gpio performed]
    exact kept.idle_step performed
  | some next =>
    rw [tick_taken gpio performed]
    cases action with
    | edge line => exact kept.edge_step line performed
    | enter parity => exact kept.enter_step performed
    | read parity => exact kept.read_step performed
    | clear parity => exact kept.clear_step performed
    | signal parity => exact kept.signal_step performed

theorem accounted_start (gpio : Gpio) : Accounted gpio.config.ien [] (.start gpio) where
  enabled := rfl
  read _ _ reads := Phase.noConfusion reads
  edge _ waiting := by
    obtain ⟨t, member, _⟩ := waiting
    cases member

theorem accounted_run (gpio : Gpio) (actions : List Action) :
    Accounted gpio.config.ien ((interrupts gpio).history (.start gpio) actions)
      ((interrupts gpio).after (.start gpio) actions) :=
  (interrupts gpio).invariant (P := Accounted gpio.config.ien) (accounted_start gpio)
    (fun _ _ action kept => kept.step gpio action) actions

theorem Accounted.clears {ien : BitVec 32} {past : List Tick} {s : Interrupts} (gpio : Gpio)
    (kept : Accounted ien past s) (action : Action) :
    ClearsWhatItRead past ((interrupts gpio).moment s action) := by
  cases performed : s.perform action with
  | none =>
    rw [tick_impossible gpio performed]
    cases action
    case edge => cases performed
    all_goals rfl
  | some next =>
    rw [tick_taken gpio performed]
    cases action
    case edge line => exact congrArg (fun s => s.gpio.intFlag) (Option.some.inj performed).symm
    case clear parity =>
      simp only [Interrupts.perform] at performed
      split at performed
      · next flags reading =>
        obtain rfl := Option.some.inj performed
        obtain ⟨⟨u, member, read, rfl⟩, pending⟩ := kept.read parity flags reading
        exact ⟨u, member, read, rfl, fun line flag => kept.enabled ▸ pending line flag⟩
      · cases performed
    all_goals
      simp only [Interrupts.perform, Option.ite_none_right_eq_some, Option.some.injEq] at performed
      rw [← performed.2]
      rfl

theorem Accounted.signalled {ien : BitVec 32} {h : List Tick} {s : Interrupts}
    (kept : Accounted ien h s) (quiet : s.Quiet) : EdgesSignalled ien h := by
  rintro past t rest line rfl edge on
  by_contra none
  push Not at none
  have waiting : Unsignalled line (past ++ t :: rest) := by
    refine ⟨t, sinceLast_cons past ?_ ?_, edge⟩
    · simp [did, edge]
    · exact fun u member => Bool.eq_false_iff.mpr (none u member)
  obtain ⟨idle, free⟩ := quiet (lineParity line)
  rcases kept.edge line waiting on with set | seen
  · have clear := (not_due_iff _ _).mp free line rfl (kept.enabled ▸ on)
    exact Bool.false_ne_true (clear.symm.trans set)
  · rw [idle] at seen
    cases seen

/-! ## Handlers without interruption -/

theorem gpioIrqHandler_eq (parity : Parity) (gpio : Gpio) (pending : UInt32) :
    gpioIrqHandler parity gpio pending =
      (gpioIntClear (gpioIntGetEnabled gpio &&& parity.mask) gpio,
        schedulerSetEventKeypad parity pending) := by
  cases parity <;> rfl

def handlerActions (parity : Parity) : List Action :=
  [.enter parity, .read parity, .clear parity, .signal parity]

/-- The steps of a handler that nothing comes between are the handler. -/
theorem handler_steps (gpio : Gpio) {s : Interrupts} {parity : Parity}
    (idle : s.phase parity = .idle) (isDue : due parity s.gpio) :
    (interrupts gpio).after s (handlerActions parity) =
      { s with
        gpio := (gpioIrqHandler parity s.gpio s.pending).1
        pending := (gpioIrqHandler parity s.gpio s.pending).2 } := by
  rw [gpioIrqHandler_eq]
  simp [handlerActions, Machine.after, interrupts, Interrupts.step, Interrupts.perform, idle, isDue,
    Interrupts.moveTo]

/-- The controller runs the handler of a parity if it is due. -/
def serve (parity : Parity) (r : Gpio × UInt32) : Gpio × UInt32 :=
  if due parity r.1 then gpioIrqHandler parity r.1 r.2 else r

theorem mask_disjoint {parity other : Parity} (apart : parity ≠ other) :
    parity.mask &&& other.mask = 0 := by
  cases parity <;> cases other <;> first | rfl | exact absurd rfl apart

/-- One handler clears no flag that the other one reads. -/
theorem gpioIrqHandler_enabled {parity other : Parity} (apart : parity ≠ other) (gpio : Gpio)
    (pending : UInt32) : gpioIntGetEnabled (gpioIrqHandler parity gpio pending).1 &&& other.mask =
      gpioIntGetEnabled gpio &&& other.mask := by
  rw [gpioIrqHandler_eq]
  apply BitVec.eq_of_getLsbD_eq
  intro i below
  have disjoint := congrArg (fun word => word.getLsbD i) (mask_disjoint apart)
  simp only [gpioIntGetEnabled, gpioIntClear, BitVec.getLsbD_and, BitVec.getLsbD_not, below,
    decide_true, Bool.true_and] at disjoint ⊢
  cases mine : parity.mask.getLsbD i
  · simp
  · have theirs : other.mask.getLsbD i = false := by simpa [mine] using disjoint
    simp [theirs]

theorem gpioIrqHandler_comm (gpio : Gpio) (pending : UInt32) :
    let even := gpioIrqHandler .even gpio pending
    let odd := gpioIrqHandler .odd gpio pending
    gpioIrqHandler .odd even.1 even.2 = gpioIrqHandler .even odd.1 odd.2 := by
  have evenFirst : _ &&& Parity.odd.mask = _ :=
    gpioIrqHandler_enabled (nofun : Parity.even ≠ .odd) gpio pending
  have oddFirst : _ &&& Parity.even.mask = _ :=
    gpioIrqHandler_enabled (nofun : Parity.odd ≠ .even) gpio pending
  simp only [gpioIrqHandler_eq] at evenFirst oddFirst ⊢
  rw [evenFirst, oddFirst]
  apply Prod.ext
  · simp only [gpioIntClear, Gpio.mk.injEq, true_and]
    ac_rfl
  · simp only [schedulerSetEventKeypad, schedulerSetEventKeypadOdd, schedulerSetEventKeypadEven,
      slBtExternalSignal]
    ac_rfl

theorem due_apart {parity other : Parity} (apart : parity ≠ other) (r : Gpio × UInt32) :
    due other (serve parity r).1 ↔ due other r.1 := by
  unfold serve
  split
  · rw [due, due, gpioIrqHandler_enabled apart]
  · exact Iff.rfl

theorem serve_comm (r : Gpio × UInt32) :
    serve .odd (serve .even r) = serve .even (serve .odd r) := by
  have odd := due_apart (nofun : Parity.even ≠ .odd) r
  have even := due_apart (nofun : Parity.odd ≠ .even) r
  have runs {parity : Parity} {r : Gpio × UInt32} (isDue : due parity r.1) :
      serve parity r = gpioIrqHandler parity r.1 r.2 := if_pos isDue
  have rests {parity : Parity} {r : Gpio × UInt32} (free : ¬ due parity r.1) :
      serve parity r = r := if_neg free
  by_cases evenDue : due .even r.1
  · by_cases oddDue : due .odd r.1
    · rw [runs (odd.mpr oddDue), runs (even.mpr evenDue), runs evenDue, runs oddDue]
      exact gpioIrqHandler_comm r.1 r.2
    · rw [rests (mt odd.mp oddDue), rests oddDue]
  · rw [rests evenDue, rests (mt even.mp evenDue)]

/-! ## No edge is lost -/

-- The odd key moves again between the read and the clear, and the even key as well.
def keysMove : List Action :=
  [.edge 11, .enter .odd, .read .odd, .edge 11, .edge 12, .enter .even, .clear .odd, .read .even,
    .signal .odd, .clear .even, .signal .even]

end BleRemote.Device
