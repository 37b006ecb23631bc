import BleRemote.Power.Callers

/-! The board as a whole: its callers keep the rules of the power manager, whatever interrupts
them, so that what was shown of its runs holds there, and it is known when the CPU sleeps how. -/

set_option autoImplicit false
namespace BleRemote.Power

open Reactive

/-- What the callers ask of the power manager in a run from power on. -/
def asked (inputs : List CallerInput) : List PowerInput := Callers.machine.trace Callers.powerOn inputs

/-- With this input the CPU goes to sleep. -/
def Callers.FallsAsleep (c : Callers) (i : CallerInput) : Bool :=
  match i.event, c.main with
  | .sleep, .loop => c.appInitialized && i.env.isOkToSleep
  | .resume, .asleep => i.env.sleepOnIsrExit
  | _, _ => false

section
variable (em3Allowed : Bool) (frequency : UInt32) {c : Callers} {l : Others} {v : Demand}

theorem balanced_run (balanced : Balanced c l v) {inputs : List CallerInput}
    (permits : Others.machine.Permits Others.Allows l inputs) :
    Served em3Allowed frequency v (Callers.machine.after c inputs) (Others.machine.after l inputs)
      (Callers.machine.trace c inputs) := by
  induction inputs generalizing c l v with
  | nil => exact ⟨trivial, balanced⟩
  | cons i rest ih =>
    have served : Served em3Allowed frequency v _ _ (c.step i).2 := react_served balanced i permits.1
    obtain ⟨first, kept⟩ := served
    obtain ⟨later, final⟩ := ih kept permits.2
    rw [Served, Machine.trace_cons, Machine.Permits.append, Machine.after_append]
    exact ⟨⟨first, later⟩, final⟩

/-- Between any two of their critical sections the callers may be interrupted: they never remove
a requirement that they have not added, and never add more than can be counted. -/
theorem callers_keep_rules (inputs : List CallerInput)
    (permits : Others.machine.Permits Others.Allows (fun _ => 0) inputs) :
    (Demand.machine em3Allowed frequency).Permits Demand.Allows (Demand.powerOn frequency) (asked inputs) :=
  (balanced_run em3Allowed frequency (balanced_powerOn frequency) permits).1

/-- A line is logged, and the end of its transmission comes before it is noted down. -/
def exampleLog : List CallerInput :=
  [.appInit, .uartWrite, .proceed, .proceed, .uartTxc, .proceed].map fun event => ⟨exampleEnv none, event⟩

theorem callers_keep_rules_log :
    (Demand.machine true 32768).Permits Demand.Allows (Demand.powerOn 32768) (asked exampleLog) :=
  callers_keep_rules true 32768 exampleLog (by decide)

theorem demand_trace (balanced : Balanced c l v) (i : CallerInput) :
    (Demand.machine em3Allowed frequency).trace v (c.step i).2 =
      if c.FallsAsleep i = true then v.sleepEvents em3Allowed i.env else [] := by
  obtain ⟨env, event⟩ := i
  obtain ⟨⟨txIdle, emReqAdded⟩, main, appInitialized⟩ := c
  have asleep := balanced.asleep
  cases event with
  | proceed =>
    cases main with
    | writing idle => cases idle <;> rfl
    | restricting on loaded => cases on <;> cases loaded <;> rfl
    | _ => rfl
  | uartTxc => cases txIdle <;> rfl
  | appInit => cases main <;> cases appInitialized <;> rfl
  | uartWrite | setRxEnergyModeRestriction on => cases main <;> rfl
  | sleep =>
    cases main with
    | loop =>
      have up : v.asleep = false := Bool.eq_false_iff.mpr (mt asleep.mp nofun)
      cases appInitialized with
      | false => rfl
      | true =>
        have one : (Demand.machine em3Allowed frequency).trace v [⟨env, .sleep⟩] =
            (v.step em3Allowed ⟨env, .sleep⟩).2 ++ [] := Machine.trace_cons ..
        change (Demand.machine em3Allowed frequency).trace v [⟨env, .sleep⟩] = _
        rw [one, List.append_nil]
        cases ok : env.isOkToSleep <;> simp [Demand.step, up, ok, Callers.FallsAsleep]
    | _ => rfl
  | resume =>
    cases main with
    | asleep =>
      have down : v.asleep = true := asleep.mpr rfl
      have one : (Demand.machine em3Allowed frequency).trace v [⟨env, .resume⟩] =
          (v.step em3Allowed ⟨env, .resume⟩).2 ++ [] := Machine.trace_cons ..
      change (Demand.machine em3Allowed frequency).trace v [⟨env, .resume⟩] = _
      rw [one, List.append_nil]
      cases again : env.sleepOnIsrExit <;> simp [Demand.step, down, again, Callers.FallsAsleep]
    | _ => rfl
  | other entry => cases entry <;> rfl

/-- While nothing is under way in the main context, it is known who needs the clocks. -/
theorem Balanced.sleepEvents (balanced : Balanced c l v) (env : PowerEnv) (app : c.appInitialized = true)
    (calm : c.main = .loop ∨ c.main = .asleep) :
    v.sleepEvents em3Allowed env =
      if 0 < l .em1 ∨ c.uart.txIdle = false ∨ c.uart.emReqAdded = true ∨ v.timerSoon env = true then
        [.sleeps .em1]
      else env.tickRemaining.toList.map (fun t => .wakesAfter (t - v.delay env)) ++ [.sleeps .em2] := by
  have em1 := balanced.em1
  have em2 := balanced.em2
  rw [app, Bool.toNat_true] at em2
  have transmits : c.transmits = (!c.uart.txIdle).toNat := by
    obtain calm | calm := calm <;> rw [Callers.transmits, calm]
  have receives : c.receives = c.uart.emReqAdded.toNat := by
    obtain calm | calm := calm <;> rw [Callers.receives, calm]
  have held : 0 < v.outstanding .em1 ↔ 0 < l .em1 ∨ c.uart.txIdle = false ∨ c.uart.emReqAdded = true := by
    rw [em1, transmits, receives]
    cases c.uart.txIdle <;> cases c.uart.emReqAdded <;> simp
  have busy : (0 < l .em1 ∨ c.uart.txIdle = false ∨ c.uart.emReqAdded = true ∨ v.timerSoon env = true) ↔
      (0 < v.outstanding .em1 ∨ v.timerSoon env = true) := by
    rw [held, or_assoc, or_assoc]
  rw [Demand.sleepEvents]
  by_cases light : 0 < v.outstanding .em1 ∨ v.timerSoon env = true
  · rw [if_pos light, if_pos (busy.mpr light)]
  · -- the requirement of the application is there
    have lowest : v.lowest em3Allowed = .em2 := by
      have none : ¬ 0 < v.outstanding .em1 := fun some => light (.inl some)
      rw [Demand.lowest, if_neg none, if_pos (.inr (by omega))]
    rw [if_neg light, if_neg (mt busy.mp light), lowest]

theorem falls_calm (consistent : c.Consistent) {i : CallerInput} (falls : c.FallsAsleep i = true) :
    c.appInitialized = true ∧ (c.main = .loop ∨ c.main = .asleep) := by
  obtain ⟨env, event⟩ := i
  obtain ⟨uart, main, appInitialized⟩ := c
  cases event with
  | sleep =>
    cases main with
    | loop => exact ⟨(Bool.and_eq_true_iff.mp falls).1, .inl rfl⟩
    | _ => cases falls
  | resume =>
    cases main with
    | asleep => exact ⟨consistent, .inr rfl⟩
    | _ => cases falls
  | _ => cases main <;> cases falls

/-- Every time that the CPU goes to sleep in a run of the board, it sleeps in EM1 if the serial port
transmits or receives in sleep, somebody else asks for EM1 or a timer is due too soon, and
otherwise in EM2, with the early wakeup set: never deeper than the application has asked for. -/
theorem board_sleeps (inputs : List CallerInput) (i : CallerInput)
    (permits : Others.machine.Permits Others.Allows (fun _ => 0) (inputs ++ [i])) :
    let c := Callers.machine.after Callers.powerOn inputs
    let l := Others.machine.after (fun _ => 0) inputs
    let v := (Demand.machine em3Allowed frequency).after (Demand.powerOn frequency) (asked inputs)
    let s := (machine em3Allowed frequency).after (powerOn frequency) (asked inputs)
    (machine em3Allowed frequency).shown sleepEventsOf s (c.step i).2 =
      if c.FallsAsleep i = true then
        if 0 < l .em1 ∨ c.uart.txIdle = false ∨ c.uart.emReqAdded = true ∨ v.timerSoon i.env = true then
          [.sleeps .em1]
        else i.env.tickRemaining.toList.map (fun t => .wakesAfter (t - v.delay i.env)) ++ [.sleeps .em2]
      else [] := by
  intro c l v s
  rw [Machine.Permits.append] at permits
  obtain ⟨before, after⟩ := balanced_run em3Allowed frequency (balanced_powerOn frequency) permits.1
  have balanced : Balanced c l v := after
  have served : Served em3Allowed frequency v _ _ (c.step i).2 := react_served balanced i permits.2.1
  have simulates := refines em3Allowed frequency
  have kept : Kept em3Allowed s v := simulates.after (kept_powerOn em3Allowed frequency) before
  rw [simulates.trace kept served.1, demand_trace em3Allowed frequency balanced i]
  split
  · next falls =>
    obtain ⟨app, calm⟩ := falls_calm balanced.consistent falls
    exact balanced.sleepEvents em3Allowed i.env app calm
  · rfl

/-- The end of the transmission was lost, and the CPU does not sleep deeply. -/
theorem board_sleeps_log :
    (machine true 32768).shown sleepEventsOf ((machine true 32768).after (powerOn 32768) (asked exampleLog))
      ((Callers.machine.after Callers.powerOn exampleLog).step ⟨exampleEnv (some 1000), .sleep⟩).2 =
        [.sleeps .em1] :=
  (board_sleeps true 32768 exampleLog ⟨exampleEnv (some 1000), .sleep⟩ (by decide)).trans (by decide)

end
end BleRemote.Power
