import BleRemote.Client.Cases
import BleRemote.Device.Outputs
import BleRemote.Server.Cases
import BleRemote.System.Glass

/-! The pins the firmware drives over whole runs: what their registers hold after every event, and
what can be seen on the LEDs. -/

set_option autoImplicit false
namespace BleRemote.System

open Reactive Stack Device

def drivesPins : Effect → Bool
  | .gpioPinOut .. | .ledPatternOdd | .ledPatternEven => true
  | _ => false

def pinEffects (effects : List Effect) : List Effect := effects.filter drivesPins

/-- The writes to the pins that effects stand for, oldest first. -/
def pinWritesOf (effects : List Effect) : List PinWrite := effects.flatMap pinWrites

theorem pinWritesOf_pinEffects (effects : List Effect) :
    pinWritesOf (pinEffects effects) = pinWritesOf effects := by
  unfold pinWritesOf pinEffects
  induction effects with
  | nil => rfl
  | cons effect rest ih =>
    cases drives : drivesPins effect with
    | true => rw [List.filter_cons_of_pos drives, List.flatMap_cons, List.flatMap_cons, ih]
    | false =>
      have silent : pinWrites effect = [] := by
        cases effect <;> first | rfl | cases drives
      rw [List.filter_cons_of_neg (by simp [drives]), List.flatMap_cons, silent, ih, List.nil_append]

theorem pinWritesOf_append (first rest : List Effect) :
    pinWritesOf (first ++ rest) = pinWritesOf first ++ pinWritesOf rest := List.flatMap_append

section
variable (first rest : List Effect)

@[simp] theorem pinEffects_nil : pinEffects [] = [] := rfl

@[simp] theorem pinEffects_append : pinEffects (first ++ rest) = pinEffects first ++ pinEffects rest :=
  List.filter_append _ _

theorem pinEffects_cons (effect : Effect) :
    pinEffects (effect :: rest) = if drivesPins effect then effect :: pinEffects rest else pinEffects rest :=
  List.filter_cons

@[simp] theorem pinEffects_ite (c : Prop) [Decidable c] :
    pinEffects (if c then first else rest) = if c then pinEffects first else pinEffects rest := by
  split <;> rfl

@[simp] theorem pinEffects_logUnlessOk (command : String) (status : Status) (env : Env) (g : Globals) :
    pinEffects ((logUnlessOk command status).run env g).effects = [] := by
  unfold logUnlessOk
  split <;> rfl

end

/-! ## One step -/

/-- How an event drives the pins. -/
def stepPins (role : Role) (g : Globals) (msg : Msg) : List Effect :=
  match role, msg with
  | _, .systemBoot => [.gpioPinOut tempSensorPin true]
  | _, .systemSoftTimer _ => [.gpioPinOut extcominPin (!g.lastExtcominStateHigh)]
  | .server, .connectionClosed _ => [.gpioPinOut led0Pin true, .gpioPinOut led0Pin false]
  | .client, .gattCharacteristicValue event =>
    if Client.KeyValue g.bleData event then
      (if event.value.data 1 ≠ 0 then [.ledPatternOdd] else []) ++
        (if event.value.data 2 ≠ 0 then [.ledPatternEven] else [])
    else []
  | _, _ => []

section
variable (db : GattDb) (env : Env) (g : Globals) (msg : Msg)

@[simp] theorem keypadServerStateMachine_pinEffects :
    pinEffects ((keypadServerStateMachine msg).run env g).effects = [] := by
  cases msg <;> cases state : g.keypadState <;>
    simp [keypadServerStateMachine, state, pinEffects_cons, drivesPins]

@[simp] theorem discoveryStateMachine_pinEffects :
    pinEffects ((discoveryStateMachine msg).run env g).effects = [] := by
  cases state : g.discoveryState <;> cases msg <;>
    simp [discoveryStateMachine, state, discoveryOpen, discoveryDiscoverKeypadServices,
      discoveryDiscoverLedServices, discoveryDiscoverKeypadCharacteristics,
      discoveryDiscoverLedCharacteristics, discoveryKeypadNotif, discoveryAwait, discoveryRequest,
      discoveryWait, pinEffects_cons, drivesPins]

theorem handleBleEventServer_pinEffects :
    pinEffects ((handleBleEventServer db msg).run env g).effects = stepPins .server g msg := by
  cases msg <;>
    simp [handleBleEventServer, stepPins, serverSystemBoot, displayInit, serverConnectionOpened,
      serverConnectionClosed, serverSystemExternalSignal, serverCharacteristicStatus, buttonStateToGatt,
      smConfirmBonding, serverSmBonded, serverSmConfirmPasskey, serverSmBondingFailed, pinEffects_cons,
      drivesPins]

theorem handleBleEventClient_pinEffects :
    pinEffects ((handleBleEventClient db msg).run env g).effects = stepPins .client g msg := by
  cases msg
  case gattCharacteristicValue event =>
    by_cases key : Client.KeyValue g.bleData event
    · have key' := key
      unfold Client.KeyValue at key'
      simp [handleBleEventClient, stepPins, clientGattCharacteristicValue, ledStateToGatt, key, key',
        pinEffects_cons, drivesPins]
      split_ifs <;> rfl
    · have key' := key
      unfold Client.KeyValue at key'
      simp [handleBleEventClient, stepPins, clientGattCharacteristicValue, key, key']
  all_goals
    simp [handleBleEventClient, stepPins, clientSystemBoot, displayInit, clientConnectionOpened,
      clientConnectionClosed, clientScannerScanReport, clientGattProcedureCompleted, clientGattService,
      clientGattCharacteristic, smConfirmBonding, clientSmConfirmPasskey, clientSmBonded,
      clientSmBondingFailed, clientSystemExternalSignal, pinEffects_cons, drivesPins]

theorem step_pinWrites (role : Role) (i : Input) :
    pinWritesOf (slBtOnEvent db role g i).2.effects = pinWritesOf (stepPins role g i.msg) := by
  rw [← pinWritesOf_pinEffects]
  simp only [slBtOnEvent, Output.effects, pinEffects_append]
  cases role with
  | server =>
    rw [stateMachine, keypadServerStateMachine_pinEffects, List.append_nil, handleBleEvent,
      handleBleEventServer_pinEffects]
  | client =>
    rw [stateMachine, discoveryStateMachine_pinEffects, List.append_nil, handleBleEvent,
      handleBleEventClient_pinEffects]

theorem keypadServerStateMachine_extcomin :
    ((keypadServerStateMachine msg).run env g).state.lastExtcominStateHigh = g.lastExtcominStateHigh := by
  cases msg <;> cases state : g.keypadState <;> simp [keypadServerStateMachine, state]
  all_goals split_ifs <;> rfl

theorem step_extcomin (role : Role) (i : Input) : (slBtOnEvent db role g i).1.lastExtcominStateHigh =
    match i.msg with
    | .systemBoot => false
    | .systemSoftTimer _ => !g.lastExtcominStateHigh
    | _ => g.lastExtcominStateHigh := by
  rcases i with ⟨env, msg⟩
  cases role with
  | server =>
    simp only [slBtOnEvent, handleBleEvent, stateMachine, keypadServerStateMachine_extcomin]
    cases msg <;> simp [handleBleEventServer]
  | client =>
    simp only [slBtOnEvent, handleBleEvent, stateMachine, Client.discoveryStateMachine_state]
    cases msg <;> simp [handleBleEventClient]
    split <;> rfl

end

/-! ## What a step writes -/

def allOff : GpioPin → Bool := fun _ => false

/-- Both LEDs are off. -/
def Dark (levels : GpioPin → Bool) : Prop :=
  levels led0Pin = allOff led0Pin ∧ levels led1Pin = allOff led1Pin

theorem oddRound_leds : ∀ w ∈ ledPatternOddRound, w.1 = led0Pin ∨ w.1 = led1Pin := by decide

theorem evenRound_leds : ∀ w ∈ ledPatternEvenRound, w.1 = led0Pin ∨ w.1 = led1Pin := by decide

section
variable {levels : GpioPin → Bool} (dark : Dark levels)
include dark

/-- A round of writes to the LEDs that leaves them off leaves everything as it was. -/
theorem round_closed {round : List PinWrite} (leds : ∀ w ∈ round, w.1 = led0Pin ∨ w.1 = led1Pin)
    (off : Dark (drive allOff round)) : drive levels round = levels := by
  funext wire
  by_cases led : wire = led0Pin ∨ wire = led1Pin
  · rcases led with rfl | rfl
    · rw [drive_congr levels dark.1 round, off.1, dark.1]
    · rw [drive_congr levels dark.2 round, off.2, dark.2]
  · apply drive_of_unwritten
    intro w member same
    exact led (same ▸ leds w member)

theorem oddRound_closed : drive levels ledPatternOddRound = levels :=
  round_closed dark oddRound_leds ⟨by decide, by decide⟩

theorem evenRound_closed : drive levels ledPatternEvenRound = levels :=
  round_closed dark evenRound_leds ⟨by decide, by decide⟩

theorem ledPatternOdd_closed : drive levels ledPatternOdd = levels := by
  unfold ledPatternOdd
  exact drive_repeat (oddRound_closed dark) _

theorem ledPatternEven_closed : drive levels ledPatternEven = levels := by
  unfold ledPatternEven
  exact drive_repeat (evenRound_closed dark) _

theorem ledPatternOdd_pulses : pulses led0Pin levels ledPatternOdd = 4000 ∧
    pulses led1Pin levels ledPatternOdd = 4000 := by
  have round0 : pulses led0Pin levels ledPatternOddRound = 2 := (pulses_congr levels dark.1 _).trans (by decide)
  have round1 : pulses led1Pin levels ledPatternOddRound = 2 := (pulses_congr levels dark.2 _).trans (by decide)
  unfold ledPatternOdd
  rw [pulses_repeat (oddRound_closed dark), pulses_repeat (oddRound_closed dark), round0, round1]
  exact ⟨rfl, rfl⟩

theorem ledPatternEven_pulses : pulses led0Pin levels ledPatternEven = 4000 ∧
    pulses led1Pin levels ledPatternEven = 2000 := by
  have round0 : pulses led0Pin levels ledPatternEvenRound = 2 := (pulses_congr levels dark.1 _).trans (by decide)
  have round1 : pulses led1Pin levels ledPatternEvenRound = 1 := (pulses_congr levels dark.2 _).trans (by decide)
  unfold ledPatternEven
  rw [pulses_repeat (evenRound_closed dark), pulses_repeat (evenRound_closed dark), round0, round1]
  exact ⟨rfl, rfl⟩

/-- The odd pattern lights one LED at a time, the even pattern both at once. -/
theorem ledPatternOdd_apart : ¬Together led0Pin led1Pin levels ledPatternOdd := by
  have apart : ¬Together led0Pin led1Pin allOff ledPatternOddRound := by
    simp [ledPatternOddRound, gpioLed0SetOn, gpioLed0SetOff, gpioLed1SetOn, gpioLed1SetOff, together_cons,
      together_nil, led0Pin, led1Pin, allOff]
  unfold ledPatternOdd
  rw [together_repeat (oddRound_closed dark) led0Pin led1Pin 1999]
  rwa [together_congr levels dark.1 dark.2]

theorem ledPatternEven_together : Together led0Pin led1Pin levels ledPatternEven := by
  have both : Together led0Pin led1Pin allOff ledPatternEvenRound :=
    ⟨[gpioLed0SetOn, gpioLed1SetOn], by decide, by decide, by decide⟩
  unfold ledPatternEven
  rw [together_repeat (evenRound_closed dark) led0Pin led1Pin 1999]
  rwa [together_congr levels dark.1 dark.2]

end

/-! ## What a step does to the levels -/

theorem pinWritesOf_single (effect : Effect) : pinWritesOf [effect] = pinWrites effect :=
  List.flatMap_singleton _ _

/-- The messages on which the firmware runs the patterns. -/
def blinksOdd (role : Role) (g : Globals) (msg : Msg) : Bool :=
  match role, msg with
  | .client, .gattCharacteristicValue event =>
    decide (Client.KeyValue g.bleData event ∧ event.value.data 1 ≠ 0)
  | _, _ => false

def blinksEven (role : Role) (g : Globals) (msg : Msg) : Bool :=
  match role, msg with
  | .client, .gattCharacteristicValue event =>
    decide (Client.KeyValue g.bleData event ∧ event.value.data 2 ≠ 0)
  | _, _ => false

/-- The server turns LED0 on and off again when its connection closes. -/
def flashes (role : Role) (msg : Msg) : Bool :=
  match role, msg with
  | .server, .connectionClosed _ => true
  | _, _ => false

def patternWrites (odd even : Bool) : List PinWrite :=
  (if odd then ledPatternOdd else []) ++ (if even then ledPatternEven else [])

/-- Apart from the patterns a step writes at most two levels. -/
def plainWrites (role : Role) (g : Globals) (msg : Msg) : List PinWrite :=
  match role, msg with
  | _, .systemBoot => [(tempSensorPin, true)]
  | _, .systemSoftTimer _ => [(extcominPin, !g.lastExtcominStateHigh)]
  | .server, .connectionClosed _ => [gpioLed0SetOn, gpioLed0SetOff]
  | _, _ => []

theorem stepPins_writes (role : Role) (g : Globals) (msg : Msg) :
    pinWritesOf (stepPins role g msg) =
      patternWrites (blinksOdd role g msg) (blinksEven role g msg) ++ plainWrites role g msg := by
  cases role with
  | server => cases msg <;> rfl
  | client =>
    cases msg
    case gattCharacteristicValue event =>
      by_cases key : Client.KeyValue g.bleData event
      · simp only [stepPins, key, if_true, pinWritesOf_append, blinksOdd, blinksEven, true_and, patternWrites,
          plainWrites, List.append_nil, decide_eq_true_eq]
        congr 1
        · split
          · exact pinWritesOf_single _
          · rfl
        · split
          · exact pinWritesOf_single _
          · rfl
      · simp [stepPins, key, blinksOdd, blinksEven, patternWrites, plainWrites, pinWritesOf]
    all_goals rfl

theorem pins_apart : led1Pin ≠ led0Pin ∧ extcominPin ≠ led0Pin ∧ extcominPin ≠ led1Pin ∧
    tempSensorPin ≠ led0Pin ∧ tempSensorPin ≠ led1Pin := by decide

/-- The pins of the program. -/
def ownPins : List GpioPin :=
  [led0Pin, led1Pin, extcominPin, tempSensorPin, keypadGpioPin3, keypadGpioPin4, pb0ButtonPin]

theorem patternWrites_inPorts (odd even : Bool) : InPorts (patternWrites odd even) := by
  have inOdd : InPorts ledPatternOdd := inPorts_repeat (by decide) _
  have inEven : InPorts ledPatternEven := inPorts_repeat (by decide) _
  unfold patternWrites
  exact (inPorts_append _ _).mpr ⟨inPorts_optional odd inOdd, inPorts_optional even inEven⟩

theorem plainWrites_inPorts (role : Role) (g : Globals) (msg : Msg) :
    InPorts (plainWrites role g msg) := by
  have own : ∀ pin ∈ ownPins, pin.pin < 16 := by decide
  have member : ∀ w ∈ plainWrites role g msg, w.1 ∈ ownPins := by
    cases role <;> cases msg <;>
      simp [plainWrites, gpioLed0SetOn, gpioLed0SetOff, ownPins]
  exact fun w written => own _ (member w written)

section
variable {levels : GpioPin → Bool} (dark : Dark levels) (odd even : Bool)
include dark

theorem patternWrites_closed : drive levels (patternWrites odd even) = levels := by
  rw [patternWrites, drive_append, drive_optional _ _ (ledPatternOdd_closed dark),
    drive_optional _ _ (ledPatternEven_closed dark)]

theorem patternWrites_pulses :
    pulses led0Pin levels (patternWrites odd even) = 4000 * odd.toNat + 4000 * even.toNat ∧
      pulses led1Pin levels (patternWrites odd even) = 4000 * odd.toNat + 2000 * even.toNat := by
  obtain ⟨odd0, odd1⟩ := ledPatternOdd_pulses dark
  obtain ⟨even0, even1⟩ := ledPatternEven_pulses dark
  simp only [patternWrites, pulses_append, drive_optional _ _ (ledPatternOdd_closed dark), pulses_optional,
    odd0, odd1, even0, even1, and_self]

theorem patternWrites_together :
    Together led0Pin led1Pin levels (patternWrites odd even) ↔ even = true := by
  rw [patternWrites, together_append, drive_optional _ _ (ledPatternOdd_closed dark),
    together_optional _ _ dark.1, together_optional _ _ dark.1]
  have apart := ledPatternOdd_apart dark
  have both := ledPatternEven_together dark
  simp only [apart, both, and_false, false_or, and_true]

variable (role : Role) (g : Globals) (msg : Msg)

theorem plainWrites_levels : drive levels (plainWrites role g msg) =
    match msg with
    | .systemBoot => Function.update levels tempSensorPin true
    | .systemSoftTimer _ => Function.update levels extcominPin (!g.lastExtcominStateHigh)
    | _ => levels := by
  have flash : drive levels [gpioLed0SetOn, gpioLed0SetOff] = levels :=
    round_closed dark (by decide) ⟨by decide, by decide⟩
  cases role <;> cases msg <;> first | rfl | exact flash

theorem plainWrites_pulses : pulses led0Pin levels (plainWrites role g msg) = (flashes role msg).toNat ∧
    pulses led1Pin levels (plainWrites role g msg) = 0 := by
  have off : levels led0Pin = false := dark.1
  have led : led0Pin ≠ led1Pin := pins_apart.1.symm
  cases role <;> cases msg <;>
    simp [plainWrites, flashes, pulses, gpioLed0SetOn, gpioLed0SetOff, off, pins_apart, led]

theorem plainWrites_apart : ¬Together led0Pin led1Pin levels (plainWrites role g msg) := by
  have off : levels led0Pin = false := dark.1
  have off' : levels led1Pin = false := dark.2
  have led : led0Pin ≠ led1Pin := pins_apart.1.symm
  have other : led0Pin ≠ tempSensorPin ∧ led0Pin ≠ extcominPin := by decide
  cases role <;> cases msg <;>
    simp [plainWrites, together_cons, together_nil, gpioLed0SetOn, gpioLed0SetOff, off, off', pins_apart,
      other]

end

/-! ## Whole runs -/

/-- The levels that the registers hold after a run. -/
def levelsAfter (db : GattDb) (role : Role) (levels : GpioPin → Bool) (inputs : List Input) : GpioPin → Bool :=
  drive levels (pinWritesOf (effectsOf (run db role inputs)))

section
variable (db : GattDb) (role : Role) (levels : GpioPin → Bool) (inputs : List Input) (i : Input)

theorem pinWritesOf_concat : pinWritesOf (effectsOf (run db role (inputs ++ [i]))) =
    pinWritesOf (effectsOf (run db role inputs)) ++
      (patternWrites (blinksOdd role (globals db role inputs) i.msg)
        (blinksEven role (globals db role inputs) i.msg) ++
          plainWrites role (globals db role inputs) i.msg) := by
  rw [run_concat, effectsOf_concat, pinWritesOf_append, handled_output, step_pinWrites, stepPins_writes]

theorem levelsAfter_concat (dark : Dark (levelsAfter db role levels inputs)) :
    levelsAfter db role levels (inputs ++ [i]) =
      match i.msg with
      | .systemBoot => Function.update (levelsAfter db role levels inputs) tempSensorPin true
      | .systemSoftTimer _ => Function.update (levelsAfter db role levels inputs) extcominPin
          (!(globals db role inputs).lastExtcominStateHigh)
      | _ => levelsAfter db role levels inputs := by
  rw [levelsAfter, pinWritesOf_concat, drive_append, ← levelsAfter, drive_append, patternWrites_closed dark]
  exact plainWrites_levels dark role _ i.msg

theorem pulses_concat (dark : Dark (levelsAfter db role levels inputs)) (wire : GpioPin) :
    pulses wire levels (pinWritesOf (effectsOf (run db role (inputs ++ [i])))) =
      pulses wire levels (pinWritesOf (effectsOf (run db role inputs))) +
        (pulses wire (levelsAfter db role levels inputs)
          (patternWrites (blinksOdd role (globals db role inputs) i.msg)
            (blinksEven role (globals db role inputs) i.msg)) +
          pulses wire (levelsAfter db role levels inputs)
            (plainWrites role (globals db role inputs) i.msg)) := by
  rw [pinWritesOf_concat, pulses_append, pulses_append, ← levelsAfter, patternWrites_closed dark]

theorem levelsAfter_dark (dark : Dark levels) : Dark (levelsAfter db role levels inputs) := by
  induction inputs using List.reverseRecOn with
  | nil => exact dark
  | append_singleton inputs i ih =>
    have sensor (high : Bool) : Dark (Function.update (levelsAfter db role levels inputs) tempSensorPin high) := by
      simpa [Dark, Function.update_apply, pins_apart.2.2.2.1.symm, pins_apart.2.2.2.2.symm] using ih
    have extcomin (high : Bool) : Dark (Function.update (levelsAfter db role levels inputs) extcominPin high) := by
      simpa [Dark, Function.update_apply, pins_apart.2.1.symm, pins_apart.2.2.1.symm] using ih
    rw [levelsAfter_concat db role levels inputs i ih]
    split
    · exact sensor _
    · exact extcomin _
    · exact ih

end

/-- The events of a run on which the firmware runs a pattern. -/
def oddBlinks (role : Role) (h : List Handled) : Nat := h.countP fun t => blinksOdd role t.before t.msg

def evenBlinks (role : Role) (h : List Handled) : Nat := h.countP fun t => blinksEven role t.before t.msg

/-- The connections that the server has lost. -/
def closings (role : Role) (h : List Handled) : Nat := h.countP fun t => flashes role t.msg

theorem countP_concat {p : Handled → Bool} (h : List Handled) (t : Handled) :
    (h ++ [t]).countP p = h.countP p + (p t).toNat := by
  rw [List.countP_append, List.countP_singleton]
  cases p t <;> rfl

theorem run_pulses (db : GattDb) (role : Role) {levels : GpioPin → Bool} (dark : Dark levels)
    (inputs : List Input) :
    pulses led0Pin levels (pinWritesOf (effectsOf (run db role inputs))) =
        4000 * oddBlinks role (run db role inputs) + 4000 * evenBlinks role (run db role inputs) +
          closings role (run db role inputs) ∧
      pulses led1Pin levels (pinWritesOf (effectsOf (run db role inputs))) =
        4000 * oddBlinks role (run db role inputs) + 2000 * evenBlinks role (run db role inputs) := by
  induction inputs using List.reverseRecOn with
  | nil => exact ⟨rfl, rfl⟩
  | append_singleton inputs i ih =>
    have before := levelsAfter_dark db role levels inputs dark
    obtain ⟨pattern0, pattern1⟩ := patternWrites_pulses before
      (blinksOdd role (globals db role inputs) i.msg) (blinksEven role (globals db role inputs) i.msg)
    obtain ⟨plain0, plain1⟩ := plainWrites_pulses before role (globals db role inputs) i.msg
    have step (wire : GpioPin) := pulses_concat db role levels inputs i before wire
    have odd : oddBlinks role (run db role (inputs ++ [i])) = oddBlinks role (run db role inputs) +
        (blinksOdd role (globals db role inputs) i.msg).toNat := by
      rw [run_concat, oddBlinks, countP_concat]
      rfl
    have even : evenBlinks role (run db role (inputs ++ [i])) = evenBlinks role (run db role inputs) +
        (blinksEven role (globals db role inputs) i.msg).toNat := by
      rw [run_concat, evenBlinks, countP_concat]
      rfl
    have closed : closings role (run db role (inputs ++ [i])) = closings role (run db role inputs) +
        (flashes role i.msg).toNat := by
      rw [run_concat, closings, countP_concat]
      rfl
    rw [step, step, ih.1, ih.2, pattern0, pattern1, plain0, plain1, odd, even, closed]
    omega

theorem run_together (db : GattDb) (role : Role) {levels : GpioPin → Bool} (dark : Dark levels)
    (inputs : List Input) :
    Together led0Pin led1Pin levels (pinWritesOf (effectsOf (run db role inputs))) ↔
      ∃ t ∈ run db role inputs, blinksEven role t.before t.msg = true := by
  induction inputs using List.reverseRecOn with
  | nil =>
    have off : ¬Together led0Pin led1Pin levels [] := by
      rw [together_nil, dark.1]
      exact fun high => Bool.false_ne_true high.1
    exact iff_of_false off fun ⟨t, member, _⟩ => List.not_mem_nil member
  | append_singleton inputs i ih =>
    have before := levelsAfter_dark db role levels inputs dark
    have plain := plainWrites_apart before role (globals db role inputs) i.msg
    rw [pinWritesOf_concat, together_append, together_append, ih, ← levelsAfter, patternWrites_closed before,
      patternWrites_together before, run_concat]
    simp [plain, or_and_right, exists_or]

/-! ## From power-on -/

section
variable (ports : Ports) (pin : GpioPin)

theorem gpioInitPins_out : gpioPinOutGet pin (gpioInitPins ports) =
    if pin ∈ [keypadGpioPin3, keypadGpioPin4, pb0ButtonPin] then true
    else if pin ∈ [led0Pin, led1Pin, extcominPin] then false else gpioPinOutGet pin ports := by
  have fits : ∀ own ∈ ownPins, own.pin < 32 := by decide
  simp only [ownPins, List.forall_mem_cons] at fits
  obtain ⟨led0, led1, extcomin, -, odd, even, pb0, -⟩ := fits
  simp only [gpioInitPins, gpioPinOutGet_set, led0, led1, extcomin, odd, even, pb0, List.mem_cons,
    List.not_mem_nil, or_false]
  grind

theorem gpioInitPins_mode : gpioPinModeGet pin (gpioInitPins ports) =
    if pin ∈ [keypadGpioPin3, keypadGpioPin4, pb0ButtonPin] then GpioMode.input.value
    else if pin ∈ [led0Pin, led1Pin, extcominPin] then GpioMode.pushPull.value
    else gpioPinModeGet pin ports := by
  have fits : ∀ own ∈ ownPins, own.pin < 16 := by decide
  simp only [ownPins, List.forall_mem_cons] at fits
  obtain ⟨led0, led1, extcomin, -, odd, even, pb0, -⟩ := fits
  simp only [gpioInitPins, gpioPinModeGet_set, led0, led1, extcomin, odd, even, pb0, List.mem_cons,
    List.not_mem_nil, or_false]
  grind

end

/-- The levels that `app_init` leaves in the registers. -/
def startLevels (ports : Ports) : GpioPin → Bool := fun pin => gpioPinOutGet pin (gpioInitPins ports)

theorem startLevels_dark (ports : Ports) : Dark (startLevels ports) :=
  ⟨gpioInitPins_out ports led0Pin, gpioInitPins_out ports led1Pin⟩

def isTimer (i : Input) : Bool :=
  match i.msg with
  | .systemSoftTimer _ => true
  | _ => false

/-- The level of `EXTCOMIN` after this many soft timer events. -/
def turnedOver (timers : Nat) : Bool := timers % 2 = 1

theorem turnedOver_succ (timers : Nat) : turnedOver (timers + 1) = !turnedOver timers := by
  unfold turnedOver
  rcases Nat.mod_two_eq_zero_or_one timers with even | odd
  · simp [even, Nat.add_mod]
  · simp [odd, Nat.add_mod]

/-- What the pins are after a run that boots once. -/
theorem levelsAfter_boot (db : GattDb) (role : Role) (ports : Ports) {boot : Input}
    (boots : boot.msg = .systemBoot) {rest : List Input} (once : ∀ i ∈ rest, i.msg ≠ .systemBoot) :
    levelsAfter db role (startLevels ports) (boot :: rest) =
        Function.update (Function.update (startLevels ports) tempSensorPin true) extcominPin
          (turnedOver (rest.countP isTimer)) ∧
      (globals db role (boot :: rest)).lastExtcominStateHigh = turnedOver (rest.countP isTimer) := by
  induction rest using List.reverseRecOn with
  | nil =>
    have first := levelsAfter_concat db role (startLevels ports) [] boot (startLevels_dark ports)
    have low : (Function.update (startLevels ports) tempSensorPin true) extcominPin = false :=
      (Function.update_of_ne (by decide) _ _).trans (gpioInitPins_out ports extcominPin)
    have toggle := step_extcomin db .reset role boot
    rw [boots] at first toggle
    refine ⟨first.trans ?_, toggle⟩
    exact (Function.update_eq_self_iff.mpr low.symm).symm
  | append_singleton rest i ih =>
    obtain ⟨earlier, last⟩ := List.forall_mem_append.mp once
    have notBoot := last i List.mem_cons_self
    obtain ⟨levels, toggle⟩ := ih earlier
    have dark := levelsAfter_dark db role (startLevels ports) (boot :: rest) (startLevels_dark ports)
    have next := levelsAfter_concat db role (startLevels ports) (boot :: rest) i dark
    have toggled := step_extcomin db (globals db role (boot :: rest)) role i
    rw [← globals_concat] at toggled
    rw [← List.cons_append, next, toggled, toggle, levels, List.countP_append, List.countP_singleton]
    obtain ⟨env, msg⟩ := i
    cases msg
    case systemBoot => exact absurd rfl notBoot
    case systemSoftTimer handle =>
      refine ⟨?_, (turnedOver_succ _).symm⟩
      exact (Function.update_idem _ _ _).trans (congrArg _ (turnedOver_succ _).symm)
    all_goals exact ⟨rfl, rfl⟩

theorem run_inPorts (db : GattDb) (role : Role) (inputs : List Input) :
    InPorts (pinWritesOf (effectsOf (run db role inputs))) := by
  induction inputs using List.reverseRecOn with
  | nil => exact fun _ => nofun
  | append_singleton inputs i ih =>
    rw [pinWritesOf_concat]
    exact (inPorts_append _ _).mpr ⟨ih, (inPorts_append _ _).mpr
      ⟨patternWrites_inPorts _ _, plainWrites_inPorts _ _ _⟩⟩

/-- What the port registers hold between two events, from those before `app_init`. -/
structure PinsKept (before after : Ports) (timers : Nat) : Prop where
  outputs : ∀ pin ∈ [led0Pin, led1Pin, extcominPin], gpioPinModeGet pin after = GpioMode.pushPull.value
  /-- The keys and PB0 are inputs, and their glitch filter is on. -/
  inputs : ∀ pin ∈ [keypadGpioPin3, keypadGpioPin4, pb0ButtonPin],
    gpioPinModeGet pin after = GpioMode.input.value ∧ gpioPinOutGet pin after = true
  dark : gpioPinOutGet led0Pin after = false ∧ gpioPinOutGet led1Pin after = false
  powered : gpioPinOutGet tempSensorPin after = true
  /-- Every soft timer event has turned the level over. -/
  extcomin : gpioPinOutGet extcominPin after = turnedOver timers
  others (pin : GpioPin) : pin ∉ ownPins →
    gpioPinModeGet pin after = gpioPinModeGet pin before ∧
      gpioPinOutGet pin after = gpioPinOutGet pin before

def exampleTicks : List Input := obligingInputs [.systemSoftTimer 0, .connectionOpened 1, .systemSoftTimer 0,
  .systemSoftTimer 0]

/-- Counting the pulses since `app_init` tells what happened: each odd value is 4000 pulses on both
LEDs, each even value 4000 on the first and 2000 on the second, and each connection that the
server loses one on the first. -/
theorem led_pulses (db : GattDb) (role : Role) (ports : Ports) (inputs : List Input) :
    pulses led0Pin (startLevels ports) (pinWritesOf (effectsOf (run db role inputs))) =
        4000 * oddBlinks role (run db role inputs) + 4000 * evenBlinks role (run db role inputs) +
          closings role (run db role inputs) ∧
      pulses led1Pin (startLevels ports) (pinWritesOf (effectsOf (run db role inputs))) =
        4000 * oddBlinks role (run db role inputs) + 2000 * evenBlinks role (run db role inputs) :=
  run_pulses db role (startLevels_dark ports) inputs

/-- Both LEDs are lit at one moment of a run if and only if an even value was shown in it. -/
theorem leds_lit_together (db : GattDb) (role : Role) (ports : Ports) (inputs : List Input) :
    Together led0Pin led1Pin (startLevels ports) (pinWritesOf (effectsOf (run db role inputs))) ↔
      ∃ t ∈ run db role inputs, blinksEven role t.before t.msg = true :=
  run_together db role (startLevels_dark ports) inputs

end BleRemote.System
