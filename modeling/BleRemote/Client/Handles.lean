import BleRemote.Client.Discovery
import BleRemote.Reactive.Register

/-! Where the handles of a finished discovery come from. -/

set_option autoImplicit false
namespace BleRemote.Client

open Reactive Stack Device

/-- The four handles a discovery is after. -/
inductive Handle where
  | keypadService | ledService | keypadCharacteristics | ledCharacteristics
  deriving DecidableEq

namespace Handle

def uuid : Handle → List UInt8
  | .keypadService => keypadServiceUuid
  | .ledService => ledServiceUuid
  | .keypadCharacteristics => keypadCharacUuid
  | .ledCharacteristics => ledCharacUuid

def stored (handle : Handle) (ble : BleData) : Nat :=
  match handle with
  | .keypadService => ble.keypadServiceHandle.toNat
  | .ledService => ble.ledServiceHandle.toNat
  | .keypadCharacteristics => ble.keypadCharacteristicsHandle.toNat
  | .ledCharacteristics => ble.ledCharacteristicsHandle.toNat

def carried (handle : Handle) (msg : Msg) : Option (Uint8Array × Nat) :=
  match handle, msg with
  | .keypadService, .gattService event
  | .ledService, .gattService event => some (event.uuid, event.service.toNat)
  | .keypadCharacteristics, .gattCharacteristic event
  | .ledCharacteristics, .gattCharacteristic event =>
    some (event.uuid, event.characteristic.toNat)
  | _, _ => none

/-- The value of an event of its kind whose leading bytes are its UUID. -/
def offered (handle : Handle) (msg : Msg) : Option Nat :=
  match handle.carried msg with
  | some (uuid, value) => if uuidAgrees uuid handle.uuid then some value else none
  | none => none

end Handle

variable (db : GattDb)

theorem handler_stored (handle : Handle) (env : Env) (g : Globals) (msg : Msg) :
    handle.stored ((handleBleEventClient db msg).run env g).state.bleData =
      (handle.offered msg).getD (handle.stored g.bleData) := by
  cases msg <;> cases handle <;>
    simp [handleBleEventClient, Handle.stored, Handle.offered, Handle.carried, Handle.uuid] <;>
    split_ifs <;> simp [*]

theorem discoveryBleData_stored (handle : Handle) (g : Globals) (msg : Msg) :
    handle.stored (discoveryBleData g msg) = handle.stored g.bleData := by
  cases msg <;> cases handle <;> simp only [discoveryBleData, Handle.stored] <;> split_ifs <;> rfl

def handleRegister (handle : Handle) : Register (firmware db .client) Nat where
  read g := handle.stored g.bleData
  write t := handle.offered t.input.msg
  step g i := by
    change handle.stored (slBtOnEvent db .client g i).1.bleData = _
    rw [step_bleData, discoveryBleData_stored, handledState, handler_stored]
    rfl

/-- The handler stores a value whatever the handle was before. -/
def Stores (handle : Handle) (msg : Msg) (value : Nat) : Prop :=
  ∀ env g, handle.stored ((handleBleEventClient db msg).run env g).state.bleData = value

/-- A handle was assigned from an event of this history: the event carried the
value that is stored now, and its handling stored it. -/
def Assigned (handle : Handle) (h : List Handled) (ble : BleData) : Prop :=
  ∃ t ∈ h, ∃ array value, handle.carried t.msg = some (array, value) ∧
    Stores db handle t.msg value ∧ handle.stored ble = value

def withHandle (value : Nat) : Globals :=
  { Globals.reset with bleData := { BleData.zero with
      keypadServiceHandle := .ofNat value, ledServiceHandle := .ofNat value
      keypadCharacteristicsHandle := .ofNat value, ledCharacteristicsHandle := .ofNat value } }

theorem stores_iff (handle : Handle) (msg : Msg) (value : Nat) :
    Stores db handle msg value ↔ handle.offered msg = some value := by
  constructor
  · intro stores
    -- two states with different handles cannot both keep theirs
    have zero := stores (obliging fun _ => true) (withHandle 0)
    have one := stores (obliging fun _ => true) (withHandle 1)
    rw [handler_stored] at zero one
    cases offer : handle.offered msg with
    | some v => simpa [offer] using zero
    | none =>
      rw [offer, Option.getD_none] at zero one
      rw [← one] at zero
      cases handle <;> cases zero
  · intro offer env g
    rw [handler_stored, offer]
    rfl

theorem carried_of_offered {handle : Handle} {msg : Msg} {value : Nat}
    (offer : handle.offered msg = some value) :
    ∃ array, handle.carried msg = some (array, value) := by
  unfold Handle.offered at offer
  split at offer
  · next array v carried =>
    split_ifs at offer with agrees
    obtain rfl := Option.some.inj offer
    exact ⟨array, carried⟩
  · cases offer

theorem assigned_iff (handle : Handle) {inputs : List Input} {h : List Handled}
    (suffix : h <:+ run db .client inputs) :
    Assigned db handle h (globals db .client inputs).bleData ↔
      ∃ t ∈ h, (handle.offered t.msg).isSome = true := by
  constructor
  · intro ⟨t, member, array, value, _, stores, _⟩
    exact ⟨t, member, by rw [(stores_iff db handle t.msg value).mp stores]; rfl⟩
  · intro ⟨t, member, offers⟩
    obtain ⟨v, offer⟩ := Option.isSome_iff_exists.mp offers
    have written : v ∈ (handleRegister db handle).writes h :=
      (handleRegister db handle).mem_writes.mpr ⟨t, member, offer⟩
    -- the last write may be another one, but it is of this part of the run
    have recent := (handleRegister db handle).read_recent suffix (List.ne_nil_of_mem written)
    obtain ⟨u, earlier, latest⟩ := (handleRegister db handle).mem_writes.mp recent
    obtain ⟨array, carried⟩ := carried_of_offered latest
    exact ⟨u, earlier, array, _, carried, (stores_iff db handle _ _).mpr latest, rfl⟩

/-! ## Soundness of a finished discovery -/

def completionResults (h : List Handled) : List UInt16 :=
  h.filterMap fun t =>
    match t.msg with
    | .gattProcedureCompleted _ result => some result
    | _ => none

/-- When the machine enters `stateWAIT`, the session has had five completions, all
of them successful, and each handle was assigned in it. -/
def DiscoverySound (past : List Handled) (t : Handled) : Prop :=
  t.before.discoveryState ≠ .stateWait → t.after.discoveryState = .stateWait →
    completionResults (session (past ++ [t])) = List.replicate 5 0 ∧
    ∀ handle, Assigned db handle (session (past ++ [t])) t.after.bleData

/-- The session in which a completion finds the machine in `stateKEYPADNOTIF` has
had no failed completion, and offered every handle. -/
def DiscoveryFed (past : List Handled) (t : Handled) : Prop :=
  t.before.discoveryState = .stateKeypadNotif → isCompletion t = true →
    (∀ result ∈ completionResults (session (past ++ [t])), result = 0) ∧
    ∀ handle : Handle, ∃ u ∈ session (past ++ [t]), (handle.offered u.msg).isSome = true

theorem length_completionResults (h : List Handled) :
    (completionResults h).length = (h.filter isCompletion).length := by
  induction h with
  | nil => rfl
  | cons t h ih =>
    unfold completionResults at ih ⊢
    rw [List.filterMap_cons, List.filter_cons, isCompletion]
    cases t.msg <;> simp [ih]

theorem enters_wait_iff (g : Globals) (i : Input) :
    (g.discoveryState ≠ .stateWait ∧ (slBtOnEvent db .client g i).1.discoveryState = .stateWait) ↔
      g.discoveryState = .stateKeypadNotif ∧ isCompletion (handled db .client g i) = true := by
  rw [step_discoveryState]
  rcases i with ⟨env, msg⟩
  cases msg
  case gattProcedureCompleted =>
    cases state : g.discoveryState <;> simp [nextState, state, advance, isCompletion]
  case connectionOpened =>
    cases state : g.discoveryState <;> simp [nextState, state, isCompletion]
    split_ifs <;> simp
  all_goals simp [nextState, isCompletion]

theorem completions_of_keypadNotif (inputs : List Input)
    (last : (globals db .client inputs).discoveryState = .stateKeypadNotif) :
    ((session (run db .client inputs)).filter isCompletion).length = 4 := by
  have holds := session_run db inputs
  cases same : session (run db .client inputs) with
  | nil =>
    rw [same, SessionHolds, last] at holds
    cases holds
  | cons opened rest =>
    rw [← same, session_completions same]
    rw [same, SessionHolds, last] at holds
    have place : 5 = min (1 + (rest.filter isCompletion).length) 6 := holds.1
    omega

/-- Whenever a run enters `stateWAIT` its handles are sound, exactly when every
session that got so far was fed. -/
theorem discovery_sound_iff (inputs : List Input) :
    Always (DiscoverySound db) (run db .client inputs) ↔
      Always DiscoveryFed (run db .client inputs) := by
  apply run_always_iff
  intro first i _
  unfold DiscoverySound DiscoveryFed
  rw [← and_imp, ← and_imp, handled_before, handled_after, enters_wait_iff]
  apply forall_congr'
  intro entered
  obtain ⟨last, completion⟩ := entered
  -- the state alone says that this is the fifth completion of the session
  have five : (completionResults (session (run db .client first ++
      [handled db .client (globals db .client first) i]))).length = 5 := by
    have four := completions_of_keypadNotif db first last
    have begun : session (run db .client first) ≠ [] := by
      intro empty
      rw [empty] at four
      cases four
    rw [length_completionResults, session_concat, isClosed_of_isCompletion completion,
      if_neg Bool.false_ne_true, if_neg begun, List.filter_append, List.length_append, four]
    simp [completion]
  rw [List.eq_replicate_iff, ← globals_concat, ← run_concat] at *
  simp only [five, true_and, assigned_iff db _ (session_suffix _)]

def failedDiscovery : List Input :=
  ⟨obliging fun _ => true, .systemBoot⟩ :: ⟨obliging fun _ => true, .connectionOpened 1⟩ ::
    List.replicate 5 ⟨obliging fun _ => true, .gattProcedureCompleted 1 0x110F⟩

theorem failed_discovery_finishes : ∃ past t,
    run exampleDb .client failedDiscovery = past ++ [t] ∧
      t.before.discoveryState ≠ .stateWait ∧ t.after.discoveryState = .stateWait ∧
      completionResults (session (past ++ [t])) = List.replicate 5 0x110F ∧
      t.after.bleData.keypadCharacteristicsHandle = 0 ∧
      ¬ DiscoverySound exampleDb past t := by
  refine ⟨_, _, run_concat _ (failedDiscovery.take 6), by decide +kernel, by decide +kernel,
    by decide +kernel, by decide +kernel, fun sound => ?_⟩
  exact absurd (sound (by decide +kernel) (by decide +kernel)).1 (by decide +kernel)

end BleRemote.Client
