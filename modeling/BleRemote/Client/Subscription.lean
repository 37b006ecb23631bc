import BleRemote.Client.GattLink

/-! The client's record of the key notifications against what its stack has completed. -/

set_option autoImplicit false
namespace BleRemote.Client

open Reactive Stack Device

/-- With no subscription outstanding, the flag says whether the open connection notifies. -/
def SubscriptionMirrored (past : List Handled) (t : Handled) : Prop :=
  (gattLink (past ++ [t])).Quiet →
    (t.after.bleData.buttonNotificationFlag = true ↔ (gattLink (past ++ [t])).Subscribed)

instance (past : List Handled) (t : Handled) : Decidable (SubscriptionMirrored past t) :=
  inferInstanceAs (Decidable (_ → _))

/-- What an event must find for the flag to stay right. A connection starts and ends
with the flag cleared; a toggle is accepted, unless a subscription is outstanding; the
completion after which none is outstanding leaves the connection as the flag has it, or,
at the end of discovery, notifying. -/
def SubscriptionKept (past : List Handled) (t : Handled) : Prop :=
  let link := (gattLink past).deliver t.msg
  match t.msg with
  | .connectionOpened _ | .connectionClosed _ => t.before.bleData.buttonNotificationFlag = false
  | .systemBoot => link.Quiet → ¬ link.Subscribed
  | .systemExternalSignal _ =>
    link.Quiet → t.input.env.status (toggleRequest t.before.bleData) = statusOk
  | .gattProcedureCompleted _ _ =>
    link.Quiet →
      (∀ c ∈ nextRequests t.before.bleData t.before.discoveryState, isSubscription c = true →
        t.input.env.status c ≠ statusOk) →
      (t.before.bleData.buttonNotificationFlag = true ∨ t.before.discoveryState = .stateKeypadNotif ↔
        link.Subscribed)
  | _ => True

variable (db : GattDb) (g : Globals) (i : Input)

theorem step_buttonNotificationFlag :
    (slBtOnEvent db .client g i).1.bleData.buttonNotificationFlag =
      match i.msg with
      | .systemBoot => false
      | .systemExternalSignal _ => !g.bleData.buttonNotificationFlag
      | .gattProcedureCompleted _ _ =>
        g.bleData.buttonNotificationFlag || decide (g.discoveryState = .stateKeypadNotif)
      | _ => g.bleData.buttonNotificationFlag := by
  rw [step_bleData, handledState]
  rcases i with ⟨env, msg⟩
  cases msg
  case gattProcedureCompleted =>
    by_cases last : g.discoveryState = .stateKeypadNotif <;>
      simp [handleBleEventClient, discoveryBleData, last]
  case connectionOpened =>
    by_cases idle : g.discoveryState = .stateOpen <;>
      simp [handleBleEventClient, discoveryBleData, idle]
  case scannerScanReport address =>
    by_cases full : addressCheckLoop address g.addressCheck = 6 <;>
      simp [handleBleEventClient, discoveryBleData, full]
  all_goals simp [handleBleEventClient, discoveryBleData]

/-- One event keeps the flag right exactly when it finds what it needs. -/
theorem subscription_step {past : List Handled} (mirrored : (gattLink past).Quiet →
      (g.bleData.buttonNotificationFlag = true ↔ (gattLink past).Subscribed)) :
    SubscriptionMirrored past (handled db .client g i) ↔
      SubscriptionKept past (handled db .client g i) := by
  unfold SubscriptionMirrored SubscriptionKept
  rw [gattLink_concat, handled_output, handled_after, step_gattRequests, accept_issued_quiet,
    GattLink.accept_subscribed, step_buttonNotificationFlag]
  generalize gattLink past = link at *
  rcases i with ⟨env, msg⟩
  cases msg
  case systemBoot => simp [GattLink.deliver, requests]
  case connectionOpened connection =>
    -- a new connection has nothing outstanding, and discovery does not begin with a subscription
    by_cases idle : g.discoveryState = .stateOpen <;>
      simp [GattLink.deliver, GattLink.Quiet, GattLink.Subscribed, requests, idle, firstRequest,
        isSubscription]
  case connectionClosed =>
    simp [GattLink.deliver, GattLink.Quiet, GattLink.Subscribed, requests]
  case systemExternalSignal extsignals =>
    -- the flag turns over, the subscription does not until the request completes
    simp only [GattLink.deliver, handled_msg, handled_before, handled_input, List.mem_singleton,
      forall_eq, Bool.not_eq_true']
    constructor
    · intro agrees quiet
      by_contra rejected
      have turned := agrees ⟨quiet, fun _ => rejected⟩
      rw [← mirrored quiet, ← Bool.not_eq_true] at turned
      exact not_iff_self turned
    · rintro accepted ⟨quiet, rejected⟩
      exact absurd (accepted quiet) (rejected rfl)
  case gattProcedureCompleted connection result =>
    simp [requests]
  case gattCharacteristicValue event =>
    by_cases key : KeyValue g.bleData event <;>
      simpa [GattLink.deliver, key, isSubscription] using mirrored
  all_goals simpa [GattLink.deliver, requests] using mirrored

-- A whole discovery, the subscription at its end included, and then the link is lost.
def subscribeAndClose : List Input :=
  obligingInputs (.systemBoot :: .connectionOpened 1 ::
    (List.replicate 5 (.gattProcedureCompleted 1 0) ++ [.connectionClosed 1]))

end BleRemote.Client
