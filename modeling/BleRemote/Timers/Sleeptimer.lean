import BleRemote.Reactive.Machine

/-! The timer list of the sleeptimer service.

The entries of the service are written over a store of running timers. The store of the
source is a list in which each timer counts from the one before it.
-/

set_option autoImplicit false
namespace BleRemote.Timers

variable {Handle Store : Type}

/-- A running timer, less what places it in the list. -/
structure Alarm (Handle : Type) where
  handle : Handle
  hasCallback : Bool
  priority : UInt8
  optionFlags : UInt16
  timeoutPeriodic : UInt32
  timeoutExpectedTc : UInt32
deriving DecidableEq, Repr

inductive Status where
  | ok
  | notReady
  | invalidState
deriving DecidableEq, Repr

inductive Happening (Handle : Type) where
  | callback (handle : Handle)
  | initiateRestore
  | returned (status : Status)
deriving DecidableEq, Repr

/-- What the entries of the service do with the running timers. -/
structure Queue (Handle Store : Type) where
  running : Handle → Store → Bool
  /-- The timers without time left, as the compare interrupt finds them. -/
  due : Store → List (Alarm Handle)
  update : Nat → Store → Store
  insert : Alarm Handle → UInt32 → Store → Store
  remove : Handle → Store → Store
  revise : (Alarm Handle → Alarm Handle) → Store → Store

structure Request (Handle : Type) where
  handle : Handle
  timeout : UInt32
  hasCallback : Bool
  priority : UInt8
  optionFlags : UInt16
deriving DecidableEq, Repr

/-- The readings of the counter that differ from the update's, and the restore delay that the
power manager tells, come with the entry. A callback's own entries follow the one that calls it. -/
inductive Entry (Handle : Type) where
  | startTimer (request : Request Handle) (counter wakeupDelay : UInt32)
  | startPeriodicTimer (request : Request Handle) (counter wakeupDelay : UInt32)
  | stopTimer (handle : Handle)
  | updateDeltaList
  | processExpired (counter wakeupDelay : UInt32)
deriving DecidableEq, Repr

/-- An entry at a time, in ticks since the counter was started. -/
structure Tick (Handle : Type) where
  now : Nat
  entry : Entry Handle
deriving DecidableEq, Repr

def Alarm.call (alarm : Alarm Handle) : List (Happening Handle) :=
  if alarm.hasCallback = true then [.callback alarm.handle] else []

def Alarm.expectNext (alarm : Alarm Handle) : Alarm Handle :=
  { alarm with timeoutExpectedTc := alarm.timeoutExpectedTc + alarm.timeoutPeriodic }

/-- The timeout that is inserted: no sooner than the clocks can be restored, unless the power
manager itself asks. -/
def Alarm.restorable (alarm : Alarm Handle) (timeout wakeupDelay : UInt32) :
    UInt32 × List (Happening Handle) :=
  if alarm.optionFlags = 0 ∧ timeout < wakeupDelay then (wakeupDelay, [.initiateRestore])
  else (timeout, [])

/-- Timers with a higher priority first: the lower number. -/
def highestPriority (current : Alarm Handle) : List (Alarm Handle) → Alarm Handle
  | [] => current
  | temp :: rest =>
    highestPriority (if current.priority > temp.priority then temp else current) rest

/-- Ticks since the timer was expected, as `int32_t`. -/
def Alarm.periodicCorrection (alarm : Alarm Handle) (counter : UInt32) : Int :=
  (counter - alarm.timeoutExpectedTc).toInt32.toInt

namespace Queue

variable (q : Queue Handle Store)

def insertTimer (alarm : Alarm Handle) (timeout wakeupDelay : UInt32) (s : Store) :
    Store × List (Happening Handle) :=
  let restorable := alarm.restorable timeout wakeupDelay
  (q.insert alarm restorable.1 s, restorable.2)

def createTimer (now : Nat) (alarm : Alarm Handle) (timeoutInitial wakeupDelay : UInt32)
    (s : Store) : Store × List (Happening Handle) :=
  let called := if timeoutInitial = 0 then alarm.call else []
  if timeoutInitial = 0 ∧ alarm.timeoutPeriodic = 0 then (s, called ++ [.returned .ok])
  else
    let timeout := if timeoutInitial = 0 then alarm.timeoutPeriodic else timeoutInitial
    let inserted := q.insertTimer alarm timeout wakeupDelay (q.update now s)
    (inserted.1, called ++ inserted.2 ++ [.returned .ok])

/-- `sl_sleeptimer_start_timer` and its periodic sibling, which differ in the period and in
what they return for a timer that is running. -/
def start (now : Nat) (request : Request Handle) (timeoutPeriodic : UInt32) (refused : Status)
    (counter wakeupDelay : UInt32) (s : Store) : Store × List (Happening Handle) :=
  if q.running request.handle s = true then (s, [.returned refused])
  else q.createTimer now
    { handle := request.handle, hasCallback := request.hasCallback, priority := request.priority,
      optionFlags := request.optionFlags, timeoutPeriodic,
      timeoutExpectedTc := counter + timeoutPeriodic } request.timeout wakeupDelay s

def startTimer (now : Nat) (request : Request Handle) :=
  q.start now request 0 .notReady

def startPeriodicTimer (now : Nat) (request : Request Handle) :=
  q.start now request request.timeout .invalidState

def stopTimer (now : Nat) (handle : Handle) (s : Store) : Store × List (Happening Handle) :=
  let updated := q.update now s
  if q.running handle updated = true then (q.remove handle updated, [.returned .ok])
  else (updated, [.returned .invalidState])

/-- The timer that the loop in `process_timer_irq` turns to next. -/
def current (s : Store) : Option (Alarm Handle) :=
  match q.due s with
  | [] => none
  | head :: rest => some (highestPriority head (head :: rest))

variable [DecidableEq Handle]

/-- One turn of this loop, up to the callback. -/
def processExpired (counter wakeupDelay : UInt32) (s : Store) : Store × List (Happening Handle) :=
  match q.current s with
  | none => (s, [])
  | some current =>
    let period : Int := current.timeoutPeriodic.toNat
    let correction := current.periodicCorrection counter
    if current.timeoutPeriodic = 0 then (q.remove current.handle s, current.call)
    else if correction > period then
      -- late by more than a period: it stays due, to be called as often as it should
      (q.revise (fun a => if a.handle = current.handle then a.expectNext else a) s, current.call)
    else
      let inserted := q.insertTimer current.expectNext (UInt32.ofInt (period - correction))
        wakeupDelay (q.remove current.handle s)
      (inserted.1, inserted.2 ++ current.call)

def step (s : Store) (tick : Tick Handle) : Store × List (Happening Handle) :=
  match tick.entry with
  | .startTimer request counter wakeupDelay =>
    q.startTimer tick.now request counter wakeupDelay s
  | .startPeriodicTimer request counter wakeupDelay =>
    q.startPeriodicTimer tick.now request counter wakeupDelay s
  | .stopTimer handle => q.stopTimer tick.now handle s
  | .updateDeltaList => (q.update tick.now s, [])
  | .processExpired counter wakeupDelay => q.processExpired counter wakeupDelay s

end Queue

/-- `timer_head` with the deltas, and the counter at the last update. -/
structure Sleeptimer (Handle : Type) where
  timerHead : List (Alarm Handle × UInt32)
  lastDeltaUpdateCount : UInt32
deriving DecidableEq, Repr

def deltaListInsertTimer (alarm : Alarm Handle) :
    UInt32 → List (Alarm Handle × UInt32) → List (Alarm Handle × UInt32)
  | localHandleDelta, [] => [(alarm, localHandleDelta)]
  | localHandleDelta, (current, delta) :: rest =>
    if localHandleDelta ≥ delta ∨ delta = 0 ∨
        (localHandleDelta - delta = 0 ∧ alarm.priority > current.priority) then
      (current, delta) :: deltaListInsertTimer alarm (localHandleDelta - delta) rest
    else (alarm, localHandleDelta) :: (current, delta - localHandleDelta) :: rest

def addToNext (delta : UInt32) :
    List (Alarm Handle × UInt32) → List (Alarm Handle × UInt32)
  | [] => []
  | (next, nextDelta) :: rest => (next, nextDelta + delta) :: rest

def deltaListRemoveTimer [DecidableEq Handle] (handle : Handle) :
    List (Alarm Handle × UInt32) → List (Alarm Handle × UInt32)
  | [] => []
  | (current, delta) :: rest =>
    if current.handle = handle then addToNext delta rest
    else (current, delta) :: deltaListRemoveTimer handle rest

def updateDeltas : UInt32 → List (Alarm Handle × UInt32) → List (Alarm Handle × UInt32)
  | _, [] => []
  | timeDiff, (timer, delta) :: rest =>
    if timeDiff > 0 then
      if delta ≥ timeDiff then (timer, delta - timeDiff) :: rest
      else (timer, 0) :: updateDeltas (timeDiff - delta) rest
    else (timer, delta) :: rest

def updateDeltaList (now : Nat) (s : Sleeptimer Handle) : Sleeptimer Handle :=
  let currentCnt := UInt32.ofNat now
  { timerHead := updateDeltas (currentCnt - s.lastDeltaUpdateCount) s.timerHead
    lastDeltaUpdateCount := currentCnt }

def deltaQueue [DecidableEq Handle] : Queue Handle (Sleeptimer Handle) where
  running handle s := s.timerHead.any fun e => e.1.handle = handle
  due s := (s.timerHead.takeWhile fun e => e.2 = 0).map Prod.fst
  update := updateDeltaList
  insert alarm timeout s := { s with timerHead := deltaListInsertTimer alarm timeout s.timerHead }
  remove handle s := { s with timerHead := deltaListRemoveTimer handle s.timerHead }
  revise f s := { s with timerHead := s.timerHead.map fun e => (f e.1, e.2) }

def sleeptimer [DecidableEq Handle] (counter : Nat) :
    Reactive.Machine (Sleeptimer Handle) (Tick Handle) (List (Happening Handle)) where
  start := { timerHead := [], lastDeltaUpdateCount := UInt32.ofNat counter }
  step := deltaQueue.step

/-- The deltas up to a timer, its own with them. -/
def addDeltas [DecidableEq Handle] (handle : Handle) :
    UInt32 → List (Alarm Handle × UInt32) → Option UInt32
  | _, [] => none
  | time, (current, delta) :: rest =>
    if current.handle = handle then some (time + delta)
    else addDeltas handle (time + delta) rest

/-- `sl_sleeptimer_get_timer_time_remaining`, with the counter's reading behind the update. -/
def getTimerTimeRemaining [DecidableEq Handle] (handle : Handle) (now : Nat) (counter : UInt32)
    (s : Sleeptimer Handle) : Option UInt32 :=
  let updated := updateDeltaList now s
  let since := counter - updated.lastDeltaUpdateCount
  (addDeltas handle 0 updated.timerHead).map fun time =>
    if time > since then time - since else 0

end BleRemote.Timers
