/-
This file models `network/messages.py`, `network/report_manager.py` and
`network/command_policy.py`: the commands of the control server, the reports to it, and the
one place where the driving state changes on outside events. The policy keeps the reasons of
an error; the report manager keeps the times that identify an arrival and a lost connection.

Every operation holds the policy's lock and is one step here. The readings of `time.time()`
an operation makes are its arguments. What the components do to the outside, the reports
handed to the client and the log lines that tell an accepted command, is recorded in order.
-/

import RcTaxi.PyValue
import RcTaxi.SafetySupervisor

namespace RcTaxi

/-- Why the car is in `ERROR`. -/
inductive Reason
  | controlLost
  | gpsLost
  deriving DecidableEq, Repr

inductive ReportKind
  | accept
  | recovered
  | error
  | complete
  deriving DecidableEq, Repr

/-- Where in the report manager a report is sent from. -/
inductive ReportOrigin
  | sendAccept
  | sendRecovered
  | sendErrorOnce
  | markComplete
  | startErrorResend
  | tickComplete
  | tickError
  deriving DecidableEq, Repr

def ReportOrigin.kind : ReportOrigin → ReportKind
  | .sendAccept => .accept
  | .sendRecovered => .recovered
  | .sendErrorOnce | .startErrorResend | .tickError => .error
  | .markComplete | .tickComplete => .complete

/-- What can be observed of the policy and the report manager. -/
inductive Event (α : Type)
  | report (origin : ReportOrigin) (timestamp : α)
  | moveAccepted (kind : ServiceKind)
  | stopAccepted
  | resumeAccepted
  deriving DecidableEq

/-- The car with the state of the policy and of the report manager, and what they did so far. -/
structure Stack (α : Type) extends Car α where
  reasons : Finset Reason
  completeTs : Option α
  errorResendTs : Option α
  events : List (Event α)

/-- The runtime before it starts. -/
def Stack.initial {α : Type} [Scalar α] : Stack α where
  store := .initial
  latched := false
  motorThrottle := 0
  steeringDeg := 0
  reasons := ∅
  completeTs := none
  errorResendTs := none
  events := []

/-- A command of the control server; a move carries its destination. -/
inductive Command (α : Type)
  | move (x y : α)
  | stop
  | resume

variable {α : Type} [Scalar α]

/-! ### Messages -/

/-- `PROTOCOL_MAJOR` is what stands before the first point of the version. -/
def majorOk (version : PyValue α) : Bool :=
  match version with
  | .str text => text.toList.takeWhile (· ≠ '.') = ['2']
  | _ => true

/-- A coordinate of a move, in the range of the map. -/
def coordinate? (limit : α) (value : PyValue α) : Option α :=
  match value with
  | .int number => if 0 ≤ (number : α) ∧ (number : α) ≤ limit then some number else none
  | .float (.finite number) => if 0 ≤ number ∧ number ≤ limit then some number else none
  | _ => none

/-- `parse_command` on the decoded message, `none` for one to be ignored. A text that is not JSON
is an absent message. -/
def parseCommand (mapXMax mapYMax : α) (message : Option (PyValue α)) : Option (Command α) := do
  let message ← message
  if !message.isDict || !majorOk (message.get "protocol_version") ||
      !(message.get "header").equalsStr "command" then none
  else if (message.get "command").equalsStr "move" then
    let loc := message.get "loc"
    if loc.isDict then
      let x ← coordinate? mapXMax (loc.get "x")
      let y ← coordinate? mapYMax (loc.get "y")
      some (.move x y)
    else none
  else if (message.get "command").equalsStr "stop" then some .stop
  else if (message.get "command").equalsStr "resume" then some .resume
  else none

namespace Stack

/-- A call of the store. -/
def onStore (change : VehicleSnapshot α → VehicleSnapshot α) (stack : Stack α) : Stack α :=
  { stack with store := change stack.store }

/-- A whole call of the supervisor. -/
def onCar {Result : Type} (program : OutputProgram α Result) (stack : Stack α) : Stack α :=
  { stack with toCar := (program.run OutputOp.handle stack.toCar).2 }

def emit (event : Event α) (stack : Stack α) : Stack α :=
  { stack with events := stack.events ++ [event] }

/-- `_send`. -/
def send (origin : ReportOrigin) (timestamp : α) (stack : Stack α) : Stack α :=
  stack.emit (.report origin timestamp)

/-! ### ReportManager -/

def sendAccept (now : α) (stack : Stack α) : Stack α := stack.send .sendAccept now

def sendRecovered (now : α) (stack : Stack α) : Stack α := stack.send .sendRecovered now

def sendErrorOnce (now : α) (stack : Stack α) : Stack α := stack.send .sendErrorOnce now

/-- `mark_complete`: the first time of an arrival is kept. -/
def markComplete (now : α) (stack : Stack α) : Stack α :=
  let timestamp := stack.completeTs.getD now
  { stack with completeTs := some timestamp }.send .markComplete timestamp

def clearComplete (stack : Stack α) : Stack α := { stack with completeTs := none }

/-- `start_error_resend`: the first time of a reconnection is kept. -/
def startErrorResend (now : α) (stack : Stack α) : Stack α :=
  let timestamp := stack.errorResendTs.getD now
  { stack with errorResendTs := some timestamp }.send .startErrorResend timestamp

def stopErrorResend (stack : Stack α) : Stack α := { stack with errorResendTs := none }

/-- The complete report of a tick: in `ARRIVED` only. -/
def resendComplete (stack : Stack α) : Stack α :=
  match stack.completeTs with
  | some timestamp =>
    if stack.store.drivingState = .arrived then stack.send .tickComplete timestamp else stack
  | none => stack

/-- The error report of a tick: in `ERROR` only. -/
def resendError (stack : Stack α) : Stack α :=
  match stack.errorResendTs with
  | some timestamp =>
    if stack.store.drivingState = .error then stack.send .tickError timestamp else stack
  | none => stack

/-- `ReportManager.tick`. -/
def reportTick (stack : Stack α) : Stack α := stack.resendComplete.resendError

/-! ### CommandPolicy -/

/-- `_on_move`: a move out of the boarding wait is a ride, any other a pick-up. -/
def onMove (x y : α) (clock : ℕ → α) (stack : Stack α) : Stack α :=
  if stack.store.drivingState ≠ .waiting then stack
  else
    let kind := if stack.store.serviceKind = some .pickup then .carry else .pickup
    (((stack.onStore (.setMission x y kind (clock 0))).onStore (.setDrivingState .planning)).sendAccept
      (clock 1)).emit (.moveAccepted kind)

/-- `_on_stop`. -/
def onStop (stack : Stack α) : Stack α :=
  if stack.store.drivingState ≠ .arrived then stack
  else
    let nextKind := if stack.store.serviceKind = some .pickup then some .pickup else none
    ((stack.clearComplete.onStore (.clearMission nextKind)).onStore
      (.setDrivingState .waiting)).emit .stopAccepted

/-- `_enter_error`: the first reason stops the car and remembers its state. -/
def enterError (reason : Reason) (stack : Stack α) : Stack α :=
  let added := { stack with reasons := insert reason stack.reasons }
  if stack.store.drivingState = .error then added
  else (added.onStore (.setDrivingState .error)).onCar SafetySupervisor.forceStop

/-- Discard a reason; without the control server's the error reports end. -/
def dropReason (reason : Reason) (stack : Stack α) : Stack α :=
  let removed := { stack with reasons := stack.reasons.erase reason }
  if reason = .controlLost then removed.stopErrorResend else removed

/-- `_clear_reason`: the last reason brings the remembered state back. -/
def clearReason (reason : Reason) (stack : Stack α) : Stack α :=
  let quiet := stack.dropReason reason
  if quiet.reasons.Nonempty then quiet
  else if quiet.store.drivingState = .error then
    quiet.onStore VehicleSnapshot.recoverPreviousState
  else quiet

/-- `_on_resume`. -/
def onResume (stack : Stack α) : Stack α :=
  if stack.store.drivingState ≠ .error ∨ .controlLost ∉ stack.reasons then stack
  else (stack.emit .resumeAccepted).clearReason .controlLost

def onCommand (command : Command α) (clock : ℕ → α) (stack : Stack α) : Stack α :=
  match command with
  | .move x y => stack.onMove x y clock
  | .stop => stack.onStop
  | .resume => stack.onResume

/-- `on_control_disconnected`. -/
def onControlDisconnected (stack : Stack α) : Stack α := stack.enterError .controlLost

/-- `on_control_connected`: a reconnection starts the error reports. -/
def onControlConnected (now : α) (stack : Stack α) : Stack α :=
  if .controlLost ∈ stack.reasons then stack.startErrorResend now else stack

/-- `on_gps_lost`: a new loss is reported once. -/
def onGpsLost (now : α) (stack : Stack α) : Stack α :=
  if .gpsLost ∈ stack.reasons then stack.enterError .gpsLost
  else (stack.enterError .gpsLost).sendErrorOnce now

/-- `on_gps_recovered`. -/
def onGpsRecovered (now : α) (stack : Stack α) : Stack α :=
  if .gpsLost ∈ stack.reasons then (stack.sendRecovered now).clearReason .gpsLost else stack

/-- `notify_arrived`: only a driving car arrives. -/
def notifyArrived (now : α) (stack : Stack α) : Stack α :=
  if stack.store.drivingState.isDriving then
    ((stack.onStore (.setDrivingState .arrived)).onCar SafetySupervisor.forceStop).markComplete now
  else stack

end Stack

/-- The map the policy checks destinations against. -/
structure CommandPolicy (α : Type) where
  mapXMax : α
  mapYMax : α

/-- The operations of the policy and their inputs. -/
inductive PolicyLabel (α : Type)
  | rawMessage (message : Option (PyValue α)) (clock : ℕ → α)
  | controlDisconnected
  | controlConnected (now : α)
  | gpsLost (now : α)
  | gpsRecovered (now : α)
  | notifyArrived (now : α)

namespace CommandPolicy

/-- `on_raw_message`. -/
def onRawMessage (policy : CommandPolicy α) (message : Option (PyValue α)) (clock : ℕ → α)
    (stack : Stack α) : Stack α :=
  match parseCommand policy.mapXMax policy.mapYMax message with
  | none => stack
  | some command => stack.onCommand command clock

/-- One operation. -/
def step (policy : CommandPolicy α) (stack : Stack α) : PolicyLabel α → Stack α
  | .rawMessage message clock => policy.onRawMessage message clock stack
  | .controlDisconnected => stack.onControlDisconnected
  | .controlConnected now => stack.onControlConnected now
  | .gpsLost now => stack.onGpsLost now
  | .gpsRecovered now => stack.onGpsRecovered now
  | .notifyArrived now => stack.notifyArrived now

end CommandPolicy

/-! ### What an operation does -/

/-- What the service of a customer depends on: the state behind an error, the kind, the mission
and the time of the arrival. -/
structure Service (α : Type) where
  state : DrivingState
  kind : Option ServiceKind
  mission : Option (ActiveMission α)
  completeTs : Option α
  deriving DecidableEq

namespace Stack

variable {stack : Stack α}

def service (stack : Stack α) : Service α :=
  ⟨stack.store.effectiveState, stack.store.serviceKind, stack.store.mission, stack.completeTs⟩

/-- In every state between two operations the store remembers a state exactly in `ERROR`, and the
car is in `ERROR` exactly while there is a reason for it. -/
structure Consistent (stack : Stack α) : Prop where
  remembers : stack.store.Remembers
  inError : stack.store.drivingState = .error ↔ stack.reasons.Nonempty

theorem enterError_reasons (reason : Reason) :
    (stack.enterError reason).reasons = insert reason stack.reasons := by
  unfold enterError
  dsimp only
  split <;> rfl

theorem enterError_drivingState (reason : Reason) :
    (stack.enterError reason).store.drivingState = .error := by
  unfold enterError
  dsimp only
  split
  · assumption
  · rfl

theorem enterError_events (reason : Reason) : (stack.enterError reason).events = stack.events := by
  unfold enterError
  dsimp only
  split <;> rfl

theorem enterError_errorResendTs (reason : Reason) :
    (stack.enterError reason).errorResendTs = stack.errorResendTs := by
  unfold enterError
  dsimp only
  split <;> rfl

theorem enterError_remembers (remembers : stack.store.Remembers) (reason : Reason) :
    (stack.enterError reason).store.Remembers := by
  unfold enterError
  dsimp only
  split
  · exact remembers
  · have entered := remembers.setDrivingState .error
    exact ⟨entered.inError, entered.outside⟩

/-- Entering an error does not touch the service. -/
theorem enterError_service (reason : Reason) :
    (stack.enterError reason).service = stack.service := by
  unfold enterError
  dsimp only
  split
  · rfl
  next outside =>
    have behind : stack.store.effectiveState = stack.store.drivingState := if_neg outside
    rw [service, service, behind,
      ← VehicleSnapshot.effectiveState_setDrivingState_error outside]
    rfl

theorem enterError_consistent (consistent : stack.Consistent) (reason : Reason) :
    (stack.enterError reason).Consistent := by
  refine ⟨enterError_remembers consistent.remembers reason, fun _ => ?_,
    fun _ => enterError_drivingState reason⟩
  rw [enterError_reasons]
  exact Finset.insert_nonempty _ _

omit [Scalar α] in
theorem dropReason_reasons (reason : Reason) :
    (stack.dropReason reason).reasons = stack.reasons.erase reason := by
  unfold dropReason
  dsimp only
  split <;> rfl

omit [Scalar α] in
theorem dropReason_store (reason : Reason) : (stack.dropReason reason).store = stack.store := by
  unfold dropReason
  dsimp only
  split <;> rfl

omit [Scalar α] in
theorem clearReason_reasons (reason : Reason) :
    (stack.clearReason reason).reasons = stack.reasons.erase reason := by
  rw [← dropReason_reasons]
  unfold clearReason
  dsimp only
  split_ifs <;> rfl

omit [Scalar α] in
theorem clearReason_events (reason : Reason) :
    (stack.clearReason reason).events = stack.events := by
  unfold clearReason dropReason
  dsimp only
  split_ifs <;> rfl

omit [Scalar α] in
theorem clearReason_errorResendTs (reason : Reason) :
    (stack.clearReason reason).errorResendTs =
      if reason = .controlLost then none else stack.errorResendTs := by
  unfold clearReason dropReason
  dsimp only
  split_ifs <;> rfl

omit [Scalar α] in
theorem clearReason_completeTs (reason : Reason) :
    (stack.clearReason reason).completeTs = stack.completeTs := by
  unfold clearReason dropReason
  dsimp only
  split_ifs <;> rfl

omit [Scalar α] in
/-- Clearing a reason leaves the store alone, or recovers it when no reason is left. -/
theorem clearReason_store (reason : Reason) :
    (stack.clearReason reason).store =
      if stack.store.drivingState = .error ∧ stack.reasons.erase reason = ∅ then
        stack.store.recoverPreviousState
      else stack.store := by
  have store : (stack.dropReason reason).store = stack.store := dropReason_store reason
  unfold clearReason
  dsimp only
  rw [dropReason_reasons, store]
  by_cases left : (stack.reasons.erase reason).Nonempty
  · rw [if_pos left, if_neg fun both => Finset.nonempty_iff_ne_empty.mp left both.2]
    exact store
  · rw [if_neg left]
    by_cases inError : stack.store.drivingState = .error
    · rw [if_pos inError, if_pos ⟨inError, Finset.not_nonempty_iff_eq_empty.mp left⟩]
      exact congrArg VehicleSnapshot.recoverPreviousState store
    · rw [if_neg inError, if_neg fun both => inError both.1]
      exact store

omit [Scalar α] in
theorem clearReason_remembers (remembers : stack.store.Remembers) (reason : Reason) :
    (stack.clearReason reason).store.Remembers := by
  rw [clearReason_store]
  split
  · exact remembers.recoverPreviousState
  · exact remembers

omit [Scalar α] in
/-- Clearing a reason does not touch the service. -/
theorem clearReason_service (remembers : stack.store.Remembers) (reason : Reason) :
    (stack.clearReason reason).service = stack.service := by
  rw [service, service, clearReason_store, clearReason_completeTs]
  split
  next recovered =>
    obtain ⟨previous, remembered, different⟩ := remembers.inError recovered.1
    have behind : stack.store.recoverPreviousState.effectiveState = stack.store.effectiveState := by
      rw [← VehicleSnapshot.recoverPreviousState_drivingState recovered.1]
      refine if_neg fun stillError => ?_
      rw [VehicleSnapshot.recoverPreviousState, remembered] at stillError
      exact different stillError
    rw [behind]
    rfl
  · rfl

omit [Scalar α] in
theorem clearReason_consistent (consistent : stack.Consistent) {reason : Reason} :
    (stack.clearReason reason).Consistent := by
  refine ⟨clearReason_remembers consistent.remembers reason, ?_⟩
  rw [clearReason_reasons, clearReason_store]
  by_cases left : (stack.reasons.erase reason).Nonempty
  · rw [if_neg fun both => Finset.nonempty_iff_ne_empty.mp left both.2, consistent.inError]
    exact ⟨fun _ => left, fun _ => left.mono (Finset.erase_subset _ _)⟩
  · refine ⟨fun stillError => ?_, fun nonempty => absurd nonempty left⟩
    by_cases inError : stack.store.drivingState = .error
    · rw [if_pos ⟨inError, Finset.not_nonempty_iff_eq_empty.mp left⟩] at stillError
      obtain ⟨previous, remembered, different⟩ := consistent.remembers.inError inError
      rw [VehicleSnapshot.recoverPreviousState, remembered] at stillError
      exact absurd stillError different
    · rw [if_neg fun both => inError both.1] at stillError
      exact absurd stillError inError

end Stack

end RcTaxi
