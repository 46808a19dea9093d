/-
This file shows what the control server can rely on in the reports of the car. The server
takes a report and its timestamp as the name of an event: an arrival is reported under one
timestamp until it is confirmed by a stop, and a lost connection under one timestamp from the
first reconnection until it is confirmed by a resume.

The timestamps are kept by the report manager and their lifetimes are decided by the policy,
so the invariant ties the two together: the log of what was done can be followed with nothing
but the two kept timestamps.
-/

import RcTaxi.CommandPolicy
import RcTaxi.Stamps

namespace RcTaxi

open Stamps

variable {α : Type}

/-- An operation of the policy, or a tick of the report manager. -/
inductive ReportLabel (α : Type)
  | policy (label : PolicyLabel α)
  | reportTick

namespace ReportProtocol

def step [Scalar α] (policy : CommandPolicy α) (stack : Stack α) : ReportLabel α → Stack α
  | .policy label => policy.step stack label
  | .reportTick => stack.reportTick

/-- Arrivals open an episode, ticks repeat its complete report, and an accepted stop closes it. -/
def completeRole : Event α → Role α
  | .report .markComplete timestamp => .opens timestamp
  | .report .tickComplete timestamp => .repeats timestamp
  | .stopAccepted => .closes
  | _ => .other

/-- Reconnections open an episode, ticks repeat its error report, and an accepted resume closes
it. -/
def errorRole : Event α → Role α
  | .report .startErrorResend timestamp => .opens timestamp
  | .report .tickError timestamp => .repeats timestamp
  | .resumeAccepted => .closes
  | _ => .other

/-- The log can be followed up to the timestamp that is kept. -/
def Logged (role : Event α → Role α) (events : List (Event α)) (kept : Option α) : Prop :=
  Follows none (events.map role) kept

/-- Nothing has happened yet: no reason, no report, no timestamp, and no arrival. -/
structure Fresh (stack : Stack α) : Prop where
  outside : stack.store.drivingState ≠ .error
  forgotten : stack.store.prevStateForRecovery = none
  notArrived : stack.store.drivingState ≠ .arrived
  reasons : stack.reasons = ∅
  completeTs : stack.completeTs = none
  errorResendTs : stack.errorResendTs = none
  events : stack.events = []

/-- What every operation keeps. -/
structure Invariant (stack : Stack α) : Prop where
  remembers : stack.store.Remembers
  arrival : stack.completeTs.isSome = true ↔ stack.store.effectiveState = .arrived
  outstanding : stack.errorResendTs.isSome = true → .controlLost ∈ stack.reasons
  completeLog : Logged completeRole stack.events stack.completeTs
  errorLog : Logged errorRole stack.events stack.errorResendTs

/-! ### One more event -/

section Logged

variable {role : Event α → Role α} {events : List (Event α)} {kept : Option α} {event : Event α}

theorem Logged.append (logged : Logged role events kept) {kept' : Option α}
    (follows : Follows kept [role event] kept') : Logged role (events ++ [event]) kept' := by
  rw [Logged, List.map_append, List.map_singleton]
  exact Follows.append logged follows

theorem Logged.other (logged : Logged role events kept) (isOther : role event = .other) :
    Logged role (events ++ [event]) kept :=
  logged.append (isOther ▸ Follows.other Follows.nil)

theorem Logged.closes (logged : Logged role events kept) (isClosing : role event = .closes) :
    Logged role (events ++ [event]) none :=
  logged.append (isClosing ▸ Follows.closes Follows.nil)

/-- Opening under the kept timestamp, or under a new one where none is kept. -/
theorem Logged.opens (logged : Logged role events kept) {now : α}
    (isOpening : role event = .opens (kept.getD now)) :
    Logged role (events ++ [event]) (some (kept.getD now)) := by
  refine logged.append (isOpening ▸ Follows.opens (fun openStamp same => ?_) Follows.nil)
  rw [same]
  rfl

theorem Logged.repeats {timestamp : α} (logged : Logged role events (some timestamp))
    (isRepeat : role event = .repeats timestamp) :
    Logged role (events ++ [event]) (some timestamp) :=
  logged.append (isRepeat ▸ Follows.repeats Follows.nil)

end Logged

/-! ### What the operations keep -/

variable {stack : Stack α}

theorem Fresh.invariant (fresh : Fresh stack) : Invariant stack := by
  have behind : stack.store.effectiveState = stack.store.drivingState := if_neg fresh.outside
  refine ⟨⟨fun inError => absurd inError fresh.outside, fun _ => fresh.forgotten⟩, ?_, ?_, ?_, ?_⟩
  · rw [fresh.completeTs, behind]
    exact ⟨fun some' => absurd some' Bool.false_ne_true, fun arrived => absurd arrived fresh.notArrived⟩
  · rw [fresh.errorResendTs]
    exact fun some' => absurd some' Bool.false_ne_true
  · rw [fresh.events, fresh.completeTs]
    exact Follows.nil
  · rw [fresh.events, fresh.errorResendTs]
    exact Follows.nil

/-- Clearing the reason of the control server takes the end of its error reports with it. -/
theorem Invariant.clearReason (invariant : Invariant stack) (reason : Reason)
    (closed : reason = .controlLost → Logged errorRole stack.events none) :
    Invariant (stack.clearReason reason) := by
  have service := Stack.clearReason_service invariant.remembers reason
  have state : (stack.clearReason reason).store.effectiveState = stack.store.effectiveState :=
    congrArg Service.state service
  refine ⟨Stack.clearReason_remembers invariant.remembers reason, ?_, ?_, ?_, ?_⟩
  · rw [Stack.clearReason_completeTs, state]
    exact invariant.arrival
  · rw [Stack.clearReason_errorResendTs, Stack.clearReason_reasons]
    split
    · exact fun isSet => absurd isSet Bool.false_ne_true
    next other =>
      exact fun isSet => Finset.mem_erase.mpr ⟨fun same => other same.symm,
        invariant.outstanding isSet⟩
  · rw [Stack.clearReason_events, Stack.clearReason_completeTs]
    exact invariant.completeLog
  · rw [Stack.clearReason_events, Stack.clearReason_errorResendTs]
    split
    next isControl => exact closed isControl
    next => exact invariant.errorLog

theorem Invariant.onMove (invariant : Invariant stack) (x y : α) (clock : ℕ → α) :
    Invariant (stack.onMove x y clock) := by
  unfold Stack.onMove
  split
  · exact invariant
  next isWaiting =>
    have waiting := not_not.mp isWaiting
    have behind : stack.store.effectiveState = .waiting := by
      rw [VehicleSnapshot.effectiveState, waiting]
      rfl
    have remembers := invariant.remembers.setDrivingState .planning
    refine ⟨⟨remembers.inError, remembers.outside⟩, ⟨fun isSet => ?_, fun arrived => ?_⟩,
      invariant.outstanding, (invariant.completeLog.other rfl).other rfl,
      (invariant.errorLog.other rfl).other rfl⟩
    · have arrived := invariant.arrival.mp isSet
      rw [behind] at arrived
      cases arrived
    · cases arrived

theorem Invariant.onStop (invariant : Invariant stack) : Invariant stack.onStop := by
  unfold Stack.onStop
  split
  · exact invariant
  · have remembers := invariant.remembers.setDrivingState .waiting
    exact ⟨⟨remembers.inError, remembers.outside⟩,
      ⟨fun isSet => absurd isSet Bool.false_ne_true, fun arrived => (nomatch arrived)⟩,
      invariant.outstanding, invariant.completeLog.closes rfl, invariant.errorLog.other rfl⟩

/-- An error keeps the timestamps and what they stand for. -/
theorem Invariant.enterError [Scalar α] (invariant : Invariant stack) (reason : Reason) :
    Invariant (stack.enterError reason) := by
  have service : (stack.enterError reason).service = stack.service :=
    Stack.enterError_service reason
  have state : (stack.enterError reason).store.effectiveState = stack.store.effectiveState :=
    congrArg Service.state service
  have complete : (stack.enterError reason).completeTs = stack.completeTs :=
    congrArg Service.completeTs service
  refine ⟨Stack.enterError_remembers invariant.remembers reason, ?_, ?_, ?_, ?_⟩
  · rw [complete, state]
    exact invariant.arrival
  · rw [Stack.enterError_errorResendTs, Stack.enterError_reasons]
    exact fun isSet => Finset.mem_insert_of_mem (invariant.outstanding isSet)
  · rw [Stack.enterError_events, complete]
    exact invariant.completeLog
  · rw [Stack.enterError_events, Stack.enterError_errorResendTs]
    exact invariant.errorLog

/-- An event that neither protocol looks at. -/
theorem Invariant.emit (invariant : Invariant stack) {event : Event α}
    (notComplete : completeRole event = .other) (notError : errorRole event = .other) :
    Invariant (stack.emit event) :=
  ⟨invariant.remembers, invariant.arrival, invariant.outstanding,
    invariant.completeLog.other notComplete, invariant.errorLog.other notError⟩

theorem Invariant.onResume (invariant : Invariant stack) : Invariant stack.onResume := by
  unfold Stack.onResume
  split
  · exact invariant
  · have closed := invariant.errorLog.closes
      (rfl : errorRole (.resumeAccepted : Event α) = .closes)
    have accepted : (stack.emit .resumeAccepted).store.Remembers := invariant.remembers
    have service := Stack.clearReason_service accepted .controlLost
    have state : ((stack.emit .resumeAccepted).clearReason .controlLost).store.effectiveState =
        stack.store.effectiveState := congrArg Service.state service
    refine ⟨Stack.clearReason_remembers accepted _, ?_, ?_, ?_, ?_⟩
    · rw [Stack.clearReason_completeTs, state]
      exact invariant.arrival
    · rw [Stack.clearReason_errorResendTs, if_pos rfl]
      exact fun isSet => absurd isSet Bool.false_ne_true
    · rw [Stack.clearReason_events, Stack.clearReason_completeTs]
      exact invariant.completeLog.other rfl
    · rw [Stack.clearReason_events, Stack.clearReason_errorResendTs, if_pos rfl]
      exact closed

theorem Invariant.onControlConnected (invariant : Invariant stack) (now : α) :
    Invariant (stack.onControlConnected now) := by
  unfold Stack.onControlConnected
  split
  next outstanding =>
    exact ⟨invariant.remembers, invariant.arrival, fun _ => outstanding,
      invariant.completeLog.other rfl, invariant.errorLog.opens rfl⟩
  next => exact invariant

theorem Invariant.onGpsLost [Scalar α] (invariant : Invariant stack) (now : α) :
    Invariant (stack.onGpsLost now) := by
  unfold Stack.onGpsLost
  split
  · exact invariant.enterError .gpsLost
  · exact (invariant.enterError .gpsLost).emit rfl rfl

theorem Invariant.onGpsRecovered (invariant : Invariant stack) (now : α) :
    Invariant (stack.onGpsRecovered now) := by
  unfold Stack.onGpsRecovered
  split
  · have reported : Invariant (stack.sendRecovered now) := invariant.emit rfl rfl
    exact reported.clearReason .gpsLost fun same => (nomatch same)
  · exact invariant

theorem Invariant.notifyArrived [Scalar α] (invariant : Invariant stack) (now : α) :
    Invariant (stack.notifyArrived now) := by
  unfold Stack.notifyArrived
  split
  · have remembers := invariant.remembers.setDrivingState .arrived
    exact ⟨⟨remembers.inError, remembers.outside⟩, ⟨fun _ => rfl, fun _ => rfl⟩,
      invariant.outstanding, invariant.completeLog.opens rfl,
      invariant.errorLog.other rfl⟩
  · exact invariant

theorem Invariant.resendComplete (invariant : Invariant stack) :
    Invariant stack.resendComplete := by
  unfold Stack.resendComplete
  split
  next timestamp kept =>
    split
    · have completeLog := invariant.completeLog
      rw [kept] at completeLog
      refine ⟨invariant.remembers, invariant.arrival, invariant.outstanding, ?_,
        invariant.errorLog.other rfl⟩
      have repeated := completeLog.repeats
        (rfl : completeRole (.report .tickComplete timestamp) = .repeats timestamp)
      rw [← kept] at repeated
      exact repeated
    · exact invariant
  next => exact invariant

theorem Invariant.resendError (invariant : Invariant stack) : Invariant stack.resendError := by
  unfold Stack.resendError
  split
  next timestamp kept =>
    split
    · have errorLog := invariant.errorLog
      rw [kept] at errorLog
      refine ⟨invariant.remembers, invariant.arrival, invariant.outstanding,
        invariant.completeLog.other rfl, ?_⟩
      have repeated := errorLog.repeats
        (rfl : errorRole (.report .tickError timestamp) = .repeats timestamp)
      rw [← kept] at repeated
      exact repeated
    · exact invariant
  next => exact invariant

/-- Every operation and every tick keeps the invariant. -/
theorem Invariant.step [Scalar α] (policy : CommandPolicy α) (stack : Stack α) (label : ReportLabel α)
    (invariant : Invariant stack) : Invariant (ReportProtocol.step policy stack label) := by
  cases label with
  | reportTick => exact invariant.resendComplete.resendError
  | policy label =>
    cases label with
    | rawMessage message clock =>
      rw [ReportProtocol.step, CommandPolicy.step, CommandPolicy.onRawMessage]
      split
      · exact invariant
      next command _ =>
        cases command with
        | move x y => exact invariant.onMove x y clock
        | stop => exact invariant.onStop
        | resume => exact invariant.onResume
    | controlDisconnected => exact invariant.enterError .controlLost
    | controlConnected now => exact invariant.onControlConnected now
    | gpsLost now => exact invariant.onGpsLost now
    | gpsRecovered now => exact invariant.onGpsRecovered now
    | notifyArrived now => exact invariant.notifyArrived now

/-! ### The protocol -/

/-- The second state comes from the first by adding to the log, and adds complete reports only if
it is `ARRIVED`. -/
def SendsCompleteIfArrived (before after : Stack α) : Prop :=
  ∃ events, after.events = before.events ++ events ∧ ∀ origin timestamp,
    .report origin timestamp ∈ events → origin.kind = .complete →
      after.store.drivingState = .arrived

theorem SendsCompleteIfArrived.refl (stack : Stack α) : SendsCompleteIfArrived stack stack :=
  ⟨[], (List.append_nil _).symm, fun _ _ member => absurd member List.not_mem_nil⟩

/-- Adding events that are no complete reports. -/
theorem sendsCompleteIfArrived_of {before after : Stack α} (events : List (Event α))
    (added : after.events = before.events ++ events)
    (none : ∀ event ∈ events, ∀ origin timestamp, event = .report origin timestamp →
      origin.kind ≠ .complete) : SendsCompleteIfArrived before after :=
  ⟨events, added, fun origin timestamp member complete =>
    absurd complete (none _ member origin timestamp rfl)⟩

theorem sendsCompleteIfArrived_emit {before after : Stack α} {event : Event α}
    (added : after.events = before.events ++ [event])
    (none : ∀ origin timestamp, event = .report origin timestamp → origin.kind ≠ .complete) :
    SendsCompleteIfArrived before after :=
  sendsCompleteIfArrived_of [event] added fun _ member =>
    (List.mem_singleton.mp member).symm ▸ none

theorem reportTick_sends (stack : Stack α) : SendsCompleteIfArrived stack stack.reportTick := by
  have completes : SendsCompleteIfArrived stack stack.resendComplete := by
    unfold Stack.resendComplete
    split
    · split
      next arrived => exact ⟨_, rfl, fun _ _ _ _ => arrived⟩
      next => exact SendsCompleteIfArrived.refl stack
    · exact SendsCompleteIfArrived.refl stack
  obtain ⟨events, added, inArrived⟩ := completes
  unfold Stack.reportTick Stack.resendError
  split
  next kept _ =>
    split
    · refine ⟨events ++ [.report .tickError kept], ?_, fun origin timestamp member complete => ?_⟩
      · exact (congrArg (· ++ _) added).trans (List.append_assoc ..)
      · rcases List.mem_append.mp member with first | second
        · exact inArrived origin timestamp first complete
        · cases List.mem_singleton.mp second
          cases complete
    · exact ⟨events, added, inArrived⟩
  next => exact ⟨events, added, inArrived⟩

theorem sendsCompleteIfArrived_report {before after : Stack α} {origin : ReportOrigin} {timestamp : α}
    (added : after.events = before.events ++ [.report origin timestamp])
    (other : origin.kind ≠ .complete) : SendsCompleteIfArrived before after :=
  sendsCompleteIfArrived_emit added fun _ _ same => by
    cases same
    exact other

theorem enterError_sends [Scalar α] (stack : Stack α) (reason : Reason) :
    SendsCompleteIfArrived stack (stack.enterError reason) :=
  sendsCompleteIfArrived_of [] ((Stack.enterError_events reason).trans (List.append_nil _).symm)
    fun _ member => absurd member List.not_mem_nil

theorem onCommand_sends [Scalar α] (stack : Stack α) (command : Command α) (clock : ℕ → α) :
    SendsCompleteIfArrived stack (stack.onCommand command clock) := by
  cases command with
  | move x y =>
    rw [Stack.onCommand, Stack.onMove]
    split
    · exact SendsCompleteIfArrived.refl stack
    · refine sendsCompleteIfArrived_of [.report .sendAccept _, .moveAccepted _]
        (List.append_assoc ..) ?_
      rintro event member origin timestamp rfl
      rcases List.mem_cons.mp member with same | other
      · cases same
        exact fun complete => (nomatch complete)
      · cases List.mem_singleton.mp other
  | stop =>
    rw [Stack.onCommand, Stack.onStop]
    split
    · exact SendsCompleteIfArrived.refl stack
    · exact sendsCompleteIfArrived_emit rfl fun _ _ same => (nomatch same)
  | resume =>
    rw [Stack.onCommand, Stack.onResume]
    split
    · exact SendsCompleteIfArrived.refl stack
    · exact sendsCompleteIfArrived_emit (Stack.clearReason_events _)
        fun _ _ same => (nomatch same)

/-- No step sends a complete report outside `ARRIVED`. -/
theorem step_sends [Scalar α] (policy : CommandPolicy α) (stack : Stack α)
    (label : ReportLabel α) : SendsCompleteIfArrived stack (step policy stack label) := by
  cases label with
  | reportTick => exact reportTick_sends stack
  | policy label =>
    cases label with
    | rawMessage message clock =>
      rw [step, CommandPolicy.step, CommandPolicy.onRawMessage]
      split
      · exact SendsCompleteIfArrived.refl stack
      next command _ => exact onCommand_sends stack command clock
    | controlDisconnected => exact enterError_sends stack .controlLost
    | controlConnected now =>
      rw [step, CommandPolicy.step, Stack.onControlConnected]
      split
      · exact sendsCompleteIfArrived_report rfl fun complete => (nomatch complete)
      · exact SendsCompleteIfArrived.refl stack
    | gpsLost now =>
      rw [step, CommandPolicy.step, Stack.onGpsLost]
      split
      · exact enterError_sends stack .gpsLost
      · exact sendsCompleteIfArrived_report (congrArg (· ++ _) (Stack.enterError_events _))
          fun complete => (nomatch complete)
    | gpsRecovered now =>
      rw [step, CommandPolicy.step, Stack.onGpsRecovered]
      split
      · exact sendsCompleteIfArrived_report (Stack.clearReason_events _)
          fun complete => (nomatch complete)
      · exact SendsCompleteIfArrived.refl stack
    | notifyArrived now =>
      rw [step, CommandPolicy.step, Stack.notifyArrived]
      split
      · exact ⟨_, rfl, fun _ _ _ _ => rfl⟩
      · exact SendsCompleteIfArrived.refl stack

/-- In every run of operations and ticks the arrival time is kept exactly while the car is in
`ARRIVED` or remembers it, the reconnection time only while the control server is a reason, both
logs are in order, and no complete report is sent outside `ARRIVED`. -/
theorem reports_keep_protocol [Scalar α] (policy : CommandPolicy α) {start : Stack α}
    (fresh : Fresh start) (labels : List (ReportLabel α)) :
    let stack := Transition.run (step policy) start labels
    (stack.completeTs.isSome = true ↔ stack.store.drivingState = .arrived ∨
        (stack.store.drivingState = .error ∧
          stack.store.prevStateForRecovery = some .arrived)) ∧
      (stack.errorResendTs.isSome = true → .controlLost ∈ stack.reasons) ∧
      InOrder completeRole stack.events ∧ InOrder errorRole stack.events ∧
      ∀ label, SendsCompleteIfArrived stack (step policy stack label) := by
  intro stack
  have invariant : Invariant stack :=
    Transition.run_invariant (Invariant.step policy) fresh.invariant labels
  refine ⟨invariant.arrival.trans ?_, invariant.outstanding, Follows.inOrder invariant.completeLog,
    Follows.inOrder invariant.errorLog, step_sends policy stack⟩
  rw [VehicleSnapshot.effectiveState]
  by_cases inError : stack.store.drivingState = .error
  · obtain ⟨previous, remembered, _⟩ := invariant.remembers.inError inError
    rw [if_pos inError, inError, remembered]
    refine ⟨fun arrived => Or.inr ⟨rfl, congrArg some arrived⟩, fun either => ?_⟩
    rcases either with impossible | behind
    · cases impossible
    · exact Option.some.inj behind.2
  · rw [if_neg inError]
    exact ⟨Or.inl, fun either => either.elim id fun behind => absurd behind.1 inError⟩

/-- A car under way that has not reported anything. -/
def drivingStack : Stack ℚ :=
  { store := { (VehicleSnapshot.initial : VehicleSnapshot ℚ) with
      drivingState := .followingRoute
      poseStale := false }
    latched := false
    motorThrottle := 0
    steeringDeg := 0
    reasons := ∅
    completeTs := none
    errorResendTs := none
    events := [] }

theorem reports_keep_protocol_on_arrival :
    let stack := Transition.run (step ⟨5, 3⟩) drivingStack
      [.policy (.notifyArrived 1), .reportTick, .policy .controlDisconnected]
    (stack.completeTs.isSome = true ↔ stack.store.drivingState = .arrived ∨
        (stack.store.drivingState = .error ∧
          stack.store.prevStateForRecovery = some .arrived)) ∧
      (stack.errorResendTs.isSome = true → .controlLost ∈ stack.reasons) ∧
      InOrder completeRole stack.events ∧ InOrder errorRole stack.events ∧
      ∀ label, SendsCompleteIfArrived stack (step ⟨5, 3⟩ stack label) :=
  reports_keep_protocol ⟨5, 3⟩
    ⟨by decide, rfl, by decide, rfl, rfl, rfl, rfl⟩ _

end ReportProtocol

end RcTaxi
