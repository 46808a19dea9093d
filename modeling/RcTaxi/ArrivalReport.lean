/-
This file is about an arrival at which a driver fails. The policy writes `ARRIVED`, stops the car
and then has the report manager repeat the complete report until the stop of the control server.
Stopping the car calls the motor and then the steering, and what either of them raises leaves
`notify_arrived` in the middle: the car is in `ARRIVED`, and nothing is reported.

The operations are modelled with the faults of the drivers during the call. A fault changes what the
policy and the report manager see at two places only, and one of them is the arrival.
-/

import RcTaxi.Effects
import RcTaxi.ReportProtocol

namespace RcTaxi

/-- Which drivers raise when the car is stopped. -/
structure DriverFault where
  motorStop : Bool
  centerSteering : Bool
  deriving DecidableEq

namespace DriverFault

/-- Both drivers work. -/
def none : DriverFault := ⟨false, false⟩

/-- The calls that raise. -/
def raises {α : Type} (fault : DriverFault) : OutputOp α → Bool
  | .motorStop => fault.motorStop
  | .centerSteering => fault.centerSteering
  | _ => false

/-- The car cannot be stopped without an exception. -/
def stopRaises (fault : DriverFault) : Bool := fault.motorStop || fault.centerSteering

end DriverFault

variable {α : Type} [Scalar α]

/-! ### Operations under a fault -/

namespace Stack

/-- `force_stop`: whether it returns, and what it leaves behind. -/
def forceStopUnder (fault : DriverFault) (stack : Stack α) : Bool × Stack α :=
  let attempted := SafetySupervisor.forceStop.attempt fault.raises OutputOp.handle stack.toCar
  (attempted.1.isSome, { stack with toCar := attempted.2 })

/-- `_enter_error`. -/
def enterErrorUnder (fault : DriverFault) (reason : Reason) (stack : Stack α) : Bool × Stack α :=
  let added := { stack with reasons := insert reason stack.reasons }
  if stack.store.drivingState = .error then (true, added)
  else (added.onStore (.setDrivingState .error)).forceStopUnder fault

/-- `on_control_disconnected`. -/
def onControlDisconnectedUnder (fault : DriverFault) (stack : Stack α) : Bool × Stack α :=
  stack.enterErrorUnder fault .controlLost

/-- `on_gps_lost`. -/
def onGpsLostUnder (fault : DriverFault) (now : α) (stack : Stack α) : Bool × Stack α :=
  let entered := stack.enterErrorUnder fault .gpsLost
  if entered.1 = true ∧ .gpsLost ∉ stack.reasons then (true, entered.2.sendErrorOnce now)
  else entered

/-- `notify_arrived`. -/
def notifyArrivedUnder (fault : DriverFault) (now : α) (stack : Stack α) : Bool × Stack α :=
  if stack.store.drivingState.isDriving then
    let stopped := (stack.onStore (.setDrivingState .arrived)).forceStopUnder fault
    if stopped.1 = true then (true, stopped.2.markComplete now) else stopped
  else (true, stack)

end Stack

namespace ReportProtocol

/-- An operation of the policy or a tick of the report manager, and the fault it meets. -/
abbrev FaultLabel (α : Type) := DriverFault × ReportLabel α

/-- What a step leaves behind, also if it raises. -/
def stepUnder (policy : CommandPolicy α) (stack : Stack α) : FaultLabel α → Stack α
  | (fault, .policy .controlDisconnected) => (stack.onControlDisconnectedUnder fault).2
  | (fault, .policy (.gpsLost now)) => (stack.onGpsLostUnder fault now).2
  | (fault, .policy (.notifyArrived now)) => (stack.notifyArrivedUnder fault now).2
  | (_, label) => step policy stack label

end ReportProtocol

/-! ### What a fault changes -/

namespace Stack

variable {stack : Stack α} {fault : DriverFault}

/-- Stopping the car leaves the ledger alone, also if it does not return. -/
theorem forceStopUnder_ledger : (stack.forceStopUnder fault).2.ledger = stack.ledger := by
  have kept : ∀ (op : OutputOp α) (car : Car α),
      ({ stack with toCar := car } : Stack α).ledger = stack.ledger →
        ({ stack with toCar := (op.handle car).2 } : Stack α).ledger = stack.ledger := by
    intro op car same
    cases op <;> exact same
  exact Program.attempt_invariant kept SafetySupervisor.forceStop stack.toCar rfl

theorem forceStopUnder_returns : (stack.forceStopUnder fault).1 = !fault.stopRaises := by
  obtain ⟨motorStop, centerSteering⟩ := fault
  cases motorStop <;> cases centerSteering <;> rfl

/-- The reason and the state are written before the drivers are called. -/
theorem enterErrorUnder_ledger (reason : Reason) :
    (stack.enterErrorUnder fault reason).2.ledger = (stack.enterError reason).ledger := by
  unfold enterErrorUnder enterError
  dsimp only
  split
  · rfl
  · exact forceStopUnder_ledger

theorem enterErrorUnder_none (reason : Reason) :
    stack.enterErrorUnder .none reason = (true, stack.enterError reason) := by
  unfold enterErrorUnder enterError
  dsimp only
  split <;> rfl

/-- A reported loss is entered, and not reported if the car cannot be stopped. -/
theorem onGpsLostUnder_ledger (now : α) :
    (stack.onGpsLostUnder fault now).2.ledger = (stack.onGpsLost now).ledger ∨
      (stack.onGpsLostUnder fault now).2.ledger = (stack.enterError .gpsLost).ledger := by
  have entered : (stack.enterErrorUnder fault .gpsLost).2.ledger =
      (stack.enterError .gpsLost).ledger := enterErrorUnder_ledger .gpsLost
  unfold onGpsLostUnder onGpsLost
  dsimp only
  split
  next reported =>
    rw [if_neg reported.2]
    exact .inl (congrArg (fun ledger : Ledger α =>
      { ledger with events := ledger.events ++ [Event.report .sendErrorOnce now] }) entered)
  next => exact .inr entered

/-- The arrival of a driving car, with working drivers and with a driver that raises. -/
theorem notifyArrivedUnder_driving (fault : DriverFault)
    (driving : stack.store.drivingState.isDriving = true) (now : α) :
    (stack.notifyArrivedUnder fault now).2.ledger =
      if fault.stopRaises = true then stack.ledger.enter .arrived else stack.ledger.arrive now := by
  have stopped : ((stack.onStore (.setDrivingState .arrived)).forceStopUnder fault).2.ledger =
      stack.ledger.enter .arrived := forceStopUnder_ledger
  rw [notifyArrivedUnder, if_pos driving]
  dsimp only
  rw [forceStopUnder_returns]
  cases fault.stopRaises with
  | true => exact stopped
  | false =>
    exact congrArg (fun ledger : Ledger α =>
      { ledger with
        completeTs := some (ledger.completeTs.getD now)
        events := ledger.events ++ [Event.report .markComplete (ledger.completeTs.getD now)] })
      stopped

theorem notifyArrivedUnder_outside (outside : ¬ stack.store.drivingState.isDriving = true)
    (now : α) : stack.notifyArrivedUnder fault now = (true, stack) :=
  if_neg outside

end Stack

namespace ReportProtocol

variable {stack : Stack α} {fault : DriverFault}

/-- With working drivers a step is the step of the policy and the report manager. -/
theorem stepUnder_none (policy : CommandPolicy α) (stack : Stack α) (label : ReportLabel α) :
    stepUnder policy stack (.none, label) = step policy stack label := by
  cases label with
  | reportTick => rfl
  | policy label =>
    cases label with
    | rawMessage message clock => rfl
    | controlDisconnected =>
      rw [stepUnder, Stack.onControlDisconnectedUnder, Stack.enterErrorUnder_none]
      rfl
    | controlConnected now => rfl
    | gpsLost now =>
      rw [stepUnder, Stack.onGpsLostUnder, Stack.enterErrorUnder_none, step, CommandPolicy.step,
        Stack.onGpsLost]
      dsimp only
      split_ifs with both known known
      · exact absurd known both.2
      · rfl
      · rfl
      · exact absurd ⟨rfl, known⟩ both
    | gpsRecovered now => rfl
    | notifyArrived now =>
      rw [stepUnder, Stack.notifyArrivedUnder, step, CommandPolicy.step, Stack.notifyArrived]
      split <;> rfl

/-- A driver raises on the arrival of a driving car. -/
def ArrivalRaises (stack : Stack α) : FaultLabel α → Prop
  | (fault, .policy (.notifyArrived _)) =>
    stack.store.drivingState.isDriving = true ∧ fault.stopRaises = true
  | _ => False

/-- What the policy and the report manager see of a step: the step itself, a loss without its
report, or an arrival without its report. -/
theorem stepUnder_ledger (policy : CommandPolicy α) (stack : Stack α) (label : FaultLabel α) :
    ¬ ArrivalRaises stack label ∧
        ((stepUnder policy stack label).ledger = (step policy stack label.2).ledger ∨
          (stepUnder policy stack label).ledger = (stack.enterError .gpsLost).ledger) ∨
      ArrivalRaises stack label ∧
        (stepUnder policy stack label).ledger = stack.ledger.enter .arrived := by
  obtain ⟨fault, label⟩ := label
  cases label with
  | reportTick => exact .inl ⟨id, .inl rfl⟩
  | policy label =>
    cases label with
    | rawMessage | controlConnected | gpsRecovered => exact .inl ⟨id, .inl rfl⟩
    | controlDisconnected => exact .inl ⟨id, .inl (Stack.enterErrorUnder_ledger .controlLost)⟩
    | gpsLost now => exact .inl ⟨id, Stack.onGpsLostUnder_ledger now⟩
    | notifyArrived now =>
      by_cases driving : stack.store.drivingState.isDriving = true
      · have arrived := Stack.notifyArrivedUnder_driving fault driving now
        by_cases raised : fault.stopRaises = true
        · rw [if_pos raised] at arrived
          exact .inr ⟨⟨driving, raised⟩, arrived⟩
        · rw [if_neg raised, ← notifyArrived_driving driving now] at arrived
          exact .inl ⟨fun both => raised both.2, .inl arrived⟩
      · refine .inl ⟨fun both => driving both.1, .inl ?_⟩
        rw [stepUnder, Stack.notifyArrivedUnder_outside driving, step, CommandPolicy.step,
          notifyArrived_outside driving]

/-! ### Until the stop -/

/-- The car is in `ARRIVED`, or in an error behind which it is, and the complete report is armed
under the timestamp. -/
structure Awaits (timestamp : α) (stack : Stack α) : Prop where
  arrived : stack.store.effectiveState = .arrived
  armed : stack.completeTs = some timestamp

/-- The message is a stop, and the car is in the state in which the policy accepts it. -/
def AcceptsStop (policy : CommandPolicy α) (stack : Stack α) : ReportLabel α → Prop
  | .policy (.rawMessage message _) =>
    stack.store.drivingState = .arrived ∧
      parseCommand policy.mapXMax policy.mapYMax message = some .stop
  | _ => False

variable {timestamp : α}

omit [Scalar α] in
theorem Awaits.of_service {after : Stack α} (awaits : Awaits timestamp stack)
    (same : after.service = stack.service) : Awaits timestamp after :=
  ⟨(congrArg Service.state same).trans awaits.arrived,
    (congrArg Service.completeTs same).trans awaits.armed⟩

omit [Scalar α] in
/-- Recovering from the error leads back to `ARRIVED`. -/
theorem Awaits.clearReason (awaits : Awaits timestamp stack) (reason : Reason) :
    Awaits timestamp (stack.clearReason reason) := by
  refine ⟨?_, (Stack.clearReason_completeTs reason).trans awaits.armed⟩
  rw [Stack.clearReason_store]
  split
  next recovered =>
    have back : stack.store.recoverPreviousState.drivingState = .arrived :=
      (VehicleSnapshot.recoverPreviousState_drivingState recovered.1).trans awaits.arrived
    rw [VehicleSnapshot.effectiveState, back]
    rfl
  next => exact awaits.arrived

omit [Scalar α] in
theorem Awaits.drivingState (awaits : Awaits timestamp stack) :
    stack.store.drivingState = .arrived ∨ stack.store.drivingState = .error := by
  have arrived := awaits.arrived
  unfold VehicleSnapshot.effectiveState at arrived
  split at arrived
  next inError => exact .inr inError
  next => exact .inl arrived

omit [Scalar α] in
/-- A command other than a stop in `ARRIVED` is not taken, or clears a reason. -/
theorem Awaits.onCommand (awaits : Awaits timestamp stack) {command : Command α}
    (goesOn : command = .stop → stack.store.drivingState ≠ .arrived) (clock : ℕ → α) :
    Awaits timestamp (stack.onCommand command clock) := by
  cases command with
  | move x y =>
    have busy : stack.store.drivingState ≠ .waiting := fun waiting => by
      rcases awaits.drivingState with state | state <;> cases state.symm.trans waiting
    rw [Stack.onCommand, Stack.onMove, if_pos busy]
    exact awaits
  | stop =>
    rw [Stack.onCommand, Stack.onStop, if_pos (goesOn rfl)]
    exact awaits
  | resume =>
    rw [Stack.onCommand, Stack.onResume]
    split
    next => exact awaits
    next =>
      have accepted : Awaits timestamp (stack.emit .resumeAccepted) :=
        ⟨awaits.arrived, awaits.armed⟩
      exact accepted.clearReason .controlLost

/-- Only an accepted stop ends the wait. -/
theorem Awaits.step (policy : CommandPolicy α) (awaits : Awaits timestamp stack)
    {label : ReportLabel α} (goesOn : ¬ AcceptsStop policy stack label) :
    Awaits timestamp (ReportProtocol.step policy stack label) := by
  cases label with
  | reportTick =>
    obtain ⟨added, same, -⟩ := reportTick_adds stack
    rw [ReportProtocol.step, same]
    exact ⟨awaits.arrived, awaits.armed⟩
  | policy label =>
    cases label with
    | rawMessage message clock =>
      rw [ReportProtocol.step, CommandPolicy.step, CommandPolicy.onRawMessage]
      split
      next => exact awaits
      next command parsed =>
        refine awaits.onCommand (fun isStop arrived => goesOn ⟨arrived, ?_⟩) clock
        rw [parsed, isStop]
    | controlDisconnected => exact awaits.of_service (Stack.enterError_service .controlLost)
    | controlConnected now =>
      rw [ReportProtocol.step, CommandPolicy.step, Stack.onControlConnected]
      split
      next => exact ⟨awaits.arrived, awaits.armed⟩
      next => exact awaits
    | gpsLost now =>
      have entered := awaits.of_service (Stack.enterError_service .gpsLost)
      rw [ReportProtocol.step, CommandPolicy.step, Stack.onGpsLost]
      split
      next => exact entered
      next => exact ⟨entered.arrived, entered.armed⟩
    | gpsRecovered now =>
      rw [ReportProtocol.step, CommandPolicy.step, Stack.onGpsRecovered]
      split
      next =>
        have reported : Awaits timestamp (stack.sendRecovered now) :=
          ⟨awaits.arrived, awaits.armed⟩
        exact reported.clearReason .gpsLost
      next => exact awaits
    | notifyArrived now =>
      have outside : ¬ stack.store.drivingState.isDriving = true := by
        rcases awaits.drivingState with state | state <;> rw [state] <;> decide
      rw [ReportProtocol.step, CommandPolicy.step, notifyArrived_outside outside]
      exact awaits

/-- The wait goes on under faults as well. -/
theorem Awaits.stepUnder (policy : CommandPolicy α) (awaits : Awaits timestamp stack)
    {label : FaultLabel α} (goesOn : ¬ AcceptsStop policy stack label.2) :
    Awaits timestamp (ReportProtocol.stepUnder policy stack label) := by
  rcases stepUnder_ledger policy stack label with ⟨-, same | lost⟩ | ⟨-, arrived⟩
  · exact (awaits.step policy goesOn).of_service (congrArg Ledger.service same)
  · exact (awaits.of_service (Stack.enterError_service .gpsLost)).of_service
      (congrArg Ledger.service lost)
  · exact ⟨congrArg (fun ledger : Ledger α => ledger.service.state) arrived,
      (congrArg Ledger.completeTs arrived).trans awaits.armed⟩

omit [Scalar α] in
/-- A tick of the report manager repeats the complete report in `ARRIVED`. -/
theorem Awaits.reportTick (awaits : Awaits timestamp stack)
    (arrived : stack.store.drivingState = .arrived) :
    stack.reportTick.events = stack.events ++ [.report .tickComplete timestamp] := by
  have repeated : stack.resendComplete = stack.send .tickComplete timestamp := by
    rw [Stack.resendComplete, awaits.armed]
    exact if_pos arrived
  have quiet : (stack.send .tickComplete timestamp).resendError =
      stack.send .tickComplete timestamp := by
    have outside : (stack.send .tickComplete timestamp).store.drivingState ≠ .error :=
      fun inError => nomatch arrived.symm.trans inError
    unfold Stack.resendError
    split
    · exact if_neg outside
    · rfl
  rw [Stack.reportTick, repeated, quiet]
  rfl

/-! ### Arrivals -/

/-- From the state on, in every state of the run before an accepted stop, the car waits under one
timestamp, and a tick of the report manager in `ARRIVED` repeats the complete report under it. -/
def ReportsUntilStop (policy : CommandPolicy α) (start : Stack α) (labels : List (FaultLabel α)) :
    Prop :=
  ∃ timestamp, ∀ earlier later, labels = earlier ++ later →
    Transition.Along (stepUnder policy) (fun stack label => ¬ AcceptsStop policy stack label.2)
      start earlier →
    let stack := Transition.run (stepUnder policy) start earlier
    Awaits timestamp stack ∧ (stack.store.drivingState = .arrived →
      stack.reportTick.events = stack.events ++ [.report .tickComplete timestamp])

/-- A car that waits goes on to report. -/
theorem Awaits.reportsUntilStop (policy : CommandPolicy α) (awaits : Awaits timestamp stack)
    (labels : List (FaultLabel α)) : ReportsUntilStop policy stack labels := by
  refine ⟨timestamp, fun earlier later _ along => ?_⟩
  have still : Awaits timestamp (Transition.run (ReportProtocol.stepUnder policy) stack earlier) :=
    Transition.run_invariant_along (fun _ _ goesOn held => held.stepUnder policy goesOn) awaits
      along
  exact ⟨still, still.reportTick⟩

/-- In `ARRIVED` a car reports until the stop exactly if it has the time of its arrival. -/
theorem reportsUntilStop_iff (policy : CommandPolicy α)
    (arrived : stack.store.drivingState = .arrived) (labels : List (FaultLabel α)) :
    ReportsUntilStop policy stack labels ↔ stack.completeTs.isSome = true := by
  constructor
  · rintro ⟨timestamp, always⟩
    have first := (always [] labels rfl trivial).1
    rw [Option.isSome_iff_exists]
    exact ⟨timestamp, first.armed⟩
  · intro isSet
    obtain ⟨timestamp, armed⟩ := Option.isSome_iff_exists.mp isSet
    have behind : stack.store.effectiveState = .arrived := by
      rw [VehicleSnapshot.effectiveState, arrived]
      rfl
    exact Awaits.reportsUntilStop policy ⟨behind, armed⟩ labels

/-- A call of `notify_arrived` leaves every car in `ARRIVED` with the time of its arrival, except a
driving car at which a driver raises and a car that is in `ARRIVED` without it. -/
theorem notifyArrivedUnder_armed_iff (fault : DriverFault) (now : α) (stack : Stack α) :
    let after := (stack.notifyArrivedUnder fault now).2
    (after.store.drivingState = .arrived → after.completeTs.isSome = true) ↔
      ((stack.store.drivingState.isDriving = true ∧ fault.stopRaises = true) ∨
        stack.store.drivingState = .arrived → stack.completeTs.isSome = true) := by
  intro after
  by_cases driving : stack.store.drivingState.isDriving = true
  · have ledger : after.ledger = _ := Stack.notifyArrivedUnder_driving fault driving now
    have notYet : stack.store.drivingState ≠ .arrived := fun arrived => by
      rw [arrived] at driving
      cases driving
    by_cases raised : fault.stopRaises = true
    · rw [if_pos raised] at ledger
      have state : after.store.drivingState = .arrived := congrArg Ledger.drivingState ledger
      have time : after.completeTs = stack.completeTs := congrArg Ledger.completeTs ledger
      rw [time]
      exact ⟨fun armed _ => armed state, fun armed _ => armed (.inl ⟨driving, raised⟩)⟩
    · rw [if_neg raised] at ledger
      have time : after.completeTs = some (stack.completeTs.getD now) :=
        congrArg Ledger.completeTs ledger
      rw [time]
      exact ⟨fun _ either => either.elim (fun both => absurd both.2 raised)
        fun arrived => absurd arrived notYet, fun _ _ => rfl⟩
  · have same : after = stack := congrArg Prod.snd (Stack.notifyArrivedUnder_outside driving now)
    rw [same]
    exact ⟨fun armed either => either.elim (fun both => absurd both.1 driving) armed,
      fun armed arrived => armed (.inr arrived)⟩

/-- In every state and under every fault of the drivers, what follows a call of `notify_arrived`
that leaves the car in `ARRIVED` is reported until the stop, whatever the policy, the report manager
and further faults do, exactly if neither a driver raises on a driving car nor the car is in
`ARRIVED` already, or else the time of an arrival is already kept. -/
theorem arrival_reported_iff (policy : CommandPolicy α) (fault : DriverFault) (now : α)
    (stack : Stack α) (labels : List (FaultLabel α)) :
    let after := (stack.notifyArrivedUnder fault now).2
    (after.store.drivingState = .arrived → ReportsUntilStop policy after labels) ↔
      ((stack.store.drivingState.isDriving = true ∧ fault.stopRaises = true) ∨
        stack.store.drivingState = .arrived → stack.completeTs.isSome = true) := by
  intro after
  refine Iff.trans ?_ (notifyArrivedUnder_armed_iff fault now stack)
  exact forall_congr' fun arrived => reportsUntilStop_iff policy arrived labels

/-- The motor raises on the arrival of a car under way: the car is in `ARRIVED`, no tick reports it,
and it is still so behind a lost connection. -/
theorem motor_fault_silences_arrival :
    let arrived := (drivingStack.notifyArrivedUnder ⟨true, false⟩ 1).2
    let later := Transition.run (stepUnder ⟨5, 3⟩) arrived
      [(.none, .reportTick), (.none, .policy .controlDisconnected),
        (.none, .policy (.controlConnected 2)),
        (.none, .policy (.rawMessage (some ringResume) fun _ => 3)), (.none, .reportTick)]
    arrived.store.drivingState = .arrived ∧ ¬ ReportsUntilStop ⟨5, 3⟩ arrived [] ∧
      later.store.drivingState = .arrived ∧ later.completeTs = none := by
  refine ⟨rfl, ?_, by decide +kernel, by decide +kernel⟩
  rintro ⟨timestamp, always⟩
  have armed := (always [] [] rfl trivial).1.armed
  cases armed

/-! ### Runs -/

omit [Scalar α] in
/-- The invariant is about the ledger. -/
theorem Invariant.of_ledger {after : Stack α} (invariant : Invariant stack)
    (same : after.ledger = stack.ledger) : Invariant after := by
  have state : after.store.drivingState = stack.store.drivingState :=
    congrArg Ledger.drivingState same
  have previous : after.store.prevStateForRecovery = stack.store.prevStateForRecovery :=
    congrArg Ledger.prevStateForRecovery same
  have behind : after.store.effectiveState = stack.store.effectiveState :=
    congrArg (fun ledger : Ledger α => ledger.service.state) same
  have events : after.events = stack.events := congrArg Ledger.events same
  have complete : after.completeTs = stack.completeTs := congrArg Ledger.completeTs same
  have outstanding : after.errorResendTs = stack.errorResendTs := congrArg Ledger.errorResendTs same
  have reasons : after.reasons = stack.reasons := congrArg Ledger.reasons same
  constructor
  · constructor
    · rw [state, previous]
      exact invariant.remembers.inError
    · rw [state, previous]
      exact invariant.remembers.outside
  · rw [complete, behind]
    exact invariant.arrival
  · rw [outstanding, reasons]
    exact invariant.outstanding
  · rw [events, complete]
    exact invariant.completeLog
  · rw [events, outstanding]
    exact invariant.errorLog

/-- A step keeps the invariant exactly if it is no arrival at which a driver raises. -/
theorem Invariant.stepUnder_iff (policy : CommandPolicy α) (stack : Stack α) (label : FaultLabel α)
    (invariant : Invariant stack) :
    Invariant (stepUnder policy stack label) ↔ ¬ ArrivalRaises stack label := by
  rcases stepUnder_ledger policy stack label with ⟨returned, same | lost⟩ | ⟨raised, arrived⟩
  · exact ⟨fun _ => returned,
      fun _ => (Invariant.step policy stack label.2 invariant).of_ledger same⟩
  · exact ⟨fun _ => returned, fun _ => (invariant.enterError .gpsLost).of_ledger lost⟩
  · refine ⟨fun kept => ?_, fun returned => absurd raised returned⟩
    have time : (stepUnder policy stack label).completeTs = stack.completeTs :=
      congrArg Ledger.completeTs arrived
    have isSet := kept.arrival.mpr
      (congrArg (fun ledger : Ledger α => ledger.service.state) arrived)
    rw [time, invariant.arrival] at isSet
    obtain ⟨fault, reportLabel⟩ := label
    unfold ArrivalRaises at raised
    split at raised
    · have driving := raised.1
      unfold VehicleSnapshot.effectiveState at isSet
      split at isSet
      next inError =>
        rw [inError] at driving
        cases driving
      next =>
        rw [isSet] at driving
        cases driving
    · exact raised.elim

/-- In a run under faults that starts fresh, the protocol of the reports is kept in every state
exactly if no driver raises on an arrival. -/
theorem protocol_kept_iff (policy : CommandPolicy α) {start : Stack α} (fresh : Fresh start)
    (labels : List (FaultLabel α)) :
    (∀ earlier later, labels = earlier ++ later →
        Invariant (Transition.run (stepUnder policy) start earlier)) ↔
      Transition.Along (stepUnder policy) (fun stack label => ¬ ArrivalRaises stack label) start
        labels :=
  Transition.always_iff_along (Invariant.stepUnder_iff policy) fresh.invariant labels

end ReportProtocol

end RcTaxi
