/-
This file asks whether an arrival by settling needs a stop that nothing interrupts. The arrival
check keeps the time since when its gate is open, and forgets it when it is asked with the gate
closed, as it is with a stale pose. But it is asked only from the ticks of the control thread that
find the car on its way, while a loss is declared by the localization, which puts the car into
`ERROR` at once; a loss that is over before the next tick, or all of whose ticks find `ERROR`, leaves
the time as it was.

The localization, the policy and the control thread are put together with a time on every step. A
run in which nothing interrupts the car between two ticks that find the gate open has the property.
-/

import RcTaxi.PoseOrder
import RcTaxi.RouteInvariant

namespace RcTaxi

variable {α : Type} [Scalar α]

/-! ### The car -/

/-- The localization and the policy with the control thread. -/
structure TimedCar (α : Type) extends Localization α where
  thread : ControlThread α

/-- The whole steps, each with the reading of the monotonic clock. -/
inductive TimedLabel (α : Type)
  | raw (message : Option (PyValue α)) (now wall : α)
  | disconnected (now wall : α)
  | localizationTick (now wall : α)
  | rawCommand (message : Option (PyValue α)) (now : α) (clock : ℕ → α)
  | controlDisconnected (now : α)
  | controlConnected (now wall : α)
  | drivingTick (input : TickInput α)

/-- The time of a step. -/
def TimedLabel.time {α : Type} : TimedLabel α → α
  | .raw _ now _ | .disconnected now _ | .localizationTick now _ | .rawCommand _ now _
  | .controlDisconnected now | .controlConnected now _ => now
  | .drivingTick input => input.now

namespace TimedCar

/-- The car behind its initialization. -/
def start : TimedCar α where
  toLocalization := Localization.start (Runtime.start (α := α)).toStack
  thread := .idle (DrivingWorker.start none)

variable (worker : DrivingWorker α) (service : LocalizationService α) (policy : CommandPolicy α)

/-- A whole tick of the control thread. -/
def drivingTick (input : TickInput α) (car : TimedCar α) : TimedCar α :=
  match car.thread with
  | .idle state =>
    let (result, stack) := (worker.round input state).run WorkerOp.handle car.toStack
    { car with toStack := stack, thread := .behind (.done result) }
  | _ => car

def step (car : TimedCar α) : TimedLabel α → TimedCar α
  | .raw message now wall =>
    { car with toLocalization := service.onRaw message now wall car.toLocalization }
  | .disconnected _ wall =>
    { car with toLocalization := LocalizationService.onDisconnected wall car.toLocalization }
  | .localizationTick now wall =>
    { car with toLocalization := service.tick now wall car.toLocalization }
  | .rawCommand message _ clock =>
    { car with toLocalization := car.onPolicy (policy.onRawMessage message clock) }
  | .controlDisconnected _ =>
    { car with toLocalization := car.onPolicy Stack.onControlDisconnected }
  | .controlConnected _ wall =>
    { car with toLocalization := car.onPolicy (Stack.onControlConnected wall) }
  | .drivingTick input => drivingTick worker input car

end TimedCar

/-! ### Arriving by settling -/

/-- The stored pose is not stale and the car is on its way. -/
def VehicleSnapshot.covered {α : Type} (snap : VehicleSnapshot α) : Bool :=
  !snap.poseStale && snap.drivingState.isOnRoute

/-- The time since when the gate is open, until the arrival. -/
def ControlThread.heldSince {α : Type} : ControlThread α → Option α
  | .idle state => if state.arrival.arrived then none else state.arrival.heldSince
  | _ => none

/-- Whether the arrival is decided. -/
def ControlThread.arrived {α : Type} : ControlThread α → Bool
  | .idle state => state.arrival.arrived
  | _ => false

namespace TimedCar

variable (worker : DrivingWorker α) (service : LocalizationService α) (policy : CommandPolicy α)

/-- A tick confirms the arrival while the estimated speed is above the limit. -/
def Settles (car : TimedCar α) (input : TickInput α) : Prop :=
  car.thread.arrived = false ∧ (drivingTick worker input car).thread.arrived = true ∧
    worker.arrival.maxSpeedMps < car.store.estimatedSpeedMps

/-- In every state since a moment the pose is not stale and the car is on its way. -/
abbrev CoveredSince (labels : List (TimedLabel α)) (since : α) : Prop :=
  Transition.HoldsSince (step worker service policy) TimedLabel.time
    (fun car => car.store.covered = true) start labels since

end TimedCar

/-! ### What a tick finds -/

/-- What an update of the arrival check finds its gate to be; nothing without a mission, or behind the
decision. -/
def ArrivalChecker.finds (checker : ArrivalChecker α) (update : ArrivalChecker.Update α)
    (arrival : ArrivalState α) : Option Bool :=
  match arrival.stop with
  | none => none
  | some stop => if arrival.arrived then none else some (checker.gate stop update)

namespace DrivingWorker

variable (worker : DrivingWorker α)

/-- What the arrival check behind an output finds. -/
def findsDriven (input : TickInput α) (snap : VehicleSnapshot α) (latched : Bool)
    (pose : LocalizationPose α) (driven : Driven α) (arrival : ArrivalState α) : Option Bool :=
  match worker.matcher.matchPose worker.map.toLaneMap (pose.x, pose.y) pose.headingDeg with
  | .error _ => none
  | .ok found =>
    let lanes := match found with
      | none => ∅
      | some found => worker.map.arrivalLaneCandidates found.segmentId
    let applied := worker.supervisor.appliedCommand (worker.decisionOf input driven).command
      (snap, latched)
    worker.arrival.finds ⟨(pose.x, pose.y), pose.headingDeg, snap.estimatedSpeedMps, lanes,
      applied.throttle, false, input.now⟩ arrival

/-- What the arrival check of a tick on the way finds. -/
def findsOnRoute (input : TickInput α) (snap : VehicleSnapshot α) (latched : Bool)
    (state : WorkerState α) : Option Bool :=
  match snap.pose with
  | none => none
  | some pose =>
    if snap.poseStale then
      worker.arrival.finds ⟨(pose.x, pose.y), pose.headingDeg, snap.estimatedSpeedMps, ∅, 0, true,
        input.now⟩ state.arrival
    else if state.follower.route.isNone then none
    else
      match worker.follower.compute (pose.x, pose.y) pose.headingDeg input.sensors state.follower with
      | .error _ => none
      | .ok driven => worker.findsDriven input snap latched pose driven state.arrival

/-- A tick that plans a route starts its mission with a closed gate. -/
def findsPlanning (snap : VehicleSnapshot α) : Option Bool :=
  match snap.mission, snap.pose with
  | some mission, some pose =>
    if snap.poseStale then none
    else match worker.planned pose mission with
      | .ok (some _) => some false
      | .ok none | .error _ => none
  | _, _ => none

/-- What a tick finds the gate of the arrival check to be. To start a mission and to clear it closes
the gate; there is nothing where the check is not asked. -/
def finds (input : TickInput α) (state : WorkerState α) (snap : VehicleSnapshot α) (latched : Bool) :
    Option Bool :=
  match snap.drivingState with
  | .planning => worker.findsPlanning snap
  | .followingRoute | .approachingDestination => worker.findsOnRoute input snap latched state
  | _ => if snap.mission.isNone && state.follower.route.isSome then some false else none

end DrivingWorker

/-- The car, whether the arrival check found its gate open when it was last asked, and whether the car
was interrupted since. -/
structure AskedCar (α : Type) extends TimedCar α where
  foundOpen : Bool
  interrupted : Bool

/-- What a tick of the control thread finds. -/
def TimedCar.finds (worker : DrivingWorker α) (car : TimedCar α) : TimedLabel α → Option Bool
  | .drivingTick input => match car.thread with
    | .idle state => worker.finds input state car.store car.latched
    | _ => none
  | _ => none

namespace AskedCar

variable (worker : DrivingWorker α) (service : LocalizationService α) (policy : CommandPolicy α)

def start : AskedCar α := ⟨TimedCar.start, false, true⟩

/-- A step of the car. -/
def step (car : AskedCar α) (label : TimedLabel α) : AskedCar α :=
  let after := TimedCar.step worker service policy car.toTimedCar label
  let found := car.toTimedCar.finds worker label
  { toTimedCar := after
    foundOpen := found.getD car.foundOpen
    interrupted := car.interrupted && found.isNone || !after.store.covered }

/-- A tick does not find the gate open, or it was found closed when it was last looked at, or nothing
interrupted the car in between. -/
def Uninterrupted (car : AskedCar α) (label : TimedLabel α) : Prop :=
  car.toTimedCar.finds worker label = some true → car.foundOpen = true → car.interrupted = false

end AskedCar

/-! ### What a tick does to the arrival check -/

/-- The arrival check behind a tick that returned, by what the tick found: it is as before, it is
without a time, or it keeps the time and decides. -/
inductive Judged (worker : DrivingWorker α) (input : TickInput α) (before : Stack α)
    (arrival : ArrivalState α) : Option Bool → ArrivalState α → Prop
  | unasked : Judged worker input before arrival none arrival
  | closed {next : ArrivalState α} (reset : next.heldSince = none) (undecided : next.arrived = false) :
      Judged worker input before arrival (some false) next
  | opened (undecided : arrival.arrived = false) (covered : before.store.covered = true) :
      Judged worker input before arrival (some true) { arrival with
        heldSince := some (arrival.heldSince.getD input.now)
        arrived := decide (before.store.estimatedSpeedMps ≤ worker.arrival.maxSpeedMps ∨
          worker.arrival.settleS ≤ input.now - arrival.heldSince.getD input.now) }

/-- An update does what it finds. -/
theorem judged_update {worker : DrivingWorker α} {input : TickInput α} {before : Stack α}
    {update : ArrivalChecker.Update α} (now : update.now = input.now)
    (speed : update.speedMps = before.store.estimatedSpeedMps)
    (covered : update.stale = false → before.store.covered = true) (arrival : ArrivalState α) :
    Judged worker input before arrival (worker.arrival.finds update arrival)
      (worker.arrival.update update arrival).2 := by
  obtain ⟨stop, since, arrived⟩ := arrival
  cases stop with
  | none => exact .unasked
  | some stop =>
    cases arrived with
    | true => exact .unasked
    | false =>
      unfold ArrivalChecker.finds ArrivalChecker.update
      simp only [Bool.false_eq_true, if_false]
      cases gate : worker.arrival.gate stop update with
      | false => exact .closed rfl rfl
      | true =>
        rw [now, speed]
        refine .opened rfl (covered ?_)
        unfold ArrivalChecker.gate at gate
        simp only [Bool.and_eq_true, Bool.not_eq_true'] at gate
        exact gate.1.1.1.1

namespace DrivingWorker

variable {worker : DrivingWorker α} {input : TickInput α} {state : WorkerState α}
  {stack after : Stack α} {ticked : Ticked α}

/-- Stopping at the end of a tick. -/
theorem stop_ticked {next : Ticked α}
    (ran : ((outputOf (worker.supervisor.apply stopCommand)).bind fun _ =>
      .done (.ok next)).run WorkerOp.handle stack = ((.ok ticked : Except PyError (Ticked α)), after)) :
    next = ticked := by
  rw [Program.run_bind, Program.run_done] at ran
  exact Except.ok.inj (Prod.mk.inj ran).1

/-- The supervisor sends the same in both driving states. -/
theorem appliedCommand_announced (worker : DrivingWorker α)
    {snap : VehicleSnapshot α} (onRoute : snap.drivingState.isOnRoute = true)
    (command : ControlCommand α) (latched : Bool) :
    worker.supervisor.appliedCommand command (snap.setDrivingState .approachingDestination, latched) =
      worker.supervisor.appliedCommand command (snap, latched) := by
  unfold SafetySupervisor.appliedCommand blocked
  rw [Errand.isDriving_of_isOnRoute onRoute]
  rfl

/-- The call of the policy, if there is one, is the end of a tick. -/
theorem notified_ticked {arrives : Prop} [Decidable arrives] {next : Ticked α}
    (ran : (if arrives then
        .call (.notifyArrived input.wall) fun _ => .done (.ok next)
      else .done (.ok next) : WorkerProgram α (Except PyError (Ticked α))).run WorkerOp.handle stack =
        (.ok ticked, after)) : next = ticked := by
  split at ran
  · cases ran
    rfl
  · cases ran
    rfl

/-- The output and the arrival check of a tick that drove. -/
theorem concluded_judged {snap : VehicleSnapshot α} {pose : LocalizationPose α} {driven : Driven α}
    {arrival : ArrivalState α} {before : Stack α} {latched : Bool}
    (covered : before.store.covered = true)
    (speed : snap.estimatedSpeedMps = before.store.estimatedSpeedMps)
    (sent : worker.supervisor.appliedCommand (worker.decisionOf input driven).command
        (stack.store, stack.latched) =
      worker.supervisor.appliedCommand (worker.decisionOf input driven).command (snap, latched))
    (ran : ((outputOf (worker.supervisor.apply (worker.decisionOf input driven).command)).bind
      (worker.conclude input snap pose (worker.decisionOf input driven) driven.state
        arrival)).run WorkerOp.handle stack = ((.ok ticked : Except PyError (Ticked α)), after)) :
    Judged worker input before arrival (worker.findsDriven input snap latched pose driven arrival)
      ticked.arrival := by
  rw [Program.run_bind] at ran
  have applied : ((outputOf (worker.supervisor.apply
      (worker.decisionOf input driven).command)).run WorkerOp.handle stack).1 =
      worker.supervisor.appliedCommand (worker.decisionOf input driven).command (snap, latched) :=
    sent
  rw [applied] at ran
  unfold conclude arrives at ran
  unfold findsDriven
  cases matched : worker.matcher.matchPose worker.map.toLaneMap (pose.x, pose.y)
      pose.headingDeg with
  | error error =>
    rw [matched] at ran
    cases ran
  | ok found =>
    rw [matched] at ran
    simp only [bind_ok] at ran
    dsimp only [pure, Except.pure] at ran
    rw [← notified_ticked ran]
    exact judged_update rfl speed (fun _ => covered) arrival

/-- A tick on the way. -/
theorem drive_judged (onRoute : stack.store.drivingState.isOnRoute = true)
    (ran : (worker.drive input stack.store state).run WorkerOp.handle stack =
      (.ok ticked, after)) :
    Judged worker input stack state.arrival
      (worker.findsOnRoute input stack.store stack.latched state) ticked.arrival := by
  unfold drive at ran
  unfold findsOnRoute
  cases isPose : stack.store.pose with
  | none =>
    rw [isPose] at ran
    rw [← stop_ticked ran]
    exact .unasked
  | some pose =>
    rw [isPose] at ran
    dsimp only at ran ⊢
    by_cases stale : stack.store.poseStale = true
    · rw [if_pos stale] at ran ⊢
      rw [← stop_ticked ran]
      exact judged_update rfl rfl (fun fresh => absurd fresh.symm Bool.false_ne_true) state.arrival
    · rw [if_neg stale] at ran ⊢
      have covered : stack.store.covered = true := by
        unfold VehicleSnapshot.covered
        rw [Bool.eq_false_iff.mpr stale, onRoute]
        rfl
      by_cases noRoute : state.follower.route.isNone = true
      · rw [if_pos noRoute] at ran ⊢
        cases ran
        exact .unasked
      · rw [if_neg noRoute] at ran ⊢
        cases computed : worker.follower.compute (pose.x, pose.y) pose.headingDeg input.sensors
            state.follower with
        | error error =>
          rw [computed] at ran
          cases ran
        | ok driven =>
          rw [computed] at ran
          unfold carryOut announced at ran
          dsimp only at ran ⊢
          split at ran
          · exact concluded_judged covered rfl (worker.appliedCommand_announced onRoute _ _) ran
          · exact concluded_judged covered rfl rfl ran

/-- A tick that plans. -/
theorem planning_judged (planning : stack.store.drivingState = .planning)
    (ran : (worker.react input state stack.store).run WorkerOp.handle stack =
      (.ok ticked, after)) :
    Judged worker input stack state.arrival (worker.finds input state stack.store stack.latched)
      ticked.arrival := by
  unfold react plan at ran
  unfold finds findsPlanning
  rw [planning] at ran ⊢
  cases mission : stack.store.mission with
  | none =>
    rw [mission] at ran
    rw [← stop_ticked ran]
    exact .unasked
  | some mission' =>
    rw [mission] at ran
    dsimp only at ran
    split at ran
    next none =>
      rw [none, ← stop_ticked ran]
      exact .unasked
    next pose isPose =>
      rw [isPose]
      dsimp only
      split at ran
      next stale =>
        rw [if_pos stale, ← stop_ticked ran]
        exact .unasked
      next fresh =>
        rw [if_neg fresh]
        split at ran
        · cases ran
        next none =>
          rw [none, ← stop_ticked ran]
          exact .unasked
        next next planned =>
          rw [planned, ← stop_ticked ran]
          obtain ⟨found, route, folded, -, -, rfl⟩ := planned_eq planned
          exact .closed rfl rfl

/-- A tick behind the reading of the snapshot. -/
theorem react_judged (ran : (worker.react input state stack.store).run WorkerOp.handle stack =
    (.ok ticked, after)) :
    Judged worker input stack state.arrival (worker.finds input state stack.store stack.latched)
      ticked.arrival := by
  by_cases planning : stack.store.drivingState = .planning
  · exact planning_judged planning ran
  unfold react at ran
  unfold finds
  cases driving : stack.store.drivingState with
  | planning => exact absurd driving planning
  | followingRoute | approachingDestination =>
    rw [driving] at ran
    exact drive_judged (by rw [driving]; rfl) ran
  | boot | waiting | arrived | error | approachingStopLine | stoppedAtLine | crossingIntersection
  | obstacleWait =>
    rw [driving] at ran
    dsimp only at ran ⊢
    rw [← stop_ticked ran]
    unfold cleared
    split
    · exact .closed rfl rfl
    · exact .unasked

/-- A whole tick that returned. -/
theorem round_judged (ran : (worker.round input state).run WorkerOp.handle stack =
    (some ticked, after)) :
    Judged worker input stack state.arrival (worker.finds input state stack.store stack.latched)
      ticked.arrival := by
  unfold round tick at ran
  rw [Program.run_bind, Program.run_call] at ran
  split at ran
  next returned reacted =>
    obtain ⟨same, ended⟩ := Prod.mk.inj ran
    cases Option.some.inj same
    exact react_judged (Prod.ext reacted ended)
  · cases ran

end DrivingWorker

/-! ### Runs -/

namespace TimedCar

variable {worker : DrivingWorker α} {service : LocalizationService α} {policy : CommandPolicy α}

/-- A whole tick leaves no thread between two ticks, or does to the arrival check what is judged. -/
theorem drivingTick_judged (car : TimedCar α) (input : TickInput α) :
    ((drivingTick worker input car).thread.heldSince = none ∧
        (drivingTick worker input car).thread.arrived = false) ∨
      ∃ state next, car.thread = .idle state ∧ (drivingTick worker input car).thread = .idle next ∧
        Judged worker input car.toStack state.arrival (car.finds worker (.drivingTick input))
          next.arrival := by
  unfold drivingTick finds
  split
  next state idle =>
    rw [idle]
    dsimp only
    generalize ran : (worker.round input state).run WorkerOp.handle car.toStack = outcome
    obtain ⟨result, after⟩ := outcome
    cases result with
    | none => exact .inl ⟨rfl, rfl⟩
    | some ticked =>
      exact .inr ⟨state, ticked.toWorkerState, rfl, rfl, DrivingWorker.round_judged ran⟩
  next notIdle =>
    cases thread : car.thread with
    | idle state => exact absurd thread (notIdle state)
    | running program => exact .inl ⟨rfl, rfl⟩
    | ended => exact .inl ⟨rfl, rfl⟩

/-- Outside of a tick the thread is left alone. -/
theorem step_thread (car : TimedCar α) {label : TimedLabel α}
    (outside : ∀ input, label ≠ .drivingTick input) :
    (step worker service policy car label).thread = car.thread ∧ car.finds worker label = none := by
  cases label with
  | drivingTick input => exact absurd rfl (outside input)
  | raw | disconnected | localizationTick | rawCommand | controlDisconnected | controlConnected =>
    exact ⟨rfl, rfl⟩

end TimedCar

namespace AskedCar

variable {worker : DrivingWorker α} {service : LocalizationService α} {policy : CommandPolicy α}

/-- The asked car is the car. -/
theorem run_toTimedCar (labels : List (TimedLabel α)) :
    (Transition.run (step worker service policy) start labels).toTimedCar =
      Transition.run (TimedCar.step worker service policy) TimedCar.start labels := by
  induction labels using List.reverseRecOn with
  | nil => rfl
  | append_singleton labels label inductionHypothesis =>
    rw [Transition.run_concat, Transition.run_concat, ← inductionHypothesis]
    rfl

/-- While a time is kept, the gate was found open, and unless it was interrupted the car is covered
since then. -/
def Keeps (worker : DrivingWorker α) (service : LocalizationService α) (policy : CommandPolicy α)
    (labels : List (TimedLabel α)) (car : AskedCar α) : Prop :=
  ∀ since, car.thread.heldSince = some since → car.foundOpen = true ∧
    (car.interrupted = false → TimedCar.CoveredSince worker service policy labels since)

section Keeps

variable {labels : List (TimedLabel α)} {car : AskedCar α}

/-- A step behind which the car is not interrupted goes on with a state that is covered. -/
theorem covered_of_uninterrupted {label : TimedLabel α}
    (reached : car.toTimedCar =
      Transition.run (TimedCar.step worker service policy) TimedCar.start labels)
    (uninterrupted : (step worker service policy car label).interrupted = false) :
    (Transition.run (TimedCar.step worker service policy) TimedCar.start
      (labels ++ [label])).store.covered = true := by
  rw [Transition.run_concat, ← reached]
  exact (Bool.not_eq_false' ..).mp (Bool.or_eq_false_iff.mp uninterrupted).2

/-- A step that does not ask the arrival check keeps it. -/
theorem Keeps.unasked (keeps : Keeps worker service policy labels car) {label : TimedLabel α}
    (reached : car.toTimedCar =
      Transition.run (TimedCar.step worker service policy) TimedCar.start labels)
    (unasked : car.toTimedCar.finds worker label = none)
    (same : (step worker service policy car label).thread.heldSince = car.thread.heldSince) :
    Keeps worker service policy (labels ++ [label]) (step worker service policy car label) := by
  intro since held
  obtain ⟨foundOpen, covered⟩ := keeps since (same.symm.trans held)
  have found : (step worker service policy car label).foundOpen = car.foundOpen :=
    congrArg (Option.getD · car.foundOpen) unasked
  refine ⟨found.trans foundOpen, fun uninterrupted => ?_⟩
  refine Transition.HoldsSince.concat (covered ?_) (covered_of_uninterrupted reached uninterrupted)
  have before := (Bool.or_eq_false_iff.mp uninterrupted).1
  rw [unasked] at before
  exact (Bool.and_true _).symm.trans before

/-- A tick that finds the gate open keeps it, if nothing interrupted the car since it was found open
before. -/
theorem Keeps.opened (keeps : Keeps worker service policy labels car) {input : TickInput α}
    (reached : car.toTimedCar =
      Transition.run (TimedCar.step worker service policy) TimedCar.start labels)
    (asked : car.toTimedCar.finds worker (.drivingTick input) = some true)
    (inTime : car.Uninterrupted worker (.drivingTick input)) {since : α}
    (held : car.thread.heldSince = some since ∨ since = input.now) :
    (step worker service policy car (.drivingTick input)).foundOpen = true ∧
      ((step worker service policy car (.drivingTick input)).interrupted = false →
        TimedCar.CoveredSince worker service policy (labels ++ [.drivingTick input]) since) := by
  refine ⟨congrArg (Option.getD · car.foundOpen) asked, fun uninterrupted => ?_⟩
  have covered := covered_of_uninterrupted reached uninterrupted
  rcases held with before | now
  · obtain ⟨foundOpen, since⟩ := keeps since before
    exact (since (inTime asked foundOpen)).concat covered
  · rw [now]
    exact Transition.HoldsSince.begin covered

/-- A tick keeps it. -/
theorem Keeps.drivingTick (keeps : Keeps worker service policy labels car) (input : TickInput α)
    (reached : car.toTimedCar =
      Transition.run (TimedCar.step worker service policy) TimedCar.start labels)
    (inTime : car.Uninterrupted worker (.drivingTick input)) :
    Keeps worker service policy (labels ++ [.drivingTick input])
      (step worker service policy car (.drivingTick input)) := by
  rcases TimedCar.drivingTick_judged car.toTimedCar input with
    ⟨none, -⟩ | ⟨state, next, thread, idle, judged⟩
  · exact fun since held => absurd (none.symm.trans held) (Option.some_ne_none since).symm
  · have before : car.thread.heldSince =
        if state.arrival.arrived then none else state.arrival.heldSince := by
      rw [thread]
      rfl
    have after : (step worker service policy car (.drivingTick input)).thread.heldSince =
        if next.arrival.arrived then none else next.arrival.heldSince := by
      show (TimedCar.drivingTick worker input car.toTimedCar).thread.heldSince = _
      rw [idle]
      rfl
    generalize asked : car.toTimedCar.finds worker (.drivingTick input) = found at judged
    generalize next.arrival = arrival at judged after
    cases judged with
    | unasked => exact keeps.unasked reached asked (after.trans before.symm)
    | closed reset undecided =>
      intro since held
      rw [after, undecided, reset] at held
      cases held
    | opened undecided covered =>
      intro since held
      refine keeps.opened reached asked inTime ?_
      rw [after] at held
      split at held
      · cases held
      · have same := Option.some.inj held
        rw [before, undecided]
        cases earlier : state.arrival.heldSince with
        | none =>
          rw [earlier] at same
          exact .inr same.symm
        | some time =>
          rw [earlier] at same
          exact .inl (congrArg some same)

/-- In a run in which nothing interrupts the car between two ticks that find the gate open, the car is
covered as long as a time is kept. -/
theorem keeps_of_uninterrupted (inTime : Transition.Along (step worker service policy)
    (Uninterrupted worker) start labels) :
    Keeps worker service policy labels
      (Transition.run (step worker service policy) start labels) := by
  induction labels using List.reverseRecOn with
  | nil => exact fun since held => (nomatch held)
  | append_singleton labels label inductionHypothesis =>
    obtain ⟨before, last⟩ := Transition.along_concat inTime
    have keeps := inductionHypothesis before
    have reached : (Transition.run (step worker service policy) start labels).toTimedCar = _ :=
      run_toTimedCar labels
    rw [Transition.run_concat]
    by_cases isTick : ∃ input, label = .drivingTick input
    · obtain ⟨input, rfl⟩ := isTick
      exact keeps.drivingTick input reached last
    · obtain ⟨thread, unasked⟩ := @TimedCar.step_thread _ _ worker service policy
        (Transition.run (step worker service policy) start labels).toTimedCar label
        fun input same => isTick ⟨input, same⟩
      exact keeps.unasked reached unasked (congrArg ControlThread.heldSince thread)

end Keeps

end AskedCar

namespace TimedCar

/-- A tick that settles finds the gate open behind the settling time, on a car that is covered. -/
theorem Settles.opened {worker : DrivingWorker α} {car : TimedCar α} {input : TickInput α}
    (settles : Settles worker car input) : car.finds worker (.drivingTick input) = some true ∧
      car.store.covered = true ∧
      worker.arrival.settleS ≤ input.now - car.thread.heldSince.getD input.now := by
  obtain ⟨undecided, decided, fast⟩ := settles
  rcases drivingTick_judged car input with ⟨-, notDecided⟩ | ⟨state, next, thread, idle, judged⟩
  · exact absurd (notDecided.symm.trans decided) Bool.false_ne_true
  rw [thread] at undecided
  rw [idle] at decided
  have notYet : state.arrival.arrived = false := undecided
  have isDecided : next.arrival.arrived = true := decided
  have since : car.thread.heldSince = state.arrival.heldSince := by
    rw [thread, ControlThread.heldSince, notYet]
    rfl
  generalize car.finds worker (.drivingTick input) = found at judged
  generalize next.arrival = arrival at judged isDecided
  cases judged with
  | unasked => exact absurd (notYet.symm.trans isDecided) Bool.false_ne_true
  | closed _ notDecided => exact absurd (notDecided.symm.trans isDecided) Bool.false_ne_true
  | opened _ covered =>
    rw [since]
    exact ⟨rfl, covered, (of_decide_eq_true isDecided).resolve_left (not_le.mpr fast)⟩

/-- Since a time that is not before the last step, there is the last state only. -/
theorem coveredSince_last {worker : DrivingWorker α} {service : LocalizationService α}
    {policy : CommandPolicy α} {labels : List (TimedLabel α)} {since : α}
    (times : ∀ label ∈ labels, label.time ≤ since)
    (covered : (Transition.run (step worker service policy) start labels).store.covered = true) :
    CoveredSince worker service policy labels since := by
  intro earlier later split beyond
  cases later with
  | nil =>
    rw [List.append_nil] at split
    rw [← split]
    exact covered
  | cons first rest =>
    have before := times first (split ▸ List.mem_append_right _ List.mem_cons_self)
    exact absurd (beyond first List.mem_cons_self) (not_lt.mpr before)

/-- An arrival by settling needs an uninterrupted stop where nothing interrupts the car between two
ticks that find the gate open. In such a run, at non-decreasing times: if a tick confirms the arrival
above the speed limit, then in every state since the settling time before the tick the pose is not
stale and the car is on its way. -/
theorem settled_arrival_covered (worker : DrivingWorker α) (service : LocalizationService α)
    (policy : CommandPolicy α) (labels : List (TimedLabel α)) (input : TickInput α)
    (ordered : ((labels ++ [TimedLabel.drivingTick input]).map TimedLabel.time).Pairwise (· ≤ ·))
    (inTime : Transition.Along (AskedCar.step worker service policy)
      (AskedCar.Uninterrupted worker) AskedCar.start (labels ++ [.drivingTick input]))
    (settles : Settles worker (Transition.run (step worker service policy) start labels) input) :
    CoveredSince worker service policy labels (input.now - worker.arrival.settleS) := by
  obtain ⟨before, last⟩ := Transition.along_concat inTime
  have keeps := AskedCar.keeps_of_uninterrupted before
  have times (label : TimedLabel α) (member : label ∈ labels) : label.time ≤ input.now := by
    rw [List.map_append] at ordered
    exact (List.pairwise_append.mp ordered).2.2 _ (List.mem_map_of_mem member) _ List.mem_cons_self
  have reached : (Transition.run (AskedCar.step worker service policy) AskedCar.start
      labels).toTimedCar = Transition.run (step worker service policy) start labels :=
    AskedCar.run_toTimedCar labels
  rw [← reached] at settles
  obtain ⟨asked, covered, settled⟩ := settles.opened
  cases held : (Transition.run (AskedCar.step worker service policy) AskedCar.start
      labels).thread.heldSince with
  | some since =>
    rw [held, Option.getD_some] at settled
    obtain ⟨foundOpen, coveredSince⟩ := keeps since held
    exact (coveredSince (last asked foundOpen)).mono (by linarith only [settled])
  | none =>
    rw [held, Option.getD_none, sub_self] at settled
    rw [reached] at covered
    refine coveredSince_last (fun label member => (times label member).trans ?_) covered
    linarith only [settled]

/-! ### A loss between two ticks -/

instance (worker : DrivingWorker α) (car : AskedCar α) (label : TimedLabel α) :
    Decidable (car.Uninterrupted worker label) :=
  inferInstanceAs (Decidable (_ = some true → _ = true → _ = false))

instance (worker : DrivingWorker α) (car : TimedCar α) (input : TickInput α) :
    Decidable (Settles worker car input) :=
  inferInstanceAs (Decidable (_ ∧ _ ∧ _))

/-- A message that sees the marker on the lane to the east. -/
def seenAt (x now : ℚ) : TimedLabel ℚ :=
  .raw (some (.dict [("marker_id", .int 6), ("timestamp", .float (.finite now)),
    ("found", .bool true), ("position", .dict [("x", .float (.finite x)), ("y", .int 1)]),
    ("heading", .int 0)])) now now

/-- The car comes to its stop, and a tick finds the gate of the arrival check open. -/
def stoppedRun : List (TimedLabel ℚ) :=
  [seenAt (170 / 100) 0, seenAt (174 / 100) (1 / 10),
    .rawCommand (some ringMove) (1 / 10) fun _ => 1 / 10, .drivingTick (darkInput (11 / 100)),
    .drivingTick (darkInput (12 / 100))]

/-- The position is lost and found again before the next tick. -/
def lossRun : List (TimedLabel ℚ) :=
  [.disconnected (13 / 100) (13 / 100), seenAt (174 / 100) (3 / 10), seenAt (170 / 100) (4 / 10)]

/-- The next tick confirms the arrival by settling, although the pose was stale in between. -/
theorem loss_does_not_restart_hold :
    ((stoppedRun ++ lossRun ++ [TimedLabel.drivingTick (darkInput (43 / 100))]).map
        TimedLabel.time).Pairwise (· ≤ ·) ∧
      Settles ringWorker (Transition.run (step ringWorker LocalizationService.plainService ⟨5, 3⟩)
        start (stoppedRun ++ lossRun)) (darkInput (43 / 100)) ∧
      ¬ CoveredSince ringWorker LocalizationService.plainService ⟨5, 3⟩ (stoppedRun ++ lossRun)
        (43 / 100 - ringWorker.arrival.settleS) := by
  refine ⟨by decide +kernel, by decide +kernel, fun covered => ?_⟩
  have lost := covered (stoppedRun ++ lossRun.take 1) (lossRun.drop 1) rfl (by decide +kernel)
  exact absurd lost (by decide +kernel)

/-- Without the loss the car stood in between. -/
theorem settled_arrival_covered_stopped :
    CoveredSince ringWorker LocalizationService.plainService ⟨5, 3⟩ stoppedRun
      (43 / 100 - ringWorker.arrival.settleS) :=
  settled_arrival_covered ringWorker LocalizationService.plainService ⟨5, 3⟩ stoppedRun
    (darkInput (43 / 100)) (by decide +kernel) (by decide +kernel) (by decide +kernel)

end TimedCar

end RcTaxi
