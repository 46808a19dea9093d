/-
This file is about the numbers the control server is told. The position is that of the newest pose
the localization handed over, and it is told as stale unless that was taken since the last loss.
The servo angle is computed anew, from the command in the store, and not asked of the steering
driver; the driver limits the angle, and the telemetry does not.
-/

import RcTaxi.Telemetry

namespace RcTaxi

variable {α : Type} [Scalar α]

/-! ### The command in the store -/

/-- The store has the command that the drivers were given, with a wheel angle within the limit. -/
structure Stack.InForce {α : Type} [Scalar α] (limit : α) (stack : Stack α) : Prop where
  command : stack.store.controlCommand = ⟨stack.motorThrottle, stack.steeringDeg⟩
  within : |stack.steeringDeg| ≤ limit

namespace Stack

variable {limit : α} {stack : Stack α}

/-- The command and the drivers are left alone. -/
theorem InForce.same (inForce : stack.InForce limit) {after : Stack α}
    (command : after.store.controlCommand = stack.store.controlCommand)
    (throttle : after.motorThrottle = stack.motorThrottle)
    (steering : after.steeringDeg = stack.steeringDeg) : after.InForce limit := by
  refine ⟨?_, ?_⟩
  · rw [command, throttle, steering]
    exact inForce.command
  · rw [steering]
    exact inForce.within

/-- Behind a forced stop. -/
theorem forced_inForce (nonneg : 0 ≤ limit) (stack : Stack α) :
    (stack.onCar SafetySupervisor.forceStop).InForce limit := by
  refine ⟨rfl, ?_⟩
  show |(0 : α)| ≤ limit
  rw [abs_zero]
  exact nonneg

theorem InForce.enterError (nonneg : 0 ≤ limit) (inForce : stack.InForce limit) (reason : Reason) :
    (stack.enterError reason).InForce limit := by
  unfold Stack.enterError
  dsimp only
  split
  · exact inForce.same rfl rfl rfl
  · exact forced_inForce nonneg _

theorem InForce.clearReason (inForce : stack.InForce limit) (reason : Reason) :
    (stack.clearReason reason).InForce limit := by
  unfold Stack.clearReason dropReason
  dsimp only
  split_ifs <;> exact inForce.same rfl rfl rfl

theorem InForce.onCommand (inForce : stack.InForce limit) (command : Command α) (clock : ℕ → α) :
    (stack.onCommand command clock).InForce limit := by
  cases command with
  | move x y =>
    unfold Stack.onCommand onMove
    dsimp only
    split <;> exact inForce.same rfl rfl rfl
  | stop =>
    unfold Stack.onCommand onStop
    dsimp only
    split <;> exact inForce.same rfl rfl rfl
  | resume =>
    unfold Stack.onCommand onResume
    dsimp only
    split
    · exact inForce
    · have told : (stack.emit .resumeAccepted).InForce limit := inForce.same rfl rfl rfl
      exact told.clearReason .controlLost

theorem InForce.notifyArrived (nonneg : 0 ≤ limit) (inForce : stack.InForce limit) (now : α) :
    (stack.notifyArrived now).InForce limit := by
  unfold Stack.notifyArrived
  split
  · exact (forced_inForce nonneg _).same rfl rfl rfl
  · exact inForce

theorem InForce.policyStep (nonneg : 0 ≤ limit) (inForce : stack.InForce limit)
    (policy : CommandPolicy α) (label : PolicyLabel α) :
    (policy.step stack label).InForce limit := by
  cases label with
  | rawMessage message clock =>
    unfold CommandPolicy.step CommandPolicy.onRawMessage
    dsimp only
    split
    · exact inForce
    · exact inForce.onCommand _ _
  | controlDisconnected => exact inForce.enterError nonneg .controlLost
  | controlConnected now =>
    unfold CommandPolicy.step onControlConnected
    dsimp only
    split
    · exact inForce.same rfl rfl rfl
    · exact inForce
  | gpsLost now =>
    unfold CommandPolicy.step onGpsLost
    dsimp only
    split
    · exact inForce.enterError nonneg .gpsLost
    · exact (inForce.enterError nonneg .gpsLost).same rfl rfl rfl
  | gpsRecovered now =>
    unfold CommandPolicy.step onGpsRecovered
    dsimp only
    split
    · have told : (stack.sendRecovered now).InForce limit := inForce.same rfl rfl rfl
      exact told.clearReason .gpsLost
    · exact inForce
  | notifyArrived now => exact inForce.notifyArrived nonneg now

end Stack

/-! ### Ticks -/

namespace DrivingWorker

variable (worker : DrivingWorker α)

/-- What a program of the control thread keeps. -/
abbrev KeepsInForce {Result : Type} (program : WorkerProgram α Result) : Prop :=
  program.Keeps WorkerOp.handle (Stack.InForce worker.supervisor.maxWheelDeg)

theorem apply_inForce (nonneg : 0 ≤ worker.supervisor.maxWheelDeg) (command : ControlCommand α) :
    worker.KeepsInForce (outputOf (worker.supervisor.apply command)) := by
  intro stack _
  refine ⟨rfl, ?_⟩
  show |(worker.supervisor.appliedCommand command
    (stack.store, stack.latched)).steeringWheelDeg| ≤ _
  unfold SafetySupervisor.appliedCommand
  split
  · rw [stopCommand, abs_zero]
    exact nonneg
  · exact abs_le.mpr ⟨le_min (le_max_right _ _) (neg_le_self nonneg), min_le_right _ _⟩

theorem stop_inForce (nonneg : 0 ≤ worker.supervisor.maxWheelDeg) {Result : Type}
    (result : Result) : worker.KeepsInForce
      ((outputOf (worker.supervisor.apply stopCommand)).bind fun _ => .done result) :=
  (worker.apply_inForce nonneg stopCommand).bind fun _ => .done _

/-- The state is set first. -/
theorem set_inForce {Result : Type} (state : DrivingState) {rest : WorkerProgram α Result}
    (kept : worker.KeepsInForce rest) :
    worker.KeepsInForce (.call (.setDrivingState state) fun _ => rest) :=
  .call (fun _ inForce => inForce.same rfl rfl rfl) fun _ => kept

theorem conclude_inForce (nonneg : 0 ≤ worker.supervisor.maxWheelDeg) (input : TickInput α)
    (snap : VehicleSnapshot α) (pose : LocalizationPose α) (decision : Decision α)
    (follower : FollowerState α) (arrival : ArrivalState α) (applied : ControlCommand α) :
    worker.KeepsInForce (worker.conclude input snap pose decision follower arrival applied) := by
  unfold conclude
  split
  · exact .done _
  · dsimp only
    split
    · exact .call (fun _ inForce => inForce.notifyArrived nonneg _) fun _ => .done _
    · exact .done _

theorem carryOut_inForce (nonneg : 0 ≤ worker.supervisor.maxWheelDeg) (input : TickInput α)
    (snap : VehicleSnapshot α) (pose : LocalizationPose α) (arrival : ArrivalState α)
    (driven : Driven α) : worker.KeepsInForce (worker.carryOut input snap pose arrival driven) := by
  have output := (worker.apply_inForce nonneg (worker.decisionOf input driven).command).bind
    (worker.conclude_inForce nonneg input snap pose (worker.decisionOf input driven) driven.state
      arrival)
  unfold carryOut announced
  dsimp only
  split
  · exact worker.set_inForce _ output
  · exact output

theorem drive_inForce (nonneg : 0 ≤ worker.supervisor.maxWheelDeg) (input : TickInput α)
    (snap : VehicleSnapshot α) (state : WorkerState α) :
    worker.KeepsInForce (worker.drive input snap state) := by
  unfold drive
  split
  · exact worker.stop_inForce nonneg _
  · dsimp only
    split_ifs
    · exact worker.stop_inForce nonneg _
    · exact worker.set_inForce _ (.done _)
    · split
      · exact .done _
      · exact worker.carryOut_inForce nonneg input snap _ _ _

theorem plan_inForce (snap : VehicleSnapshot α) (state : WorkerState α) :
    worker.KeepsInForce (worker.plan snap state) := by
  unfold plan
  split
  · exact worker.set_inForce _ (.done _)
  · split
    · exact .done _
    · split_ifs
      · exact .done _
      · split
        · exact .done _
        · exact .done _
        · exact worker.set_inForce _ (.done _)

theorem react_inForce (nonneg : 0 ≤ worker.supervisor.maxWheelDeg) (input : TickInput α)
    (state : WorkerState α) (snap : VehicleSnapshot α) :
    worker.KeepsInForce (worker.react input state snap) := by
  unfold react
  split
  · refine (worker.plan_inForce snap state).bind fun planned => ?_
    split
    · exact .done _
    · exact worker.stop_inForce nonneg _
  · exact worker.drive_inForce nonneg input snap state
  · exact worker.drive_inForce nonneg input snap state
  · exact worker.stop_inForce nonneg _

/-- A whole tick, also if it ends in an exception. -/
theorem round_inForce (nonneg : 0 ≤ worker.supervisor.maxWheelDeg) (input : TickInput α)
    (state : WorkerState α) : worker.KeepsInForce (worker.round input state) := by
  have ticked : worker.KeepsInForce (worker.tick input state) :=
    .call (fun _ inForce => inForce) fun snap => worker.react_inForce nonneg input state snap
  refine ticked.bind fun result => ?_
  split
  · exact .done _
  · have latched : worker.KeepsInForce (latchStop : WorkerProgram α Unit) :=
      fun stack _ => (Stack.forced_inForce nonneg { stack with latched := true }).same rfl rfl rfl
    exact latched.bind fun _ => .done _

end DrivingWorker

namespace Runtime

variable (worker : DrivingWorker α) (policy : CommandPolicy α)

/-- The store has the command of the drivers behind every step. -/
theorem wholeStep_inForce (nonneg : 0 ≤ worker.supervisor.maxWheelDeg) (runtime : Runtime α)
    (label : WholeLabel α) (inForce : runtime.InForce worker.supervisor.maxWheelDeg) :
    (runtime.wholeStep worker policy label).InForce worker.supervisor.maxWheelDeg := by
  obtain ⟨stack, thread⟩ := runtime
  cases label with
  | policy label => exact inForce.policyStep nonneg policy label
  | reportTick =>
    obtain ⟨added, reported, -⟩ := reportTick_adds stack
    show stack.reportTick.InForce _
    rw [reported]
    exact inForce.same rfl rfl rfl
  | pose op =>
    obtain ⟨pose, stale, speed, moved⟩ := op.apply_eq stack.store
    show (stack.onStore op.apply).InForce _
    rw [Stack.onStore, moved]
    exact inForce.same rfl rfl rfl
  | tick input =>
    cases thread with
    | idle state => exact worker.round_inForce nonneg input state stack inForce
    | running program => exact inForce
    | ended => exact inForce

end Runtime

/-! ### The position in the store -/

/-- A step of the runtime that is not a store call of the localization thread. -/
def WholeLabel.apart {α : Type} : WholeLabel α → Bool
  | .pose _ => false
  | _ => true

theorem handle_output_position (op : OutputOp α) (stack : Stack α) :
    ((WorkerOp.output op).handle stack).2.store.position = stack.store.position := by
  cases op <;> rfl

theorem handle_position (op : WorkerOp α) (stack : Stack α) :
    (op.handle stack).2.store.position = stack.store.position := by
  cases op with
  | readSnapshot | setDrivingState state | latch => rfl
  | output op => exact handle_output_position op stack
  | notifyArrived wall =>
    show (stack.notifyArrived wall).store.position = _
    unfold Stack.notifyArrived
    split <;> rfl

/-- Only the localization thread changes the position. -/
theorem Runtime.wholeStep_position (worker : DrivingWorker α) (policy : CommandPolicy α)
    (runtime : Runtime α) {label : WholeLabel α} (apart : label.apart = true) :
    (runtime.wholeStep worker policy label).store.position = runtime.store.position := by
  obtain ⟨stack, thread⟩ := runtime
  cases label with
  | pose op => cases apart
  | reportTick =>
    obtain ⟨added, reported, -⟩ := reportTick_adds stack
    show stack.reportTick.store.position = _
    rw [reported]
    rfl
  | policy label =>
    cases label with
    | rawMessage message clock =>
      exact (LocalizationService.ControlOperation.rawMessage message clock).position stack
    | controlDisconnected => exact stack.enterError_position .controlLost
    | controlConnected now =>
      show (stack.onControlConnected now).store.position = _
      unfold Stack.onControlConnected
      split <;> rfl
    | gpsLost now => exact stack.onGpsLost_position now
    | gpsRecovered now => exact stack.onGpsRecovered_position now
    | notifyArrived now => exact handle_position (.notifyArrived now) stack
  | tick input =>
    cases thread with
    | idle state =>
      have kept (op : WorkerOp α) (after : Stack α)
          (same : after.store.position = stack.store.position) :
          (op.handle after).2.store.position = stack.store.position :=
        (handle_position op after).trans same
      exact @Program.run_invariant _ _ _ _ _
        (fun after : Stack α => after.store.position = stack.store.position) kept
        (worker.round input state) stack rfl
    | running program => rfl
    | ended => rfl

/-- The pose is one of those handed over, and none of them is newer. -/
def Newest {α : Type} [Scalar α] (ops : List (PoseOp α)) (pose : LocalizationPose α) : Prop :=
  .updatePose pose ∈ ops ∧
    ∀ other, .updatePose other ∈ ops → other.sourceTimestampS ≤ pose.sourceTimestampS

/-- A pose that was newer than all before was handed over, and no loss was declared since. -/
def Fresh {α : Type} [Scalar α] (ops : List (PoseOp α)) : Prop :=
  ∃ before pose after, ops = before ++ .updatePose pose :: after ∧
    (∀ other, .updatePose other ∈ before → other.sourceTimestampS < pose.sourceTimestampS) ∧
    .markPoseStale ∉ after

theorem fresh_concat (ops : List (PoseOp α)) (op : PoseOp α) :
    Fresh (ops ++ [op]) ↔ (∃ pose, op = .updatePose pose ∧
        ∀ other, .updatePose other ∈ ops → other.sourceTimestampS < pose.sourceTimestampS) ∨
      Fresh ops ∧ op ≠ .markPoseStale := by
  constructor
  · rintro ⟨before, pose, after, split, newer, kept⟩
    rcases List.eq_nil_or_concat' after with rfl | ⟨first, last, rfl⟩
    · obtain ⟨rfl, same⟩ := List.append_inj' split rfl
      exact .inl ⟨pose, List.singleton_inj.mp same, newer⟩
    · rw [← List.cons_append, ← List.append_assoc] at split
      obtain ⟨rfl, same⟩ := List.append_inj' split rfl
      rw [List.singleton_inj.mp same]
      refine .inr ⟨⟨before, pose, first, rfl, newer, fun lost => ?_⟩, fun lost => ?_⟩
      · exact kept (List.mem_append_left _ lost)
      · exact kept (lost ▸ List.mem_append_right _ (List.mem_singleton_self _))
  · rintro (⟨pose, rfl, newer⟩ | ⟨⟨before, pose, after, rfl, newer, kept⟩, goes⟩)
    · exact ⟨ops, pose, [], rfl, newer, List.not_mem_nil⟩
    · refine ⟨before, pose, after ++ [op], by rw [List.append_assoc, List.cons_append], newer, ?_⟩
      rw [List.mem_append, List.mem_singleton]
      exact not_or.mpr ⟨kept, goes.symm⟩

/-- What the position in the store is of the calls of the localization thread. -/
structure Placed {α : Type} [Scalar α] (ops : List (PoseOp α)) (snap : VehicleSnapshot α) :
    Prop where
  absent : snap.pose = none → ∀ other, .updatePose other ∉ ops
  newest : ∀ pose, snap.pose = some pose → Newest ops pose
  fresh : snap.poseStale = false ↔ Fresh ops

theorem Placed.same {ops : List (PoseOp α)} {snap after : VehicleSnapshot α}
    (placed : Placed ops snap) (same : after.position = snap.position) : Placed ops after := by
  have pose : after.pose = snap.pose := congrArg Prod.fst same
  have stale : after.poseStale = snap.poseStale := congrArg Prod.snd same
  exact ⟨pose ▸ placed.absent, pose ▸ placed.newest, stale ▸ placed.fresh⟩

/-- A pose that is not newer than one before is neither the newest nor makes the position fresh. -/
theorem Placed.refused {ops : List (PoseOp α)} {snap : VehicleSnapshot α} (placed : Placed ops snap)
    {pose previous : LocalizationPose α} (present : snap.pose = some previous)
    (older : pose.sourceTimestampS ≤ previous.sourceTimestampS) :
    Placed (ops ++ [.updatePose pose]) snap := by
  obtain ⟨member, newest⟩ := placed.newest previous present
  refine ⟨fun absent => ?_, fun found same => ?_, ?_⟩
  · rw [present] at absent
    cases absent
  · rw [present] at same
    obtain rfl := Option.some.inj same
    refine ⟨List.mem_append_left _ member, fun other handed => ?_⟩
    rcases List.mem_append.mp handed with before | last
    · exact newest other before
    · cases List.mem_singleton.mp last
      exact older
  · rw [fresh_concat, placed.fresh]
    refine ⟨fun fresh => .inr ⟨fresh, by rintro ⟨⟩⟩, ?_⟩
    rintro (⟨other, same, newer⟩ | ⟨fresh, -⟩)
    · cases same
      exact absurd (newer previous member) older.not_gt
    · exact fresh

/-- A pose that is newer than all before is taken. -/
theorem placed_taken {ops : List (PoseOp α)} {snap : VehicleSnapshot α} {pose : LocalizationPose α}
    (newer : ∀ other, .updatePose other ∈ ops → other.sourceTimestampS < pose.sourceTimestampS) :
    Placed (ops ++ [.updatePose pose]) { snap with pose := some pose, poseStale := false } := by
  refine ⟨fun absent => absurd absent (Option.some_ne_none _), fun found same => ?_, ?_⟩
  · obtain rfl := Option.some.inj same
    refine ⟨List.mem_append_right _ (List.mem_singleton_self _), fun other handed => ?_⟩
    rcases List.mem_append.mp handed with before | last
    · exact (newer other before).le
    · cases List.mem_singleton.mp last
      exact le_refl _
  · exact iff_of_true rfl ((fresh_concat ops _).mpr (.inl ⟨pose, rfl, newer⟩))

/-- A call that hands over no pose. -/
theorem Placed.beside {ops : List (PoseOp α)} {snap after : VehicleSnapshot α}
    (placed : Placed ops snap) {op : PoseOp α} (handsNone : ∀ pose, op ≠ .updatePose pose)
    (same : after.pose = snap.pose) (fresh : after.poseStale = false ↔ Fresh (ops ++ [op])) :
    Placed (ops ++ [op]) after := by
  have earlier {other : LocalizationPose α} (handed : .updatePose other ∈ ops ++ [op]) :
      .updatePose other ∈ ops :=
    (List.mem_append.mp handed).resolve_right fun last =>
      handsNone other (List.mem_singleton.mp last).symm
  refine ⟨fun absent other handed => ?_, fun pose present => ?_, fresh⟩
  · exact placed.absent (same ▸ absent) other (earlier handed)
  · obtain ⟨member, newest⟩ := placed.newest pose (same ▸ present)
    exact ⟨List.mem_append_left _ member, fun other handed => newest other (earlier handed)⟩

theorem Placed.apply {ops : List (PoseOp α)} {snap : VehicleSnapshot α} (placed : Placed ops snap)
    (op : PoseOp α) : Placed (ops ++ [op]) (op.apply snap) := by
  cases op with
  | updatePose pose =>
    rw [PoseOp.apply, VehicleSnapshot.updatePose]
    split
    · next previous present =>
      split
      · next older => exact placed.refused present older
      · next newer =>
        exact placed_taken fun other handed =>
          ((placed.newest previous present).2 other handed).trans_lt (not_le.mp newer)
    · next absent =>
      exact placed_taken fun other handed => absurd handed (placed.absent absent other)
  | markPoseStale =>
    refine placed.beside (by rintro pose ⟨⟩) rfl ?_
    refine iff_of_false Bool.false_ne_true.symm fun fresh => ?_
    rcases (fresh_concat ops _).mp fresh with ⟨pose, same, -⟩ | ⟨-, goes⟩
    · cases same
    · exact goes rfl
  | setEstimatedSpeed mps =>
    refine placed.beside (by rintro pose ⟨⟩) rfl ?_
    rw [fresh_concat]
    refine placed.fresh.trans ⟨fun fresh => .inr ⟨fresh, by rintro ⟨⟩⟩, ?_⟩
    rintro (⟨pose, same, -⟩ | ⟨fresh, -⟩)
    · cases same
    · exact fresh

/-! ### What is told -/

/-- Rounding keeps a number above zero. -/
theorem pyRound_nonneg {x : α} (digits : ℕ) (nonneg : 0 ≤ x) : 0 ≤ pyRound x digits := by
  have positive : (0 : α) < 10 ^ digits := pow_pos (by norm_num) digits
  have below : -x * 10 ^ digits ≤ ((0 : ℤ) : α) := by
    rw [Int.cast_zero, neg_mul]
    exact neg_nonpos.mpr (mul_nonneg nonneg positive.le)
  rw [← neg_nonpos, ← pyRound_neg, pyRound]
  exact div_nonpos_of_nonpos_of_nonneg (Int.cast_nonpos.mpr (nearestEven_le below)) positive.le

/-- A steering driver of the same settings, whose limits cut no more than the slack off the angles
of allowed commands. -/
structure SteeringDriver.Reaches (driver : SteeringDriver α) (telemetry : TelemetryWorker α)
    (limit slack : α) : Prop where
  center : driver.center = telemetry.servoCenter
  ratio : driver.ratio = telemetry.wheelRatio
  ordered : driver.leftMax ≤ driver.rightMax
  slack_nonneg : 0 ≤ slack
  left : ∀ wheelDeg, |wheelDeg| ≤ limit → driver.leftMax - slack ≤ telemetry.steer wheelDeg
  right : ∀ wheelDeg, |wheelDeg| ≤ limit → telemetry.steer wheelDeg ≤ driver.rightMax + slack

theorem SteeringDriver.Reaches.near {driver : SteeringDriver α} {telemetry : TelemetryWorker α}
    {limit slack : α} (reaches : driver.Reaches telemetry limit slack) {wheelDeg : α}
    (within : |wheelDeg| ≤ limit) :
    |telemetry.steer wheelDeg - driver.wheelToServo wheelDeg| ≤ slack := by
  have same : driver.wheelToServo wheelDeg =
      min (max (telemetry.steer wheelDeg) driver.leftMax) driver.rightMax := by
    rw [wheelToServo, reaches.center, reaches.ratio]
    rfl
  have left := reaches.left wheelDeg within
  have right := reaches.right wheelDeg within
  have nonneg := reaches.slack_nonneg
  rw [same, abs_le]
  rcases le_total (telemetry.steer wheelDeg) driver.leftMax with below | above
  · rw [max_eq_right below, min_eq_left reaches.ordered]
    constructor <;> linarith only [left, below, nonneg]
  · rw [max_eq_left above]
    rcases le_total (telemetry.steer wheelDeg) driver.rightMax with inside | beyond
    · rw [min_eq_left inside, sub_self]
      exact ⟨neg_nonpos.mpr nonneg, nonneg⟩
    · rw [min_eq_right beyond]
      constructor <;> linarith only [right, beyond, nonneg]

/-- The numbers of an info. -/
structure Figures (α : Type) where
  x : α
  y : α
  heading : α
  stale : Bool
  speed : α
  steer : α

/-- Where an info has them. -/
structure Figures.In (figures : Figures α) (info : PyValue α) : Prop where
  loc : info.get "loc" = .dict [("x", .number figures.x), ("y", .number figures.y),
    ("heading", .number figures.heading), ("stale", .bool figures.stale)]
  speed : info.get "speed" = .number figures.speed
  steer : info.get "steer" = .number figures.steer

/-- They are those of the car, up to half a unit of the last digit: the position is that of the
newest pose, and the servo angle that of the steering driver, up to the slack. -/
structure Figures.Of (figures : Figures α) (driver : SteeringDriver α) (slack : α)
    (ops : List (PoseOp α)) (stack : Stack α) : Prop where
  position : ∃ pose, Newest ops pose ∧ |figures.x - pose.x| ≤ 1 / 2 / 10 ^ 4 ∧
    |figures.y - pose.y| ≤ 1 / 2 / 10 ^ 4 ∧ |figures.heading - pose.headingDeg| ≤ 1 / 2 / 10 ^ 1
  fresh : figures.stale = false ↔ Fresh ops
  forward : 0 ≤ figures.speed
  speed : |figures.speed - max 0 stack.store.estimatedSpeedMps| ≤ 1 / 2 / 10 ^ 4
  steer : |figures.steer - driver.wheelToServo stack.steeringDeg| ≤ 1 / 2 / 10 ^ 1 + slack

namespace Telemetry

variable (worker : DrivingWorker α) (policy : CommandPolicy α) (telemetry : TelemetryWorker α)

omit [Scalar α] in
/-- The store call of the localization thread in a step. -/
def poseOpOf : TelemetryLabel α → Option (PoseOp α)
  | .link (.other (.pose op) _ _) _ => some op
  | _ => none

omit [Scalar α] in
/-- The store calls of the localization thread in a run. -/
def poseOps (labels : List (TelemetryLabel α)) : List (PoseOp α) := labels.filterMap poseOpOf

/-- A step makes the store call of the localization thread, or leaves the position alone. -/
theorem placed_step (state : Telemetry α) (label : TelemetryLabel α) {ops : List (PoseOp α)}
    (placed : Placed ops state.link.runtime.store) :
    Placed (ops ++ (poseOpOf label).toList)
      (step worker policy telemetry state label).link.runtime.store := by
  have beside {after : Runtime α} (none : poseOpOf label = none)
      (same : after.store.position = state.link.runtime.store.position) :
      Placed (ops ++ (poseOpOf label).toList) after.store := by
    rw [none, Option.toList_none, List.append_nil]
    exact placed.same same
  obtain ⟨link, thread⟩ := state
  cases label with
  | read now => cases thread <;> exact beside rfl rfl
  | send seen => cases thread <;> exact beside rfl rfl
  | link label others =>
    cases label with
    | info text seen => cases others
    | other label apart seen =>
      cases label with
      | pose op => exact placed.apply op
      | policy label => exact beside rfl (link.runtime.wholeStep_position worker policy rfl)
      | reportTick => exact beside rfl (link.runtime.wholeStep_position worker policy rfl)
      | tick input => exact beside rfl (link.runtime.wholeStep_position worker policy rfl)
    | thread label own clock seen =>
      rw [step, ControlLink.step]
      refine beside rfl ?_
      cases link.client.emits label with
      | none => rfl
      | some event =>
        cases event with
        | opened | subscribed text => rfl
        | connected | message raw | disconnected =>
          exact link.runtime.wholeStep_position worker policy rfl

/-- The position at the end of a run. -/
theorem placed_stackAt (labels : List (TelemetryLabel α)) :
    Placed (poseOps labels) (stackAt worker policy telemetry labels).store := by
  induction labels using List.reverseRecOn with
  | nil =>
    refine ⟨fun _ other => List.not_mem_nil, fun pose present => (by cases present), ?_⟩
    refine iff_of_false Bool.false_ne_true.symm ?_
    rintro ⟨before, pose, after, split, -⟩
    exact List.append_ne_nil_of_right_ne_nil _ (List.cons_ne_nil _ _) split.symm
  | append_singleton labels label inductionHypothesis =>
    rw [stackAt, Transition.run_concat, poseOps, List.filterMap_append]
    have placed := placed_step worker policy telemetry _ label inductionHypothesis
    cases called : poseOpOf label with
    | none =>
      rw [called] at placed
      rw [List.filterMap_cons_none called]
      exact placed
    | some op =>
      rw [called] at placed
      rw [List.filterMap_cons_some called]
      exact placed

/-- The store has the command of the drivers at the end of a run. -/
theorem inForce_stackAt (nonneg : 0 ≤ worker.supervisor.maxWheelDeg)
    (labels : List (TelemetryLabel α)) :
    (stackAt worker policy telemetry labels).InForce worker.supervisor.maxWheelDeg := by
  have initially : (Runtime.start : Runtime α).InForce worker.supervisor.maxWheelDeg := by
    refine ⟨rfl, ?_⟩
    show |(0 : α)| ≤ _
    rw [abs_zero]
    exact nonneg
  exact @runtime_run _ _ worker policy telemetry
    (fun runtime => runtime.InForce worker.supervisor.maxWheelDeg)
    (Runtime.wholeStep_inForce worker policy nonneg) initially labels

/-- What the thread reads are the numbers of the car. -/
theorem figures_of_reads (nonneg : 0 ≤ worker.supervisor.maxWheelDeg) {driver : SteeringDriver α}
    {slack : α} (reaches : driver.Reaches telemetry worker.supervisor.maxWheelDeg slack)
    {moment : List (TelemetryLabel α)} {info : PyValue α}
    (reads : Reads worker policy telemetry moment info) : ∃ figures : Figures α, figures.In info ∧
      figures.Of driver slack (poseOps moment) (stackAt worker policy telemetry moment) := by
  obtain ⟨now, ticked⟩ := reads.store
  have placed := placed_stackAt worker policy telemetry moment
  have inForce := inForce_stackAt worker policy telemetry nonneg moment
  generalize stackAt worker policy telemetry moment = stack at ticked placed inForce
  obtain ⟨pose, present, rfl⟩ := telemetry.tick_eq_some ticked
  refine ⟨⟨pyRound pose.x 4, pyRound pose.y 4, pyRound pose.headingDeg 1, stack.store.poseStale,
    pyRound (max 0 stack.store.estimatedSpeedMps) 4,
    pyRound (telemetry.steer stack.store.controlCommand.steeringWheelDeg) 1⟩, ⟨rfl, rfl, rfl⟩, ?_⟩
  refine ⟨⟨pose, placed.newest pose present, abs_pyRound_sub_le _ _, abs_pyRound_sub_le _ _,
    abs_pyRound_sub_le _ _⟩, placed.fresh, pyRound_nonneg 4 (le_max_left _ _),
    abs_pyRound_sub_le _ _, ?_⟩
  rw [inForce.command]
  exact (abs_sub_le _ (telemetry.steer stack.steeringDeg) _).trans
    (add_le_add (abs_pyRound_sub_le _ _) (reaches.near inForce.within))

/-- In every run each info that the control server is sent has the numbers of the car at a moment of
the run: the position of the newest pose that was handed over, stale unless a newer one than all
before was since the last loss, a speed that is not below zero, and the angle that the steering
driver gave its servo. -/
theorem infos_tell_the_car (nonneg : 0 ≤ worker.supervisor.maxWheelDeg)
    {driver : SteeringDriver α} {slack : α}
    (reaches : driver.Reaches telemetry worker.supervisor.maxWheelDeg slack)
    (labels : List (TelemetryLabel α)) :
    ∀ info ∈ told (Transition.run (step worker policy telemetry) start labels),
      ∃ moment, moment <+: labels ∧ ∃ figures : Figures α, figures.In info ∧
        figures.Of driver slack (poseOps moment) (stackAt worker policy telemetry moment) := by
  intro info member
  obtain ⟨moments, -, earlier, observed⟩ :=
    (told_sampled worker policy telemetry labels).sublist (List.singleton_sublist.mpr member)
  cases observed with
  | cons reads rest =>
    exact ⟨_, earlier _ List.mem_cons_self,
      figures_of_reads worker policy telemetry nonneg reaches reads⟩

/-- The settings of `vehicle.yaml`; the driver cuts the last hundredths of a degree off. -/
def configuredTelemetry : TelemetryWorker ℚ := ⟨108, 526 / 1000⟩

def configuredSteering : SteeringDriver ℚ := ⟨108, 51, 165, 526 / 1000⟩

theorem configuredSteering_reaches : configuredSteering.Reaches configuredTelemetry
    ringWorker.supervisor.maxWheelDeg (4 / 100) where
  center := rfl
  ratio := rfl
  ordered := by decide +kernel
  slack_nonneg := by decide +kernel
  left wheelDeg within := by
    have lower : -30 ≤ wheelDeg := (abs_le.mp within).1
    show (51 : ℚ) - 4 / 100 ≤ 108 + wheelDeg / (526 / 1000)
    linarith only [lower]
  right wheelDeg within := by
    have upper : wheelDeg ≤ 30 := (abs_le.mp within).2
    show 108 + wheelDeg / (526 / 1000) ≤ (165 : ℚ) + 4 / 100
    linarith only [upper]

/-- A car that stands at its first pose is connected, and tells it. -/
def firstInfo : List (TelemetryLabel ℚ) :=
  [.link (.other (.pose (.updatePose ringPose)) rfl none) rfl,
    .link (.thread .run rfl (fun _ => 0) none) rfl, .link (.thread .check rfl (fun _ => 0) none) rfl,
    .link (.thread (.connect true) rfl (fun _ => 0) none) rfl,
    .link (.thread .announce rfl (fun _ => 0) none) rfl, .read 2, .send (some 0),
    .link (.thread (.transmit true) rfl (fun _ => 0) none) rfl]

theorem infos_tell_the_car_firstInfo :
    (told (Transition.run (step ringWorker ⟨5, 3⟩ configuredTelemetry) start firstInfo)).length = 1 ∧
      ∀ info ∈ told (Transition.run (step ringWorker ⟨5, 3⟩ configuredTelemetry) start firstInfo),
        ∃ moment, moment <+: firstInfo ∧ ∃ figures : Figures ℚ, figures.In info ∧
          figures.Of configuredSteering (4 / 100) (poseOps moment)
            (stackAt ringWorker ⟨5, 3⟩ configuredTelemetry moment) :=
  ⟨by decide +kernel, infos_tell_the_car ringWorker ⟨5, 3⟩ configuredTelemetry (by decide +kernel)
    configuredSteering_reaches firstInfo⟩

end Telemetry

end RcTaxi
