/-
This file models `behavior/driving_worker.py` and the part of `workers/periodic_worker.py` that runs
it: the thread that plans a route for a mission, drives along it, and tells the policy that the car
has arrived. A tick is a program whose calls are the atomic steps of the thread: reading the
store, writing the driving state, the steps of the supervisor's output, and the call of the
policy. The follower and the arrival checker belong to the thread alone and are its state.

The runtime is the policy's stack with this thread beside it. A tick may run as a whole, or step by
step between the operations of the other threads. An exception ends the thread behind a latched
stop.
-/

import RcTaxi.CommandPolicy
import RcTaxi.LaneFollower
import RcTaxi.Matching

namespace RcTaxi

/-! ### The thread -/

/-- A registered route by lane numbers; the configuration loader checks that it has two. -/
structure ForcedRoute where
  numbers : List ℤ
  long : 2 ≤ numbers.length

/-- What the worker is built with. -/
structure DrivingWorker (α : Type) [Scalar α] where
  map : ValidLaneMap α
  matcher : MapMatcher α
  resolver : DestinationResolver α
  supervisor : SafetySupervisor α
  arrival : ArrivalChecker α
  follower : LaneFollower α
  seg : Option (SegAdapter α)
  approachDistanceM : α
  forcedRoutes : List ForcedRoute

/-- The state of the thread. -/
structure WorkerState (α : Type) where
  follower : FollowerState α
  arrival : ArrivalState α

/-- What a tick that drove decided: whether `compute` returned `STOP_COMMAND`, the command handed to
the supervisor, and the remaining distance. -/
structure Decision (α : Type) where
  stops : Bool
  command : ControlCommand α
  remaining : α

/-- The state after a tick, and its decision if it drove. -/
structure Ticked (α : Type) extends WorkerState α where
  decision : Option (Decision α)

/-- What a tick reads besides the store: the sensors of the follower, the observation for the
correction of the wheel angle, the monotonic clock, and `time.time()`. -/
structure TickInput (α : Type) where
  sensors : Sensors α
  segCorrection : SegObservation α
  now : α
  wall : α

/-- The atomic steps of the thread. -/
inductive WorkerOp (α : Type)
  | readSnapshot
  | setDrivingState (state : DrivingState)
  | output (op : OutputOp α)
  | notifyArrived (wall : α)
  | latch

abbrev WorkerOp.Answer {α : Type} : WorkerOp α → Type
  | .readSnapshot => VehicleSnapshot α
  | .output op => op.Answer
  | _ => Unit

/-- A program of the thread. -/
abbrev WorkerProgram (α Result : Type) := Program (WorkerOp α) WorkerOp.Answer Result

variable {α : Type} [Scalar α]

/-- One atomic step on the stack. The call of the policy holds the policy's lock. -/
def WorkerOp.handle : (op : WorkerOp α) → Stack α → op.Answer × Stack α
  | .readSnapshot, stack => (stack.store, stack)
  | .setDrivingState state, stack => ((), stack.onStore (.setDrivingState state))
  | .output op, stack => ((op.handle stack.toCar).1, { stack with toCar := (op.handle stack.toCar).2 })
  | .notifyArrived wall, stack => ((), stack.notifyArrived wall)
  | .latch, stack => ((), { stack with latched := true })

/-- A program of the supervisor in the thread. -/
def outputOf {Result : Type} : OutputProgram α Result → WorkerProgram α Result
  | .done result => .done result
  | .call op next => .call (.output op) fun answer => outputOf (next answer)

namespace DrivingWorker

variable (worker : DrivingWorker α)

/-- The state of a new worker, with a follower that may have been given a route. -/
def start (route : Option (LaneRoute α)) : WorkerState α := ⟨.reset route, ArrivalChecker.clear⟩

/-! ### Planning -/

/-- `_forced_route`: the part from the start lane on of the first registered route that ends in the
destination lane. -/
def forcedRoute (startLaneId destLaneId : String) : Option (List ℤ) := do
  let start ← numOfId startLaneId
  let dest ← numOfId destLaneId
  let route ← worker.forcedRoutes.find? fun route =>
    route.numbers.getLast? = some dest ∧ start ∈ route.numbers.dropLast
  some (route.numbers.drop (route.numbers.idxOf start))

/-- The lane and the progress a matched car starts from; a connector is left at its end. -/
def startOf (found : LaneMatch α) : Except PyError (String × α) :=
  if found.onLane then .ok (found.segmentId, found.progressS)
  else do
    let connector ← worker.map.connector found.segmentId
    pure (connector.successor, 0)

/-- The route from a matched car to the stop of its mission. -/
def routeTo (found : LaneMatch α) (stop : StopPose α) : Except PyError (Route α) := do
  let (startLane, startS) ← worker.startOf found
  match worker.forcedRoute startLane stop.laneId with
  | some numbers => worker.map.planViaNumbers numbers startS stop.progressS
  | none => worker.map.plan startLane startS stop.laneId stop.progressS

/-- The follower on its way and the stop of the mission; nothing while the car is not matched. -/
def planned (pose : LocalizationPose α) (mission : ActiveMission α) :
    Except PyError (Option (WorkerState α)) := do
  match ← worker.matcher.matchPose worker.map.toLaneMap (pose.x, pose.y) pose.headingDeg with
  | none => pure none
  | some found =>
    let stop := worker.resolver.resolve (mission.destX, mission.destY)
    let route ← worker.routeTo found stop
    let follower ← worker.follower.setRoute route
    pure (some ⟨follower, ArrivalChecker.startMission stop⟩)

/-- `_plan`. -/
def plan (snap : VehicleSnapshot α) (state : WorkerState α) :
    WorkerProgram α (Except PyError (WorkerState α)) :=
  match snap.mission with
  | none => .call (.setDrivingState .waiting) fun _ => .done (.ok state)
  | some mission =>
    match snap.pose with
    | none => .done (.ok state)
    | some pose =>
      if snap.poseStale then .done (.ok state)
      else match worker.planned pose mission with
        | .error error => .done (.error error)
        | .ok none => .done (.ok state)
        | .ok (some next) => .call (.setDrivingState .followingRoute) fun _ => .done (.ok next)

/-! ### Driving -/

/-- The correction of the wheel angle by the lane center. -/
def correct (input : TickInput α) (segOk : Bool) (command : ControlCommand α) : ControlCommand α :=
  match worker.seg with
  | none => command
  | some adapter =>
    if segOk then
      { command with steeringWheelDeg :=
          command.steeringWheelDeg + adapter.correctionWheelDeg input.segCorrection }
    else command

/-- The arrival check of a tick that drove. -/
def arrives (input : TickInput α) (snap : VehicleSnapshot α) (pose : LocalizationPose α)
    (throttle : α) (arrival : ArrivalState α) : Except PyError (Bool × ArrivalState α) := do
  let found ← worker.matcher.matchPose worker.map.toLaneMap (pose.x, pose.y) pose.headingDeg
  let lanes := match found with
    | none => ∅
    | some found => worker.map.arrivalLaneCandidates found.segmentId
  pure (worker.arrival.update
    ⟨(pose.x, pose.y), pose.headingDeg, snap.estimatedSpeedMps, lanes, throttle, false, input.now⟩
    arrival)

/-- The end of a tick that drove: the arrival check on the applied throttle, and the call of the
policy. -/
def conclude (input : TickInput α) (snap : VehicleSnapshot α) (pose : LocalizationPose α)
    (decision : Decision α) (follower : FollowerState α) (arrival : ArrivalState α)
    (applied : ControlCommand α) : WorkerProgram α (Except PyError (Ticked α)) :=
  match worker.arrives input snap pose applied.throttle arrival with
  | .error error => .done (.error error)
  | .ok (arrived, arrival) =>
    let result : Ticked α := ⟨⟨follower, arrival⟩, some decision⟩
    if arrived then .call (.notifyArrived input.wall) fun _ => .done (.ok result)
    else .done (.ok result)

/-- The decision made from the outcome of `compute`. -/
def decisionOf (input : TickInput α) (driven : Driven α) : Decision α where
  stops := driven.command.isNone
  command := worker.correct input driven.state.segOkNow (driven.command.getD stopCommand)
  remaining := driven.remaining

/-- Near the end of the route the car is said to approach, before the output. -/
def announced (snap : VehicleSnapshot α) (remaining : α)
    (output : WorkerProgram α (Except PyError (Ticked α))) :
    WorkerProgram α (Except PyError (Ticked α)) :=
  if snap.drivingState = .followingRoute ∧ remaining ≤ worker.approachDistanceM then
    .call (.setDrivingState .approachingDestination) fun _ => output
  else output

/-- `_drive` behind the call of `compute`. -/
def carryOut (input : TickInput α) (snap : VehicleSnapshot α) (pose : LocalizationPose α)
    (arrival : ArrivalState α) (driven : Driven α) : WorkerProgram α (Except PyError (Ticked α)) :=
  let decision := worker.decisionOf input driven
  worker.announced snap driven.remaining
    ((outputOf (worker.supervisor.apply decision.command)).bind
      (worker.conclude input snap pose decision driven.state arrival))

/-- `_drive`. -/
def drive (input : TickInput α) (snap : VehicleSnapshot α) (state : WorkerState α) :
    WorkerProgram α (Except PyError (Ticked α)) :=
  match snap.pose with
  | none => (outputOf (worker.supervisor.apply stopCommand)).bind fun _ => .done (.ok ⟨state, none⟩)
  | some pose =>
    if snap.poseStale then
      (outputOf (worker.supervisor.apply stopCommand)).bind fun _ =>
        let update : ArrivalChecker.Update α :=
          ⟨(pose.x, pose.y), pose.headingDeg, snap.estimatedSpeedMps, ∅, 0, true, input.now⟩
        .done (.ok ⟨⟨state.follower, (worker.arrival.update update state.arrival).2⟩, none⟩)
    else if state.follower.route.isNone then
      .call (.setDrivingState .planning) fun _ => .done (.ok ⟨state, none⟩)
    else
      match worker.follower.compute (pose.x, pose.y) pose.headingDeg input.sensors state.follower with
      | .error error => .done (.error error)
      | .ok driven => worker.carryOut input snap pose state.arrival driven

/-! ### Ticks -/

/-- Without a mission the route and the arrival check are cleared. -/
def cleared (snap : VehicleSnapshot α) (state : WorkerState α) : WorkerState α :=
  if snap.mission.isNone && state.follower.route.isSome then start none else state

/-- `tick` behind the reading of the snapshot. -/
def react (input : TickInput α) (state : WorkerState α) (snap : VehicleSnapshot α) :
    WorkerProgram α (Except PyError (Ticked α)) :=
  match snap.drivingState with
  | .planning => (worker.plan snap state).bind fun planned =>
      match planned with
      | .error error => .done (.error error)
      | .ok state => (outputOf (worker.supervisor.apply stopCommand)).bind fun _ =>
          .done (.ok ⟨state, none⟩)
  | .followingRoute | .approachingDestination => worker.drive input snap state
  | _ =>
    (outputOf (worker.supervisor.apply stopCommand)).bind fun _ =>
      .done (.ok ⟨cleared snap state, none⟩)

/-- `tick`. -/
def tick (input : TickInput α) (state : WorkerState α) :
    WorkerProgram α (Except PyError (Ticked α)) :=
  .call .readSnapshot (worker.react input state)

/-- `latch_stop`, for the exception of a worker. -/
def latchStop : WorkerProgram α Unit :=
  .call .latch fun _ => outputOf SafetySupervisor.forceStop

/-- A round of `_run`: a tick, or the end of the thread behind a latched stop. -/
def round (input : TickInput α) (state : WorkerState α) : WorkerProgram α (Option (Ticked α)) :=
  (worker.tick input state).bind fun result =>
    match result with
    | .ok ticked => .done (some ticked)
    | .error _ => latchStop.bind fun _ => .done none

end DrivingWorker

/-! ### Watching a worker -/

/-- What the world gives to one tick: its input, the snapshot it reads, and what the supervisor
reads before it sends a command. -/
structure Scene (α : Type) where
  input : TickInput α
  snap : VehicleSnapshot α
  gate : VehicleSnapshot α × Bool

/-- The answers to the calls of the tick. -/
def Scene.answer (scene : Scene α) : (op : WorkerOp α) → op.Answer
  | .readSnapshot => scene.snap
  | .output .readGate => scene.gate
  | .output (.setThrottle _) | .output (.setAngleDeg _) | .output .motorStop
  | .output .centerSteering | .output (.setControlCommand _) => ()
  | .setDrivingState _ | .notifyArrived _ | .latch => ()

namespace DrivingWorker

variable (worker : DrivingWorker α)

/-- The result of a tick in a scene, and the calls it makes. -/
def seen (scene : Scene α) (state : WorkerState α) :
    Except PyError (Ticked α) × List (WorkerOp α) :=
  (worker.tick scene.input state).observe scene.answer

/-- The ticks of a run, up to the one that raises. -/
def watch : List (Scene α) → WorkerState α → List (Except PyError (Ticked α) × List (WorkerOp α))
  | [], _ => []
  | scene :: rest, state =>
    worker.seen scene state :: match (worker.seen scene state).1 with
      | .ok ticked => watch rest ticked.toWorkerState
      | .error _ => []

end DrivingWorker

/-! ### A worker on the ring -/

def ringMap : ValidLaneMap ℚ := returned (LaneMap.fromDict ringMapData) (by decide +kernel)

/-- A turn table without entries of its own. -/
def ringTable : TurnTable ℚ :=
  returned (TurnTable.new (.dict [("turn_table", .dict [("turns", .dict [])])]) (14 / 100) 30)
    (by decide +kernel)

def ringControl : PyValue ℚ :=
  .dict [
    ("loop_hz", .int 50),
    ("lookahead_min_m", .float (.finite (25 / 100))),
    ("steer_full_lock_error_deg", .int 30),
    ("align_heading_error_deg", .int 10),
    ("align_throttle_ratio", .int 1),
    ("cruise_throttle", .float (.finite (4 / 10))),
    ("turn_throttle", .float (.finite (5 / 10))),
    ("destination_slowdown_distance_m", .float (.finite (4 / 10))),
    ("near_target_throttle_ratio", .float (.finite (75 / 100))),
    ("stop_trigger_radius_m", .float (.finite (1 / 10))),
    ("departure_ramp_distance_m", .float (.finite (3 / 10))),
    ("corner_exit_hold_distance_m", .float (.finite (2 / 10)))]

/-- The follower has both adapters. -/
def ringFollower : LaneFollower ℚ :=
  returned (LaneFollower.new ringControl ringTable 30 (22 / 100) (by norm_num) true true)
    (by decide +kernel)

def ringResolver : DestinationResolver ℚ :=
  returned (DestinationResolver.new ringMap.toLaneMap) (by decide +kernel)

def ringWorker : DrivingWorker ℚ where
  map := ringMap
  matcher := ⟨1, 1 / 100, 2 / 10, 60⟩
  resolver := ringResolver
  supervisor := ⟨30, 1⟩
  arrival := ⟨4 / 10, 3 / 100, 3 / 10, 60⟩
  follower := ringFollower
  seg := some ⟨30, 1 / 2, 10⟩
  approachDistanceM := 4 / 10
  forcedRoutes := []

/-- Nothing is seen at the given time. -/
def darkInput (now : ℚ) : TickInput ℚ where
  sensors := ⟨fun _ => now, fun _ => ⟨false, [], .finite 0, .finite 0, .finite 0⟩, ⟨false, 0, 0⟩⟩
  segCorrection := ⟨false, 0, 0⟩
  now := now
  wall := now

/-- On the lane to the east, a quarter of a meter behind its start. -/
def ringPose : LocalizationPose ℚ := ⟨5 / 4, 1, 0, 1, 1⟩

end RcTaxi
