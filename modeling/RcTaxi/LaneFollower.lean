/-
This file models `control/lane_follower.py`: driving along a lane route. On a leg the car aims at a
point of the lane; near its end the turn is armed, then started by a road mark or at the end of
the lane; a turn keeps one wheel angle until the next lane is aligned or a limit is reached.

A call of `compute` may pass over several legs, and reads the clock and the last road marks once
for each of them, so these inputs are functions of the leg. The recursion of the program from leg
to leg counts the legs down; that the count is enough is part of the model's theorems and not of
its definition. Fields that only steer the log output are left out. The configuration numbers are
finite, and the largest speed is positive, as the configuration loader checks.
-/

import RcTaxi.Perception
import RcTaxi.StateStore

namespace RcTaxi

/-- `FOLLOW`, `ARMED`, `TURNING`. -/
inductive TurnPhase
  | follow
  | armed
  | turning
  deriving DecidableEq, Repr

/-- The follower as it is configured; `marks` and `seg` say whether it has the adapters. -/
structure LaneFollower (α : Type) [Scalar α] where
  table : TurnTable α
  marks : Bool
  seg : Bool
  segHeadingLanes : List ℤ
  steerStep : α
  headingGuardDeg : α
  headingWindowM : α
  gateEnabled : Bool
  parallelStopM : α
  recenterM : α
  lineFollow : Bool
  deadbandM : α
  courseLanes : List ℤ
  holdLanes : List ℤ
  straightOnly : List ℤ
  mapX : α
  mapY : α
  mapMarginM : α
  lookaheadM : α
  fullLockErrorDeg : α
  alignErrorDeg : α
  alignRatio : α
  cruise : α
  turn : α
  slowdownM : α
  nearRatio : α
  stopRadiusM : α
  rampM : α
  exitHoldM : α
  maxWheelDeg : α
  maxSpeedMps : α
  maxSpeed_pos : 0 < maxSpeedMps

/-- What the follower remembers between two calls. -/
structure FollowerState (α : Type) where
  route : Option (LaneRoute α)
  phase : TurnPhase
  leg : ℕ
  pt : ℕ
  spec : Option (ResolvedTurn α)
  firedAt : Option (Point α)
  firedTravelM : α
  firedLastT : Option α
  turnTravelM : α
  turnPath : List (Point α)
  lastPos : Option (Point α)
  exitHoldFrom : Option (Point α)
  origin : Option (Point α)
  bestRemaining : Option α
  segOkNow : Bool
  segHeadingOn : Bool
  lastWheel : Option α
  followPath : List (Point α)
  headingGuardOn : Bool
  straightGate : Option (Point α)
  straightFrom : Option (Point α)
  fuseSpan : ℕ+

/-- What a call of `compute` reads besides the pose: at each leg the clock and the road marks, and
the observation of the lane center. -/
structure Sensors (α : Type) where
  clock : ℕ → α
  marks : ℕ → MarkObservation α
  seg : SegObservation α

/-- What comes of a call: the command, where `none` is `STOP_COMMAND` itself, the remaining
distance, and the state. -/
structure Driven (α : Type) where
  command : Option (ControlCommand α)
  remaining : α
  state : FollowerState α

variable {α : Type} [Scalar α]

/-! ### Constants -/

/-- `PASSED_HYSTERESIS_M`. -/
def passedHysteresisM : α := 8 / 100

/-- `OFFSET_SPEED_MPS`. -/
def offsetSpeedMps : α := 94 / 1000

/-- `OFFSET_GAP_MAX_S`. -/
def offsetGapMaxS : α := 15 / 100

/-- `COURSE_WINDOW_M`. -/
def courseWindowM : α := 15 / 100

/-! ### Paths -/

/-- `_path_len`. -/
def pathLen (path : List (Point α)) : α :=
  ((path.zip path.tail).map fun pair => segmentLength pair.1 pair.2).sum

/-- `while len(path) > 2 and _path_len(path) > limit: path.pop(0)`. -/
def dropOld (limit : α) : List (Point α) → List (Point α)
  | a :: b :: c :: rest =>
    if limit < pathLen (a :: b :: c :: rest) then dropOld limit (b :: c :: rest)
    else a :: b :: c :: rest
  | path => path

/-- The last point of a path, and the nearest earlier one that is a window away from it. -/
def baseline (windowM : α) (path : List (Point α)) : Option (Point α × Point α) :=
  match path.reverse with
  | [] => none
  | last :: earlier => (earlier.find? fun point =>
      windowM ≤ hypot (last.1 - point.1) (last.2 - point.2)).map fun point => (point, last)

/-- `_course_deg`: the direction the path took over the window. -/
def courseDeg (windowM : α) (path : List (Point α)) : Option α :=
  (baseline windowM path).map fun line =>
    pyMod (degrees (atan2 (line.2.2 - line.1.2) (line.2.1 - line.1.1))) 360

/-- `_turn_course_deg`. -/
def turnCourseDeg (path : List (Point α)) : Option α :=
  if path.length < 3 then none
  else (baseline courseWindowM path).map fun line =>
    degrees (atan2 (line.2.2 - line.1.2) (line.2.1 - line.1.1))

/-- `items[index]`. -/
def itemAt {Item : Type} (items : List Item) (index : ℕ) : Except PyError Item :=
  match items[index]? with
  | some item => .ok item
  | none => .error .indexError

/-- `num in lanes`. -/
def inLanes (num : Option ℤ) (lanes : List ℤ) : Bool := num.any fun num => num ∈ lanes

/-! ### The state -/

namespace FollowerState

/-- `_reset_state` under a route. -/
def reset (route : Option (LaneRoute α)) : FollowerState α where
  route := route
  phase := .follow
  leg := 0
  pt := 1
  spec := none
  firedAt := none
  firedTravelM := 0
  firedLastT := none
  turnTravelM := 0
  turnPath := []
  lastPos := none
  exitHoldFrom := none
  origin := none
  bestRemaining := none
  segOkNow := false
  segHeadingOn := false
  lastWheel := none
  followPath := []
  headingGuardOn := false
  straightGate := none
  straightFrom := none
  fuseSpan := 1

/-- `_advance_leg`. -/
def advanceLeg (state : FollowerState α) : FollowerState α :=
  { state with
    leg := state.leg + 1
    pt := 1
    phase := .follow
    spec := none
    firedAt := none
    firedTravelM := 0
    firedLastT := none
    turnTravelM := 0
    turnPath := []
    lastWheel := none
    followPath := []
    headingGuardOn := false
    straightGate := none
    straightFrom := none
    fuseSpan := 1 }

/-- The point of the first call is remembered. -/
def depart (point : Point α) (state : FollowerState α) : FollowerState α :=
  { state with origin := some (state.origin.getD point) }

end FollowerState

/-! ### The configuration -/

namespace LaneFollower

/-- A number of the configuration with its default, as a float that is finite. -/
def setting (cfg : PyValue α) (key : String) (default : α) : Except PyError α :=
  (cfg.getD key (.float (.finite default))).toScalar

/-- `float(control_cfg[key])`. -/
def required (cfg : PyValue α) (key : String) : Except PyError α := do
  (← cfg.item key).toScalar

/-- `frozenset(int(n) for n in (value or ()))`. -/
def lanesOf (value : PyValue α) : Except PyError (List ℤ) := do
  (← (value.orElse (.list [])).iterate).mapM PyValue.toInt

/-- `value or default` of a number. -/
def orDefault (value default : α) : α := if value = 0 then default else value

/-- `LaneFollower(control_cfg, turn_table, ...)`. -/
def new (cfg : PyValue α) (table : TurnTable α) (maxWheelDeg maxSpeedMps : α)
    (maxSpeed_pos : 0 < maxSpeedMps) (marks seg : Bool) : Except PyError (LaneFollower α) := do
  let segHeading := (cfg.get "seg_heading").orEmpty
  let segHeadingLanes ← lanesOf (segHeading.get "lane_nums")
  let rate ← setting segHeading "steer_rate_deg_per_s" 0
  let hz ← setting cfg "loop_hz" 50
  let guard' := (cfg.get "heading_guard").orEmpty
  let headingGuardDeg ← setting guard' "disagree_deg" 0
  let window ← setting guard' "window_m" courseWindowM
  let parallelStopM ← setting cfg "parallel_stop_distance_m" 0
  let recenterM ← setting cfg "lane_recenter_distance_m" 0
  let deadbandM ← setting cfg "lane_deadband_m" 0
  let courseLanes ← lanesOf (cfg.get "course_heading_lanes")
  let holdLanes ← match cfg.get "hold_steer_lanes" with
    | .none =>
      pure (if (cfg.getD "hold_steer_when_stopped" (.bool true)).truthy then courseLanes else [])
    | hold => do (← hold.iterate).mapM PyValue.toInt
  let straightOnly ← lanesOf (cfg.get "straight_only_lanes")
  let bounds := (cfg.get "map_bounds").orEmpty
  let mapX ← setting bounds "x_max" 5
  let mapY ← setting bounds "y_max" 3
  let mapMarginM ← setting bounds "turn_margin_m" 0
  let lookaheadM ← required cfg "lookahead_min_m"
  let fullLockErrorDeg ← required cfg "steer_full_lock_error_deg"
  let alignErrorDeg ← required cfg "align_heading_error_deg"
  let alignRatio ← required cfg "align_throttle_ratio"
  let cruise ← required cfg "cruise_throttle"
  let turn ← required cfg "turn_throttle"
  let slowdownM ← required cfg "destination_slowdown_distance_m"
  let nearRatio ← required cfg "near_target_throttle_ratio"
  let stopRadiusM ← required cfg "stop_trigger_radius_m"
  let rampM ← required cfg "departure_ramp_distance_m"
  let exitHoldM ← required cfg "corner_exit_hold_distance_m"
  pure {
    table := table
    marks := marks
    seg := seg
    segHeadingLanes := segHeadingLanes
    steerStep := if 0 < rate then rate / orDefault hz 50 else 0
    headingGuardDeg := headingGuardDeg
    headingWindowM := orDefault window courseWindowM
    gateEnabled := (cfg.getD "straight_connector_gate" (.bool true)).truthy
    parallelStopM := parallelStopM
    recenterM := recenterM
    lineFollow := (cfg.getD "lane_line_following" (.bool true)).truthy
    deadbandM := deadbandM
    courseLanes := courseLanes
    holdLanes := holdLanes
    straightOnly := straightOnly
    mapX := mapX
    mapY := mapY
    mapMarginM := mapMarginM
    lookaheadM := lookaheadM
    fullLockErrorDeg := fullLockErrorDeg
    alignErrorDeg := alignErrorDeg
    alignRatio := alignRatio
    cruise := cruise
    turn := turn
    slowdownM := slowdownM
    nearRatio := nearRatio
    stopRadiusM := stopRadiusM
    rampM := rampM
    exitHoldM := exitHoldM
    maxWheelDeg := maxWheelDeg
    maxSpeedMps := maxSpeedMps
    maxSpeed_pos := maxSpeed_pos }

end LaneFollower

/-! ### Aiming -/

/-- `_exit_ahead`: the signed distance along the leg to its end. -/
def LaneLeg.exitAhead (leg : LaneLeg α) (point : Point α) : α :=
  let dx := leg.points.last.1 - leg.points.first.1
  let dy := leg.points.last.2 - leg.points.first.2
  let norm := hypot dx dy
  if norm < tolerance then 0
  else ((leg.points.last.1 - point.1) * dx + (leg.points.last.2 - point.2) * dy) / norm

/-- `_remaining_on_leg`: by way of the point that is aimed at. -/
def LaneLeg.remaining (leg : LaneLeg α) (pt : ℕ) (point : Point α) : Except PyError α := do
  let target ← itemAt leg.points.points pt
  pure (hypot (target.1 - point.1) (target.2 - point.2) + pathLen (leg.points.points.drop pt))

/-- The points within the lookahead that are passed over; the last one never is. -/
def passedPoints (lookaheadM : α) (point : Point α) : List (Point α) → ℕ
  | first :: second :: rest =>
    if hypot (first.1 - point.1) (first.2 - point.2) < lookaheadM then
      passedPoints lookaheadM point (second :: rest) + 1
    else 0
  | _ => 0

namespace LaneFollower

variable (follower : LaneFollower α)

/-- The point of the leg to aim at. -/
def advancePt (leg : LaneLeg α) (point : Point α) (pt : ℕ) : ℕ :=
  let pt := min pt (leg.points.points.length - 1)
  pt + passedPoints follower.lookaheadM point (leg.points.points.drop pt)

/-- The car is behind the gate, in the direction it came from. -/
def gatePassed (gate : Point α) (source : Option (Point α)) (point : Point α) : Bool :=
  source.any fun source =>
    let dx := gate.1 - source.1
    let dy := gate.2 - source.2
    let norm := hypot dx dy
    decide (tolerance < norm ∧ 0 < ((point.1 - gate.1) * dx + (point.2 - gate.2) * dy) / norm)

/-- `_straight_gate_target`: the exit of the straight connector, until it is reached or passed. -/
def straightGateTarget (point : Point α) (state : FollowerState α) :
    Option (Point α) × FollowerState α :=
  match state.straightGate with
  | none => (none, state)
  | some gate =>
    if decide (hypot (gate.1 - point.1) (gate.2 - point.2) < follower.lookaheadM) ||
        gatePassed gate state.straightFrom point then
      (none, { state with straightGate := none })
    else (some gate, state)

/-- The lane is followed on its line: always, or within a distance behind a turn. -/
def recenters (point : Point α) (exitHoldFrom : Option (Point α)) : Bool :=
  follower.lineFollow || match exitHoldFrom with
    | none => false
    | some exit => decide (0 < follower.recenterM ∧
        hypot (point.1 - exit.1) (point.2 - exit.2) ≤ follower.recenterM)

/-- `_recenter_target`: a point ahead on the line of the leg; inside the deadband, one ahead of the
car. -/
def recenterTarget (leg : LaneLeg α) (point : Point α) (exitHoldFrom : Option (Point α)) :
    Option (Point α) :=
  if !follower.recenters point exitHoldFrom then none
  else
    let (x0, y0) := leg.points.first
    let dx := leg.points.last.1 - x0
    let dy := leg.points.last.2 - y0
    let norm := hypot dx dy
    if norm < tolerance then none
    else
      let ux := dx / norm
      let uy := dy / norm
      let along := (point.1 - x0) * ux + (point.2 - y0) * uy
      let off := -(point.1 - x0) * uy + (point.2 - y0) * ux
      let s := min (along + follower.lookaheadM) norm
      if |off| ≤ follower.deadbandM then
        some (point.1 + ux * follower.lookaheadM, point.2 + uy * follower.lookaheadM)
      else some (x0 + ux * s, y0 + uy * s)

/-- `_parallel_stop_target`: a point behind the stop in the direction of the leg, and the distance
along the leg to the stop. -/
def parallelStopTarget (leg : LaneLeg α) (point : Point α) (remaining : α) :
    Option (Point α × α) :=
  if follower.parallelStopM ≤ 0 ∨ follower.parallelStopM < remaining then none
  else
    let (gx, gy) := leg.points.last
    let dx := gx - leg.points.first.1
    let dy := gy - leg.points.first.2
    let norm := hypot dx dy
    if norm < tolerance then none
    else
      let ux := dx / norm
      let uy := dy / norm
      some ((gx + ux * follower.lookaheadM, gy + uy * follower.lookaheadM),
        (gx - point.1) * ux + (gy - point.2) * uy)

/-- The point to aim at: the gate behind a straight connector, the line of the lane, the end of the
leg; on the last leg, near the stop, the point behind it. -/
def aim (leg : LaneLeg α) (point pointOfLeg : Point α) (gate : Option (Point α))
    (exitHoldFrom : Option (Point α)) : Point α :=
  match follower.recenterTarget leg point exitHoldFrom with
  | none => gate.getD pointOfLeg
  | some onLine =>
    match gate with
    | none => onLine
    | some gate => if leg.exitAhead point ≤ leg.lengthM then onLine else gate

/-! ### The heading -/

/-- `_trusted_heading`, and whether it replaced the measured heading. -/
def trustedHeading (leg : LaneLeg α) (headingDeg : α) (followPath : List (Point α)) : α × Bool :=
  let course := courseDeg follower.headingWindowM followPath
  if inLanes leg.laneNum follower.courseLanes then (course.getD leg.headingDeg, true)
  else if follower.headingGuardDeg ≤ 0 then (headingDeg, false)
  else match course with
    | none => (headingDeg, false)
    | some course =>
      if |headingDiffDeg headingDeg course| < follower.headingGuardDeg then (headingDeg, false)
      else (course, true)

/-- `_pursue_heading`: the heading from the lane center where it is allowed and valid. -/
def pursueHeading (leg : LaneLeg α) (headingDeg : α) (obs : SegObservation α)
    (state : FollowerState α) : α × FollowerState α :=
  if follower.seg && inLanes leg.laneNum follower.segHeadingLanes && obs.valid then
    (leg.headingDeg - obs.headingErrorDeg,
      { state with segHeadingOn := true, headingGuardOn := false })
  else
    let (heading, replaced) := follower.trustedHeading leg headingDeg state.followPath
    (heading, { state with segHeadingOn := false, headingGuardOn := replaced })

/-! ### Steering and throttle -/

/-- `_pursue`: proportional to the error of the heading. -/
def pursue (target point : Point α) (headingDeg : α) : Except PyError α := do
  let error := headingDiffDeg (degrees (atan2 (target.2 - point.2) (target.1 - point.1))) headingDeg
  let ratio ← divide error follower.fullLockErrorDeg
  pure (max (-follower.maxWheelDeg)
    (min follower.maxWheelDeg (-follower.maxWheelDeg * max (-1) (min 1 ratio))))

/-- `_rate_limit`. -/
def rateLimit (wheel : α) (state : FollowerState α) : α × FollowerState α :=
  match state.lastWheel with
  | none => (wheel, { state with lastWheel := some wheel })
  | some last =>
    let limited := if follower.steerStep ≤ 0 then wheel
      else max (last - follower.steerStep) (min (last + follower.steerStep) wheel)
    (limited, { state with lastWheel := some limited })

/-- The wheel angle on a leg: none while the car stands on some lanes, on straight lanes, and behind
a fired trigger. -/
def wheelOn (leg : LaneLeg α) (state : FollowerState α) (pursued : α) : α :=
  if inLanes leg.laneNum follower.holdLanes &&
      (courseDeg follower.headingWindowM state.followPath).isNone ||
      inLanes leg.laneNum follower.straightOnly ||
      decide (state.phase = .armed) && state.firedAt.isSome then 0
  else pursued

/-- `min(1.0, limit / max_speed)`; a limit of minus infinity is not loaded. -/
def limitRatio : PyFloat α → α
  | .finite limit => min 1 (limit / follower.maxSpeedMps)
  | .nan | .inf _ => 1

/-- `_slowdown_ratio`. -/
def slowdownRatio (remaining : α) : α :=
  if follower.slowdownM ≤ remaining then 1
  else
    let usable := max (follower.slowdownM - follower.stopRadiusM) tolerance
    let progress := max 0 (min 1 ((remaining - follower.stopRadiusM) / usable))
    follower.nearRatio + (1 - follower.nearRatio) * progress

/-- The throttle on a leg outside `ARMED`. -/
def cruiseThrottle (leg : LaneLeg α) (target point : Point α) (headingDeg remaining : α)
    (isFinal : Bool) : α :=
  let limited := follower.cruise * follower.limitRatio leg.speedLimitMps
  let slowed := limited * (if isFinal then follower.slowdownRatio remaining else 1)
  let error := |headingDiffDeg (degrees (atan2 (target.2 - point.2) (target.1 - point.1))) headingDeg|
  if follower.alignErrorDeg < error then slowed * follower.alignRatio else slowed

/-- The steering and the throttle at the end of `_drive_leg`. -/
def steer (leg : LaneLeg α) (target point : Point α) (headingDeg remaining : α) (isFinal : Bool)
    (obs : SegObservation α) (state : FollowerState α) : Except PyError (Driven α) := do
  let (heading, state) := follower.pursueHeading leg headingDeg obs state
  let pursued ← follower.pursue target point heading
  let wheel := follower.wheelOn leg state pursued
  let armed := decide (state.phase = .armed)
  let throttle := if armed then follower.turn
    else follower.cruiseThrottle leg target point headingDeg remaining isFinal
  let (limited, state) := follower.rateLimit wheel
    { state with segOkNow := !armed && state.exitHoldFrom.isNone }
  pure ⟨some ⟨throttle, limited⟩, remaining, state⟩

/-! ### Stopping at the end of the route -/

/-- The stop decision of the last leg: the distance along the leg near the stop, the distance to its
end, and a car that moves away again. -/
def stopsAt (leg : LaneLeg α) (point : Point α) (remaining : α) (bestRemaining : Option α) :
    Bool :=
  (follower.parallelStopTarget leg point remaining).any
      (fun target => decide (target.2 ≤ follower.stopRadiusM)) ||
    decide (remaining ≤ follower.stopRadiusM) ||
    bestRemaining.any fun best => decide (best + passedHysteresisM < remaining)

/-- The best remaining distance so far. -/
def closest (remaining : α) : Option α → α
  | none => remaining
  | some best => if remaining < best then remaining else best

/-! ### Turning -/

/-- The state after the road marks were looked at: the first trigger of a turn is remembered. -/
def fire (spec : ResolvedTurn α) (point : Point α) (now : α) (obs : MarkObservation α)
    (state : FollowerState α) : FollowerState α :=
  if state.firedAt.isNone && obs.triggered spec.trigger then
    { state with firedAt := some point, firedTravelM := 0, firedLastT := some now }
  else state

/-- The travel behind a fired trigger: the time since the last call times a model speed, unless the
gap is too long. -/
def firedTravel (now : α) (state : FollowerState α) : α :=
  match state.firedLastT with
  | none => state.firedTravelM
  | some last =>
    if 0 < now - last ∧ now - last ≤ offsetGapMaxS then
      state.firedTravelM + (now - last) * offsetSpeedMps
    else state.firedTravelM

/-- `_should_start_turn`, with the clock and the road marks it reads. -/
def shouldStartTurn (spec : ResolvedTurn α) (ahead : α) (point : Point α) (now : α)
    (obs : MarkObservation α) (state : FollowerState α) : Bool × FollowerState α :=
  let fallback := spec.fallbackAtLaneEnd && (PyFloat.finite ahead).le spec.fallbackLeadM
  if spec.trigger.usesVision && follower.marks then
    let fired := fire spec point now obs state
    if fired.firedAt.isSome then
      let travel := firedTravel now fired
      (spec.startOffsetM.le (.finite travel),
        { fired with firedTravelM := travel, firedLastT := some now })
    else (fallback, fired)
  else (fallback, state)

/-- `_fused_span`: two turns in one go, if the entry says so and another turn follows. -/
def fusedSpan (route : LaneRoute α) (spec : ResolvedTurn α) (leg : ℕ) : Except PyError ℕ+ :=
  if !spec.fuseNext then .ok 1
  else match route.turns[leg + 1]? with
    | none => .ok 1
    | some next =>
      if route.legs.length ≤ leg + 2 then .ok 1
      else do
        let nextSpec ← follower.table.resolve next
        pure (if nextSpec.isTurn then 2 else 1)

/-- `_begin_turn` up to the first step of the turn. -/
def beginTurn (route : LaneRoute α) (spec : ResolvedTurn α) (point : Point α)
    (state : FollowerState α) : Except PyError (FollowerState α) := do
  let span ← follower.fusedSpan route spec state.leg
  pure { state with
    phase := .turning
    turnTravelM := 0
    turnPath := [point]
    followPath := []
    headingGuardOn := false
    fuseSpan := span }

/-- The point is too near the border of the map to go on turning. -/
def outOfMap (point : Point α) : Bool :=
  decide (0 < follower.mapMarginM) &&
    (decide (point.1 < follower.mapMarginM) || decide (point.2 < follower.mapMarginM) ||
      decide (follower.mapX - follower.mapMarginM < point.1) ||
      decide (follower.mapY - follower.mapMarginM < point.2))

/-- A turn is over: the lane behind it is aligned, or the length of the arc or the limit is
reached. -/
def turnOver (spec : ResolvedTurn α) (want headingDeg : α) (state : FollowerState α) : Bool :=
  let travel := PyFloat.finite state.turnTravelM
  let aligned (course : α) := (PyFloat.finite |headingDiffDeg want course|).le spec.exitAlignDeg
  spec.minTurnM.le travel &&
      (aligned headingDeg || (turnCourseDeg state.turnPath).any aligned) ||
    spec.arcCompleteM.any (fun arc => arc.le travel) ||
    spec.maxTurnM.le travel

/-- `_drive_turn`; a turn that is over goes on along the leg behind it. -/
def driveTurn (route : LaneRoute α) (point : Point α) (headingDeg : α)
    (continued : FollowerState α → Except PyError (Driven α)) (state : FollowerState α) :
    Except PyError (Driven α) :=
  match state.spec with
  | none => .error .attributeError
  | some spec => do
    let span : ℕ := state.fuseSpan
    let nextLeg ← itemAt route.legs (state.leg + span)
    let lastTurn ← itemAt route.turns (state.leg + span - 1)
    let remaining := hypot (lastTurn.exitPoint.1 - point.1) (lastTurn.exitPoint.2 - point.2) +
      nextLeg.lengthM + route.tailLengthM (state.leg + span)
    if follower.outOfMap point || turnOver spec nextLeg.headingDeg headingDeg state then
      continued (FollowerState.advanceLeg^[span] { state with exitHoldFrom := some point })
    else
      pure ⟨some ⟨follower.turn, spec.wheelDeg⟩, remaining,
        { state with segOkNow := false, segHeadingOn := false }⟩

/-! ### Driving along a leg -/

/-- The distance at which a turn is armed; behind a straight connector it is not, until the gate is
passed. -/
def armDistance (leg : LaneLeg α) (spec : ResolvedTurn α) (gate : Option (Point α)) : PyFloat α :=
  if gate.isSome then .finite (-1) else spec.armDistanceM.pyMin (.finite leg.lengthM)

/-- The ways on from a leg. -/
inductive Junction (α : Type)
  | stay (state : FollowerState α)
  | turn (spec : ResolvedTurn α) (state : FollowerState α)
  | pass (state : FollowerState α)

/-- The resolved turn behind the leg; it is resolved once. -/
def specOf (turn : Turn α) (state : FollowerState α) : Except PyError (ResolvedTurn α) :=
  match state.spec with
  | some spec => .ok spec
  | none => follower.table.resolve turn

/-- Arming the turn behind the leg at its distance. -/
def arm (leg : LaneLeg α) (spec : ResolvedTurn α) (ahead : α) (state : FollowerState α) :
    FollowerState α :=
  if decide (state.phase = .follow) &&
      (PyFloat.finite ahead).le (armDistance leg spec state.straightGate) then
    { state with phase := .armed }
  else state

/-- Passing over a straight connector; its exit may become the gate of the next leg. -/
def passStraight (turn : Turn α) (point : Point α) (state : FollowerState α) : FollowerState α :=
  if follower.gateEnabled && decide (turn.maneuver = .straight) then
    { state.advanceLeg with straightGate := some turn.exitPoint, straightFrom := some point }
  else state.advanceLeg

/-- Arming and starting the turn behind the leg, or passing over a straight connector. -/
def onward (leg : LaneLeg α) (turn : Turn α) (point : Point α) (sensors : Sensors α)
    (spec : ResolvedTurn α) (state : FollowerState α) : Junction α :=
  let ahead := leg.exitAhead point
  if spec.isTurn then
    let armed := arm leg spec ahead state
    if armed.phase = .armed then
      let (starts, state) := follower.shouldStartTurn spec ahead point (sensors.clock state.leg)
        (sensors.marks state.leg) armed
      if starts then .turn spec state else .stay state
    else .stay armed
  else if ahead ≤ 0 then .pass (follower.passStraight turn point state)
  else .stay state

/-- What `_drive_leg` does about the turn behind the leg. -/
def junction (leg : LaneLeg α) (turn : Turn α) (point : Point α) (sensors : Sensors α)
    (state : FollowerState α) : Except PyError (Junction α) := do
  let spec ← follower.specOf turn state
  pure (follower.onward leg turn point sensors spec { state with spec := some spec })

/-- The best remaining distance so far is kept while the last leg is driven. -/
def approached (driven : Bool) (remaining : α) (state : FollowerState α) : FollowerState α :=
  if driven then { state with bestRemaining := some (closest remaining state.bestRemaining) }
  else state

/-- What `_drive_leg` finds on the leg before it looks at the turn behind it: the point to aim at,
the remaining distance, and whether the route ends here. -/
structure Outlook (α : Type) where
  target : Point α
  remaining : α
  isFinal : Bool
  stops : Bool
  state : FollowerState α

/-- The first part of `_drive_leg`, up to the stop decision. -/
def outlook (route : LaneRoute α) (leg : LaneLeg α) (point : Point α) (state : FollowerState α) :
    Except PyError (Outlook α) := do
  let isFinal := decide (state.leg + 1 = route.legs.length)
  let state := { state with pt := follower.advancePt leg point state.pt }
  let pointOfLeg ← itemAt leg.points.points state.pt
  let (gate, state) := follower.straightGateTarget point state
  let onLeg ← leg.remaining state.pt point
  let remaining := onLeg + route.tailLengthM state.leg
  let aimed := follower.aim leg point pointOfLeg gate state.exitHoldFrom
  let target := if isFinal then
      ((follower.parallelStopTarget leg point remaining).map Prod.fst).getD aimed
    else aimed
  let stops := isFinal && follower.stopsAt leg point remaining state.bestRemaining
  pure ⟨target, remaining, isFinal, stops, approached (isFinal && !stops) remaining state⟩

/-- `_drive_leg`, for at most the given number of legs. -/
def driveLeg (route : LaneRoute α) (point : Point α) (headingDeg : α) (sensors : Sensors α) :
    ℕ → FollowerState α → Except PyError (Driven α)
  | 0, _ => .error .unfinished
  | legs + 1, state => do
    let leg ← itemAt route.legs state.leg
    let view ← follower.outlook route leg point state
    if view.stops then pure ⟨none, view.remaining, view.state⟩
    else
      let drive := follower.steer leg view.target point headingDeg view.remaining view.isFinal
        sensors.seg
      match route.turns[state.leg]? with
      | none => drive view.state
      | some turn => do
        let junction ← follower.junction leg turn point sensors view.state
        match junction with
        | .stay state => drive state
        | .pass state => driveLeg route point headingDeg sensors legs state
        | .turn spec state => do
          let begun ← follower.beginTurn route spec point state
          follower.driveTurn route point headingDeg
            (driveLeg route point headingDeg sensors legs) begun

/-! ### compute -/

/-- `_accumulate_travel`. -/
def accumulateTravel (point : Point α) (state : FollowerState α) : FollowerState α :=
  let moved := state.lastPos.map fun last => hypot (point.1 - last.1) (point.2 - last.2)
  match moved, state.phase with
  | some distance, .turning =>
    { state with
      turnTravelM := state.turnTravelM + distance
      turnPath := dropOld (courseWindowM * (5 / 2)) (state.turnPath ++ [point])
      lastPos := some point }
  | _, _ =>
    if moved.all fun distance => decide (1 / 1000000 < distance) then
      { state with
        followPath := dropOld (follower.headingWindowM * (5 / 2)) (state.followPath ++ [point])
        lastPos := some point }
    else { state with lastPos := some point }

/-- `_apply_throttle_rules`: the ramp of a departure, and the throttle held behind a turn. -/
def applyThrottleRules (command : ControlCommand α) (point : Point α) (state : FollowerState α) :
    ControlCommand α × FollowerState α :=
  let origin := state.origin.getD point
  let throttle := if hypot (point.1 - origin.1) (point.2 - origin.2) < follower.rampM then
      min command.throttle follower.turn
    else command.throttle
  match state.exitHoldFrom with
  | none => ({ command with throttle := throttle }, state)
  | some exit =>
    if hypot (point.1 - exit.1) (point.2 - exit.2) < follower.exitHoldM then
      ({ command with throttle := follower.turn }, { state with segOkNow := false })
    else ({ command with throttle := throttle }, { state with exitHoldFrom := none })

/-- What `compute` does with what it drove. -/
def finish (point : Point α) (driven : Driven α) : Driven α :=
  match driven.command with
  | none => { driven with state := { driven.state with segOkNow := false } }
  | some command =>
    let (command, state) := follower.applyThrottleRules command point driven.state
    ⟨some command, driven.remaining, state⟩

/-- Going on with a turn, or along a leg. -/
def driveOn (route : LaneRoute α) (point : Point α) (headingDeg : α) (sensors : Sensors α)
    (state : FollowerState α) : Except PyError (Driven α) :=
  let drive := follower.driveLeg route point headingDeg sensors route.legs.length
  if state.phase = .turning then follower.driveTurn route point headingDeg drive state
  else drive state

/-- `compute`. Without a route it stops. -/
def compute (point : Point α) (headingDeg : α) (sensors : Sensors α) (state : FollowerState α) :
    Except PyError (Driven α) :=
  match state.route with
  | none => .ok ⟨none, 0, state⟩
  | some route => do
    let driven ← follower.driveOn route point headingDeg sensors
      (follower.accumulateTravel point (state.depart point))
    pure (follower.finish point driven)

/-- `set_route` of a planned route: every turn has to resolve. -/
def setRoute (route : Route α) : Except PyError (FollowerState α) := do
  let folded ← LaneRoute.fromRoute route
  let _ ← folded.turns.mapM follower.table.resolve
  pure (.reset (some folded))

end LaneFollower

end RcTaxi
