/-
This file models `control/legacy/waypoint_follower.py`: the follower of the centerlines that an
environment variable puts in the place of the lane follower. A route is resampled into waypoints, a
target runs ahead of the car along them, and the car is steered towards it with the wheel angle that
the curve under the car needs added.

The waypoints and the index of the target are one value here, so that the index is one of a waypoint.
-/

import RcTaxi.LaneFollower

namespace RcTaxi

variable {α : Type} [Scalar α]

/-! ### Waypoints -/

/-- `resample`: points at the same distance from each other, with both ends. -/
def resample (line : Polyline α) (spacingM : α) : List (Point α) :=
  let total := polylineLength line
  if total ≤ 0 ∨ spacingM ≤ 0 then
    if line.rest.isEmpty then line.points else [line.first, line.last]
  else
    let n := max 1 ⌈total / spacingM⌉₊
    (List.range (n + 1)).map fun i => pointAt line (total * i / n)

/-- A point of the route with the speed limit, the flag that allows the correction by the lane
center, and the wheel angle that the curve needs. -/
structure Waypoint (α : Type) where
  point : Point α
  speedLimitMps : PyFloat α
  segOk : Bool
  ffDeg : α

/-- The points of a route; there are at least two. -/
structure WaypointPath (α : Type) where
  waypoints : List (Waypoint α)
  two_le : 2 ≤ waypoints.length

/-- What the follower remembers on a route. -/
structure WaypointDrive (α : Type) where
  path : WaypointPath α
  idx : Fin path.waypoints.length
  targetAllowsSeg : Bool
  segOkNow : Bool
  nearCorner : Bool
  origin : Option (Point α)
  bestRemaining : Option α

structure WaypointFollower (α : Type) [Scalar α] where
  spacingM : α
  lookaheadM : α
  cornerLookaheadM : α
  ffLeadM : α
  fullLockErrorDeg : α
  alignErrorDeg : α
  alignRatio : α
  cruise : α
  turn : α
  slowdownM : α
  nearRatio : α
  stopRadiusM : α
  rampM : α
  cornerSlowM : α
  exitHoldM : α
  maxWheelDeg : α
  maxSpeedMps : α
  maxSpeed_pos : 0 < maxSpeedMps
  wheelbaseM : α

/-- `math.hypot` from one point to another. -/
def apart (a b : Point α) : α := hypot (a.1 - b.1) (a.2 - b.2)

/-- The running sum of the distances between points. -/
def cumulative : α → List (Point α) → List α
  | _, [] => []
  | acc, [_] => [acc]
  | acc, a :: b :: rest => acc :: cumulative (acc + segmentLength a b) (b :: rest)

theorem length_cumulative (acc : α) (points : List (Point α)) :
    (cumulative acc points).length = points.length := by
  induction points generalizing acc with
  | nil => rfl
  | cons a rest inductionHypothesis =>
    cases rest with
    | nil => rfl
    | cons b rest => exact congrArg (· + 1) (inductionHypothesis _)

/-- `bisect_right` of a list that does not fall. -/
def bisectRight (keys : List α) (x : α) : ℕ := (keys.takeWhile (· ≤ x)).length

theorem bisectRight_le (keys : List α) (x : α) : bisectRight keys x ≤ keys.length :=
  (List.takeWhile_sublist _).length_le

namespace WaypointPath

variable (path : WaypointPath α)

/-- `_cum`. -/
def cum : List α := cumulative 0 (path.waypoints.map Waypoint.point)

theorem length_cum : path.cum.length = path.waypoints.length := by
  rw [cum, length_cumulative, List.length_map]

/-- `_cum[i]`. -/
def cumAt (i : Fin path.waypoints.length) : α := path.cum.get (i.cast path.length_cum.symm)

/-- `len(_wps) - 1`. -/
def last : Fin path.waypoints.length := ⟨path.waypoints.length - 1, by have := path.two_le; omega⟩

/-- `_wps[max(0, bisect_right(_cum, s) - 1)]`. -/
def under (s : α) : Waypoint α :=
  path.waypoints.get ⟨bisectRight path.cum s - 1, by
    have atMost := bisectRight_le path.cum s
    have same := path.length_cum
    have two := path.two_le
    omega⟩

/-- The waypoints with their distances from the start. -/
def marked : List (Waypoint α × α) := path.waypoints.zip path.cum

end WaypointPath

namespace WaypointFollower

variable (follower : WaypointFollower α)

/-! ### set_route -/

/-- The wheel angle of a curve; to the right it is positive. -/
def curveWheel (dth ds : α) : α := -degrees (atan (follower.wheelbaseM * dth / ds))

/-- The wheel angle at the middle one of three points, from the curvature. -/
def rawFf (a b c : Point α) : α :=
  let v1 : Point α := (b.1 - a.1, b.2 - a.2)
  let v2 : Point α := (c.1 - b.1, c.2 - b.2)
  let ds := (hypot v1.1 v1.2 + hypot v2.1 v2.2) / 2
  if ds < tolerance then 0
  else
    follower.curveWheel (atan2 (v1.1 * v2.2 - v1.2 * v2.1) (v1.1 * v2.1 + v1.2 * v2.2)) ds

/-- The wheel angles at all points but the two ends. -/
def innerFf : List (Point α) → List α
  | a :: b :: c :: rest => follower.rawFf a b c :: innerFf (b :: c :: rest)
  | _ => []

/-- The mean over a window of five. -/
def smoothed (raw : List α) : List α :=
  (List.range raw.length).map fun i =>
    let lo := i - 2
    let hi := min raw.length (i + 3)
    ((raw.take hi).drop lo).sum / (hi - lo : ℕ)

/-- `_local_ff`: an end has the wheel angle of its neighbour. -/
def localFf (pts : List (Point α)) : List α :=
  match follower.innerFf pts with
  | [] => pts.map fun _ => 0
  | first :: rest => smoothed (first :: first :: rest ++ [rest.getLastD first])

/-- The waypoints of a segment of the route. -/
def waypointsOf (segment : RouteSegment α) : List (Waypoint α) :=
  let segOk := decide (segment.kind = .lane) || decide (segment.maneuver = .follow)
  let useFf := decide (segment.kind = .connector) &&
    (decide (segment.maneuver = .right) || decide (segment.maneuver = .left)) &&
    segment.radiusM.any fun radius => radius != .finite 0
  let pts := if segment.centerline.rest.isEmpty then segment.centerline.points
    else resample segment.centerline follower.spacingM
  let ffs := if useFf then follower.localFf pts else pts.map fun _ => 0
  (pts.zip ffs).map fun marked => ⟨marked.1, segment.speedLimitMps, segOk, marked.2⟩

/-- A waypoint is left out if it is the one before. -/
def append (waypoints : List (Waypoint α)) (next : Waypoint α) : List (Waypoint α) :=
  match waypoints.getLast? with
  | none => [next]
  | some last => if apart next.point last.point < tolerance then waypoints else waypoints ++ [next]

/-- All waypoints of a route. -/
def waypoints (route : Route α) : List (Waypoint α) :=
  (route.segments.flatMap follower.waypointsOf).foldl append []

/-- `set_route`: a route of one point has it twice. -/
def setRoute (route : Route α) : Except PyError (WaypointDrive α) :=
  match follower.waypoints route with
  | [] => .error (.assertionError "빈 경로")
  | [only] => .ok ⟨⟨[only, only], le_rfl⟩, ⟨0, Nat.two_pos⟩, false, false, false, none, none⟩
  | first :: second :: rest =>
    .ok ⟨⟨first :: second :: rest, Nat.le_add_left _ _⟩, ⟨0, Nat.succ_pos _⟩, false, false, false,
      none, none⟩

/-! ### The target -/

/-- The loop that moves the target on: past what is near, and past what is farther than the next. -/
def advanceLoop (path : WaypointPath α) (lookaheadM : α) (point : Point α) :
    (rounds idx : ℕ) → idx + rounds < path.waypoints.length → Fin path.waypoints.length
  | 0, idx, within => ⟨idx, within⟩
  | rounds + 1, idx, within =>
    let dCur := apart (path.waypoints.get ⟨idx, by omega⟩).point point
    let dNext := apart (path.waypoints.get ⟨idx + 1, by omega⟩).point point
    if dCur < lookaheadM ∨ dNext < dCur then
      advanceLoop path lookaheadM point rounds (idx + 1) (by omega)
    else ⟨idx, by omega⟩

/-- The index of the target for a point. -/
def advance (drive : WaypointDrive α) (point : Point α) : Fin drive.path.waypoints.length :=
  advanceLoop drive.path
    (if drive.nearCorner then follower.cornerLookaheadM else follower.lookaheadM) point
    (drive.path.waypoints.length - 1 - drive.idx) drive.idx (by have := drive.idx.isLt; omega)

/-! ### Corners -/

/-- The loop of `_connector_within` and of `_connector_behind`: away from the target, until the
distance is above a limit. -/
def cornerLoop (limit : α) (distance : α → α) : List (Waypoint α × α) → Bool
  | [] => false
  | (waypoint, cum) :: rest =>
    if limit < distance cum then false
    else if !waypoint.segOk then true
    else cornerLoop limit distance rest

/-- `_connector_within`. -/
def connectorWithin (path : WaypointPath α) (idx : Fin path.waypoints.length) (point : Point α) :
    Bool :=
  let distToTarget := apart (path.waypoints.get idx).point point
  cornerLoop follower.cornerSlowM (fun cum => cum - path.cumAt idx + distToTarget)
    (path.marked.drop idx)

/-- `_connector_behind`. -/
def connectorBehind (path : WaypointPath α) (idx : Fin path.waypoints.length) (point : Point α) :
    Bool :=
  let sCar := path.cumAt idx - apart (path.waypoints.get idx).point point
  cornerLoop follower.exitHoldM (fun cum => sCar - cum) (path.marked.take idx).reverse

/-! ### compute -/

/-- `min(1.0, limit / max_speed)`. -/
def limitRatio : PyFloat α → α
  | .finite limit => min 1 (limit / follower.maxSpeedMps)
  | .nan | .inf _ => 1

/-- `_slowdown_ratio`. -/
def slowdownRatio (remaining : α) : α :=
  if follower.slowdownM ≤ remaining then 1
  else
    let usable := max (follower.slowdownM - follower.stopRadiusM) tolerance
    let progress := max 0 (min 1 ((remaining - follower.stopRadiusM) / usable))
    follower.nearRatio + (1 - follower.nearRatio) * progress

/-- The wheel angle of the curve under the car, or of one that begins within the lead. -/
def feedForward (path : WaypointPath α) (sCar : α) : α :=
  let ff := (path.under sCar).ffDeg
  if ff = 0 ∧ 0 < follower.ffLeadM then (path.under (sCar + follower.ffLeadM)).ffDeg else ff

/-- The wheel angle: that of the curve, and the error of the heading. -/
def wheel (ffDeg error : α) : Except PyError α := do
  let ratio ← divide error follower.fullLockErrorDeg
  pure (max (-follower.maxWheelDeg)
    (min follower.maxWheelDeg (ffDeg - follower.maxWheelDeg * max (-1) (min 1 ratio))))

/-- The throttle before the corners and the start of the route are looked at. -/
def legThrottle (target : Waypoint α) (error remaining : α) : α :=
  if target.segOk then
    let throttle := follower.cruise * follower.limitRatio target.speedLimitMps *
      follower.slowdownRatio remaining
    if follower.alignErrorDeg < |error| then throttle * follower.alignRatio else throttle
  else follower.turn

/-- The car is at the end of the route, or has come closer to it before. -/
def stops (drive : WaypointDrive α) (idx : Fin drive.path.waypoints.length) (remaining : α) : Bool :=
  decide (remaining ≤ follower.stopRadiusM) ||
    decide (idx = drive.path.last) &&
      drive.bestRemaining.any fun best => decide (best + passedHysteresisM < remaining)

/-- The shortest remaining distance since the last waypoint is the target. -/
def closest (drive : WaypointDrive α) (idx : Fin drive.path.waypoints.length) (remaining : α) :
    Option α :=
  if idx = drive.path.last then some (drive.bestRemaining.elim remaining (min remaining))
  else drive.bestRemaining

/-- The target for a point, and the distance that remains over it. -/
def remainingOver (path : WaypointPath α) (idx : Fin path.waypoints.length) (point : Point α) : α :=
  path.cumAt path.last - path.cumAt idx + apart (path.waypoints.get idx).point point

/-- `compute` on a route: the command, where `none` is `STOP_COMMAND`, the remaining distance, and
what the follower remembers. -/
def compute (drive : WaypointDrive α) (point : Point α) (headingDeg : α) :
    Except PyError (Option (ControlCommand α) × α × WaypointDrive α) :=
  let path := drive.path
  let idx := follower.advance drive point
  let target := path.waypoints.get idx
  let remaining := remainingOver path idx point
  if follower.stops drive idx remaining then
    .ok (none, remaining,
      { drive with idx := idx, targetAllowsSeg := target.segOk, segOkNow := false })
  else do
    let sCar := max 0 (path.cumAt idx - apart target.point point)
    let error := headingDiffDeg
      (degrees (atan2 (target.point.2 - point.2) (target.point.1 - point.1))) headingDeg
    let wheel ← follower.wheel (follower.feedForward path sCar) error
    let origin := drive.origin.getD point
    let throttle := follower.legThrottle target error remaining
    let ramped := if apart point origin < follower.rampM then min throttle follower.turn else throttle
    let nearCorner := follower.connectorWithin path idx point || follower.connectorBehind path idx point
    pure (some ⟨if nearCorner then follower.turn else ramped, wheel⟩, remaining,
      { drive with
        idx := idx
        targetAllowsSeg := target.segOk
        segOkNow := target.segOk && !nearCorner
        nearCorner := nearCorner
        origin := some origin
        bestRemaining := closest drive idx remaining })

end WaypointFollower

end RcTaxi
