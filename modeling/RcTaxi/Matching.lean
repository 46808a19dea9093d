/-
This file models `mapping/map_matcher.py`, `navigation/destination_resolver.py` and
`navigation/arrival_checker.py`: on which lane the car is, where on the lanes it has to stop, and
whether it has arrived there.
-/

import RcTaxi.LaneMap

namespace RcTaxi

variable {α : Type} [Scalar α]

/-! ### MapMatcher -/

structure LaneMatch (α : Type) where
  segmentId : String
  onLane : Bool
  distanceM : α
  headingErrorDeg : α
  progressS : α
  score : α

/-- The weights and cuts of the matcher. -/
structure MapMatcher (α : Type) where
  distanceWeight : α
  headingWeightPerDeg : α
  maxCenterDistanceM : α
  maxHeadingErrorDeg : α

/-- The smallest and the largest value of a coordinate, as `min` and `max` find them. -/
def coordinateRange (first : PyFloat α) (rest : List (PyFloat α)) : PyFloat α × PyFloat α :=
  (rest.foldl PyFloat.pyMin first, rest.foldl PyFloat.pyMax first)

/-- The point lies in the bounding rectangle of the block. -/
def Block.bounds (block : Block α) (point : Point α) : Except PyError Bool :=
  match block.polygon with
  | [] => .error .valueError
  | corner :: corners =>
    let (x0, x1) := coordinateRange corner.1 (corners.map Prod.fst)
    let (y0, y1) := coordinateRange corner.2 (corners.map Prod.snd)
    .ok ((x0.le (.finite point.1) && (PyFloat.finite point.1).le x1) &&
      (y0.le (.finite point.2) && (PyFloat.finite point.2).le y1))

namespace MapMatcher

variable (matcher : MapMatcher α)

/-- The match of one segment, unless a cut rejects it. -/
def candidate (point : Point α) (headingDeg : α) (segmentId : String) (onLane : Bool)
    (centerline : Polyline α) : Option (LaneMatch α) :=
  let projection := projectPoint centerline point
  if matcher.maxCenterDistanceM < projection.distance then none
  else
    let error := headingDiffDeg headingDeg (headingAt centerline projection.progress)
    if matcher.maxHeadingErrorDeg < |error| then none
    else some ⟨segmentId, onLane, projection.distance, error, projection.progress,
      matcher.distanceWeight * projection.distance + matcher.headingWeightPerDeg * |error|⟩

/-- The first match with the smallest score. -/
def better (best found : Option (LaneMatch α)) : Option (LaneMatch α) :=
  match best, found with
  | none, _ => found
  | some _, none => best
  | some old, some new => if new.score < old.score then found else best

/-- `_inside_block`. -/
def insideBlock (point : Point α) : List (Block α) → Except PyError Bool
  | [] => .ok false
  | block :: rest => do
    if ← block.bounds point then pure true else insideBlock point rest

/-- `MapMatcher.match`. -/
def matchPose (map : LaneMap α) (point : Point α) (headingDeg : α) :
    Except PyError (Option (LaneMatch α)) := do
  if ← insideBlock point map.blocks.values then pure none
  else
    let lanes := map.lanes.items.map fun item =>
      matcher.candidate point headingDeg item.1 true item.2.centerline
    let connectors := map.connectors.items.map fun item =>
      matcher.candidate point headingDeg item.1 false item.2.centerline
    pure ((lanes ++ connectors).foldl better none)

end MapMatcher

/-! ### DestinationResolver -/

structure StopPose (α : Type) where
  laneId : String
  x : α
  y : α
  headingDeg : α
  progressS : α
  snapDistanceM : α

/-- The lanes a car may stop on; there is one, as the resolver asserts when it is built. -/
structure DestinationResolver (α : Type) where
  first : String × LaneSegment α
  rest : List (String × LaneSegment α)

namespace DestinationResolver

/-- `DestinationResolver(lane_map, ...)`. -/
def new (map : LaneMap α) : Except PyError (DestinationResolver α) :=
  match map.lanes.items.filter fun item => item.2.destinationAllowed with
  | [] => .error (.assertionError "정차 가능 차선이 없는 맵")
  | first :: rest => .ok ⟨first, rest⟩

/-- A lane with the projection of the destination on it. -/
def snap (point : Point α) (item : String × LaneSegment α) :
    (String × LaneSegment α) × Projection α :=
  (item, projectPoint item.2.centerline point)

/-- The nearer of two snapped lanes, the earlier one of two as near. -/
def nearer (best found : (String × LaneSegment α) × Projection α) :
    (String × LaneSegment α) × Projection α :=
  if found.2.distance < best.2.distance then found else best

/-- `resolve`. -/
def resolve (resolver : DestinationResolver α) (point : Point α) : StopPose α :=
  let ((laneId, lane), projection) :=
    (resolver.rest.map (snap point)).foldl nearer (snap point resolver.first)
  ⟨laneId, projection.foot.1, projection.foot.2, headingAt lane.centerline projection.progress,
    projection.progress, projection.distance⟩

end DestinationResolver

/-! ### ArrivalChecker -/

structure ArrivalChecker (α : Type) where
  radiusM : α
  maxSpeedMps : α
  settleS : α
  maxHeadingErrorDeg : α

/-- The stop of the mission, since when the gate is open, and the latched decision. -/
structure ArrivalState (α : Type) where
  stop : Option (StopPose α)
  heldSince : Option α
  arrived : Bool

namespace ArrivalChecker

variable (checker : ArrivalChecker α)

/-- `clear`, and the state of a new checker. -/
def clear : ArrivalState α := ⟨none, none, false⟩

/-- `start_mission`. -/
def startMission (stop : StopPose α) : ArrivalState α := ⟨some stop, none, false⟩

/-- What an update of the checker is given. -/
structure Update (α : Type) where
  point : Point α
  headingDeg : α
  speedMps : α
  lanes : Finset String
  throttle : α
  stale : Bool
  now : α

/-- The gate of `update`. -/
def gate (stop : StopPose α) (update : Update α) : Bool :=
  !update.stale && decide (hypot (update.point.1 - stop.x) (update.point.2 - stop.y) ≤ checker.radiusM) &&
    decide (stop.laneId ∈ update.lanes) &&
    decide (|headingDiffDeg update.headingDeg stop.headingDeg| ≤ checker.maxHeadingErrorDeg) &&
    decide (|update.throttle| ≤ 1 / 1000000)

/-- `update`: the latched decision, and the state after it. -/
def update (update : Update α) (state : ArrivalState α) : Bool × ArrivalState α :=
  match state.stop with
  | none => (false, state)
  | some stop =>
    if state.arrived then (true, state)
    else if !checker.gate stop update then (false, { state with heldSince := none })
    else
      let since := state.heldSince.getD update.now
      let arrived := decide (update.speedMps ≤ checker.maxSpeedMps ∨
        checker.settleS ≤ update.now - since)
      (arrived, { state with heldSince := some since, arrived := arrived })

end ArrivalChecker

end RcTaxi
