/-
This file models `navigation/lane_route.py` and the numbered routes of
`navigation/route_planner.py`. A lane route is what the car drives: a leg for every lane and
between two legs the instruction of a turn. Folding a planned route into one drops the arcs of
the connectors; a route may also be given by its lane numbers.

The numbers of the lanes and the pairs of symmetric lanes are tables of the program. A lane
route carries the proof that it has a leg and one turn fewer than legs.
-/

import RcTaxi.RoutePlanner

namespace RcTaxi

/-! ### Lane numbers -/

/-- `NUM2ID`. -/
def num2Id : List (ℤ × String) :=
  [(1, "top_outer_wb_e"), (2, "top_outer_wb_w"), (3, "top_inner_eb_w"), (4, "top_inner_eb_e"),
    (5, "mid_wb1_e"), (6, "mid_wb1_w"), (7, "mid_wb2_e"), (8, "mid_wb2_w"),
    (9, "mid_eb1_w"), (10, "mid_eb1_e"), (11, "mid_eb2_w"), (12, "mid_eb2_e"),
    (13, "bot_inner_wb_e"), (14, "bot_inner_wb_w"), (15, "bot_outer_eb_w"), (16, "bot_outer_eb_e"),
    (17, "left_outer_sb_n"), (18, "left_outer_sb_s"), (19, "left_inner_nb_s"),
    (20, "left_inner_nb_n"), (21, "vert_sb1_n"), (22, "vert_sb1_s"), (23, "vert_sb2_n"),
    (24, "vert_sb2_s"), (25, "vert_nb1_s"), (26, "vert_nb1_n"), (27, "vert_nb2_s"),
    (28, "vert_nb2_n"), (29, "right_inner_sb_n"), (30, "right_inner_sb_s"),
    (31, "right_outer_nb_s"), (32, "right_outer_nb_n")]

/-- `NUM2ID.get(num)`. -/
def idOfNum (num : ℤ) : Option String := num2Id.lookup num

/-- `ID2NUM.get(lane_id)`. -/
def numOfId (laneId : String) : Option ℤ := (num2Id.map Prod.swap).lookup laneId

/-- `SYMMETRIC_PAIRS`: the map is symmetric about its center. -/
def symmetricPairs : List (ℤ × ℤ) :=
  [(1, 15), (2, 16), (3, 13), (4, 14), (5, 11), (6, 12), (7, 9), (8, 10), (17, 31), (18, 32),
    (19, 29), (20, 30), (21, 27), (23, 25), (26, 24), (28, 22)]

/-- `SYMMETRIC_NUM.get(num)`. -/
def symmetricNum (num : ℤ) : Option ℤ :=
  (symmetricPairs ++ symmetricPairs.map Prod.swap).lookup num

/-- `key.partition("->")` of a key that contains the arrow. -/
def partitionArrow : List Char → Option (List Char × List Char)
  | [] => none
  | first :: rest =>
    if first = '-' ∧ rest.head? = some '>' then some ([], rest.tail)
    else (partitionArrow rest).map fun parts => (first :: parts.1, parts.2)

/-- `f"{a}->{b}"`. -/
def turnKey (source target : ℤ) : String := s!"{source}->{target}"

/-- `symmetric_key`: the key of the symmetric turn, `none` for a key that is not of two known
numbers. -/
def symmetricKey (key : String) : Option String := do
  let (source, target) ← partitionArrow key.toList
  let source ← intOfString (String.ofList source)
  let target ← intOfString (String.ofList target)
  let source ← symmetricNum source
  let target ← symmetricNum target
  some (turnKey source target)

example : symmetricKey "11->22" = some "5->28" := by decide +kernel

/-! ### Routes of lanes -/

/-- A straight drive along a lane. -/
structure LaneLeg (α : Type) where
  laneId : String
  laneNum : Option ℤ
  points : Polyline α
  speedLimitMps : PyFloat α
  lengthM : α

/-- The instruction of a turn; the arc of its connector is not part of it. -/
structure Turn (α : Type) where
  connectorId : String
  maneuver : Maneuver
  fromNum : Option ℤ
  toNum : Option ℤ
  toLaneId : String
  radiusM : Option (PyFloat α)
  lengthM : α
  entryPoint : Point α
  exitPoint : Point α

/-- Legs with a turn between each two. -/
structure LaneRoute (α : Type) where
  legs : List (LaneLeg α)
  turns : List (Turn α)
  totalLengthM : α
  counts : legs.length = turns.length + 1

variable {α : Type}

/-- `heading_deg`: the direction from the first to the last point, from -180 to 180. -/
def LaneLeg.headingDeg [Scalar α] (leg : LaneLeg α) : α :=
  degrees (atan2 (leg.points.last.2 - leg.points.first.2) (leg.points.last.1 - leg.points.first.1))

/-- `key`: the numbers of the turn, or its connector where one is unknown. -/
def Turn.key (turn : Turn α) : String :=
  match turn.fromNum, turn.toNum with
  | some source, some target => turnKey source target
  | _, _ => turn.connectorId

namespace LaneRoute

/-- `LaneRoute(legs, turns, total)` with the checks of `__post_init__`. -/
def make (legs : List (LaneLeg α)) (turns : List (Turn α)) (totalLengthM : α) :
    Except PyError (LaneRoute α) :=
  if legs = [] then .error (.laneRouteError "빈 노선")
  else if counts : legs.length = turns.length + 1 then .ok ⟨legs, turns, totalLengthM, counts⟩
  else .error (.laneRouteError
    s!"회전 수 불일치: legs {legs.length} / turns {turns.length}")

/-- `tail_length_m`: the length behind a leg, turns included. -/
def tailLengthM [Scalar α] (route : LaneRoute α) (legIndex : ℕ) : α :=
  (((route.turns.zip route.legs.tail).drop legIndex).map fun pair =>
    pair.1.lengthM + pair.2.lengthM).sum

end LaneRoute

/-! ### Folding a route -/

/-- The legs and turns folded so far, and the connector met since the last lane. -/
structure Folding (α : Type) where
  legs : List (LaneLeg α)
  turns : List (Turn α)
  pending : Option (RouteSegment α)

namespace Folding

/-- The leg over a lane segment; a single point is doubled. -/
def legOf (segment : RouteSegment α) : LaneLeg α :=
  let line := segment.centerline
  ⟨segment.segmentId, numOfId segment.segmentId,
    if line.rest.isEmpty then ⟨line.first, [line.first]⟩ else line,
    segment.speedLimitMps, segment.lengthM⟩

/-- The turn from one leg to the next over a connector. -/
def turnOf (connector : RouteSegment α) (previous next : LaneLeg α) : Turn α :=
  ⟨connector.segmentId, connector.maneuver, previous.laneNum, next.laneNum, next.laneId,
    connector.radiusM, connector.lengthM, previous.points.last, next.points.first⟩

/-- One segment of the loop of `from_route`. A connector in front of the first lane stays
pending. -/
def step (folding : Folding α) (segment : RouteSegment α) : Except PyError (Folding α) :=
  match segment.kind with
  | .connector => .ok { folding with pending := some segment }
  | .lane =>
    let leg := legOf segment
    match folding.legs.getLast?, folding.pending with
    | none, _ => .ok { folding with legs := [leg] }
    | some previous, some connector =>
      .ok ⟨folding.legs ++ [leg], folding.turns ++ [turnOf connector previous leg], none⟩
    | some previous, none =>
      .error (.laneRouteError s!"연속 차선 구간: {previous.laneId} → {leg.laneId}")

end Folding

namespace LaneRoute

/-- `from_route`. -/
def fromRoute (route : Route α) : Except PyError (LaneRoute α) := do
  let folding ← route.segments.foldlM Folding.step ⟨[], [], none⟩
  if folding.legs = [] then .error (.laneRouteError "차선 구간이 없는 경로")
  else make folding.legs folding.turns route.totalLengthM

end LaneRoute

/-! ### Routes given by numbers -/

variable [Scalar α]

namespace LaneMap

/-- The lane of a known number. -/
def laneOfNum (map : LaneMap α) (num : ℤ) : Except PyError (String × LaneSegment α) :=
  match idOfNum num with
  | none => .error (.keyError (toString num))
  | some laneId => do
    let lane ← map.lane laneId
    pure (laneId, lane)

/-- The first successor of a lane that leads into the given one, if there is any. -/
def connectorTo (map : LaneMap α) (target : String) :
    List String → Except PyError (Option (String × Connector α))
  | [] => .ok none
  | connectorId :: rest => do
    let connector ← map.connector connectorId
    if connector.successor = target then pure (some (connectorId, connector))
    else map.connectorTo target rest

/-- The legs and turns behind a leg, in the loop of `from_lane_numbers`; the length is that of the
legs and turns together. -/
def numberedLegs (map : LaneMap α) :
    ℤ → LaneLeg α → List ℤ → Except PyError (List (LaneLeg α) × List (Turn α) × α)
  | _, _, [] => .ok ([], [], 0)
  | previousNum, previousLeg, num :: rest => do
    let (laneId, lane) ← map.laneOfNum num
    let leg : LaneLeg α := ⟨laneId, some num, lane.centerline, lane.speedLimitMps, lane.lengthM⟩
    let (_, previous) ← map.laneOfNum previousNum
    match ← map.connectorTo laneId previous.successors with
    | none => .error (.laneRouteError
        s!"{previousNum} → {num} 직접 연결 없음 (맵 그래프에 커넥터 부재)")
    | some (connectorId, connector) =>
      let turn : Turn α := ⟨connectorId, connector.maneuver, some previousNum, some num, laneId,
        connector.radiusM, connector.lengthM, previousLeg.points.last, leg.points.first⟩
      let (legs, turns, length) ← map.numberedLegs num leg rest
      pure (leg :: legs, turn :: turns, lane.lengthM + connector.lengthM + length)

end LaneMap

/-- `from_lane_numbers`. -/
def LaneRoute.fromLaneNumbers (map : LaneMap α) (numbers : List ℤ) :
    Except PyError (LaneRoute α) :=
  match numbers with
  | [] => .error (.laneRouteError "빈 번호 노선")
  | first :: rest =>
    if numbers.any fun num => (idOfNum num).isNone then
      .error (.laneRouteError "알 수 없는 차선 번호")
    else do
      let (laneId, lane) ← map.laneOfNum first
      let leg : LaneLeg α :=
        ⟨laneId, some first, lane.centerline, lane.speedLimitMps, lane.lengthM⟩
      let (legs, turns, length) ← map.numberedLegs first leg rest
      make (leg :: legs) turns (lane.lengthM + length)

namespace LaneMap

/-- The segments and the length behind the first lane, in the loop of `plan_via_numbers`. The last
lane ends at the destination. -/
def numberedSegments (map : LaneMap α) (destS : α) :
    ℤ → List ℤ → Except PyError (List (RouteSegment α) × α)
  | _, [] => .ok ([], 0)
  | previousNum, num :: rest => do
    let (_, previous) ← map.laneOfNum previousNum
    let laneId ← match idOfNum num with
      | some laneId => pure laneId
      | none => .error (.keyError (toString num))
    match ← map.connectorTo laneId previous.successors with
    | none => .error (.routeError s!"강제 노선 단절: {previousNum} → {num} 커넥터 없음")
    | some (connectorId, connector) =>
      let lane ← map.lane laneId
      let stretch ← if rest.isEmpty then do
          let destS := min (max 0 destS) lane.lengthM
          let points ← trim lane.centerline 0 destS
          pure (laneStretch laneId lane points destS)
        else pure (laneStretch laneId lane lane.centerline lane.lengthM)
      let (segments, length) ← map.numberedSegments destS num rest
      pure (connectorSegment connectorId connector :: stretch :: segments,
        connector.lengthM + stretch.lengthM + length)

/-- `RoutePlanner.plan_via_numbers`. -/
def planViaNumbers (map : LaneMap α) (numbers : List ℤ) (startS destS : α) :
    Except PyError (Route α) :=
  match numbers with
  | first :: second :: rest =>
    if numbers.any fun num => (idOfNum num).isNone then
      .error (.routeError "강제 노선에 알 수 없는 차선 번호")
    else do
      let (laneId, lane) ← map.laneOfNum first
      let startS := min (max 0 startS) lane.lengthM
      let points ← trim lane.centerline startS lane.lengthM
      let (segments, length) ← map.numberedSegments destS first (second :: rest)
      let destId := (idOfNum ((second :: rest).getLastD second)).getD laneId
      pure ⟨laneId, destId, laneStretch laneId lane points (lane.lengthM - startS) :: segments,
        lane.lengthM - startS + length⟩
  | _ => .error (.routeError "강제 노선은 차선 2개 이상이어야 함")

end LaneMap

end RcTaxi
