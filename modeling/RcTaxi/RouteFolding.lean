/-
This file shows what folding a planned route keeps. The search of the planner makes the same
decisions wherever on its lane the car starts, so that every route the planner returns is a stretch
of one lane, or the rest of the start lane and what continues it, and has the total of its segments.
A route by numbers is of the second kind.

Such a route is lanes with a connector between each two. Folded, every lane is a leg and every
connector a turn from one leg to the next; what a leg and a turn are as long as is what the segments
are as long as, and nothing of it is negative, so that the length behind a leg falls from leg to
leg.
-/

import RcTaxi.ForcedRoute

namespace RcTaxi

open ShortestPath

variable {α : Type} [Scalar α]

/-! ### Returned routes -/

/-- `trim` returns nothing in the wrong order. -/
theorem ordered_of_trim {line part : Polyline α} {s0 s1 : α}
    (cut : trim line s0 s1 = .ok part) : s0 ≤ s1 + tolerance := by
  unfold trim at cut
  split at cut
  · cases cut
  next inOrder => exact not_lt.mp inOrder

/-- The places are not within the tolerance of the planner: the destination is not just behind the
start on its lane, nor just in front of a lane the route has to enter. -/
def OutsideTolerance (startId : String) (startS : α) (destId : String) (destS : α) : Prop :=
  startId = destId ∧ startS ≤ destS ∨
    ¬ (startId = destId ∧ startS - tolerance ≤ destS) ∧ ¬ (-tolerance ≤ destS ∧ destS < 0)

namespace ValidLaneMap

variable (map : ValidLaneMap α)

/-- The legs of a chain are planned only if the last one could be cut. -/
theorem trim_of_legSegments {destS : α} {last : String × String} {inner : List (String × String)}
    {segments : List (RouteSegment α)}
    (built : map.legSegments destS (some last) (inner ++ [last]) = .ok segments) :
    0 ≤ destS + tolerance := by
  induction inner generalizing segments with
  | nil =>
    rw [List.nil_append, LaneMap.legSegments] at built
    obtain ⟨connector, -, behindConnector⟩ := bind_eq_ok.mp built
    obtain ⟨lane, -, behindLane⟩ := bind_eq_ok.mp behindConnector
    obtain ⟨stretch, isStretch, -⟩ := bind_eq_ok.mp behindLane
    rw [LaneMap.legStretch, decide_eq_true rfl, if_pos rfl] at isStretch
    obtain ⟨points, cut, -⟩ := bind_eq_ok.mp isStretch
    exact ordered_of_trim cut
  | cons leg inner inductionHypothesis =>
    rw [List.cons_append, LaneMap.legSegments] at built
    obtain ⟨connector, -, behindConnector⟩ := bind_eq_ok.mp built
    obtain ⟨lane, -, behindLane⟩ := bind_eq_ok.mp behindConnector
    obtain ⟨stretch, -, behindStretch⟩ := bind_eq_ok.mp behindLane
    obtain ⟨others, builtOthers, -⟩ := bind_eq_ok.mp behindStretch
    exact inductionHypothesis builtOthers

/-- A route over several segments: the rest of the start lane, and what continues it up to a place
that is not in front of the destination lane. -/
def LeavesLane (startId : String) (startS : α) (destId : String) (destS : α) (route : Route α) :
    Prop :=
  0 ≤ destS ∧ ∃ start points rest, route.segments =
      laneStretch startId start points (start.lengthM - startS) :: rest ∧
    map.Continues destId destS startId rest

/-- A returned route is a stretch of one lane, or it leaves its lane; and it has the total of its
segments. -/
theorem plan_returned [LawfulHypot α] {startId destId : String} {startS destS : α} {route : Route α}
    (returned : map.plan startId startS destId destS = .ok route)
    (outside : OutsideTolerance startId startS destId destS) :
    ((∃ lane points lengthM, route.segments = [laneStretch startId lane points lengthM]) ∨
        map.LeavesLane startId startS destId destS route) ∧
      route.totalLengthM = (route.segments.map RouteSegment.lengthM).sum := by
  have unfolded := returned
  rw [LaneMap.plan] at unfolded
  split at unfolded
  next start dest foundStart foundDest =>
    split at unfolded
    next direct =>
      have ahead : startS ≤ destS := by
        rcases outside with ⟨-, ahead⟩ | ⟨away, -⟩
        · exact ahead
        · exact absurd direct away
      obtain ⟨points, -, same⟩ := bind_eq_ok.mp unfolded
      cases same
      refine ⟨.inl ⟨start, points, _, rfl⟩, ?_⟩
      rw [List.map_singleton, List.sum_singleton]
      exact max_eq_right (sub_nonneg.mpr ahead)
    next notDirect =>
      obtain ⟨cost, final, inner, label, run, back, way, once, -⟩ :=
        map.search_chain foundStart foundDest (start.lengthM - startS)
      rw [map.plan_away foundStart foundDest notDirect run back] at returned
      obtain ⟨points, -, behindCut⟩ := bind_eq_ok.mp returned
      obtain ⟨segments, built, same⟩ := bind_eq_ok.mp behindCut
      cases same
      rw [List.getLast?_concat] at built
      have nonneg : 0 ≤ destS := by
        rcases outside with ⟨sameLane, ahead⟩ | ⟨-, notNear⟩
        · exact absurd ⟨sameLane, (sub_le_self _ tolerance_pos.le).trans ahead⟩ notDirect
        · have above := map.trim_of_legSegments built
          by_contra negative
          exact notNear ⟨by linarith only [above], not_le.mp negative⟩
      obtain ⟨segments', built', continues, sum⟩ := map.legSegments_spec nonneg way
        ((map.mem_laneIds startId).mpr ⟨start, foundStart⟩) rfl once
      rw [built] at built'
      cases built'
      refine ⟨.inr ⟨nonneg, start, points, segments, rfl, continues⟩, ?_⟩
      rw [List.map_cons, List.sum_cons, sum]
      exact (by ring : cost + destS =
        start.lengthM - startS + (cost - (start.lengthM - startS) + destS))
  · cases unfolded

/-- The numbers of a planned route are linked. -/
theorem links_of_numberedSegments {destS : α} {previousNum : ℤ} {rest : List ℤ}
    {planned : List (RouteSegment α) × α}
    (returned : map.numberedSegments destS previousNum rest = .ok planned) :
    (previousNum :: rest).IsChain map.Links := by
  induction rest generalizing previousNum planned with
  | nil => exact List.isChain_singleton _
  | cons num rest inductionHypothesis =>
    rw [LaneMap.numberedSegments] at returned
    obtain ⟨⟨previousId, previous⟩, isPrevious, behindPrevious⟩ := bind_eq_ok.mp returned
    obtain ⟨knownPrevious, foundPrevious⟩ := LaneMap.laneOfNum_ok isPrevious
    cases known : idOfNum num with
    | none =>
      rw [known] at behindPrevious
      cases behindPrevious
    | some laneId =>
      rw [known] at behindPrevious
      obtain ⟨_, isId, behindId⟩ := bind_eq_ok.mp behindPrevious
      cases isId
      obtain ⟨link, linked, behindLink⟩ := bind_eq_ok.mp behindId
      cases link with
      | none => cases behindLink
      | some link =>
        obtain ⟨lane, isLane, behindLane⟩ := bind_eq_ok.mp behindLink
        have onward : ∃ others, map.numberedSegments destS num rest = .ok others := by
          dsimp only at behindLane
          split at behindLane
          · obtain ⟨_, -, behindCut⟩ := bind_eq_ok.mp behindLane
            obtain ⟨_, -, behindStretch⟩ := bind_eq_ok.mp behindCut
            obtain ⟨others, plannedOn, -⟩ := bind_eq_ok.mp behindStretch
            exact ⟨others, plannedOn⟩
          · obtain ⟨_, -, behindStretch⟩ := bind_eq_ok.mp behindLane
            obtain ⟨others, plannedOn, -⟩ := bind_eq_ok.mp behindStretch
            exact ⟨others, plannedOn⟩
        obtain ⟨others, plannedOn⟩ := onward
        rw [LaneMap.lane] at isLane
        split at isLane
        next found =>
          cases isLane
          exact List.isChain_cons_cons.mpr ⟨⟨previousId, previous, laneId, lane, link,
            knownPrevious, foundPrevious, known, found, linked⟩, inductionHypothesis plannedOn⟩
        · cases isLane

/-- A returned route by numbers leaves its lane, and has the total of its segments. -/
theorem planViaNumbers_returned [LawfulHypot α] {numbers : List ℤ} {startS destS : α}
    {route : Route α} (returned : map.planViaNumbers numbers startS destS = .ok route) :
    (∃ startId startS destId destS, map.LeavesLane startId startS destId destS route) ∧
      route.totalLengthM = (route.segments.map RouteSegment.lengthM).sum := by
  obtain _ | ⟨first, _ | ⟨second, rest⟩⟩ := numbers
  · cases returned
  · cases returned
  rw [LaneMap.planViaNumbers] at returned
  split at returned
  · cases returned
  · obtain ⟨⟨laneId, lane⟩, isLane, behindLane⟩ := bind_eq_ok.mp returned
    obtain ⟨points, cut, behindCut⟩ := bind_eq_ok.mp behindLane
    obtain ⟨⟨segments, length⟩, planned, same⟩ := bind_eq_ok.mp behindCut
    cases same
    have chain := map.links_of_numberedSegments planned
    obtain ⟨known, found⟩ := LaneMap.laneOfNum_ok isLane
    have member := List.getLast_mem (List.cons_ne_nil second rest)
    obtain ⟨destId, dest, knownDest, foundDest⟩ :=
      LaneMap.known_of_links chain (List.mem_cons_of_mem first member)
    obtain ⟨segments', length', planned', continues, total⟩ := map.numberedSegments_continues destS
      chain (List.getLast?_eq_some_getLast _) known knownDest foundDest
    rw [planned] at planned'
    cases planned'
    refine ⟨⟨laneId, _, destId, _, ?_, lane, points, segments, rfl, continues⟩, ?_⟩
    · exact le_min (le_max_left 0 destS) (map.length_pos foundDest).le
    · rw [List.map_cons, List.sum_cons, ← total]
      rfl

end ValidLaneMap

/-! ### Legs and turns -/

/-- The lanes of a list of segments, in order. -/
def lanesOf (segments : List (RouteSegment α)) : List (RouteSegment α) :=
  segments.filter fun segment => segment.kind = .lane

/-- The connectors of a list of segments, in order. -/
def connectorsOf (segments : List (RouteSegment α)) : List (RouteSegment α) :=
  segments.filter fun segment => segment.kind = .connector

/-- The legs over the lanes of a list of segments. -/
def legsOver (segments : List (RouteSegment α)) : List (LaneLeg α) :=
  (lanesOf segments).map Folding.legOf

/-- The turns over connectors, each between two legs that follow each other. -/
def turnsBetween : List (RouteSegment α) → List (LaneLeg α) → List (Turn α)
  | connector :: connectors, before :: after :: legs =>
    Folding.turnOf connector before after :: turnsBetween connectors (after :: legs)
  | _, _ => []

omit [Scalar α] in
theorem length_turnsBetween {connectors : List (RouteSegment α)} {legs : List (LaneLeg α)}
    (counts : legs.length = connectors.length + 1) :
    (turnsBetween connectors legs).length = connectors.length := by
  induction connectors generalizing legs with
  | nil => rfl
  | cons connector connectors inductionHypothesis =>
    obtain _ | ⟨before, _ | ⟨after, legs⟩⟩ := legs
    · cases counts
    · cases counts
    · have behind : (turnsBetween connectors (after :: legs)).length = connectors.length :=
        inductionHypothesis (Nat.succ.inj counts)
      rw [turnsBetween, List.length_cons, behind, List.length_cons]

/-- The turn takes its instruction from the connector, and leads from the end of a leg to the
beginning of the next. -/
structure TurnBetween (connector : RouteSegment α) (before after : LaneLeg α) (turn : Turn α) :
    Prop where
  connectorId : turn.connectorId = connector.segmentId
  maneuver : turn.maneuver = connector.maneuver
  radiusM : turn.radiusM = connector.radiusM
  lengthM : turn.lengthM = connector.lengthM
  fromNum : turn.fromNum = before.laneNum
  toNum : turn.toNum = after.laneNum
  toLaneId : turn.toLaneId = after.laneId
  entryPoint : turn.entryPoint = before.points.last
  exitPoint : turn.exitPoint = after.points.first

omit [Scalar α] in
theorem turnBetween_of_turnsBetween {connectors : List (RouteSegment α)} {legs : List (LaneLeg α)}
    {index : ℕ} {turn : Turn α} (found : (turnsBetween connectors legs)[index]? = some turn) :
    ∃ connector before after, connectors[index]? = some connector ∧ legs[index]? = some before ∧
      legs[index + 1]? = some after ∧ TurnBetween connector before after turn := by
  induction connectors generalizing legs index with
  | nil => cases found
  | cons connector connectors inductionHypothesis =>
    obtain _ | ⟨before, _ | ⟨after, legs⟩⟩ := legs
    · cases found
    · cases found
    · cases index with
      | zero =>
        cases found
        exact ⟨connector, before, after, rfl, rfl, rfl, rfl, rfl, rfl, rfl, rfl, rfl, rfl, rfl, rfl⟩
      | succ index =>
        have behind : (turnsBetween connectors (after :: legs))[index]? = some turn := found
        exact inductionHypothesis behind

/-- The length of a turn and the leg behind it. -/
def onwardLength (pair : Turn α × LaneLeg α) : α := pair.1.lengthM + pair.2.lengthM

/-- What a list of segments behind a leg folds into: a leg for every lane and a turn for every
connector, together as long as the segments. -/
structure FoldsBehind (leg : LaneLeg α) (segments : List (RouteSegment α)) : Prop where
  folds : Folds leg segments (legsOver segments)
    (turnsBetween (connectorsOf segments) (leg :: legsOver segments))
  counts : (legsOver segments).length = (connectorsOf segments).length
  length : (((turnsBetween (connectorsOf segments) (leg :: legsOver segments)).zip
    (legsOver segments)).map onwardLength).sum = (segments.map RouteSegment.lengthM).sum
  nonneg : ∀ pair ∈ (turnsBetween (connectorsOf segments) (leg :: legsOver segments)).zip
    (legsOver segments), 0 ≤ onwardLength pair

/-- Behind a leg, a connector and a lane are a turn and a leg. -/
theorem FoldsBehind.cons {connectorId : String} {connector : Connector α} {laneId : String}
    {lane : LaneSegment α} {points : Polyline α} {lengthM : α} {segments : List (RouteSegment α)}
    (leg : LaneLeg α) (connectorNonneg : 0 ≤ connector.lengthM) (laneNonneg : 0 ≤ lengthM)
    (behind : FoldsBehind (Folding.legOf (laneStretch laneId lane points lengthM)) segments) :
    FoldsBehind leg (connectorSegment connectorId connector ::
      laneStretch laneId lane points lengthM :: segments) where
  folds := Folds.cons leg connectorId connector behind.folds
  counts := congrArg (· + 1) behind.counts
  length := by
    have onward : onwardLength (Folding.turnOf (connectorSegment connectorId connector) leg
        (Folding.legOf (laneStretch laneId lane points lengthM)),
        Folding.legOf (laneStretch laneId lane points lengthM)) = connector.lengthM + lengthM := rfl
    refine (List.sum_cons ..).trans ?_
    rw [List.map_cons, List.map_cons, List.sum_cons, List.sum_cons, ← behind.length, ← add_assoc]
    rfl
  nonneg pair member := by
    rcases List.mem_cons.mp member with rfl | later
    · exact add_nonneg connectorNonneg laneNonneg
    · exact behind.nonneg pair later

theorem FoldsBehind.nil (leg : LaneLeg α) : FoldsBehind leg [] :=
  ⟨Folds.nil leg, rfl, rfl, fun _ member => absurd member List.not_mem_nil⟩

/-- What continues a lane folds behind any leg. -/
theorem foldsBehind_of_continues [LawfulHypot α] (map : ValidLaneMap α) {destId laneId : String}
    {destS : α} {segments : List (RouteSegment α)}
    (continues : map.Continues destId destS laneId segments) (nonneg : 0 ≤ destS)
    (leg : LaneLeg α) : FoldsBehind leg segments := by
  induction continues generalizing leg with
  | arrive leads foundConnector foundLane cut =>
    exact FoldsBehind.cons leg (polylineLength_nonneg _) nonneg (FoldsBehind.nil _)
  | pass leads foundConnector foundLane rest inductionHypothesis =>
    exact FoldsBehind.cons leg (polylineLength_nonneg _) (map.length_pos foundLane).le
      (inductionHypothesis _)

/-! ### The folded route -/

/-- A lane route has a leg for every lane of the planned route and a turn for every connector, each
between the legs around it, and loses nothing of the length. -/
structure FoldedFrom (route : Route α) (folded : LaneRoute α) : Prop where
  legs : folded.legs = legsOver route.segments
  turnCount : folded.turns.length = (connectorsOf route.segments).length
  turns : ∀ index turn, folded.turns[index]? = some turn → ∃ connector before after,
    (connectorsOf route.segments)[index]? = some connector ∧ folded.legs[index]? = some before ∧
      folded.legs[index + 1]? = some after ∧ TurnBetween connector before after turn
  total : folded.totalLengthM = route.totalLengthM
  length : ∃ first, folded.legs.head? = some first ∧
    first.lengthM + folded.tailLengthM 0 = folded.totalLengthM
  falls : ∀ index later, index ≤ later → folded.tailLengthM later ≤ folded.tailLengthM index
  atLast : folded.tailLengthM (folded.legs.length - 1) = 0

/-- Dropping more of a list of nonnegative numbers leaves a smaller sum. -/
theorem sum_drop_le_sum_drop {numbers : List α} (nonneg : ∀ number ∈ numbers, 0 ≤ number)
    {index later : ℕ} (before : index ≤ later) :
    (numbers.drop later).sum ≤ (numbers.drop index).sum := by
  obtain ⟨more, rfl⟩ := Nat.exists_eq_add_of_le before
  rw [← List.drop_drop, ← List.take_append_drop more (numbers.drop index), List.sum_append,
    List.take_append_drop]
  refine le_add_of_nonneg_left (List.sum_nonneg fun number member => ?_)
  exact nonneg number (List.mem_of_mem_drop (List.mem_of_mem_take member))

/-- A lane and what folds behind it fold into a lane route. -/
theorem fromRoute_of_foldsBehind {startId destId laneId : String} {lane : LaneSegment α}
    {points : Polyline α} {lengthM total : α} {segments : List (RouteSegment α)}
    (behind : FoldsBehind (Folding.legOf (laneStretch laneId lane points lengthM)) segments)
    (sum : total = ((laneStretch laneId lane points lengthM :: segments).map
      RouteSegment.lengthM).sum) :
    ∃ folded, LaneRoute.fromRoute
        ⟨startId, destId, laneStretch laneId lane points lengthM :: segments, total⟩ = .ok folded ∧
      FoldedFrom ⟨startId, destId, laneStretch laneId lane points lengthM :: segments, total⟩
        folded := by
  set first := Folding.legOf (laneStretch laneId lane points lengthM) with isFirst
  have legCount : (first :: legsOver segments).length = (connectorsOf segments).length + 1 :=
    congrArg (· + 1) behind.counts
  have turnCount := length_turnsBetween legCount
  have counts : (first :: legsOver segments).length =
      (turnsBetween (connectorsOf segments) (first :: legsOver segments)).length + 1 := by
    rw [turnCount, legCount]
  refine ⟨⟨first :: legsOver segments,
    turnsBetween (connectorsOf segments) (first :: legsOver segments), total, counts⟩, ?_, ?_⟩
  · have begun : Folding.step ⟨[], [], none⟩ (laneStretch laneId lane points lengthM) =
        .ok ⟨[first], [], none⟩ := rfl
    have run := behind.folds [] []
    rw [List.nil_append, List.nil_append, List.nil_append] at run
    unfold LaneRoute.fromRoute
    dsimp only
    rw [List.foldlM_cons, begun]
    refine bind_eq_ok.mpr ⟨_, run, ?_⟩
    dsimp only
    rw [if_neg (List.cons_ne_nil _ _), LaneRoute.make, if_neg (List.cons_ne_nil _ _),
      dif_pos counts]
  · have tail : ∀ index, LaneRoute.tailLengthM ⟨first :: legsOver segments,
        turnsBetween (connectorsOf segments) (first :: legsOver segments), total, counts⟩ index =
          ((((turnsBetween (connectorsOf segments) (first :: legsOver segments)).zip
            (legsOver segments)).map onwardLength).drop index).sum := by
      intro index
      rw [← List.map_drop]
      rfl
    refine ⟨rfl, turnCount, fun index turn found => turnBetween_of_turnsBetween found, rfl,
      ⟨first, rfl, ?_⟩, ?_, ?_⟩
    · rw [tail, List.drop_zero, behind.length, sum, List.map_cons, List.sum_cons]
      rfl
    · intro index later before
      rw [tail, tail]
      refine sum_drop_le_sum_drop (fun number member => ?_) before
      obtain ⟨pair, inPairs, rfl⟩ := List.mem_map.mp member
      exact behind.nonneg pair inPairs
    · rw [tail, List.drop_eq_nil_of_le, List.sum_nil]
      rw [List.length_map, List.length_zip, List.length_cons, Nat.add_sub_cancel]
      exact Nat.min_le_right _ _

/-- Every route the planner returns, outside its tolerance or by numbers, folds into a lane route
that loses nothing but the arcs of the connectors. -/
theorem returned_route_folds [LawfulHypot α] (map : ValidLaneMap α) (route : Route α)
    (returned : (∃ startId startS destId destS, OutsideTolerance startId startS destId destS ∧
        map.plan startId startS destId destS = .ok route) ∨
      ∃ numbers startS destS, map.planViaNumbers numbers startS destS = .ok route) :
    ∃ folded, LaneRoute.fromRoute route = .ok folded ∧ FoldedFrom route folded := by
  have known : ((∃ laneId lane points lengthM,
        route.segments = [laneStretch laneId lane points lengthM]) ∨
      ∃ startId startS destId destS, map.LeavesLane startId startS destId destS route) ∧
      route.totalLengthM = (route.segments.map RouteSegment.lengthM).sum := by
    rcases returned with ⟨startId, startS, destId, destS, outside, planned⟩ | ⟨_, _, _, planned⟩
    · obtain ⟨shape, sum⟩ := map.plan_returned planned outside
      exact ⟨shape.imp (fun stays => ⟨startId, stays⟩)
        fun leaves => ⟨startId, startS, destId, destS, leaves⟩, sum⟩
    · obtain ⟨leaves, sum⟩ := map.planViaNumbers_returned planned
      exact ⟨.inr leaves, sum⟩
  obtain ⟨shape, sum⟩ := known
  obtain ⟨startLaneId, destLaneId, segments, total⟩ := route
  rcases shape with ⟨laneId, lane, points, lengthM, stays⟩ |
    ⟨startId, startS, destId, destS, nonneg, start, points, rest, leaves, continues⟩
  · cases stays
    exact fromRoute_of_foldsBehind (FoldsBehind.nil _) sum
  · cases leaves
    exact fromRoute_of_foldsBehind (foldsBehind_of_continues map continues nonneg _) sum

/-- On the ring, from the end of a lane to its beginning: the first and the last leg are points. -/
theorem returned_route_folds_ring : ∃ route folded,
    ringMap.plan "east" 1 "east" 0 = .ok route ∧ LaneRoute.fromRoute route = .ok folded ∧
      FoldedFrom route folded := by
  have planned : (ringMap.plan "east" 1 "east" 0).toOption.isSome = true := by decide +kernel
  have outside : OutsideTolerance "east" (1 : ℚ) "east" 0 := by
    refine .inr ⟨fun near => ?_, fun inFront => lt_irrefl _ inFront.2⟩
    have small := near.2
    unfold tolerance at small
    norm_num at small
  obtain ⟨folded, done, keeps⟩ := returned_route_folds ringMap _
    (.inl ⟨"east", 1, "east", 0, outside, ok_returned planned⟩)
  exact ⟨_, folded, ok_returned planned, done, keeps⟩

end RcTaxi
