/-
This file is about the registered routes of the driving worker. A registered route is checked at the
start of the program by walking it with `from_lane_numbers`; a mission takes the part of it from its
own lane on, and `plan_via_numbers` plans that part. Every two numbers behind each other are linked
in the map, so every part of a registered route is linked too, and planning it cannot fail: the
start and the destination are clamped to their lanes before the lanes are cut there.

A part ends in the last lane of its route, and begins at the first place of the start lane in front
of it. So a route that passes its last lane on the way takes a car that is on that lane already.
-/

import RcTaxi.DrivingWorker
import RcTaxi.NumberedRoute

namespace RcTaxi

variable {α : Type} [Scalar α]

/-! ### Linked numbers -/

/-- The table of lanes is inverse to the table of numbers. -/
theorem idOfNum_of_numOfId {num : ℤ} {laneId : String} (known : numOfId laneId = some num) :
    idOfNum num = some laneId := by
  have inverse : ∀ entry ∈ num2Id.map Prod.swap, idOfNum entry.2 = some entry.1 := by decide
  exact inverse (laneId, num) (Dict.mem_of_lookup known)

/-- A successor of the lane of the first number leads into the lane of the second. -/
def LaneMap.Links (map : LaneMap α) (source target : ℤ) : Prop :=
  ∃ sourceId lane targetId dest link, idOfNum source = some sourceId ∧
    map.lanes.get? sourceId = some lane ∧ idOfNum target = some targetId ∧
    map.lanes.get? targetId = some dest ∧
    map.connectorTo targetId lane.successors = .ok (some link)

namespace LaneMap

variable {map : LaneMap α}

omit [Scalar α] in
/-- The connector that is found is a successor and leads to the target. -/
theorem connectorTo_leads {target connectorId : String} {connector : Connector α}
    {successors : List String}
    (linked : map.connectorTo target successors = .ok (some (connectorId, connector))) :
    connectorId ∈ successors ∧ map.connectors.get? connectorId = some connector ∧
      connector.successor = target := by
  induction successors with
  | nil => cases linked
  | cons candidate rest inductionHypothesis =>
    rw [connectorTo] at linked
    obtain ⟨found, isConnector, chosen⟩ := bind_eq_ok.mp linked
    split at chosen
    next leads =>
      cases chosen
      rw [LaneMap.connector] at isConnector
      split at isConnector
      next known =>
        cases isConnector
        exact ⟨List.mem_cons_self, known, leads⟩
      · cases isConnector
    · obtain ⟨member, known, leads⟩ := inductionHypothesis chosen
      exact ⟨List.mem_cons_of_mem _ member, known, leads⟩

omit [Scalar α] in
/-- What `laneOfNum` returns is a known number and a lane of the map. -/
theorem laneOfNum_ok {num : ℤ} {laneId : String} {lane : LaneSegment α}
    (returned : map.laneOfNum num = .ok (laneId, lane)) :
    idOfNum num = some laneId ∧ map.lanes.get? laneId = some lane := by
  unfold laneOfNum at returned
  split at returned
  · cases returned
  next known =>
    obtain ⟨_, isLane, same⟩ := bind_eq_ok.mp returned
    cases same
    rw [LaneMap.lane] at isLane
    split at isLane
    next found =>
      cases isLane
      exact ⟨known, found⟩
    · cases isLane

/-- The numbers that the direct walk passes are linked. -/
theorem links_of_numberedLegs {previousNum : ℤ} {leg : LaneLeg α} {rest : List ℤ}
    {walked : List (LaneLeg α) × List (Turn α) × α}
    (returned : map.numberedLegs previousNum leg rest = .ok walked) :
    (previousNum :: rest).IsChain map.Links := by
  induction rest generalizing previousNum leg walked with
  | nil => exact List.isChain_singleton _
  | cons num rest inductionHypothesis =>
    rw [numberedLegs] at returned
    obtain ⟨⟨laneId, lane⟩, isLane, behindLane⟩ := bind_eq_ok.mp returned
    obtain ⟨⟨previousId, previous⟩, isPrevious, behindPrevious⟩ := bind_eq_ok.mp behindLane
    obtain ⟨link, linked, behindLink⟩ := bind_eq_ok.mp behindPrevious
    cases link with
    | none => cases behindLink
    | some link =>
      obtain ⟨others, walkedOn, -⟩ := bind_eq_ok.mp behindLink
      obtain ⟨known, found⟩ := laneOfNum_ok isLane
      obtain ⟨knownPrevious, foundPrevious⟩ := laneOfNum_ok isPrevious
      exact List.isChain_cons_cons.mpr ⟨⟨previousId, previous, laneId, lane, link, knownPrevious,
        foundPrevious, known, found, linked⟩, inductionHypothesis walkedOn⟩

/-- The numbers of a route that passes the check of the start are linked. -/
theorem links_of_fromLaneNumbers {numbers : List ℤ} {route : LaneRoute α}
    (accepted : LaneRoute.fromLaneNumbers map numbers = .ok route) :
    numbers.IsChain map.Links := by
  unfold LaneRoute.fromLaneNumbers at accepted
  split at accepted
  · cases accepted
  · split at accepted
    · cases accepted
    · obtain ⟨⟨laneId, lane⟩, -, behindLane⟩ := bind_eq_ok.mp accepted
      obtain ⟨walked, returned, -⟩ := bind_eq_ok.mp behindLane
      exact links_of_numberedLegs returned

omit [Scalar α] in
/-- Each of two linked numbers or more is the number of a lane. -/
theorem known_of_links {first second : ℤ} {rest : List ℤ}
    (chain : (first :: second :: rest).IsChain map.Links) {num : ℤ}
    (member : num ∈ first :: second :: rest) :
    ∃ laneId lane, idOfNum num = some laneId ∧ map.lanes.get? laneId = some lane := by
  induction rest generalizing first second with
  | nil =>
    obtain ⟨sourceId, lane, targetId, dest, _, known, found, knownNext, foundNext, -⟩ :=
      (List.isChain_cons_cons.mp chain).1
    rcases List.mem_pair.mp member with rfl | rfl
    · exact ⟨sourceId, lane, known, found⟩
    · exact ⟨targetId, dest, knownNext, foundNext⟩
  | cons third rest inductionHypothesis =>
    obtain ⟨⟨sourceId, lane, _, _, _, known, found, -⟩, onward⟩ := List.isChain_cons_cons.mp chain
    rcases List.mem_cons.mp member with rfl | later
    · exact ⟨sourceId, lane, known, found⟩
    · exact inductionHypothesis onward later

end LaneMap

/-! ### Planning linked numbers -/

namespace ValidLaneMap

variable (map : ValidLaneMap α)

/-- Behind a lane, linked numbers are planned into segments that continue it up to the place of the
destination, clamped to its lane. -/
theorem numberedSegments_continues [LawfulHypot α] (destS : α) {previousNum destNum : ℤ}
    {previousId destId : String} {dest : LaneSegment α} {rest : List ℤ}
    (chain : (previousNum :: rest).IsChain map.Links) (ends : rest.getLast? = some destNum)
    (knownPrevious : idOfNum previousNum = some previousId)
    (knownDest : idOfNum destNum = some destId) (foundDest : map.lanes.get? destId = some dest) :
    ∃ segments length, map.numberedSegments destS previousNum rest = .ok (segments, length) ∧
      map.Continues destId (min (max 0 destS) dest.lengthM) previousId segments ∧
      length = (segments.map RouteSegment.lengthM).sum := by
  induction rest generalizing previousNum previousId with
  | nil => cases ends
  | cons num rest inductionHypothesis =>
    obtain ⟨link, onward⟩ := List.isChain_cons_cons.mp chain
    obtain ⟨sourceId, previous, laneId, lane, ⟨connectorId, connector⟩, knownSource, foundPrevious,
      known, found, linked⟩ := link
    cases knownPrevious.symm.trans knownSource
    obtain ⟨successor, foundConnector, leadsTo⟩ := LaneMap.connectorTo_leads linked
    have leads : map.Leads previousId connectorId laneId :=
      ⟨previous, connector, foundPrevious, successor, foundConnector, leadsTo⟩
    have isLane : map.lane laneId = .ok lane := by rw [LaneMap.lane, found]
    rw [LaneMap.numberedSegments, LaneMap.laneOfNum_eq knownPrevious foundPrevious, known]
    dsimp only [bind, Except.bind, pure, Except.pure]
    rw [linked]
    dsimp only
    rw [isLane]
    dsimp only
    cases rest with
    | nil =>
      cases ends
      cases known.symm.trans knownDest
      cases found.symm.trans foundDest
      have inside : 0 ≤ min (max 0 destS) dest.lengthM :=
        le_min (le_max_left 0 destS) (map.length_pos found).le
      obtain ⟨points, cut⟩ := exists_trim dest.centerline inside
      rw [List.isEmpty_nil, if_pos rfl, cut]
      refine ⟨_, _, rfl, LaneMap.Continues.arrive leads foundConnector found cut, ?_⟩
      simp only [List.map_cons, List.map_nil, List.sum_cons, List.sum_nil, connectorSegment,
        add_assoc]
    | cons next rest =>
      rw [List.getLast?_cons_cons] at ends
      obtain ⟨segments, length, planned, continues, total⟩ :=
        inductionHypothesis onward ends known
      rw [List.isEmpty_cons, if_neg Bool.false_ne_true, planned]
      refine ⟨_, _, rfl, LaneMap.Continues.pass leads foundConnector found continues, ?_⟩
      simp only [List.map_cons, List.sum_cons, connectorSegment, laneStretch, total, add_assoc]

/-- Linked numbers are planned: from the place on the first lane to the place on the last, each
clamped to its lane. -/
theorem planViaNumbers_travels [LawfulHypot α] {numbers : List ℤ} {startNum destNum : ℤ}
    {startId destId : String} (several : 2 ≤ numbers.length)
    (begins : numbers.head? = some startNum) (ends : numbers.getLast? = some destNum)
    (chain : numbers.IsChain map.Links)
    (knownStart : idOfNum startNum = some startId) (knownDest : idOfNum destNum = some destId)
    (startS destS : α) :
    ∃ start dest route, map.lanes.get? startId = some start ∧ map.lanes.get? destId = some dest ∧
      map.planViaNumbers numbers startS destS = .ok route ∧
      route.startLaneId = startId ∧ route.destinationLaneId = destId ∧
      map.Travels startId (min (max 0 startS) start.lengthM) destId
        (min (max 0 destS) dest.lengthM) route.segments ∧
      route.totalLengthM = (route.segments.map RouteSegment.lengthM).sum := by
  obtain _ | ⟨first, _ | ⟨second, rest⟩⟩ := numbers
  · exact absurd several (by decide)
  · exact absurd several (Nat.lt_irrefl 1)
  cases begins
  rw [List.getLast?_cons_cons] at ends
  have lanes : ∀ num ∈ startNum :: second :: rest,
      ∃ laneId lane, idOfNum num = some laneId ∧ map.lanes.get? laneId = some lane :=
    fun _ member => LaneMap.known_of_links chain member
  have allKnown : ¬ ((startNum :: second :: rest).any fun num => (idOfNum num).isNone) = true := by
    intro unknown
    obtain ⟨num, member, isNone⟩ := List.any_eq_true.mp unknown
    obtain ⟨laneId, lane, known, -⟩ := lanes num member
    rw [known] at isNone
    cases isNone
  obtain ⟨_, start, known, foundStart⟩ := lanes startNum List.mem_cons_self
  cases known.symm.trans knownStart
  obtain ⟨_, dest, known', foundDest⟩ :=
    lanes destNum (List.mem_cons_of_mem _ (List.mem_of_getLast? ends))
  cases known'.symm.trans knownDest
  obtain ⟨points, cut⟩ := exists_trim start.centerline (min_le_right (max 0 startS) start.lengthM)
  obtain ⟨segments, length, planned, continues, total⟩ :=
    map.numberedSegments_continues destS chain ends knownStart knownDest foundDest
  have last : (idOfNum ((second :: rest).getLastD second)).getD startId = destId := by
    rw [List.getLastD_eq_getLast?, ends, Option.getD_some, knownDest, Option.getD_some]
  refine ⟨start, dest, ⟨startId, destId, laneStretch startId start points
    (start.lengthM - min (max 0 startS) start.lengthM) :: segments,
    start.lengthM - min (max 0 startS) start.lengthM + length⟩, foundStart, foundDest, ?_, rfl, rfl,
    LaneMap.Travels.leave foundStart cut continues, ?_⟩
  · rw [LaneMap.planViaNumbers, if_neg allKnown, LaneMap.laneOfNum_eq knownStart foundStart]
    dsimp only [bind, Except.bind, pure, Except.pure]
    rw [cut]
    dsimp only
    rw [planned, last]
  · rw [List.map_cons, List.sum_cons, ← total]
    rfl

end ValidLaneMap

/-! ### The part of a registered route -/

section Suffix

variable {numbers : List ℤ} {start : ℤ}

/-- From the first place of a number in front of the last one, a list has two numbers or more. -/
theorem two_le_length_drop_idxOf (member : start ∈ numbers.dropLast) :
    2 ≤ (numbers.drop (numbers.idxOf start)).length := by
  have nonempty : numbers ≠ [] := by
    rintro rfl
    cases member
  have split := List.dropLast_concat_getLast nonempty
  have place : numbers.idxOf start < numbers.dropLast.length := by
    rw [← split, List.idxOf_append_of_mem member, split]
    exact List.idxOf_lt_length_iff.mpr member
  rw [List.length_dropLast] at place
  rw [List.length_drop]
  omega

/-- From the first place of a number on, a list begins with the number. -/
theorem head?_drop_idxOf (member : start ∈ numbers) :
    (numbers.drop (numbers.idxOf start)).head? = some start := by
  rw [List.head?_drop]
  exact List.getElem?_idxOf member

end Suffix

namespace DrivingWorker

variable (worker : DrivingWorker α)

/-- Every registered route has passed the check of the start. -/
def RoutesChecked : Prop :=
  ∀ route ∈ worker.forcedRoutes,
    ∃ laneRoute, LaneRoute.fromLaneNumbers worker.map.toLaneMap route.numbers = .ok laneRoute

/-- What is taken of the registered routes. -/
theorem forcedRoute_eq_some {startId destId : String} {numbers : List ℤ}
    (forced : worker.forcedRoute startId destId = some numbers) :
    ∃ start dest, numOfId startId = some start ∧ numOfId destId = some dest ∧
      ∃ route ∈ worker.forcedRoutes, route.numbers.getLast? = some dest ∧
        start ∈ route.numbers.dropLast ∧
        numbers = route.numbers.drop (route.numbers.idxOf start) := by
  unfold forcedRoute at forced
  obtain ⟨start, knownStart, behindStart⟩ := Option.bind_eq_some_iff.mp forced
  obtain ⟨dest, knownDest, behindDest⟩ := Option.bind_eq_some_iff.mp behindStart
  obtain ⟨route, found, taken⟩ := Option.bind_eq_some_iff.mp behindDest
  cases taken
  have chosen := List.find?_some found
  obtain ⟨ends, passes⟩ := of_decide_eq_true chosen
  exact ⟨start, dest, knownStart, knownDest, route, List.mem_of_find?_eq_some found, ends, passes,
    rfl⟩

/-- The part of a registered route that a mission takes has two numbers or more, is the end of the
route, and leads from the start lane to the destination lane; and planning it returns a connected
route between the two places, clamped to their lanes, that is as long as its segments. -/
theorem forced_route_is_planned [LawfulHypot α] (worker : DrivingWorker α)
    (checked : worker.RoutesChecked) {startId destId : String} {numbers : List ℤ}
    (forced : worker.forcedRoute startId destId = some numbers) (startS destS : α) :
    2 ≤ numbers.length ∧ (∃ route ∈ worker.forcedRoutes, numbers <:+ route.numbers) ∧
      (∃ num, numOfId startId = some num ∧ numbers.head? = some num) ∧
      (∃ num, numOfId destId = some num ∧ numbers.getLast? = some num) ∧
      ∃ start dest route, worker.map.lanes.get? startId = some start ∧
        worker.map.lanes.get? destId = some dest ∧
        worker.map.planViaNumbers numbers startS destS = .ok route ∧
        route.startLaneId = startId ∧ route.destinationLaneId = destId ∧
        worker.map.Travels startId (min (max 0 startS) start.lengthM) destId
          (min (max 0 destS) dest.lengthM) route.segments ∧
        route.totalLengthM = (route.segments.map RouteSegment.lengthM).sum := by
  obtain ⟨start, dest, knownStart, knownDest, route, registered, ends, passes, rfl⟩ :=
    worker.forcedRoute_eq_some forced
  have several := two_le_length_drop_idxOf passes
  have suffix := List.drop_suffix (route.numbers.idxOf start) route.numbers
  have begins := head?_drop_idxOf (List.dropLast_subset _ passes)
  have last : (route.numbers.drop (route.numbers.idxOf start)).getLast? = some dest := by
    rw [List.getLast?_drop, if_neg, ends]
    intro short
    rw [List.drop_eq_nil_of_le short] at several
    cases several
  obtain ⟨laneRoute, accepted⟩ := checked route registered
  have chain := (LaneMap.links_of_fromLaneNumbers accepted).suffix suffix
  exact ⟨several, ⟨route, registered, suffix⟩, ⟨start, knownStart, begins⟩, ⟨dest, knownDest, last⟩,
    worker.map.planViaNumbers_travels several begins last chain (idOfNum_of_numOfId knownStart)
      (idOfNum_of_numOfId knownDest) startS destS⟩

/-! ### Calls to the lane the car is on -/

/-- From a place on a lane to a place on the same lane no registered route is taken, so that the
route is the planner's, and ahead on the lane the single stretch between the two places. -/
structure LeavesToPlanner (laneId : String) : Prop where
  unforced : worker.forcedRoute laneId laneId = none
  planned : ∀ found stop startS, worker.startOf found = .ok (laneId, startS) →
    stop.laneId = laneId →
      worker.routeTo found stop = worker.map.plan laneId startS laneId stop.progressS
  direct : ∀ found stop startS lane, worker.startOf found = .ok (laneId, startS) →
    stop.laneId = laneId → worker.map.lanes.get? laneId = some lane → startS ≤ stop.progressS →
      ∃ points, worker.routeTo found stop =
        .ok ⟨laneId, laneId, [laneStretch laneId lane points (stop.progressS - startS)],
          stop.progressS - startS⟩

/-- No registered route takes a car from a lane to itself exactly if none that ends in the lane has
passed it before. -/
theorem forcedRoute_self_eq_none_iff (laneId : String) :
    worker.forcedRoute laneId laneId = none ↔
      ∀ num, numOfId laneId = some num → ∀ route ∈ worker.forcedRoutes,
        route.numbers.getLast? = some num → num ∉ route.numbers.dropLast := by
  constructor
  · intro unforced num known route registered ends passes
    unfold forcedRoute at unforced
    rw [known] at unforced
    cases found : worker.forcedRoutes.find? fun route =>
        route.numbers.getLast? = some num ∧ num ∈ route.numbers.dropLast with
    | none =>
      exact List.find?_eq_none.mp found route registered (decide_eq_true ⟨ends, passes⟩)
    | some route =>
      dsimp only [bind, Option.bind] at unforced
      rw [found] at unforced
      cases unforced
  · intro unpassed
    cases forced : worker.forcedRoute laneId laneId with
    | none => rfl
    | some numbers =>
      obtain ⟨start, dest, knownStart, knownDest, route, registered, ends, passes, -⟩ :=
        worker.forcedRoute_eq_some forced
      cases knownStart.symm.trans knownDest
      exact absurd passes (unpassed start knownStart route registered ends)

/-- Ahead on one lane the planner returns a single stretch. -/
theorem plan_ahead (map : ValidLaneMap α) {laneId : String} {startS destS : α}
    {lane : LaneSegment α} (found : map.lanes.get? laneId = some lane) (ahead : startS ≤ destS) :
    ∃ points, map.plan laneId startS laneId destS =
      .ok ⟨laneId, laneId, [laneStretch laneId lane points (destS - startS)], destS - startS⟩ := by
  obtain ⟨points, cut⟩ := exists_trim lane.centerline ahead
  have near : startS - tolerance ≤ destS := (sub_le_self _ tolerance_pos.le).trans ahead
  refine ⟨points, ?_⟩
  rw [LaneMap.plan, found]
  dsimp only
  rw [if_pos ⟨rfl, near⟩, cut, max_eq_right (sub_nonneg.mpr ahead)]
  rfl

/-- A call to the lane the car is on is left to the planner exactly if no registered route that ends
in the lane has passed it before. -/
theorem leaves_to_planner_iff (laneId : String) :
    worker.LeavesToPlanner laneId ↔
      ∀ num, numOfId laneId = some num → ∀ route ∈ worker.forcedRoutes,
        route.numbers.getLast? = some num → num ∉ route.numbers.dropLast := by
  rw [← worker.forcedRoute_self_eq_none_iff laneId]
  refine ⟨LeavesToPlanner.unforced, fun unforced => ?_⟩
  have planned : ∀ found stop startS, worker.startOf found = .ok (laneId, startS) →
      stop.laneId = laneId →
        worker.routeTo found stop = worker.map.plan laneId startS laneId stop.progressS := by
    intro found stop startS started same
    rw [routeTo, started, same]
    dsimp only [bind, Except.bind]
    rw [unforced]
  refine ⟨unforced, planned, fun found stop startS lane started same foundLane ahead => ?_⟩
  rw [planned found stop startS started same]
  exact plan_ahead worker.map foundLane ahead

/-! ### A lap on the square of two lanes -/

def numberedRingMap : ValidLaneMap ℚ :=
  returned (LaneMap.fromDict numberedRingData) (by decide +kernel)

def numberedRingResolver : DestinationResolver ℚ :=
  returned (DestinationResolver.new numberedRingMap.toLaneMap) (by decide +kernel)

/-- The registered route drives around the square from the lane 3 to the lane 3. -/
def lapRoute : ForcedRoute := ⟨[3, 1, 3], by decide⟩

def lapWorker : DrivingWorker ℚ :=
  { ringWorker with
    map := numberedRingMap
    resolver := numberedRingResolver
    forcedRoutes := [lapRoute] }

theorem lapWorker_checked : lapWorker.RoutesChecked := by
  intro route registered
  cases List.mem_singleton.mp registered
  have accepted : (LaneRoute.fromLaneNumbers lapWorker.map.toLaneMap
      lapRoute.numbers).toOption.isSome = true := by decide +kernel
  exact ⟨_, ok_returned accepted⟩

theorem lapWorker_forces :
    lapWorker.forcedRoute "top_inner_eb_w" "top_inner_eb_w" = some [3, 1, 3] := by decide +kernel

theorem forced_route_is_planned_lap : ∃ start dest route,
    lapWorker.map.lanes.get? "top_inner_eb_w" = some start ∧
      lapWorker.map.lanes.get? "top_inner_eb_w" = some dest ∧
      lapWorker.map.planViaNumbers [3, 1, 3] (-1) 5 = .ok route ∧
      lapWorker.map.Travels "top_inner_eb_w" (min (max 0 (-1)) start.lengthM) "top_inner_eb_w"
        (min (max 0 5) dest.lengthM) route.segments := by
  obtain ⟨-, -, -, -, start, dest, route, foundStart, foundDest, planned, -, -, travels, -⟩ :=
    forced_route_is_planned lapWorker lapWorker_checked lapWorker_forces (-1) 5
  exact ⟨start, dest, route, foundStart, foundDest, planned, travels⟩

/-- Called half a meter ahead on its own lane, the car drives the whole lap. -/
theorem forced_lap : lapWorker.RoutesChecked ∧
    ((lapWorker.planned ⟨5 / 4, 1, 0, 1, 1⟩ ⟨7 / 4, 1, .pickup, 0⟩).toOption.bind fun planned =>
      planned.bind fun state => state.follower.route.map LaneRoute.totalLengthM) = some (9 / 2) ∧
    ¬ lapWorker.LeavesToPlanner "top_inner_eb_w" := by
  refine ⟨lapWorker_checked, by decide +kernel, fun leaves => ?_⟩
  have forces := lapWorker_forces
  rw [leaves.unforced] at forces
  cases forces

end DrivingWorker

end RcTaxi
