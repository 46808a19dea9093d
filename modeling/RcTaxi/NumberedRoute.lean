/-
This file compares the two ways of building a route from lane numbers.
`RoutePlanner.plan_via_numbers` plans segments, with the connectors as segments of their own and the
first and last lane cut to where the drive begins and ends, and `from_route` folds them;
`from_lane_numbers` walks the map directly. Driving uses the first and the validation at the start
of the program the second.

Over whole lanes both give the same route, or both raise. Cutting a polyline to its whole length
leaves it as it is if its vertices are farther apart than the tolerance of the cut; a number that
was turned into a lane is found again in the inverse table; and what is folded so far ends in the
leg the direct walk comes from.
-/

import RcTaxi.ArcLength
import RcTaxi.LaneRoute

namespace RcTaxi

variable {α : Type} [Scalar α]

/-! ### Cutting nothing off -/

/-- Consecutive vertices are farther apart than the tolerance of `trim`. -/
def Polyline.Apart (line : Polyline α) : Prop :=
  ∀ pair ∈ line.pairs, tolerance < segmentLength pair.1 pair.2

namespace Polyline

omit [Scalar α] in
theorem pairs_cons (first next : Point α) (rest : List (Point α)) :
    pairs ⟨first, next :: rest⟩ = (first, next) :: pairs ⟨next, rest⟩ := rfl

omit [Scalar α] in
theorem last_cons (first next : Point α) (rest : List (Point α)) :
    last ⟨first, next :: rest⟩ = last ⟨next, rest⟩ := List.getLastD_cons

theorem length_cons (first next : Point α) (rest : List (Point α)) :
    polylineLength ⟨first, next :: rest⟩ =
      segmentLength first next + polylineLength ⟨next, rest⟩ := rfl

theorem Apart.head {first next : Point α} {rest : List (Point α)}
    (apart : Apart ⟨first, next :: rest⟩) : tolerance < segmentLength first next :=
  apart (first, next) List.mem_cons_self

theorem Apart.tail {first next : Point α} {rest : List (Point α)}
    (apart : Apart ⟨first, next :: rest⟩) : Apart ⟨next, rest⟩ :=
  fun pair member => apart pair (List.mem_cons_of_mem _ member)

/-- The length of a polyline is not negative. -/
theorem Apart.length_nonneg {line : Polyline α} (apart : line.Apart) : 0 ≤ polylineLength line := by
  refine List.sum_nonneg fun length member => ?_
  obtain ⟨pair, inPairs, rfl⟩ := List.mem_map.mp member
  exact (tolerance_pos.trans (apart pair inPairs)).le

/-- A polyline of two points or more is longer than the tolerance. -/
theorem Apart.tolerance_lt {first next : Point α} {rest : List (Point α)}
    (apart : Apart ⟨first, next :: rest⟩) : tolerance < polylineLength ⟨first, next :: rest⟩ := by
  have head := apart.head
  have behind := apart.tail.length_nonneg
  rw [length_cons]
  linarith only [head, behind]

end Polyline

/-- From inside the polyline on, every vertex but the last is kept. -/
theorem trimLoop_inside {first last : Point α} {rest : List (Point α)} {acc s : α}
    (apart : Polyline.Apart ⟨first, rest⟩) (inside : 0 < acc)
    (whole : s = acc + polylineLength ⟨first, rest⟩) (away : tolerance < segmentLength last first) :
    trimLoop 0 s (Polyline.pairs ⟨first, rest⟩) acc last = (first :: rest).dropLast := by
  induction rest generalizing first last acc with
  | nil => rfl
  | cons next rest inductionHypothesis =>
    have longer := tolerance_pos.trans apart.tolerance_lt
    have before : acc < s := by
      rw [whole]
      linarith only [longer]
    have step := tolerance_pos.trans apart.head
    rw [Polyline.pairs_cons, trimLoop]
    rw [if_pos ⟨⟨inside, before⟩, away⟩, List.dropLast_cons_cons]
    refine congrArg _ (inductionHypothesis apart.tail (add_pos inside step) ?_ apart.head)
    rw [whole, Polyline.length_cons, add_assoc]

/-- From the start of the polyline, every vertex between the first and the last is kept. -/
theorem trimLoop_whole {first next : Point α} {rest : List (Point α)}
    (apart : Polyline.Apart ⟨first, next :: rest⟩) :
    trimLoop 0 (polylineLength ⟨first, next :: rest⟩) (Polyline.pairs ⟨first, next :: rest⟩) 0
      first = (next :: rest).dropLast := by
  have step := tolerance_pos.trans apart.head
  rw [Polyline.pairs_cons, trimLoop]
  rw [if_neg fun kept => lt_irrefl _ kept.1.1, zero_add]
  exact trimLoop_inside apart.tail step rfl apart.head

/-- The vertex before the last one is farther away from it than the tolerance. -/
theorem Polyline.Apart.final {first next : Point α} {rest : List (Point α)}
    (apart : Polyline.Apart ⟨first, next :: rest⟩) :
    tolerance < segmentLength ((next :: rest).dropLast.getLastD first)
      (Polyline.last ⟨first, next :: rest⟩) := by
  induction rest generalizing first next with
  | nil => exact apart.head
  | cons second rest inductionHypothesis =>
    rw [List.dropLast_cons_cons, List.getLastD_cons, Polyline.last_cons]
    exact inductionHypothesis apart.tail

/-- `trim` to the whole length leaves a polyline as it is. -/
theorem trim_whole [LawfulHypot α] {line : Polyline α} (apart : line.Apart)
    (long : 0 < polylineLength line) : trim line 0 (polylineLength line) = .ok line := by
  obtain ⟨first, rest⟩ := line
  cases rest with
  | nil => exact absurd long (lt_irrefl _)
  | cons next rest =>
    have longer := apart.tolerance_lt
    have final := apart.final
    unfold segmentLength at final
    have small : (0 : α) < tolerance := tolerance_pos
    have notReversed : ¬ polylineLength ⟨first, next :: rest⟩ + tolerance < 0 := by
      linarith only [longer, small]
    have start : pointAt ⟨first, next :: rest⟩ (0 : α) = first := if_pos le_rfl
    have finish : pointAt ⟨first, next :: rest⟩ (polylineLength ⟨first, next :: rest⟩) =
        Polyline.last ⟨first, next :: rest⟩ :=
      pointAt_end _ (List.append_nil _).symm (Polyline.leadsTo _)
    rw [trim, if_neg notReversed, start, finish]
    dsimp only
    rw [sub_zero, if_neg (not_le.mpr longer), trimLoop_whole apart, if_pos final]
    have glued : (next :: rest).dropLast ++ [Polyline.last ⟨first, next :: rest⟩] = next :: rest := by
      have isLast : Polyline.last ⟨first, next :: rest⟩ =
          (next :: rest).getLast (List.cons_ne_nil _ _) := by
        rw [Polyline.last_cons, List.getLast_eq_getLastD]
        rfl
      rw [isLast]
      exact List.dropLast_concat_getLast _
    rw [glued]

/-! ### Numbers and lanes -/

/-- The two tables of numbers are inverse to each other. -/
theorem numOfId_of_idOfNum {num : ℤ} {laneId : String} (known : idOfNum num = some laneId) :
    numOfId laneId = some num := by
  have inverse : ∀ entry ∈ num2Id, numOfId entry.2 = some entry.1 := by decide
  exact inverse (num, laneId) (Dict.mem_of_lookup known)

/-- The number is that of a lane of the map, whose vertices are apart. -/
def LaneMap.Numbered (map : LaneMap α) (num : ℤ) : Prop :=
  ∃ laneId lane, idOfNum num = some laneId ∧ map.lanes.get? laneId = some lane ∧
    lane.centerline.Apart

omit [Scalar α] in
theorem LaneMap.laneOfNum_eq {map : LaneMap α} {num : ℤ} {laneId : String} {lane : LaneSegment α}
    (known : idOfNum num = some laneId) (found : map.lanes.get? laneId = some lane) :
    map.laneOfNum num = .ok (laneId, lane) := by
  rw [laneOfNum, known]
  dsimp only
  rw [LaneMap.lane, found]
  rfl

/-! ### Folding what was planned -/

/-- Behind a leg, folding the segments adds the legs and the turns. -/
def Folds (leg : LaneLeg α) (segments : List (RouteSegment α)) (legs : List (LaneLeg α))
    (turns : List (Turn α)) : Prop :=
  ∀ front before, segments.foldlM Folding.step ⟨front ++ [leg], before, none⟩ =
    .ok ⟨front ++ leg :: legs, before ++ turns, none⟩

omit [Scalar α] in
theorem Folds.nil (leg : LaneLeg α) : Folds leg [] [] [] := by
  intro front before
  rw [List.append_nil]
  rfl

/-- A connector and a lane fold into a turn and a leg. -/
theorem Folds.cons (leg : LaneLeg α) (connectorId : String) (connector : Connector α)
    {laneId : String} {lane : LaneSegment α} {points : Polyline α} {lengthM : α}
    {segments : List (RouteSegment α)} {legs : List (LaneLeg α)} {turns : List (Turn α)}
    (behind : Folds (Folding.legOf (laneStretch laneId lane points lengthM)) segments legs turns) :
    Folds leg
      (connectorSegment connectorId connector :: laneStretch laneId lane points lengthM :: segments)
      (Folding.legOf (laneStretch laneId lane points lengthM) :: legs)
      (Folding.turnOf (connectorSegment connectorId connector) leg
        (Folding.legOf (laneStretch laneId lane points lengthM)) :: turns) := by
  intro front before
  have folded : Folding.step ⟨front ++ [leg], before, some (connectorSegment connectorId connector)⟩
      (laneStretch laneId lane points lengthM) =
        .ok ⟨front ++ [leg] ++ [Folding.legOf (laneStretch laneId lane points lengthM)],
          before ++ [Folding.turnOf (connectorSegment connectorId connector) leg
            (Folding.legOf (laneStretch laneId lane points lengthM))], none⟩ := by
    rw [Folding.step]
    dsimp only [laneStretch]
    rw [List.getLast?_concat]
  rw [List.foldlM_cons]
  refine bind_eq_ok.mpr ⟨_, rfl, ?_⟩
  rw [List.foldlM_cons]
  refine bind_eq_ok.mpr ⟨_, folded, (behind _ _).trans ?_⟩
  rw [List.append_assoc, List.append_assoc]
  rfl

/-! ### The two walks -/

/-- The leg over the whole lane of a number. -/
def wholeLeg (num : ℤ) (laneId : String) (lane : LaneSegment α) : LaneLeg α :=
  ⟨laneId, some num, lane.centerline, lane.speedLimitMps, lane.lengthM⟩

/-- The planned segment over a whole lane. -/
def wholeStretch (laneId : String) (lane : LaneSegment α) : RouteSegment α :=
  laneStretch laneId lane lane.centerline lane.lengthM

/-- The leg over the segment of a whole lane. -/
theorem legOf_wholeStretch {num : ℤ} {laneId : String} {lane : LaneSegment α}
    (known : idOfNum num = some laneId) (long : 0 < lane.lengthM) :
    Folding.legOf (wholeStretch laneId lane) = wholeLeg num laneId lane := by
  have severalPoints : lane.centerline.rest.isEmpty ≠ true := by
    intro empty
    have single : polylineLength lane.centerline = 0 := by
      unfold polylineLength Polyline.pairs
      rw [List.isEmpty_iff.mp empty, List.zip_nil_right]
      rfl
    exact absurd single long.ne'
  unfold Folding.legOf wholeStretch laneStretch
  dsimp only
  rw [if_neg severalPoints, numOfId_of_idOfNum known]
  rfl

section Walks

variable {map : LaneMap α} {previousNum num : ℤ} {previousId laneId : String}
  {previous lane : LaneSegment α} {rest : List ℤ} {destS : α}

/-- One lane on in the direct walk. -/
theorem numberedLegs_linked {connectorId : String} {connector : Connector α}
    (known : idOfNum previousNum = some previousId)
    (found : map.lanes.get? previousId = some previous) (knownNum : idOfNum num = some laneId)
    (foundLane : map.lanes.get? laneId = some lane)
    (linked : map.connectorTo laneId previous.successors = .ok (some (connectorId, connector))) :
    map.numberedLegs previousNum (wholeLeg previousNum previousId previous) (num :: rest) =
      (map.numberedLegs num (wholeLeg num laneId lane) rest).map fun behind =>
        (wholeLeg num laneId lane :: behind.1,
          Folding.turnOf (connectorSegment connectorId connector)
            (wholeLeg previousNum previousId previous) (wholeLeg num laneId lane) :: behind.2.1,
          lane.lengthM + connector.lengthM + behind.2.2) := by
  rw [LaneMap.numberedLegs, LaneMap.laneOfNum_eq knownNum foundLane,
    LaneMap.laneOfNum_eq known found]
  dsimp only [bind, Except.bind]
  rw [linked]
  dsimp only [wholeLeg]
  cases map.numberedLegs num
      ⟨laneId, some num, lane.centerline, lane.speedLimitMps, lane.lengthM⟩ rest with
  | error error => rfl
  | ok behind => rfl

/-- The last lane is cut where it ends. -/
theorem lastStretch_whole [LawfulHypot α] (foundLane : lane.centerline.Apart)
    (long : 0 < lane.lengthM) (whole : destS = lane.lengthM) :
    trim lane.centerline 0 (min (max 0 destS) lane.lengthM) = .ok lane.centerline := by
  rw [whole, max_eq_right long.le, min_self]
  exact trim_whole foundLane long

/-- One lane on in the planned route. -/
theorem numberedSegments_linked [LawfulHypot α] {connectorId : String} {connector : Connector α}
    (known : idOfNum previousNum = some previousId)
    (found : map.lanes.get? previousId = some previous) (knownNum : idOfNum num = some laneId)
    (foundLane : map.lanes.get? laneId = some lane) (apart : lane.centerline.Apart)
    (long : 0 < lane.lengthM) (whole : rest = [] → destS = lane.lengthM)
    (linked : map.connectorTo laneId previous.successors = .ok (some (connectorId, connector))) :
    map.numberedSegments destS previousNum (num :: rest) =
      (map.numberedSegments destS num rest).map fun behind =>
        (connectorSegment connectorId connector :: wholeStretch laneId lane :: behind.1,
          connector.lengthM + lane.lengthM + behind.2) := by
  have isLane : map.lane laneId = .ok lane := by
    rw [LaneMap.lane, foundLane]
  rw [LaneMap.numberedSegments, LaneMap.laneOfNum_eq known found, knownNum]
  dsimp only [bind, Except.bind, pure, Except.pure]
  rw [linked]
  dsimp only
  rw [isLane]
  dsimp only
  split
  next atEnd =>
    have cut := whole (List.isEmpty_iff.mp atEnd)
    rw [lastStretch_whole apart long cut, cut, max_eq_right long.le, min_self]
    cases map.numberedSegments lane.lengthM num rest with
    | error error => rfl
    | ok behind => rfl
  · cases map.numberedSegments destS num rest with
    | error error => rfl
    | ok behind => rfl

/-- Without a connector both walks raise. -/
theorem numbered_unlinked (known : idOfNum previousNum = some previousId)
    (found : map.lanes.get? previousId = some previous) (knownNum : idOfNum num = some laneId)
    (foundLane : map.lanes.get? laneId = some lane) (leg : LaneLeg α)
    (unlinked : ∀ link, map.connectorTo laneId previous.successors ≠ .ok (some link)) :
    (∃ error, map.numberedLegs previousNum leg (num :: rest) = .error error) ∧
      ∃ error, map.numberedSegments destS previousNum (num :: rest) = .error error := by
  rw [LaneMap.numberedLegs, LaneMap.numberedSegments, LaneMap.laneOfNum_eq knownNum foundLane,
    LaneMap.laneOfNum_eq known found, knownNum]
  dsimp only [bind, Except.bind, pure, Except.pure]
  cases linked : map.connectorTo laneId previous.successors with
  | error error => exact ⟨⟨_, rfl⟩, _, rfl⟩
  | ok link => cases link with
    | none => exact ⟨⟨_, rfl⟩, _, rfl⟩
    | some link => exact absurd linked (unlinked link)

end Walks

/-- The direct walk and the planned segments both raise, or they have the same length and the
segments fold into the legs and turns. -/
def Agree (leg : LaneLeg α) : Except PyError (List (LaneLeg α) × List (Turn α) × α) →
    Except PyError (List (RouteSegment α) × α) → Prop
  | .ok (legs, turns, length), .ok (segments, length') =>
    length = length' ∧ Folds leg segments legs turns
  | .error _, .error _ => True
  | _, _ => False

/-- From one lane of the list to the next, and so on to its end. -/
theorem numbered_agree [LawfulHypot α] (map : ValidLaneMap α) {previousNum : ℤ} {previousId : String}
    {previous : LaneSegment α} {rest : List ℤ} (destS : α)
    (known : idOfNum previousNum = some previousId)
    (found : map.lanes.get? previousId = some previous)
    (numbered : ∀ num ∈ rest, map.Numbered num)
    (whole : ∀ num ∈ rest.getLast?, ∀ laneId lane, idOfNum num = some laneId →
      map.lanes.get? laneId = some lane → destS = lane.lengthM) :
    Agree (wholeLeg previousNum previousId previous)
      (map.numberedLegs previousNum (wholeLeg previousNum previousId previous) rest)
      (map.numberedSegments destS previousNum rest) := by
  induction rest generalizing previousNum previousId previous with
  | nil => exact ⟨rfl, Folds.nil _⟩
  | cons num rest inductionHypothesis =>
    obtain ⟨laneId, lane, knownNum, foundLane, apart⟩ := numbered num List.mem_cons_self
    have long : 0 < lane.lengthM := map.length_pos foundLane
    have onward := inductionHypothesis knownNum foundLane
      (fun other member => numbered other (List.mem_cons_of_mem _ member))
      (fun other isLast => whole other (by
        rw [List.getLast?_cons, Option.mem_def.mp isLast]
        rfl))
    by_cases linked : ∃ link, map.connectorTo laneId previous.successors = .ok (some link)
    · obtain ⟨⟨connectorId, connector⟩, linked⟩ := linked
      rw [numberedLegs_linked known found knownNum foundLane linked,
        numberedSegments_linked known found knownNum foundLane apart long
          (fun atEnd => whole num (by rw [atEnd]; rfl) laneId lane knownNum foundLane) linked]
      cases legs : map.numberedLegs num (wholeLeg num laneId lane) rest with
      | error error => cases segments : map.numberedSegments destS num rest with
        | error error' => exact trivial
        | ok planned =>
          rw [legs, segments] at onward
          exact onward.elim
      | ok behind => cases segments : map.numberedSegments destS num rest with
        | error error' =>
          rw [legs, segments] at onward
          exact onward.elim
        | ok planned =>
          rw [legs, segments] at onward
          obtain ⟨sameLength, folds⟩ := onward
          have isWhole := legOf_wholeStretch knownNum long
          refine ⟨?_, ?_⟩
          · rw [sameLength, add_comm lane.lengthM connector.lengthM]
          · rw [← isWhole] at folds ⊢
            exact Folds.cons _ connectorId connector folds
    · obtain ⟨⟨error, legs⟩, error', segments⟩ := numbered_unlinked known found knownNum foundLane
        (wholeLeg previousNum previousId previous) (fun link same => linked ⟨link, same⟩)
      rw [legs, segments]
      exact trivial

/-! ### The two routes -/

/-- Folding a first lane and what follows it. -/
theorem fromRoute_whole {num : ℤ} {laneId : String} {lane : LaneSegment α}
    {segments : List (RouteSegment α)} {legs : List (LaneLeg α)} {turns : List (Turn α)}
    (destId : String) (total : α)
    (known : idOfNum num = some laneId) (long : 0 < lane.lengthM)
    (folds : Folds (wholeLeg num laneId lane) segments legs turns) :
    LaneRoute.fromRoute ⟨laneId, destId, wholeStretch laneId lane :: segments, total⟩ =
      LaneRoute.make (wholeLeg num laneId lane :: legs) turns total := by
  have first : Folding.step ⟨[], [], none⟩ (wholeStretch laneId lane) =
      .ok ⟨[wholeLeg num laneId lane], [], none⟩ := by
    rw [← legOf_wholeStretch known long]
    rfl
  unfold LaneRoute.fromRoute
  dsimp only
  rw [List.foldlM_cons, first]
  dsimp only [bind, Except.bind]
  rw [show List.foldlM Folding.step ⟨[wholeLeg num laneId lane], [], none⟩ segments = _ from
    folds [] []]
  exact if_neg (List.cons_ne_nil _ _)

/-- The planned route of whole lanes starts with the first lane. -/
theorem planViaNumbers_whole [LawfulHypot α] {map : ValidLaneMap α} {first second : ℤ}
    {rest : List ℤ} {laneId : String} {lane : LaneSegment α} (destS : α)
    (known : idOfNum first = some laneId) (found : map.lanes.get? laneId = some lane)
    (apart : lane.centerline.Apart)
    (allKnown : ¬ ((first :: second :: rest).any fun num => (idOfNum num).isNone) = true) :
    ∃ destId, map.planViaNumbers (first :: second :: rest) 0 destS =
      (map.numberedSegments destS first (second :: rest)).map fun behind =>
        ⟨laneId, destId, wholeStretch laneId lane :: behind.1, lane.lengthM + behind.2⟩ := by
  have long : 0 < lane.lengthM := map.length_pos found
  have cut : trim lane.centerline 0 lane.lengthM = .ok lane.centerline := trim_whole apart long
  refine ⟨(idOfNum ((second :: rest).getLastD second)).getD laneId, ?_⟩
  rw [LaneMap.planViaNumbers, if_neg allKnown, LaneMap.laneOfNum_eq known found]
  dsimp only [bind, Except.bind, pure, Except.pure]
  rw [max_self, min_eq_left long.le, cut, sub_zero]
  cases map.numberedSegments destS first (second :: rest) with
  | error error => rfl
  | ok behind => rfl

/-- The direct route starts with the first lane. -/
theorem fromLaneNumbers_cons {map : LaneMap α} {first : ℤ} {rest : List ℤ} {laneId : String}
    {lane : LaneSegment α} (known : idOfNum first = some laneId)
    (found : map.lanes.get? laneId = some lane)
    (allKnown : ¬ ((first :: rest).any fun num => (idOfNum num).isNone) = true) :
    LaneRoute.fromLaneNumbers map (first :: rest) =
      (map.numberedLegs first (wholeLeg first laneId lane) rest >>= fun behind =>
        LaneRoute.make (wholeLeg first laneId lane :: behind.1) behind.2.1
          (lane.lengthM + behind.2.2)) := by
  rw [LaneRoute.fromLaneNumbers, if_neg allKnown, LaneMap.laneOfNum_eq known found]
  rfl

/-- Over whole lanes, planning the numbers and folding the plan gives a route exactly if the direct
walk gives it: both raise, or both return the same legs, turns and length. -/
theorem plan_via_numbers_iff_from_lane_numbers [LawfulHypot α] (map : ValidLaneMap α)
    (numbers : List ℤ) (destS : α) (several : 2 ≤ numbers.length)
    (lanes : ∀ num ∈ numbers, ∀ laneId, idOfNum num = some laneId →
      ∃ lane, map.lanes.get? laneId = some lane ∧ lane.centerline.Apart)
    (whole : ∀ num ∈ numbers.getLast?, ∀ laneId lane, idOfNum num = some laneId →
      map.lanes.get? laneId = some lane → destS = lane.lengthM) (route : LaneRoute α) :
    (map.planViaNumbers numbers 0 destS >>= LaneRoute.fromRoute) = .ok route ↔
      LaneRoute.fromLaneNumbers map.toLaneMap numbers = .ok route := by
  obtain _ | ⟨first, _ | ⟨second, rest⟩⟩ := numbers
  · exact absurd several (by decide)
  · exact absurd several (Nat.lt_irrefl 1)
  by_cases unknown : ((first :: second :: rest).any fun num => (idOfNum num).isNone) = true
  · rw [LaneMap.planViaNumbers, LaneRoute.fromLaneNumbers, if_pos unknown, if_pos unknown]
    exact iff_of_false (fun raised => (nomatch raised)) fun raised => (nomatch raised)
  have numbered : ∀ num ∈ first :: second :: rest, map.Numbered num := by
    intro num member
    cases known : idOfNum num with
    | none =>
      refine absurd (List.any_eq_true.mpr ⟨num, member, ?_⟩) unknown
      rw [known]
      rfl
    | some laneId =>
      obtain ⟨lane, found, apart⟩ := lanes num member laneId known
      exact ⟨laneId, lane, known, found, apart⟩
  obtain ⟨laneId, lane, known, found, apart⟩ := numbered first List.mem_cons_self
  obtain ⟨destId, planned⟩ := planViaNumbers_whole destS known found apart unknown
  have agree := numbered_agree map destS known found
    (fun num member => numbered num (List.mem_cons_of_mem _ member))
    (fun num isLast => whole num (by rw [List.getLast?_cons, Option.mem_def.mp isLast]; rfl))
  rw [planned, fromLaneNumbers_cons known found unknown]
  cases legs : map.numberedLegs first (wholeLeg first laneId lane) (second :: rest) with
  | error error => cases segments : map.numberedSegments destS first (second :: rest) with
    | error error' => exact iff_of_false (fun raised => (nomatch raised)) fun raised => (nomatch raised)
    | ok behind =>
      rw [legs, segments] at agree
      exact agree.elim
  | ok behind => cases segments : map.numberedSegments destS first (second :: rest) with
    | error error' =>
      rw [legs, segments] at agree
      exact agree.elim
    | ok behind' =>
      rw [legs, segments] at agree
      obtain ⟨sameLength, folds⟩ := agree
      have folded := fromRoute_whole destId (lane.lengthM + behind'.2) known
        (map.length_pos found) folds
      rw [← sameLength] at folded
      change LaneRoute.fromRoute ⟨laneId, destId, wholeStretch laneId lane :: behind'.1,
        lane.lengthM + behind'.2⟩ = .ok route ↔
          LaneRoute.make (wholeLeg first laneId lane :: behind.1) behind.2.1
            (lane.lengthM + behind.2.2) = .ok route
      rw [← sameLength, folded]

/-! ### A ring of numbered lanes -/

/-- The square of two lanes, under the names of the lanes 3 and 1. -/
def numberedRingData : PyValue ℚ :=
  .dict [
    ("map", .dict [("width_m", .int 5), ("height_m", .int 3), ("origin", .str "bottom_left")]),
    ("lanes", .dict [
      ("top_inner_eb_w", ringLane "inner" "turn_back" 0 (1, 1) (2, 1)),
      ("top_outer_wb_e", ringLane "outer" "turn_in" 180 (2, 2) (1, 2))]),
    ("connectors", .dict [
      ("turn_back", ringConnector "top_outer_wb_e" (2, 1) (2, 2)),
      ("turn_in", ringConnector "top_inner_eb_w" (1, 2) (1, 1))])]

instance (line : Polyline ℚ) : Decidable line.Apart :=
  inferInstanceAs (Decidable (∀ pair ∈ line.pairs, tolerance < segmentLength pair.1 pair.2))

/-- The square loads, its lanes are one meter long, and the route 3, 1 exists. -/
theorem numberedRing_loads : ∃ map : ValidLaneMap ℚ, LaneMap.fromDict numberedRingData = .ok map ∧
    (∀ laneId ∈ ["top_inner_eb_w", "top_outer_wb_e"], ∃ lane,
      map.lanes.get? laneId = some lane ∧ lane.centerline.Apart ∧ lane.lengthM = 1) ∧
    (LaneRoute.fromLaneNumbers map.toLaneMap [3, 1]).toOption.isSome = true := by
  have loaded : (match LaneMap.fromDict numberedRingData with
      | .ok map => (["top_inner_eb_w", "top_outer_wb_e"].all fun laneId =>
          (map.lanes.get? laneId).any fun lane =>
            decide (lane.centerline.Apart ∧ lane.lengthM = 1)) &&
        (LaneRoute.fromLaneNumbers map.toLaneMap [3, 1]).toOption.isSome
      | .error _ => false) = true := by decide +kernel
  split at loaded
  next map run =>
    rw [Bool.and_eq_true, List.all_eq_true] at loaded
    refine ⟨map, run, fun laneId member => ?_, loaded.2⟩
    obtain ⟨lane, found, holds⟩ := (Option.any_eq_true _ _).mp (loaded.1 laneId member)
    obtain ⟨apart, length⟩ := of_decide_eq_true holds
    exact ⟨lane, found, apart, length⟩
  next => exact absurd loaded Bool.false_ne_true

/-- On the square both ways give a route, and the same one. -/
theorem plan_via_numbers_iff_from_lane_numbers_ring : ∃ map : ValidLaneMap ℚ,
    LaneMap.fromDict numberedRingData = .ok map ∧
      (LaneRoute.fromLaneNumbers map.toLaneMap [3, 1]).toOption.isSome = true ∧
      ∀ route, (map.planViaNumbers [3, 1] 0 1 >>= LaneRoute.fromRoute) = .ok route ↔
        LaneRoute.fromLaneNumbers map.toLaneMap [3, 1] = .ok route := by
  obtain ⟨map, loaded, lanes, returns⟩ := numberedRing_loads
  refine ⟨map, loaded, returns, fun route =>
    plan_via_numbers_iff_from_lane_numbers map [3, 1] 1 (by decide) ?_ ?_ route⟩
  · intro num member laneId known
    have listed : laneId ∈ ["top_inner_eb_w", "top_outer_wb_e"] := by
      rcases List.mem_pair.mp member with rfl | rfl
      · rw [← Option.some.inj ((by decide : idOfNum 3 = some "top_inner_eb_w").symm.trans known)]
        exact List.mem_cons_self
      · rw [← Option.some.inj ((by decide : idOfNum 1 = some "top_outer_wb_e").symm.trans known)]
        exact List.mem_cons_of_mem _ List.mem_cons_self
    obtain ⟨lane, found, apart, -⟩ := lanes laneId listed
    exact ⟨lane, found, apart⟩
  · intro num isLast laneId lane known found
    cases Option.mem_def.mp isLast
    obtain ⟨lane', found', -, length⟩ := lanes "top_outer_wb_e"
      (List.mem_cons_of_mem _ List.mem_cons_self)
    rw [← Option.some.inj ((by decide : idOfNum 1 = some "top_outer_wb_e").symm.trans known),
      found'] at found
    rw [← Option.some.inj found, length]

end RcTaxi
