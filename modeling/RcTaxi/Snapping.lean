/-
This file proves that projecting and snapping find nearest points. The projection of a point on a
polyline is a nearest point of the polyline, and carries its own distance and progress. The stop a
destination is snapped to is nearest among all points of all lanes a car may stop on.
-/

import RcTaxi.ArcLength
import RcTaxi.FirstBest
import RcTaxi.Matching

namespace RcTaxi

variable {α : Type} [Scalar α]

/-! ### One segment -/

section Segment

/-- Between zero and one, the clamped number is the nearest to a number. -/
theorem clamp_nearest (raw : α) {t : α} (nonneg : 0 ≤ t) (small : t ≤ 1) :
    0 ≤ (t - min 1 (max 0 raw)) * (t + min 1 (max 0 raw) - 2 * raw) := by
  rcases le_total raw 0 with below | above
  · rw [max_eq_left below, min_eq_right zero_le_one]
    refine mul_nonneg ?_ ?_ <;> linarith
  · rw [max_eq_right above]
    rcases le_total raw 1 with inside | beyond
    · rw [min_eq_right inside]
      have square := mul_self_nonneg (t - raw)
      linarith only [square]
    · rw [min_eq_left beyond]
      refine mul_nonneg_of_nonpos_of_nonpos ?_ ?_ <;> linarith

variable [EuclideanHypot α]

theorem segmentLength_mul_self (a b : Point α) : segmentLength a b * segmentLength a b =
    (b.1 - a.1) * (b.1 - a.1) + (b.2 - a.2) * (b.2 - a.2) := hypot_mul_self _ _

theorem segmentLength_le_of_mul_self {a b c d : Point α}
    (squares : segmentLength a b * segmentLength a b ≤ segmentLength c d * segmentLength c d) :
    segmentLength a b ≤ segmentLength c d :=
  (mul_self_le_mul_self_iff (segmentLength_nonneg a b) (segmentLength_nonneg c d)).mpr squares

/-- The foot on a segment is a nearest point of the segment. -/
theorem projectSegment_nearest (a b p : Point α) (positive : 0 < segmentLength a b) {t : α}
    (nonneg : 0 ≤ t) (small : t ≤ 1) :
    segmentLength (projectSegment a b p).2 p ≤ segmentLength (interpolate a b t) p := by
  have square := segmentLength_mul_self a b
  have squarePositive := mul_pos positive positive
  -- The squared distance is a parabola in the parameter, with its vertex at the raw projection.
  generalize inner : (p.1 - a.1) * (b.1 - a.1) + (p.2 - a.2) * (b.2 - a.2) = product
  have vertex := mul_div_cancel₀ product squarePositive.ne'
  have nearest := mul_nonneg squarePositive.le
    (clamp_nearest (product / (segmentLength a b * segmentLength a b)) nonneg small)
  have foot : (projectSegment a b p).2 = interpolate a b
      (min 1 (max 0 (product / (segmentLength a b * segmentLength a b)))) := by
    rw [← inner]
    rfl
  refine segmentLength_le_of_mul_self ?_
  rw [foot]
  generalize min 1 (max 0 (product / (segmentLength a b * segmentLength a b))) = clamped
    at nearest ⊢
  generalize product / (segmentLength a b * segmentLength a b) = raw at nearest vertex
  rw [segmentLength_mul_self, segmentLength_mul_self]
  unfold interpolate
  rw [square] at nearest vertex
  linear_combination nearest - 2 * (t - clamped) * (vertex - inner)

end Segment

/-! ### project_point -/

/-- A projection of a point on a polyline: a point of the polyline at the progress it carries,
nearest to the given point, at the distance it carries. -/
structure IsProjection (line : Polyline α) (p : Point α) (found : Projection α) : Prop where
  progress_nonneg : 0 ≤ found.progress
  progress_le : found.progress ≤ polylineLength line
  foot_eq : found.foot = pointAt line found.progress
  distance_eq : found.distance = segmentLength found.foot p
  nearest : ∀ r, line.Contains r → found.distance ≤ segmentLength r p

/-- What the loop of `project_point` has found on a front part of the segments: nothing if that part
has no length, otherwise a point nearest among the points of that part. -/
def Covered (line : Polyline α) (p : Point α) (front : List (Point α × Point α)) :
    Option (Projection α) → Prop
  | none => totalLength front = 0
  | some found => 0 ≤ found.progress ∧ found.progress ≤ totalLength front ∧
      found.foot = pointAt line found.progress ∧ found.distance = segmentLength found.foot p ∧
      ∀ s, 0 ≤ s → s ≤ totalLength front → found.distance ≤ segmentLength (pointAt line s) p

theorem totalLength_concat (front : List (Point α × Point α)) (a b : Point α) :
    totalLength (front ++ [(a, b)]) = totalLength front + segmentLength a b := by
  rw [totalLength_append, totalLength_cons, totalLength_nil, add_zero]

section Project

variable [EuclideanHypot α]

/-- The projection on the segment behind a front part. -/
def onSegment (front : List (Point α × Point α)) (a b p : Point α) : Projection α :=
  ⟨totalLength front + segmentLength a b * (projectSegment a b p).1,
    segmentLength (projectSegment a b p).2 p, (projectSegment a b p).2⟩

section Segment

variable {line : Polyline α} {p a b : Point α} {front back : List (Point α × Point α)}

/-- It is nearest among the points of the segment. -/
theorem onSegment_nearest (cut : line.pairs = front ++ (a, b) :: back)
    (positive : 0 < segmentLength a b) {s : α} (begun : totalLength front ≤ s)
    (ended : s ≤ totalLength front + segmentLength a b) :
    (onSegment front a b p).distance ≤ segmentLength (pointAt line s) p := by
  have nonneg := div_nonneg (sub_nonneg.mpr begun) positive.le
  have small := (div_le_one positive).mpr (sub_le_iff_le_add'.mpr ended)
  have reached := pointAt_inside line cut nonneg small
  rw [mul_div_cancel₀ _ positive.ne', add_sub_cancel] at reached
  rw [reached]
  exact projectSegment_nearest a b p positive nonneg small

/-- It covers one more segment if nothing on the front part is nearer. -/
theorem covered_onSegment (cut : line.pairs = front ++ (a, b) :: back)
    (positive : 0 < segmentLength a b)
    (before : ∀ s, 0 ≤ s → s < totalLength front →
      (onSegment front a b p).distance ≤ segmentLength (pointAt line s) p) :
    Covered line p (front ++ [(a, b)]) (some (onSegment front a b p)) := by
  have clamped : 0 ≤ (projectSegment a b p).1 ∧ (projectSegment a b p).1 ≤ 1 :=
    ⟨le_min zero_le_one (le_max_left _ _), min_le_left _ _⟩
  refine ⟨?_, ?_, ?_, rfl, fun s nonneg small => ?_⟩
  · exact add_nonneg (totalLength_nonneg front) (mul_nonneg positive.le clamped.1)
  · rw [totalLength_concat]
    exact add_le_add_right (mul_le_of_le_one_right positive.le clamped.2) _
  · exact (pointAt_inside line cut clamped.1 clamped.2).symm
  · rw [totalLength_concat] at small
    rcases lt_or_ge s (totalLength front) with earlier | later
    · exact before s nonneg earlier
    · exact onSegment_nearest cut positive later small

/-- An old projection that is at least as near covers one more segment too. -/
theorem Covered.concat {old : Projection α} (covered : Covered line p front (some old))
    (cut : line.pairs = front ++ (a, b) :: back) (positive : 0 < segmentLength a b)
    (farther : old.distance ≤ (onSegment front a b p).distance) :
    Covered line p (front ++ [(a, b)]) (some old) := by
  obtain ⟨nonneg, small, foot, distance, nearest⟩ := covered
  refine ⟨nonneg, ?_, foot, distance, fun s s_nonneg s_small => ?_⟩
  · rw [totalLength_concat]
    exact small.trans (le_add_of_nonneg_right positive.le)
  · rw [totalLength_concat] at s_small
    rcases lt_or_ge s (totalLength front) with earlier | later
    · exact nearest s s_nonneg earlier.le
    · exact farther.trans (onSegment_nearest cut positive later s_small)

/-- One more segment with a length: the better of the old projection and the new one covers it. -/
theorem Covered.step {best : Option (Projection α)} (covered : Covered line p front best)
    (cut : line.pairs = front ++ (a, b) :: back) (positive : 0 < segmentLength a b) :
    Covered line p (front ++ [(a, b)])
      (if (match best with
        | none => true
        | some old => decide ((onSegment front a b p).distance < old.distance)) then
          some (onSegment front a b p)
        else best) := by
  cases best with
  | none =>
    refine covered_onSegment cut positive fun s nonneg earlier => ?_
    rw [covered] at earlier
    exact absurd earlier nonneg.not_gt
  | some old =>
    dsimp only
    split
    next closer =>
      have closer := of_decide_eq_true closer
      exact covered_onSegment cut positive fun s nonneg earlier =>
        closer.le.trans (covered.2.2.2.2 s nonneg earlier.le)
    next farther =>
      exact covered.concat cut positive (not_lt.mp fun closer => farther (decide_eq_true closer))

end Segment

theorem projectLoop_covers (line : Polyline α) (p : Point α) (back : List (Point α × Point α)) :
    ∀ (front : List (Point α × Point α)) (best : Option (Projection α)),
      line.pairs = front ++ back → Covered line p front best →
      Covered line p line.pairs (projectLoop p back (totalLength front) best) := by
  induction back with
  | nil =>
    intro front best cut covered
    rw [List.append_nil] at cut
    rw [projectLoop, cut]
    exact covered
  | cons segment back inductionHypothesis =>
    intro front best cut covered
    obtain ⟨a, b⟩ := segment
    have moved : line.pairs = (front ++ [(a, b)]) ++ back := by
      rw [cut, List.append_assoc]
      rfl
    rw [projectLoop]
    dsimp only
    split
    next flat =>
      have zero := le_antisymm flat (segmentLength_nonneg a b)
      have same : totalLength (front ++ [(a, b)]) = totalLength front := by
        rw [totalLength_concat, zero, add_zero]
      rw [← same]
      refine inductionHypothesis _ best moved ?_
      cases best with
      | none => exact same.trans covered
      | some old =>
        unfold Covered
        rw [same]
        exact covered
    next long =>
      rw [← totalLength_concat]
      exact inductionHypothesis _ _ moved (Covered.step covered cut (not_le.mp long))

/-- `project_point` returns a projection: a nearest point, with its own progress and distance. -/
theorem projectPoint_isProjection (line : Polyline α) (p : Point α) :
    IsProjection line p (projectPoint line p) := by
  have covered := projectLoop_covers line p line.pairs [] none rfl rfl
  rw [totalLength_nil] at covered
  unfold projectPoint
  cases run : projectLoop p line.pairs 0 none with
  | none =>
    rw [run] at covered
    have zero : polylineLength line = 0 := covered
    refine ⟨le_refl 0, zero.symm.le, (if_pos (le_refl 0)).symm, rfl, fun r inside => ?_⟩
    obtain ⟨s, nonneg, small, rfl⟩ := (line.contains_iff r).mp inside
    rw [zero] at small
    have start : pointAt line s = line.first := if_pos small
    rw [start]
    exact le_refl _
  | some found =>
    rw [run] at covered
    obtain ⟨nonneg, small, foot, distance, nearest⟩ := covered
    refine ⟨nonneg, small, foot, distance, fun r inside => ?_⟩
    obtain ⟨s, s_nonneg, s_small, rfl⟩ := (line.contains_iff r).mp inside
    exact nearest s s_nonneg s_small

end Project

/-! ### DestinationResolver.resolve -/

/-- A stop for a destination: on a lane a car may stop on, at the progress it carries, nearest to
the destination among all points of all such lanes, and headed along the lane. -/
structure IsNearestStop (map : LaneMap α) (destination : Point α) (stop : StopPose α) : Prop where
  on_lane : ∃ lane, map.lanes.get? stop.laneId = some lane ∧ lane.destinationAllowed = true ∧
    lane.centerline.Contains (stop.x, stop.y) ∧
    (stop.x, stop.y) = pointAt lane.centerline stop.progressS ∧
    ∀ final, lane.centerline.pairs.getLast? = some final →
      final ∉ lane.centerline.pairs.dropLast →
      ∃ pair ∈ lane.centerline.pairs, stop.headingDeg = directionDeg pair.1 pair.2 ∧
        ∃ t, 0 ≤ t ∧ t ≤ 1 ∧ (stop.x, stop.y) = interpolate pair.1 pair.2 t
  distance_eq : stop.snapDistanceM = segmentLength (stop.x, stop.y) destination
  nearest : ∀ item ∈ map.lanes.items, item.2.destinationAllowed = true → ∀ r,
    item.2.centerline.Contains r → stop.snapDistanceM ≤ segmentLength r destination

namespace DestinationResolver

omit [Scalar α] in
/-- The resolver has exactly the lanes a car may stop on. -/
theorem mem_new {map : LaneMap α} {resolver : DestinationResolver α}
    (made : new map = .ok resolver) (item : String × LaneSegment α) :
    item ∈ resolver.first :: resolver.rest ↔
      item ∈ map.lanes.items ∧ item.2.destinationAllowed = true := by
  have filtered : item ∈ map.lanes.items.filter (fun item => item.2.destinationAllowed) ↔
      item ∈ map.lanes.items ∧ item.2.destinationAllowed = true := List.mem_filter
  rw [← filtered]
  unfold new at made
  split at made
  next => cases made
  next first rest listed =>
    cases made
    rw [listed]

/-- The lane snapped to is one of the resolver's, and none of them is nearer. -/
theorem resolve_spec (resolver : DestinationResolver α) (point : Point α) :
    ∃ item ∈ resolver.first :: resolver.rest,
      resolver.resolve point = ⟨item.1, (projectPoint item.2.centerline point).foot.1,
        (projectPoint item.2.centerline point).foot.2,
        headingAt item.2.centerline (projectPoint item.2.centerline point).progress,
        (projectPoint item.2.centerline point).progress,
        (projectPoint item.2.centerline point).distance⟩ ∧
      ∀ other ∈ resolver.first :: resolver.rest,
        (projectPoint item.2.centerline point).distance ≤
          (projectPoint other.2.centerline point).distance := by
  let distance : (String × LaneSegment α) × Projection α → α := fun snapped => snapped.2.distance
  have listed : snap point resolver.first :: resolver.rest.map (snap point) =
      (resolver.first :: resolver.rest).map (snap point) := rfl
  have kept := FirstBest.foldl_keep_mem distance (snap point resolver.first)
    (resolver.rest.map (snap point))
  have least := FirstBest.foldl_keep_le distance (snap point resolver.first)
    (resolver.rest.map (snap point))
  rw [listed] at kept least
  obtain ⟨item, member, snapped⟩ := List.mem_map.mp kept
  refine ⟨item, member, ?_, fun other inside => ?_⟩
  · have folded : (resolver.rest.map (snap point)).foldl nearer (snap point resolver.first) =
        snap point item := snapped.symm
    unfold resolve
    rw [folded]
    rfl
  · have bound := least _ (List.mem_map.mpr ⟨other, inside, rfl⟩)
    rw [← snapped] at bound
    exact bound

/-- On a map that loaded, the stop is a nearest one. -/
theorem resolve_isNearestStop [EuclideanHypot α] (map : ValidLaneMap α)
    {resolver : DestinationResolver α} (made : new map.toLaneMap = .ok resolver)
    (point : Point α) : IsNearestStop map.toLaneMap point (resolver.resolve point) := by
  obtain ⟨⟨laneId, lane⟩, member, stop, least⟩ := resolver.resolve_spec point
  obtain ⟨onMap, allowed⟩ := (mem_new made _).mp member
  have found := (Dict.get?_eq_some_iff ..).mpr onMap
  have projected := projectPoint_isProjection lane.centerline point
  rw [stop]
  refine ⟨⟨lane, found, allowed, ?_, projected.foot_eq, fun final ends fresh => ?_⟩,
    projected.distance_eq, fun item onMap allowed r inside => ?_⟩
  · exact (lane.centerline.contains_iff _).mpr
      ⟨_, projected.progress_nonneg, projected.progress_le, projected.foot_eq.symm⟩
  · obtain ⟨pair, segment, direction, t, nonneg, small, reached⟩ :=
      headingAt_inside lane.centerline (map.length_pos found) projected.progress_nonneg
        projected.progress_le ends fresh
    exact ⟨pair, segment, direction, t, nonneg, small, projected.foot_eq.trans reached⟩
  · exact (least item ((mem_new made item).mpr ⟨onMap, allowed⟩)).trans
      ((projectPoint_isProjection item.2.centerline point).nearest r inside)

end DestinationResolver

/-- In real arithmetic, projecting a point on a polyline returns a nearest point of it, and a
destination is snapped to a nearest point of the lanes a car may stop on, if there is one. -/
theorem project_and_resolve_nearest (line : Polyline ℝ) (p : Point ℝ) (map : ValidLaneMap ℝ)
    (destination : Point ℝ) :
    IsProjection line p (projectPoint line p) ∧
      match DestinationResolver.new map.toLaneMap with
      | .ok resolver => IsNearestStop map.toLaneMap destination (resolver.resolve destination)
      | .error _ => ∀ item ∈ map.lanes.items, item.2.destinationAllowed = false := by
  refine ⟨projectPoint_isProjection line p, ?_⟩
  split
  next resolver made => exact DestinationResolver.resolve_isNearestStop map made destination
  next error made =>
    unfold DestinationResolver.new at made
    split at made
    next none =>
      intro item member
      exact Bool.not_eq_true _ ▸ List.filter_eq_nil_iff.mp none item member
    next => cases made

end RcTaxi
