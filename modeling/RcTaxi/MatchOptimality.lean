/-
This file proves what map matching returns: a lane or connector that passes both cuts with the
smallest score, and nothing inside a block or off every segment. A block without corners has no
bounding rectangle; the loader accepts one, and the matcher raises when it comes to it.
-/

import RcTaxi.DrivingWorker
import RcTaxi.FirstBest

namespace RcTaxi

variable {α : Type} [Scalar α]

/-! ### Blocks -/

/-- The point lies in the bounding rectangle of the corners, between their smallest and their
largest coordinates. No point lies in the rectangle of no corners. -/
def InRectangle (polygon : List (Point (PyFloat α))) (point : Point α) : Prop :=
  match polygon with
  | [] => False
  | corner :: corners =>
    let xs := coordinateRange corner.1 (corners.map Prod.fst)
    let ys := coordinateRange corner.2 (corners.map Prod.snd)
    (xs.1.le (.finite point.1) = true ∧ (PyFloat.finite point.1).le xs.2 = true) ∧
      ys.1.le (.finite point.2) = true ∧ (PyFloat.finite point.2).le ys.2 = true

theorem pyMin_finite (a b : α) : PyFloat.pyMin (.finite a) (.finite b) = .finite (min a b) := by
  unfold PyFloat.pyMin
  split
  next less => rw [min_eq_right (of_decide_eq_true less).le]
  next less => rw [min_eq_left (not_lt.mp fun smaller => less (decide_eq_true smaller))]

theorem pyMax_finite (a b : α) : PyFloat.pyMax (.finite a) (.finite b) = .finite (max a b) := by
  unfold PyFloat.pyMax
  split
  next less => rw [max_eq_right (of_decide_eq_true less).le]
  next less => rw [max_eq_left (not_lt.mp fun larger => less (decide_eq_true larger))]

theorem foldl_pyMin_le (x first : α) (rest : List α) :
    ((rest.map PyFloat.finite).foldl PyFloat.pyMin (.finite first)).le (.finite x) = true ↔
      ∃ value ∈ first :: rest, value ≤ x := by
  induction rest generalizing first with
  | nil => simp [PyFloat.le]
  | cons next rest inductionHypothesis =>
    rw [List.map_cons, List.foldl_cons, pyMin_finite, inductionHypothesis]
    simp only [List.exists_mem_cons_iff, min_le_iff, or_assoc]

theorem le_foldl_pyMax (x first : α) (rest : List α) :
    (PyFloat.finite x).le ((rest.map PyFloat.finite).foldl PyFloat.pyMax (.finite first)) = true ↔
      ∃ value ∈ first :: rest, x ≤ value := by
  induction rest generalizing first with
  | nil => simp [PyFloat.le]
  | cons next rest inductionHypothesis =>
    rw [List.map_cons, List.foldl_cons, pyMax_finite, inductionHypothesis]
    simp only [List.exists_mem_cons_iff, le_max_iff, or_assoc]

/-- For finite corners the bounding rectangle is the plain one: the point has corners on all four
sides. -/
theorem inRectangle_finite (corners : List (Point α)) (point : Point α) :
    InRectangle (corners.map fun corner => (.finite corner.1, .finite corner.2)) point ↔
      ((∃ corner ∈ corners, corner.1 ≤ point.1) ∧ ∃ corner ∈ corners, point.1 ≤ corner.1) ∧
        (∃ corner ∈ corners, corner.2 ≤ point.2) ∧ ∃ corner ∈ corners, point.2 ≤ corner.2 := by
  cases corners with
  | nil =>
    refine ⟨False.elim, fun sides => ?_⟩
    obtain ⟨_, member, _⟩ := sides.1.1
    cases member
  | cons corner rest =>
    have firsts : (rest.map fun corner => ((.finite corner.1, .finite corner.2) :
        Point (PyFloat α))).map Prod.fst = (rest.map Prod.fst).map PyFloat.finite := by
      rw [List.map_map, List.map_map]
      rfl
    have seconds : (rest.map fun corner => ((.finite corner.1, .finite corner.2) :
        Point (PyFloat α))).map Prod.snd = (rest.map Prod.snd).map PyFloat.finite := by
      rw [List.map_map, List.map_map]
      rfl
    rw [List.map_cons]
    unfold InRectangle coordinateRange
    dsimp only
    rw [firsts, seconds, foldl_pyMin_le, foldl_pyMin_le, le_foldl_pyMax, le_foldl_pyMax]
    simp only [List.exists_mem_cons_iff, List.mem_map, exists_exists_and_eq_and]

theorem bounds_nil {block : Block α} (empty : block.polygon = []) (point : Point α) :
    block.bounds point = .error .valueError := by
  unfold Block.bounds
  rw [empty]

theorem bounds_eq_ok {block : Block α} (corners : block.polygon ≠ []) (point : Point α) :
    ∃ inside, block.bounds point = .ok inside ∧
      (inside = true ↔ InRectangle block.polygon point) := by
  unfold Block.bounds
  cases listed : block.polygon with
  | nil => exact absurd listed corners
  | cons corner rest =>
    refine ⟨_, rfl, ?_⟩
    rw [Bool.and_eq_true, Bool.and_eq_true, Bool.and_eq_true]
    exact Iff.rfl

namespace MapMatcher

/-- Every block without corners stands behind a block around the point. -/
def CornersInTime (blocks : List (Block α)) (point : Point α) : Prop :=
  ∀ front block back, blocks = front ++ block :: back → block.polygon = [] →
    ∃ earlier ∈ front, InRectangle earlier.polygon point

theorem cornersInTime_cons {block : Block α} {rest : List (Block α)} {point : Point α}
    (outside : ¬ InRectangle block.polygon point) :
    CornersInTime (block :: rest) point ↔ block.polygon ≠ [] ∧ CornersInTime rest point := by
  constructor
  · intro inTime
    refine ⟨fun empty => ?_, fun front next back cut empty => ?_⟩
    · obtain ⟨_, member, _⟩ := inTime [] block rest rfl empty
      exact absurd member List.not_mem_nil
    · obtain ⟨earlier, member, around⟩ := inTime (block :: front) next back (by rw [cut]; rfl) empty
      rcases List.mem_cons.mp member with rfl | later
      · exact absurd around outside
      · exact ⟨earlier, later, around⟩
  · rintro ⟨corners, inTime⟩ front next back cut empty
    cases front with
    | nil =>
      obtain ⟨rfl, _⟩ := List.cons.inj cut
      exact absurd empty corners
    | cons first front =>
      obtain ⟨rfl, same⟩ := List.cons.inj cut
      obtain ⟨earlier, member, around⟩ := inTime front next back same empty
      exact ⟨earlier, List.mem_cons_of_mem _ member, around⟩

/-- Behind a block around the point there may be any. -/
theorem cornersInTime_cons_around {block : Block α} {rest : List (Block α)} {point : Point α}
    (corners : block.polygon ≠ []) (around : InRectangle block.polygon point) :
    CornersInTime (block :: rest) point := by
  intro front next back cut empty
  cases front with
  | nil =>
    obtain ⟨rfl, _⟩ := List.cons.inj cut
    exact absurd empty corners
  | cons first front =>
    obtain ⟨rfl, _⟩ := List.cons.inj cut
    exact ⟨block, List.mem_cons_self, around⟩

/-- The walk over the blocks finishes iff it meets no block without corners before it stops, and
then tells whether the point lies in the rectangle of some block. -/
theorem insideBlock_spec (point : Point α) (blocks : List (Block α)) :
    (CornersInTime blocks point ↔ ∃ inside, insideBlock point blocks = .ok inside) ∧
      ∀ inside, insideBlock point blocks = .ok inside →
        (inside = true ↔ ∃ block ∈ blocks, InRectangle block.polygon point) := by
  induction blocks with
  | nil =>
    refine ⟨⟨fun _ => ⟨false, rfl⟩, fun _ front block back cut => ?_⟩, fun inside run => ?_⟩
    · exact absurd cut.symm (List.append_ne_nil_of_right_ne_nil _ (List.cons_ne_nil _ _))
    · cases run
      exact ⟨(nomatch ·), fun ⟨_, member, _⟩ => absurd member List.not_mem_nil⟩
  | cons block rest inductionHypothesis =>
    rw [insideBlock]
    by_cases corners : block.polygon = []
    · rw [bounds_nil corners]
      have outside : ¬ InRectangle block.polygon point := by
        rw [corners]
        exact not_false
      rw [cornersInTime_cons outside]
      exact ⟨⟨fun both => absurd corners both.1, fun ⟨_, run⟩ => nomatch run⟩,
        fun _ run => nomatch run⟩
    · obtain ⟨here, run, around⟩ := bounds_eq_ok corners point
      rw [run]
      cases here with
      | true =>
        have around := around.mp rfl
        refine ⟨⟨fun _ => ⟨true, rfl⟩, fun _ => cornersInTime_cons_around corners around⟩,
          fun inside run => ?_⟩
        cases run
        exact ⟨fun _ => ⟨block, List.mem_cons_self, around⟩, fun _ => rfl⟩
      | false =>
        have outside : ¬ InRectangle block.polygon point := fun inside => nomatch around.mpr inside
        rw [cornersInTime_cons outside, and_iff_right corners]
        refine ⟨inductionHypothesis.1, fun inside run =>
          (inductionHypothesis.2 inside run).trans ?_⟩
        constructor
        · rintro ⟨other, member, within⟩
          exact ⟨other, List.mem_cons_of_mem _ member, within⟩
        · rintro ⟨other, member, within⟩
          rcases List.mem_cons.mp member with rfl | later
          · exact absurd within outside
          · exact ⟨other, later, within⟩

end MapMatcher

/-! ### Segments -/

/-- The lanes and then the connectors, as the matcher runs over them: the id, whether it is a lane,
and the centreline. -/
def LaneMap.segments (map : LaneMap α) : List (String × Bool × Polyline α) :=
  (map.lanes.items.map fun item => (item.1, true, item.2.centerline)) ++
    map.connectors.items.map fun item => (item.1, false, item.2.centerline)

namespace MapMatcher

variable (matcher : MapMatcher α) (point : Point α) (headingDeg : α)

/-- A segment passes both cuts: the point is close to its centreline, and the heading close to the
direction of the centreline there. -/
def Passes (segment : String × Bool × Polyline α) : Prop :=
  (projectPoint segment.2.2 point).distance ≤ matcher.maxCenterDistanceM ∧
    |headingDiffDeg headingDeg (headingAt segment.2.2 (projectPoint segment.2.2 point).progress)| ≤
      matcher.maxHeadingErrorDeg

/-- The match of a segment: the distance, the heading error, the progress and the score that belong
to it. -/
def matchOf (segment : String × Bool × Polyline α) : LaneMatch α :=
  let projection := projectPoint segment.2.2 point
  let error := headingDiffDeg headingDeg (headingAt segment.2.2 projection.progress)
  ⟨segment.1, segment.2.1, projection.distance, error, projection.progress,
    matcher.distanceWeight * projection.distance + matcher.headingWeightPerDeg * |error|⟩

/-- Map matching is total and optimal at a pose: it does not raise, it finds nothing in a block or
off every segment, and otherwise the best segment that passes. -/
def MatchesOptimally (map : LaneMap α) : Prop :=
  ∃ answer, matcher.matchPose map point headingDeg = .ok answer ∧
    (answer = none ↔ (∃ block ∈ map.blocks.values, InRectangle block.polygon point) ∨
      ∀ segment ∈ map.segments, ¬ matcher.Passes point headingDeg segment) ∧
    ∀ found, answer = some found → ∃ segment ∈ map.segments,
      matcher.Passes point headingDeg segment ∧
      found = matcher.matchOf point headingDeg segment ∧
      ∀ other ∈ map.segments, matcher.Passes point headingDeg other →
        found.score ≤ (matcher.matchOf point headingDeg other).score

theorem candidate_eq_some_iff (segment : String × Bool × Polyline α) (found : LaneMatch α) :
    matcher.candidate point headingDeg segment.1 segment.2.1 segment.2.2 = some found ↔
      matcher.Passes point headingDeg segment ∧
        found = matcher.matchOf point headingDeg segment := by
  unfold candidate
  dsimp only
  split
  next far => exact ⟨(nomatch ·), fun both => absurd both.1.1 far.not_ge⟩
  next near =>
    split
    next turned => exact ⟨(nomatch ·), fun both => absurd both.1.2 turned.not_ge⟩
    next along =>
      exact ⟨fun same => ⟨⟨not_lt.mp near, not_lt.mp along⟩, (Option.some.inj same).symm⟩,
        fun both => congrArg some both.2.symm⟩

theorem better_eq_keepSome (best found : Option (LaneMatch α)) :
    better best found = FirstBest.keepSome LaneMatch.score best found := by
  cases best with
  | none => rfl
  | some old =>
    cases found with
    | none => rfl
    | some new =>
      unfold better FirstBest.keepSome FirstBest.keep
      dsimp only
      split <;> rfl

/-- Outside the blocks the matcher keeps the best of the segments that pass. -/
theorem matchPose_eq (map : LaneMap α) {inside : Bool}
    (walked : insideBlock point map.blocks.values = .ok inside) :
    matcher.matchPose map point headingDeg = .ok (if inside then none else
      (map.segments.map fun segment =>
        matcher.candidate point headingDeg segment.1 segment.2.1 segment.2.2).foldl
          (FirstBest.keepSome LaneMatch.score) none) := by
  have folded : better = FirstBest.keepSome (LaneMatch.score (α := α)) :=
    funext fun best => funext fun found => better_eq_keepSome best found
  unfold matchPose
  rw [walked]
  cases inside with
  | true => rfl
  | false =>
    rw [LaneMap.segments, List.map_append, List.map_map, List.map_map, ← folded]
    rfl

/-- Map matching is total and optimal at a pose iff every block without corners stands behind a
block around the point. -/
theorem matchesOptimally_iff (map : LaneMap α) :
    matcher.MatchesOptimally point headingDeg map ↔ CornersInTime map.blocks.values point := by
  have walk := insideBlock_spec point map.blocks.values
  rw [walk.1]
  constructor
  · rintro ⟨answer, run, _⟩
    cases walked : insideBlock point map.blocks.values with
    | ok inside => exact ⟨inside, rfl⟩
    | error error =>
      unfold matchPose at run
      rw [walked] at run
      cases run
  · rintro ⟨inside, walked⟩
    have candidates : ∀ found, some found ∈ map.segments.map (fun segment =>
          matcher.candidate point headingDeg segment.1 segment.2.1 segment.2.2) ↔
        ∃ segment ∈ map.segments, matcher.Passes point headingDeg segment ∧
          found = matcher.matchOf point headingDeg segment := by
      intro found
      rw [List.mem_map]
      exact exists_congr fun segment => and_congr_right fun _ =>
        matcher.candidate_eq_some_iff point headingDeg segment found
    refine ⟨_, matcher.matchPose_eq point headingDeg map walked, ?_, fun found same => ?_⟩
    · cases inside with
      | true => exact ⟨fun _ => Or.inl ((walk.2 true walked).mp rfl), fun _ => rfl⟩
      | false =>
        have outside : ¬ ∃ block ∈ map.blocks.values, InRectangle block.polygon point :=
          fun around => nomatch (walk.2 false walked).mpr around
        rw [or_iff_right outside]
        refine (FirstBest.foldl_keepSome_eq_none_iff ..).trans
          ⟨fun none segment member passes => ?_, fun none found present => ?_⟩
        · exact none _ ((candidates _).mpr ⟨segment, member, passes, rfl⟩)
        · obtain ⟨segment, member, passes, _⟩ := (candidates found).mp present
          exact none segment member passes
    · cases inside with
      | true => cases same
      | false =>
        obtain ⟨present, least⟩ := FirstBest.foldl_keepSome_spec LaneMatch.score same
        obtain ⟨segment, member, passes, is⟩ := (candidates found).mp present
        exact ⟨segment, member, passes, is, fun other onMap passes' =>
          least _ ((candidates _).mpr ⟨other, onMap, passes', rfl⟩)⟩

end MapMatcher

/-! ### A block without corners -/

/-- The ring with a block that has no corners. -/
def blockedRingData : PyValue ℚ :=
  match ringMapData with
  | .dict fields => .dict (fields ++ [("blocks", .dict [("park", .dict [("polygon", .list [])])])])
  | data => data

/-- The ring with a block without corners loads, and matching raises on it. -/
theorem blockedRing_raises : ∃ map : ValidLaneMap ℚ, LaneMap.fromDict blockedRingData = .ok map ∧
    ¬ (⟨1, 1 / 100, 2 / 10, 60⟩ : MapMatcher ℚ).MatchesOptimally (3 / 2, 1) 0 map.toLaneMap := by
  have raises : (match LaneMap.fromDict blockedRingData with
      | .ok map => (MapMatcher.insideBlock (3 / 2, 1) map.blocks.values).toOption.isNone
      | .error _ => false) = true := by decide +kernel
  split at raises
  next map run =>
    refine ⟨map, run, fun ⟨answer, matched, _⟩ => ?_⟩
    cases walked : MapMatcher.insideBlock (3 / 2, 1) map.blocks.values with
    | ok inside =>
      rw [walked] at raises
      cases raises
    | error error =>
      unfold MapMatcher.matchPose at matched
      rw [walked] at matched
      cases matched
  next => exact absurd raises Bool.false_ne_true

end RcTaxi
