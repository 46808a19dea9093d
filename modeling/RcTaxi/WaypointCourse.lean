/-
This file is about the follower of centerlines over whole rides. Its commands stay within the limits
of the car; it stops exactly where the rest of the route is short, or where the car has been closer
to the end before; and it allows the correction by the lane center exactly where no connector is near
the car along the route. The loops that look for one stop early, which misses nothing because the
distances along the route do not fall.
-/

import RcTaxi.OutputEnvelope
import RcTaxi.WaypointFollower

namespace RcTaxi

variable {α : Type} [Scalar α]

/-! ### Distances along the route -/

/-- The running sum of distances does not fall, and is not below where it began. -/
theorem cumulative_pairwise [LawfulHypot α] (points : List (Point α)) (acc : α) :
    (cumulative acc points).Pairwise (· ≤ ·) ∧ ∀ value ∈ cumulative acc points, acc ≤ value := by
  induction points generalizing acc with
  | nil => exact ⟨List.Pairwise.nil, fun _ member => (nomatch member)⟩
  | cons a rest inductionHypothesis =>
    cases rest with
    | nil => exact ⟨List.pairwise_singleton _ _, fun _ member => (List.mem_singleton.mp member).ge⟩
    | cons b rest =>
      obtain ⟨pairwise, above⟩ := inductionHypothesis (acc + segmentLength a b)
      have onward : ∀ value ∈ cumulative (acc + segmentLength a b) (b :: rest), acc ≤ value :=
        fun value member => (le_add_of_nonneg_right (segmentLength_nonneg a b)).trans
          (above value member)
      exact ⟨List.pairwise_cons.mpr ⟨onward, pairwise⟩,
        List.forall_mem_cons.mpr ⟨le_rfl, onward⟩⟩

/-- Between two points the straight way is not longer than that along the route. -/
theorem cumulative_apart [MetricHypot α] (points : List (Point α)) (acc : α) :
    (points.zip (cumulative acc points)).Pairwise (fun before after =>
      apart after.1 before.1 ≤ after.2 - before.2) ∧
    ∀ first rest, points = first :: rest →
      ∀ item ∈ points.zip (cumulative acc points), apart item.1 first ≤ item.2 - acc := by
  induction points generalizing acc with
  | nil => exact ⟨List.Pairwise.nil, fun _ _ same => (nomatch same)⟩
  | cons a rest inductionHypothesis =>
    have here : apart a a ≤ acc - acc := by
      have zero : apart a a = 0 := segmentLength_self a
      rw [zero, sub_self]
    cases rest with
    | nil =>
      refine ⟨List.pairwise_singleton _ _, ?_⟩
      rintro _ _ ⟨⟩ item member
      rw [List.mem_singleton.mp member]
      exact here
    | cons b rest =>
      obtain ⟨pairwise, fromNext⟩ := inductionHypothesis (acc + segmentLength a b)
      have onward : ∀ item ∈ (b :: rest).zip (cumulative (acc + segmentLength a b) (b :: rest)),
          apart item.1 a ≤ item.2 - acc := by
        intro item member
        have overNext : apart item.1 a ≤ apart item.1 b + segmentLength a b := by
          have triangle := hypot_add_le (item.1.1 - b.1) (item.1.2 - b.2) (b.1 - a.1) (b.2 - a.2)
          rwa [sub_add_sub_cancel, sub_add_sub_cancel] at triangle
        have behind := fromNext b rest rfl item member
        linarith only [overNext, behind]
      refine ⟨List.pairwise_cons.mpr ⟨onward, pairwise⟩, ?_⟩
      rintro _ _ ⟨⟩
      exact List.forall_mem_cons.mpr ⟨here, onward⟩

namespace WaypointPath

variable (path : WaypointPath α)

theorem cum_pairwise [LawfulHypot α] : path.cum.Pairwise (· ≤ ·) := (cumulative_pairwise _ 0).1

theorem marked_pairwise [LawfulHypot α] :
    path.marked.Pairwise fun before after => before.2 ≤ after.2 := by
  have same : path.marked.map Prod.snd = path.cum :=
    List.map_snd_zip path.length_cum.le
  have pairwise := path.cum_pairwise
  rwa [← same, List.pairwise_map] at pairwise

theorem length_marked : path.marked.length = path.waypoints.length := by
  rw [marked, List.length_zip, path.length_cum, min_self]

theorem marked_get {i : ℕ} (within : i < path.marked.length) : path.marked.get ⟨i, within⟩ =
    (path.waypoints.get ⟨i, path.length_marked ▸ within⟩,
      path.cumAt ⟨i, path.length_marked ▸ within⟩) :=
  List.getElem_zip

/-- A waypoint is not farther from a later one than the route between them is long. -/
theorem apart_le [MetricHypot α] {i j : Fin path.waypoints.length} (ordered : i ≤ j) :
    apart (path.waypoints.get j).point (path.waypoints.get i).point ≤
      path.cumAt j - path.cumAt i := by
  rcases ordered.eq_or_lt with rfl | before
  · have zero : apart (path.waypoints.get i).point (path.waypoints.get i).point = 0 :=
      segmentLength_self _
    rw [zero, sub_self]
  · have pairwise := (cumulative_apart (path.waypoints.map Waypoint.point) 0).1
    have marks : (path.waypoints.map Waypoint.point).zip path.cum =
        path.marked.map fun mark => (mark.1.point, mark.2) := by
      rw [marked, List.zip_map_left]
      rfl
    have related := List.pairwise_iff_get.mp (List.pairwise_map.mp (marks ▸ pairwise))
      (i.cast path.length_marked.symm) (j.cast path.length_marked.symm) before
    rw [path.marked_get, path.marked_get] at related
    exact related

/-- The waypoints from an index on. -/
theorem mem_drop_marked {index : ℕ} {item : Waypoint α × α} : item ∈ path.marked.drop index ↔
    ∃ i : Fin path.waypoints.length, index ≤ i ∧ (path.waypoints.get i, path.cumAt i) = item := by
  rw [List.mem_drop_iff_getElem]
  constructor
  · rintro ⟨i, within, rfl⟩
    rw [Nat.add_comm] at within
    exact ⟨⟨index + i, path.length_marked ▸ within⟩, Nat.le_add_right _ _,
      (path.marked_get within).symm⟩
  · rintro ⟨⟨i, within⟩, atLeast, rfl⟩
    obtain ⟨behind, rfl⟩ := Nat.exists_eq_add_of_le atLeast
    have inside : index + behind < path.marked.length := path.length_marked.symm ▸ within
    exact ⟨behind, Nat.add_comm index behind ▸ inside, path.marked_get inside⟩

/-- The waypoints before an index. -/
theorem mem_take_marked {index : ℕ} {item : Waypoint α × α} : item ∈ path.marked.take index ↔
    ∃ i : Fin path.waypoints.length, i < index ∧ (path.waypoints.get i, path.cumAt i) = item := by
  rw [List.mem_take_iff_getElem]
  constructor
  · rintro ⟨i, within, rfl⟩
    have inside := within.trans_le (min_le_right _ _)
    exact ⟨⟨i, path.length_marked ▸ inside⟩, within.trans_le (min_le_left _ _),
      (path.marked_get inside).symm⟩
  · rintro ⟨⟨i, within⟩, before, rfl⟩
    have inside : i < path.marked.length := path.length_marked.symm ▸ within
    exact ⟨i, lt_min before inside, path.marked_get inside⟩

end WaypointPath

namespace WaypointFollower

variable {follower : WaypointFollower α}

/-! ### Corners -/

/-- The loop that stops early finds a connector exactly if there is one within the limit. -/
theorem cornerLoop_iff {limit : α} {distance : α → α} {items : List (Waypoint α × α)}
    (rising : items.Pairwise fun before after => distance before.2 ≤ distance after.2) :
    cornerLoop limit distance items = true ↔
      ∃ item ∈ items, distance item.2 ≤ limit ∧ item.1.segOk = false := by
  induction items with
  | nil => exact ⟨fun same => (nomatch same), fun ⟨_, member, _⟩ => (nomatch member)⟩
  | cons item rest inductionHypothesis =>
    obtain ⟨waypoint, cum⟩ := item
    obtain ⟨onward, rising⟩ := List.pairwise_cons.mp rising
    rw [cornerLoop]
    split
    next beyond =>
      refine ⟨fun same => (nomatch same), ?_⟩
      rintro ⟨item, member, near, _⟩
      rcases List.mem_cons.mp member with rfl | later
      · exact absurd near (not_le.mpr beyond)
      · exact absurd ((onward item later).trans near) (not_le.mpr beyond)
    next within =>
      split
      next connector =>
        refine ⟨fun _ => ⟨_, List.mem_cons_self, not_lt.mp within, ?_⟩, fun _ => rfl⟩
        exact Bool.not_eq_true' _ |>.mp connector
      next lane =>
        rw [inductionHypothesis rising]
        constructor
        · rintro ⟨item, member, near, connector⟩
          exact ⟨item, List.mem_cons_of_mem _ member, near, connector⟩
        · rintro ⟨item, member, near, connector⟩
          rcases List.mem_cons.mp member with rfl | later
          · exact absurd ((Bool.not_eq_true' _).mpr connector) lane
          · exact ⟨item, later, near, connector⟩

variable {path : WaypointPath α} {idx : Fin path.waypoints.length}
  {point : Point α}

/-- A connector ahead is found exactly if one begins within the limit along the route. -/
theorem connectorWithin_iff [LawfulHypot α] : follower.connectorWithin path idx point = true ↔
    ∃ i, idx ≤ i ∧ path.cumAt i - path.cumAt idx + apart (path.waypoints.get idx).point point ≤
      follower.cornerSlowM ∧ (path.waypoints.get i).segOk = false := by
  have rising := List.Pairwise.drop path.marked_pairwise (i := idx)
  unfold connectorWithin
  rw [cornerLoop_iff (rising.imp fun ordered => add_le_add_left (sub_le_sub_right ordered _) _)]
  constructor
  · rintro ⟨item, member, near, connector⟩
    obtain ⟨i, atLeast, rfl⟩ := path.mem_drop_marked.mp member
    exact ⟨i, atLeast, near, connector⟩
  · rintro ⟨i, atLeast, near, connector⟩
    exact ⟨_, path.mem_drop_marked.mpr ⟨i, atLeast, rfl⟩, near, connector⟩

/-- A connector behind is found exactly if one ends within the limit along the route. -/
theorem connectorBehind_iff [LawfulHypot α] : follower.connectorBehind path idx point = true ↔
    ∃ i, i < idx ∧ path.cumAt idx - apart (path.waypoints.get idx).point point - path.cumAt i ≤
      follower.exitHoldM ∧ (path.waypoints.get i).segOk = false := by
  have rising := List.Pairwise.take path.marked_pairwise (i := idx)
  unfold connectorBehind
  rw [cornerLoop_iff (List.pairwise_reverse.mpr
    (rising.imp fun ordered => sub_le_sub_left ordered _))]
  constructor
  · rintro ⟨item, member, near, connector⟩
    obtain ⟨i, before, rfl⟩ := path.mem_take_marked.mp (List.mem_reverse.mp member)
    exact ⟨i, before, near, connector⟩
  · rintro ⟨i, before, near, connector⟩
    exact ⟨_, List.mem_reverse.mpr (path.mem_take_marked.mpr ⟨i, before, rfl⟩), near, connector⟩

/-! ### A call of compute -/

/-- The target of a call, and the distance that remains over it. -/
def targetFor (follower : WaypointFollower α) (drive : WaypointDrive α) (point : Point α) :
    Waypoint α :=
  drive.path.waypoints.get (follower.advance drive point)

def remainingFor (follower : WaypointFollower α) (drive : WaypointDrive α) (point : Point α) : α :=
  remainingOver drive.path (follower.advance drive point) point

/-- A connector is near the car along the route. -/
def nearCornerFor (follower : WaypointFollower α) (drive : WaypointDrive α) (point : Point α) :
    Bool :=
  follower.connectorWithin drive.path (follower.advance drive point) point ||
    follower.connectorBehind drive.path (follower.advance drive point) point

/-- What a call that returns does: it stops the car, or it drives it. -/
inductive Computed (follower : WaypointFollower α) (drive : WaypointDrive α) (point : Point α) :
    Option (ControlCommand α) → WaypointDrive α → Prop
  | stop (stops : follower.stops drive (follower.advance drive point)
      (follower.remainingFor drive point) = true) :
    Computed follower drive point none
      { drive with
        idx := follower.advance drive point
        targetAllowsSeg := (follower.targetFor drive point).segOk
        segOkNow := false }
  | go (moves : follower.stops drive (follower.advance drive point)
      (follower.remainingFor drive point) = false) {ffDeg error wheel ramped : α}
      (steered : follower.wheel ffDeg error = .ok wheel)
      (throttled : ramped = follower.legThrottle (follower.targetFor drive point) error
          (follower.remainingFor drive point) ∨
        ramped = min (follower.legThrottle (follower.targetFor drive point) error
          (follower.remainingFor drive point)) follower.turn) :
    Computed follower drive point
      (some ⟨if follower.nearCornerFor drive point then follower.turn else ramped, wheel⟩)
      { drive with
        idx := follower.advance drive point
        targetAllowsSeg := (follower.targetFor drive point).segOk
        segOkNow := (follower.targetFor drive point).segOk && !follower.nearCornerFor drive point
        nearCorner := follower.nearCornerFor drive point
        origin := some (drive.origin.getD point)
        bestRemaining := closest drive (follower.advance drive point)
          (follower.remainingFor drive point) }

/-- With a full lock that is not zero a call returns. -/
theorem compute_spec (lock : follower.fullLockErrorDeg ≠ 0) (drive : WaypointDrive α)
    (point : Point α) (headingDeg : α) : ∃ command next,
      follower.compute drive point headingDeg =
        .ok (command, follower.remainingFor drive point, next) ∧
      Computed follower drive point command next := by
  unfold compute
  dsimp only
  split
  next stops => exact ⟨_, _, rfl, .stop stops⟩
  next moves =>
    obtain ⟨wheel, found⟩ : ∃ wheel, follower.wheel
        (follower.feedForward drive.path (max 0 (drive.path.cumAt (follower.advance drive point) -
          apart (follower.targetFor drive point).point point)))
        (headingDiffDeg (degrees (atan2 ((follower.targetFor drive point).point.2 - point.2)
          ((follower.targetFor drive point).point.1 - point.1))) headingDeg) = .ok wheel := by
      rw [WaypointFollower.wheel, divide, if_neg lock]
      exact ⟨_, rfl⟩
    unfold targetFor at found
    rw [found]
    refine ⟨_, _, rfl, .go (Bool.eq_false_of_not_eq_true moves) found ?_⟩
    split
    · exact .inr rfl
    · exact .inl rfl

/-! ### The target -/

/-- Which waypoint is the target of a call: the first from the old one on that is neither within the
lookahead nor farther than the next. -/
structure TargetAhead (path : WaypointPath α) (lookaheadM : α) (point : Point α) (before : ℕ)
    (target : Fin path.waypoints.length) : Prop where
  onward : before ≤ target
  passed : ∀ i : Fin path.waypoints.length, before ≤ i → i < target →
    apart (path.waypoints.get i).point point < lookaheadM ∨
      ∃ next : Fin path.waypoints.length, next.val = i + 1 ∧
        apart (path.waypoints.get next).point point < apart (path.waypoints.get i).point point
  stays : target = path.last ∨
    lookaheadM ≤ apart (path.waypoints.get target).point point ∧
      ∀ next : Fin path.waypoints.length, next.val = target + 1 →
        apart (path.waypoints.get target).point point ≤ apart (path.waypoints.get next).point point

theorem advanceLoop_spec (path : WaypointPath α) (lookaheadM : α) (point : Point α) (rounds idx : ℕ)
    (within : idx + rounds < path.waypoints.length)
    (reaches : idx + rounds = path.waypoints.length - 1) :
    TargetAhead path lookaheadM point idx
      (advanceLoop path lookaheadM point rounds idx within) := by
  induction rounds generalizing idx with
  | zero =>
    refine ⟨le_rfl, fun i atLeast before => ?_, .inl (Fin.ext reaches)⟩
    exact absurd (Fin.lt_def.mp before) (not_lt.mpr atLeast)
  | succ rounds inductionHypothesis =>
    rw [advanceLoop]
    split
    next leaves =>
      obtain ⟨onward, passed, stays⟩ :=
        inductionHypothesis (idx + 1) (by omega) (by omega)
      refine ⟨Nat.le_of_succ_le onward, fun i atLeast before => ?_, stays⟩
      rcases atLeast.eq_or_lt with rfl | later
      · exact leaves.imp_right fun farther => ⟨⟨i + 1, by omega⟩, rfl, farther⟩
      · exact passed i later before
    next remains =>
      push Not at remains
      refine ⟨le_rfl, fun i atLeast before => ?_, .inr ⟨remains.1, fun next same => ?_⟩⟩
      · exact absurd (Fin.lt_def.mp before) (not_lt.mpr atLeast)
      · obtain ⟨next, _⟩ := next
        cases same
        exact remains.2

theorem advance_spec (follower : WaypointFollower α) (drive : WaypointDrive α) (point : Point α) :
    TargetAhead drive.path
      (if drive.nearCorner then follower.cornerLookaheadM else follower.lookaheadM) point drive.idx
      (follower.advance drive point) :=
  advanceLoop_spec _ _ _ _ _ _ (by have := drive.idx.isLt; omega)

/-- The last waypoint is not farther than what remains. -/
theorem apart_le_remainingFor [MetricHypot α] (drive : WaypointDrive α) (point : Point α) :
    apart (drive.path.waypoints.get drive.path.last).point point ≤
      follower.remainingFor drive point := by
  have last : follower.advance drive point ≤ drive.path.last :=
    Fin.le_def.mpr (Nat.le_sub_one_of_lt (follower.advance drive point).isLt)
  have overTarget := hypot_add_le
    ((drive.path.waypoints.get drive.path.last).point.1 - (follower.targetFor drive point).point.1)
    ((drive.path.waypoints.get drive.path.last).point.2 - (follower.targetFor drive point).point.2)
    ((follower.targetFor drive point).point.1 - point.1)
    ((follower.targetFor drive point).point.2 - point.2)
  rw [sub_add_sub_cancel, sub_add_sub_cancel] at overTarget
  exact overTarget.trans (add_le_add (drive.path.apart_le last) le_rfl)

/-! ### The limits of the commands -/

/-- The configuration, as far as the limits of the commands rest on it. -/
structure Calibrated (follower : WaypointFollower α) : Prop where
  lock : follower.fullLockErrorDeg ≠ 0
  cruise_nonneg : 0 ≤ follower.cruise
  turn_nonneg : 0 ≤ follower.turn
  align : 0 ≤ follower.alignRatio ∧ follower.alignRatio ≤ 1
  near : 0 ≤ follower.nearRatio ∧ follower.nearRatio ≤ 1
  wheel_nonneg : 0 ≤ follower.maxWheelDeg

/-- The speed limits of a path are above zero. -/
def Limited (path : WaypointPath α) : Prop :=
  ∀ waypoint ∈ path.waypoints, (PyFloat.finite 0).lt waypoint.speedLimitMps = true

theorem limitRatio_mem (follower : WaypointFollower α) {limit : PyFloat α}
    (positive : (PyFloat.finite 0).lt limit = true) :
    0 ≤ follower.limitRatio limit ∧ follower.limitRatio limit ≤ 1 := by
  unfold limitRatio
  split
  next limit =>
    have above : 0 < limit := of_decide_eq_true positive
    exact ⟨le_min zero_le_one (div_pos above follower.maxSpeed_pos).le, min_le_left _ _⟩
  · exact ⟨zero_le_one, le_rfl⟩
  · exact ⟨zero_le_one, le_rfl⟩

theorem slowdownRatio_mem (near : 0 ≤ follower.nearRatio ∧ follower.nearRatio ≤ 1) (remaining : α) :
    0 ≤ follower.slowdownRatio remaining ∧ follower.slowdownRatio remaining ≤ 1 := by
  unfold slowdownRatio
  split
  · exact ⟨zero_le_one, le_rfl⟩
  · dsimp only
    generalize (remaining - follower.stopRadiusM) / _ = share
    have progress : 0 ≤ max 0 (min 1 share) ∧ max 0 (min 1 share) ≤ 1 :=
      ⟨le_max_left _ _, max_le zero_le_one (min_le_left _ _)⟩
    have rest : 0 ≤ 1 - follower.nearRatio := sub_nonneg.mpr near.2
    constructor
    · exact add_nonneg near.1 (mul_nonneg rest progress.1)
    · exact add_le_of_le_sub_left (mul_le_of_le_one_right rest progress.2)

/-- The throttle on a leg is between zero and the larger one of cruising and turning. -/
theorem Calibrated.legThrottle_mem (calibrated : follower.Calibrated) {target : Waypoint α}
    (limited : (PyFloat.finite 0).lt target.speedLimitMps = true) (error remaining : α) :
    0 ≤ follower.legThrottle target error remaining ∧
      follower.legThrottle target error remaining ≤ max follower.cruise follower.turn := by
  have scaled {value ratio : α} (value_mem : 0 ≤ value ∧ value ≤ follower.cruise)
      (ratio_mem : 0 ≤ ratio ∧ ratio ≤ 1) :
      0 ≤ value * ratio ∧ value * ratio ≤ follower.cruise :=
    ⟨mul_nonneg value_mem.1 ratio_mem.1,
      (mul_le_of_le_one_right value_mem.1 ratio_mem.2).trans value_mem.2⟩
  have cruising := scaled (scaled ⟨calibrated.cruise_nonneg, le_rfl⟩
    (follower.limitRatio_mem limited)) (slowdownRatio_mem calibrated.near remaining)
  unfold legThrottle
  split
  · dsimp only
    split
    next =>
      have aligned := scaled cruising calibrated.align
      exact ⟨aligned.1, aligned.2.trans (le_max_left _ _)⟩
    next => exact ⟨cruising.1, cruising.2.trans (le_max_left _ _)⟩
  · exact ⟨calibrated.turn_nonneg, le_max_right _ _⟩

theorem abs_wheel_le (nonneg : 0 ≤ follower.maxWheelDeg) {ffDeg error wheel : α}
    (steered : follower.wheel ffDeg error = .ok wheel) : |wheel| ≤ follower.maxWheelDeg := by
  obtain ⟨ratio, _, same⟩ := bind_eq_ok.mp steered
  cases same
  exact abs_clamp_le nonneg _

/-- A command is within the limits of the car, and near a connector its throttle is that of turns. -/
theorem Computed.limits (calibrated : follower.Calibrated) {drive next : WaypointDrive α}
    {point : Point α} {command : ControlCommand α} (limited : Limited drive.path)
    (computed : Computed follower drive point (some command) next) :
    |command.steeringWheelDeg| ≤ follower.maxWheelDeg ∧ 0 ≤ command.throttle ∧
      command.throttle ≤ max follower.cruise follower.turn ∧
      (next.nearCorner = true → command.throttle = follower.turn) := by
  cases computed with
  | @go moves ffDeg error wheel ramped steered throttled =>
    have target := limited _ (List.get_mem drive.path.waypoints (follower.advance drive point))
    have leg := calibrated.legThrottle_mem target error (follower.remainingFor drive point)
    have within : 0 ≤ ramped ∧ ramped ≤ max follower.cruise follower.turn := by
      rcases throttled with rfl | rfl
      · exact leg
      · exact ⟨le_min leg.1 calibrated.turn_nonneg, (min_le_left _ _).trans leg.2⟩
    refine ⟨abs_wheel_le calibrated.wheel_nonneg steered, ?_, ?_, fun near => if_pos near⟩
    · dsimp only
      split
      · exact calibrated.turn_nonneg
      · exact within.1
    · dsimp only
      split
      · exact le_max_right _ _
      · exact within.2

/-- The correction by the lane center is allowed exactly for a target on a lane, with no connector
within the limits ahead of the car or behind it along the route. -/
theorem Computed.segOkNow_iff [LawfulHypot α] {drive next : WaypointDrive α} {point : Point α}
    {command : Option (ControlCommand α)} (computed : Computed follower drive point command next) :
    next.segOkNow = true ↔ command ≠ none ∧ (follower.targetFor drive point).segOk = true ∧
      ∀ i, (drive.path.waypoints.get i).segOk = false →
        (follower.advance drive point ≤ i → follower.cornerSlowM <
          drive.path.cumAt i - drive.path.cumAt (follower.advance drive point) +
            apart (follower.targetFor drive point).point point) ∧
        (i < follower.advance drive point → follower.exitHoldM <
          drive.path.cumAt (follower.advance drive point) -
            apart (follower.targetFor drive point).point point - drive.path.cumAt i) := by
  cases computed with
  | stop stops => exact ⟨fun same => (nomatch same), fun drives => absurd rfl drives.1⟩
  | go moves steered throttled =>
    show (_ && !_) = true ↔ _
    rw [Bool.and_eq_true, Bool.not_eq_true', nearCornerFor, Bool.or_eq_false_iff,
      Bool.eq_false_iff, Bool.eq_false_iff, ne_eq, ne_eq, connectorWithin_iff, connectorBehind_iff]
    constructor
    · rintro ⟨lane, noneWithin, noneBehind⟩
      refine ⟨nofun, lane, fun i connector => ⟨fun ahead => ?_, fun behind => ?_⟩⟩
      · exact not_le.mp fun near => noneWithin ⟨i, ahead, near, connector⟩
      · exact not_le.mp fun near => noneBehind ⟨i, behind, near, connector⟩
    · rintro ⟨-, lane, clear⟩
      refine ⟨lane, ?_, ?_⟩
      · rintro ⟨i, ahead, near, connector⟩
        exact absurd near (not_le.mpr ((clear i connector).1 ahead))
      · rintro ⟨i, behind, near, connector⟩
        exact absurd near (not_le.mpr ((clear i connector).2 behind))

/-- A call stops the car exactly in the cases of `stops`, and then alone leaves the closest distance
as it is. -/
theorem Computed.stops_iff {drive next : WaypointDrive α} {point : Point α}
    {command : Option (ControlCommand α)} (computed : Computed follower drive point command next) :
    command = none ↔ follower.stops drive (follower.advance drive point)
      (follower.remainingFor drive point) = true := by
  cases computed with
  | stop stops => exact ⟨fun _ => stops, fun _ => rfl⟩
  | go moves _ _ => exact ⟨fun same => (nomatch same), fun stops => absurd (moves ▸ stops) nofun⟩

/-! ### Rides -/

/-- The follower over calls with poses; a call that raises changes nothing. -/
def rideStep (follower : WaypointFollower α) (drive : WaypointDrive α) (pose : Point α × α) :
    WaypointDrive α :=
  match follower.compute drive pose.1 pose.2 with
  | .ok (_, _, next) => next
  | .error _ => drive

def ride (follower : WaypointFollower α) (drive : WaypointDrive α) (poses : List (Point α × α)) :
    WaypointDrive α :=
  Transition.run follower.rideStep drive poses

/-- A step of a ride is a call. -/
theorem rideStep_spec (lock : follower.fullLockErrorDeg ≠ 0) (drive : WaypointDrive α)
    (pose : Point α × α) : ∃ command, follower.compute drive pose.1 pose.2 =
        .ok (command, follower.remainingFor drive pose.1, follower.rideStep drive pose) ∧
      Computed follower drive pose.1 command (follower.rideStep drive pose) := by
  obtain ⟨command, next, returned, computed⟩ := compute_spec lock drive pose.1 pose.2
  have same : follower.rideStep drive pose = next := by
    rw [rideStep, returned]
  rw [same]
  exact ⟨command, returned, computed⟩

theorem Computed.samePath {drive next : WaypointDrive α} {point : Point α}
    {command : Option (ControlCommand α)} (computed : Computed follower drive point command next) :
    next.path = drive.path := by
  cases computed <;> rfl

/-- A ride stays on its path. -/
theorem path_ride (lock : follower.fullLockErrorDeg ≠ 0) (start : WaypointDrive α)
    (poses : List (Point α × α)) : (follower.ride start poses).path = start.path := by
  have kept (drive : WaypointDrive α) (pose : Point α × α) (same : drive.path = start.path) :
      (follower.rideStep drive pose).path = start.path := by
    obtain ⟨_, _, computed⟩ := rideStep_spec lock drive pose
    exact computed.samePath.trans same
  exact Transition.run_invariant kept rfl poses

/-! ### The closest distance -/

/-- A call that drives the car towards the last waypoint. -/
def DrivesToEnd (follower : WaypointFollower α) (drive : WaypointDrive α) (point : Point α) : Prop :=
  follower.stops drive (follower.advance drive point) (follower.remainingFor drive point) = false ∧
    follower.advance drive point = drive.path.last

/-- A call of the ride drove the car towards the last waypoint, and was closer to it than a bound by
the hysteresis. -/
def CameCloser (follower : WaypointFollower α) (start : WaypointDrive α) (poses : List (Point α × α))
    (bound : α) : Prop :=
  ∃ before pose, before ++ [pose] <+: poses ∧
    follower.DrivesToEnd (follower.ride start before) pose.1 ∧
    follower.remainingFor (follower.ride start before) pose.1 + passedHysteresisM < bound

/-- What is remembered is below a bound exactly if a call was. -/
theorem Computed.remembers {drive next : WaypointDrive α} {point : Point α}
    {command : Option (ControlCommand α)} (computed : Computed follower drive point command next)
    (bound : α) :
    (next.bestRemaining.any fun best => decide (best + passedHysteresisM < bound)) = true ↔
      (follower.DrivesToEnd drive point ∧
        follower.remainingFor drive point + passedHysteresisM < bound) ∨
      (drive.bestRemaining.any fun best => decide (best + passedHysteresisM < bound)) = true := by
  cases computed with
  | stop stops =>
    refine ⟨.inr, ?_⟩
    rintro (⟨⟨moves, _⟩, _⟩ | remembered)
    · rw [stops] at moves
      cases moves
    · exact remembered
  | go moves steered throttled =>
    show ((closest drive _ _).any _) = true ↔ _
    unfold closest
    split
    next atEnd =>
      have drives : follower.DrivesToEnd drive point := ⟨moves, atEnd⟩
      rw [and_iff_right drives]
      cases drive.bestRemaining with
      | none => simp
      | some best => simp [← min_add_add_right]
    next onTheWay =>
      refine ⟨.inr, ?_⟩
      rintro (⟨⟨_, atEnd⟩, _⟩ | remembered)
      · exact absurd atEnd onTheWay
      · exact remembered

theorem cameCloser_concat (start : WaypointDrive α) (poses : List (Point α × α)) (pose : Point α × α)
    (bound : α) : follower.CameCloser start (poses ++ [pose]) bound ↔
      (follower.DrivesToEnd (follower.ride start poses) pose.1 ∧
        follower.remainingFor (follower.ride start poses) pose.1 + passedHysteresisM < bound) ∨
      follower.CameCloser start poses bound := by
  constructor
  · rintro ⟨before, earlier, isPrefix, closer⟩
    rcases List.prefix_concat_iff.mp isPrefix with same | inside
    · obtain ⟨rfl, rfl⟩ := List.append_singleton_inj.mp same
      exact .inl closer
    · exact .inr ⟨before, earlier, inside, closer⟩
  · rintro (closer | ⟨before, earlier, inside, closer⟩)
    · exact ⟨poses, pose, List.prefix_rfl, closer⟩
    · exact ⟨before, earlier, inside.trans (List.prefix_append _ _), closer⟩

/-- Over a ride from a new route, the closest distance is that of the calls that drove towards the
end. -/
theorem remembers_ride (lock : follower.fullLockErrorDeg ≠ 0) {start : WaypointDrive α}
    (fresh : start.bestRemaining = none) (poses : List (Point α × α)) (bound : α) :
    ((follower.ride start poses).bestRemaining.any fun best =>
      decide (best + passedHysteresisM < bound)) = true ↔ follower.CameCloser start poses bound := by
  induction poses using List.reverseRecOn with
  | nil =>
    rw [ride, Transition.run_nil, fresh]
    refine ⟨fun same => (nomatch same), ?_⟩
    rintro ⟨before, pose, isPrefix, _⟩
    exact absurd (List.prefix_nil.mp isPrefix)
      (List.append_ne_nil_of_right_ne_nil before (List.cons_ne_nil pose []))
  | append_singleton poses pose inductionHypothesis =>
    obtain ⟨_, _, computed⟩ := rideStep_spec lock (follower.ride start poses) pose
    have onward : follower.ride start (poses ++ [pose]) =
        follower.rideStep (follower.ride start poses) pose := Transition.run_concat ..
    rw [onward, computed.remembers, inductionHypothesis, cameCloser_concat]

/-! ### A new route -/

/-- A waypoint of a route has the speed limit of one of its segments. -/
theorem limits_waypoints (holds : PyFloat α → Prop) {route : Route α}
    (each : ∀ segment ∈ route.segments, holds segment.speedLimitMps) :
    ∀ waypoint ∈ follower.waypoints route, holds waypoint.speedLimitMps := by
  have kept : ∀ (points taken : List (Waypoint α)),
      (∀ waypoint ∈ points, holds waypoint.speedLimitMps) →
      (∀ waypoint ∈ taken, holds waypoint.speedLimitMps) →
      ∀ waypoint ∈ points.foldl append taken, holds waypoint.speedLimitMps := by
    intro points
    induction points with
    | nil => exact fun taken _ atFirst => atFirst
    | cons point rest inductionHypothesis =>
      intro taken inPoints inTaken
      obtain ⟨here, behind⟩ := List.forall_mem_cons.mp inPoints
      refine inductionHypothesis _ behind ?_
      unfold append
      split
      next => exact List.forall_mem_singleton.mpr here
      next =>
        split
        next => exact inTaken
        next => exact List.forall_mem_append.mpr ⟨inTaken, List.forall_mem_singleton.mpr here⟩
  refine kept _ [] (fun waypoint member => ?_) fun _ member => (nomatch member)
  obtain ⟨segment, onRoute, inSegment⟩ := List.mem_flatMap.mp member
  obtain ⟨_, _, rfl⟩ := List.mem_map.mp inSegment
  exact each segment onRoute

/-- A new route begins at its first waypoint, with nothing remembered. -/
theorem setRoute_spec {route : Route α} {start : WaypointDrive α}
    (set_ : follower.setRoute route = .ok start) : start.bestRemaining = none ∧ (start.idx : ℕ) = 0 ∧
      ∀ waypoint ∈ start.path.waypoints, waypoint ∈ follower.waypoints route := by
  unfold setRoute at set_
  split at set_
  next => cases set_
  next only found =>
    cases set_
    rw [found]
    exact ⟨rfl, rfl, fun waypoint member => by simpa using member⟩
  next first second rest found =>
    cases set_
    rw [found]
    exact ⟨rfl, rfl, fun waypoint member => member⟩

/-- In every ride over a route whose speed limits are above zero each call returns; its target is the
first waypoint from the old one on that is neither within the lookahead nor farther than the next;
the last waypoint is not farther than what remains; and a command is within the limits of the car,
with the throttle of turns near a connector. -/
theorem centerline_commands_are_limited [MetricHypot α] (calibrated : follower.Calibrated)
    {route : Route α} {start : WaypointDrive α} (set_ : follower.setRoute route = .ok start)
    (limits : ∀ segment ∈ route.segments, (PyFloat.finite 0).lt segment.speedLimitMps = true)
    (poses : List (Point α × α)) (pose : Point α × α) :
    let drive := follower.ride start poses
    ∃ command remaining next,
      follower.compute drive pose.1 pose.2 = .ok (command, remaining, next) ∧
      next.path = start.path ∧ (next.idx : ℕ) = follower.advance drive pose.1 ∧
      TargetAhead drive.path
        (if drive.nearCorner then follower.cornerLookaheadM else follower.lookaheadM) pose.1
        drive.idx (follower.advance drive pose.1) ∧
      apart (start.path.waypoints.get start.path.last).point pose.1 ≤ remaining ∧
      ∀ given, command = some given → |given.steeringWheelDeg| ≤ follower.maxWheelDeg ∧
        0 ≤ given.throttle ∧ given.throttle ≤ max follower.cruise follower.turn ∧
        (next.nearCorner = true → given.throttle = follower.turn) := by
  intro drive
  obtain ⟨command, next, returned, computed⟩ := compute_spec calibrated.lock drive pose.1 pose.2
  have samePath : drive.path = start.path := path_ride calibrated.lock start poses
  have limited : Limited drive.path := by
    intro waypoint member
    rw [samePath] at member
    exact limits_waypoints (fun limit => (PyFloat.finite 0).lt limit = true) limits waypoint
      ((setRoute_spec set_).2.2 waypoint member)
  have near : apart (drive.path.waypoints.get drive.path.last).point pose.1 ≤
      follower.remainingFor drive pose.1 := apart_le_remainingFor drive pose.1
  rw [samePath] at near
  refine ⟨command, _, next, returned, computed.samePath.trans samePath, ?_,
    advance_spec follower drive pose.1, near, ?_⟩
  · cases computed <;> rfl
  · rintro given rfl
    exact computed.limits calibrated limited

/-- A follower with waypoints every quarter of a metre. -/
def coarseFollower : WaypointFollower ℚ where
  spacingM := 1 / 4
  lookaheadM := 1 / 4
  cornerLookaheadM := 12 / 100
  ffLeadM := 5 / 100
  fullLockErrorDeg := 45
  alignErrorDeg := 25
  alignRatio := 1 / 2
  cruise := 40 / 100
  turn := 35 / 100
  slowdownM := 40 / 100
  nearRatio := 1 / 2
  stopRadiusM := 10 / 100
  rampM := 10 / 100
  cornerSlowM := 1 / 4
  exitHoldM := 1 / 4
  maxWheelDeg := 30
  maxSpeedMps := 3 / 2
  maxSpeed_pos := by norm_num
  wheelbaseM := 14 / 100

/-- A lane to the east, and a connector that turns right behind it. -/
def bendRoute : Route ℚ :=
  ⟨"east", "south", [⟨"east", .lane, .follow, ⟨(0, 0), [(1, 0)]⟩, .finite 1, 1, none⟩,
    ⟨"east_south", .connector, .right, ⟨(1, 0), [(2, 0), (2, -1)]⟩, .finite 1, 2,
      some (.finite 1)⟩], 3⟩

def bendDrive : WaypointDrive ℚ := returned (coarseFollower.setRoute bendRoute) (by decide +kernel)

theorem bendRoute_set : coarseFollower.setRoute bendRoute = .ok bendDrive := ok_returned _

theorem coarseFollower_calibrated : coarseFollower.Calibrated := by
  constructor <;> norm_num [coarseFollower]

/-- Half way along the lane a command is within the limits of that follower. -/
theorem centerline_commands_are_limited_bend :
    ∃ command remaining next,
      coarseFollower.compute (coarseFollower.ride bendDrive [((0, 0), 0)]) (1 / 2, 0) 0 =
        .ok (command, remaining, next) ∧ apart (2, -1) (1 / 2, 0) ≤ remaining ∧
      ∀ given, command = some given → |given.steeringWheelDeg| ≤ 30 ∧ given.throttle ≤ 4 / 10 := by
  have limits : ∀ segment ∈ bendRoute.segments,
      (PyFloat.finite 0).lt segment.speedLimitMps = true := by decide +kernel
  obtain ⟨command, remaining, next, returned, -, -, -, near, limited⟩ :=
    centerline_commands_are_limited coarseFollower_calibrated bendRoute_set limits [((0, 0), 0)]
      ((1 / 2, 0), 0)
  have atEnd : (bendDrive.path.waypoints.get bendDrive.path.last).point = (2, -1) := by
    decide +kernel
  rw [atEnd] at near
  refine ⟨command, remaining, next, returned, near, fun given same => ?_⟩
  obtain ⟨wheel, -, throttle, -⟩ := limited given same
  exact ⟨wheel, throttle.trans (by norm_num [coarseFollower])⟩

/-- In every ride a call stops the car exactly where no more than the radius remains, or where the
target is the last waypoint and an earlier call drove towards it from closer by, by more than the
hysteresis. -/
theorem centerline_stops_by_history (lock : follower.fullLockErrorDeg ≠ 0) {route : Route α}
    {start : WaypointDrive α} (set_ : follower.setRoute route = .ok start)
    (poses : List (Point α × α)) (pose : Point α × α) :
    let drive := follower.ride start poses
    ∃ command remaining next,
      follower.compute drive pose.1 pose.2 = .ok (command, remaining, next) ∧
      (command = none ↔ remaining ≤ follower.stopRadiusM ∨
        follower.advance drive pose.1 = drive.path.last ∧
          follower.CameCloser start poses remaining) := by
  intro drive
  obtain ⟨command, next, returned, computed⟩ := compute_spec lock drive pose.1 pose.2
  refine ⟨command, _, next, returned, computed.stops_iff.trans ?_⟩
  rw [← remembers_ride lock (setRoute_spec set_).1, stops, Bool.or_eq_true, Bool.and_eq_true,
    decide_eq_true_iff, decide_eq_true_iff]

/-- Behind a call a fifth of a metre before the end, a call half a metre before it stops the car. -/
theorem centerline_stops_by_history_bend :
    let drive := coarseFollower.ride bendDrive [((2, -(4 / 5)), 270)]
    ∃ command remaining next,
      coarseFollower.compute drive (2, -(1 / 2)) 270 = .ok (command, remaining, next) ∧
      (command = none ↔ remaining ≤ coarseFollower.stopRadiusM ∨
        coarseFollower.advance drive (2, -(1 / 2)) = drive.path.last ∧
          coarseFollower.CameCloser bendDrive [((2, -(4 / 5)), 270)] remaining) :=
  centerline_stops_by_history coarseFollower_calibrated.lock bendRoute_set [((2, -(4 / 5)), 270)]
    ((2, -(1 / 2)), 270)

example : ((coarseFollower.compute (coarseFollower.ride bendDrive [((2, -(4 / 5)), 270)])
    (2, -(1 / 2)) 270).toOption.map fun result => result.1.isNone) = some true := by
  decide +kernel

/-- In every ride the correction by the lane center is allowed exactly behind a call that drives the
car, with its target on a lane, while no waypoint of a connector is within the limits ahead of the
car or behind it along the route. -/
theorem correction_away_from_connectors [LawfulHypot α] (lock : follower.fullLockErrorDeg ≠ 0)
    (start : WaypointDrive α) (poses : List (Point α × α)) (pose : Point α × α) :
    let drive := follower.ride start poses
    let target := follower.advance drive pose.1
    let gap := apart (drive.path.waypoints.get target).point pose.1
    ∃ command remaining next,
      follower.compute drive pose.1 pose.2 = .ok (command, remaining, next) ∧
      (next.segOkNow = true ↔ command ≠ none ∧ (drive.path.waypoints.get target).segOk = true ∧
        ∀ i, (drive.path.waypoints.get i).segOk = false →
          (target ≤ i →
            follower.cornerSlowM < drive.path.cumAt i - drive.path.cumAt target + gap) ∧
          (i < target →
            follower.exitHoldM < drive.path.cumAt target - gap - drive.path.cumAt i)) := by
  intro drive target gap
  obtain ⟨command, next, returned, computed⟩ := compute_spec lock drive pose.1 pose.2
  exact ⟨command, _, next, returned, computed.segOkNow_iff⟩

/-- At the start of the lane, far from the connector, the correction is allowed. -/
theorem correction_away_from_connectors_bend :
    let drive := coarseFollower.ride bendDrive []
    let target := coarseFollower.advance drive (0, 0)
    let gap := apart (drive.path.waypoints.get target).point (0, 0)
    ∃ command remaining next,
      coarseFollower.compute drive (0, 0) 0 = .ok (command, remaining, next) ∧
      next.segOkNow = true ∧
      command ≠ none ∧ (drive.path.waypoints.get target).segOk = true ∧
        ∀ i, (drive.path.waypoints.get i).segOk = false →
          (target ≤ i → 1 / 4 < drive.path.cumAt i - drive.path.cumAt target + gap) ∧
          (i < target → 1 / 4 < drive.path.cumAt target - gap - drive.path.cumAt i) := by
  have allowed : ((coarseFollower.compute (coarseFollower.ride bendDrive []) (0, 0)
      0).toOption.map fun result => result.2.2.segOkNow) = some true := by
    decide +kernel
  obtain ⟨command, remaining, next, returned, iff⟩ :=
    correction_away_from_connectors coarseFollower_calibrated.lock bendDrive [] ((0, 0), 0)
  rw [returned] at allowed
  have here : next.segOkNow = true := Option.some.inj allowed
  exact ⟨command, remaining, next, returned, here, iff.mp here⟩

end WaypointFollower

end RcTaxi
