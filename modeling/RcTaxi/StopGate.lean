/-
This file compares where the car stops with where it may report the end of its way. On the last leg
it stops within a radius of the end, or, inside a window around the end, once the distance along the
leg is used up, however far it is to the side. The gate of the arrival is a radius of its own. The
configuration loader checks that the first radius is not larger than the gate; the window it does
not look at.

The remaining distance by way of the point aimed at is never below the distance to the end, so the
first stop is in the gate. The second is in the gate exactly for a window that is not larger than
the gate, or that is never entered.
-/

import RcTaxi.FollowerCourse

namespace RcTaxi

variable {α : Type} [Scalar α] [MetricHypot α]

/-! ### Distances along a path -/

/-- The distance between two points. -/
abbrev distance (a b : Point α) : α := hypot (b.1 - a.1) (b.2 - a.2)

theorem distance_triangle (a b c : Point α) : distance a c ≤ distance a b + distance b c := by
  have sum := hypot_add_le (b.1 - a.1) (b.2 - a.2) (c.1 - b.1) (c.2 - b.2)
  have first : b.1 - a.1 + (c.1 - b.1) = c.1 - a.1 := by ring
  have second : b.2 - a.2 + (c.2 - b.2) = c.2 - a.2 := by ring
  rwa [first, second] at sum

theorem distance_comm (a b : Point α) : distance a b = distance b a := by
  have turned := hypot_neg (b.1 - a.1) (b.2 - a.2)
  rw [neg_sub, neg_sub] at turned
  exact turned.symm

/-- The way by the first point of a path and along the path is at least the distance to its end. -/
theorem distance_last_le (point first : Point α) (rest : List (Point α)) :
    distance point (rest.getLastD first) ≤ distance point first + pathLen (first :: rest) := by
  induction rest generalizing first with
  | nil => exact le_of_eq (add_zero _).symm
  | cons next rest inductionHypothesis =>
    have split : pathLen (first :: next :: rest) = distance first next + pathLen (next :: rest) :=
      List.sum_cons
    have step := distance_triangle point first next
    have along := inductionHypothesis next
    rw [List.getLastD_cons, split]
    linarith only [step, along]

omit [Scalar α] [MetricHypot α] in
theorem getLast?_cons_eq_getLastD (first : Point α) (rest : List (Point α)) :
    (first :: rest).getLast? = some (rest.getLastD first) := by
  rw [List.getLast?_cons, List.getLastD_eq_getLast?]

/-- The remaining distance on a leg is at least the distance to its end. -/
theorem LaneLeg.distance_le_remaining {leg : LaneLeg α} {pt : ℕ} {point : Point α} {onLeg : α}
    (remaining : leg.remaining pt point = .ok onLeg) : distance point leg.points.last ≤ onLeg := by
  obtain ⟨target, found, same⟩ := bind_eq_ok.mp remaining
  cases same
  obtain ⟨inside, isTarget⟩ := List.getElem?_eq_some_iff.mp (itemAt_ok.mp found)
  have ahead : leg.points.points.drop pt = target :: leg.points.points.drop (pt + 1) := by
    rw [List.drop_eq_getElem_cons inside, isTarget]
  have last : (leg.points.points.drop pt).getLast? = some leg.points.last := by
    rw [List.getLast?_drop, if_neg (not_le.mpr inside)]
    exact getLast?_cons_eq_getLastD ..
  rw [ahead, getLast?_cons_eq_getLastD, Option.some.injEq] at last
  rw [ahead, ← last]
  exact distance_last_le point target _

namespace LaneFollower

variable {follower : LaneFollower α} {route : LaneRoute α} {point : Point α} {headingDeg : α}
  {sensors : Sensors α}

omit [MetricHypot α] in
/-- A call that stops looks at the end of the last leg. -/
theorem Course.stopped {state : FollowerState α} {driven : Driven α}
    (course : follower.Course route point headingDeg sensors state driven)
    (stopped : driven.command = none) : ∃ state leg view,
      follower.Sight route point state leg view ∧ view.stops = true ∧
      driven.remaining = view.remaining := by
  induction course with
  | stops sight stops => exact ⟨_, _, _, sight, stops, rfl⟩
  | ends sight goes last steered =>
    obtain ⟨_, _, _, _, _, _, _, rfl⟩ := steer_ok steered
    cases stopped
  | stays sight goes behind resolved onward steered =>
    obtain ⟨_, _, _, _, _, _, _, rfl⟩ := steer_ok steered
    cases stopped
  | passes sight goes behind resolved onward rest inductionHypothesis =>
    exact inductionHypothesis stopped
  | turns sight goes behind resolved onward begins rest inductionHypothesis =>
    exact inductionHypothesis stopped
  | keeps bend on => cases stopped
  | finishes bend ended rest inductionHypothesis => exact inductionHypothesis stopped

omit [MetricHypot α] in
/-- Behind the last leg nothing is left of the route. -/
theorem tailLengthM_last {leg : ℕ} (last : leg + 1 = route.legs.length) :
    route.tailLengthM leg = 0 := by
  have counts := route.counts
  have nothing : (route.turns.zip route.legs.tail).drop leg = [] := by
    rw [List.drop_eq_nil_iff, List.length_zip, List.length_tail]
    omega
  rw [LaneRoute.tailLengthM, nothing]
  rfl

/-- A call that stops is on the last leg, no farther from its end than the remaining distance. -/
theorem computeAt_stopped {input : FollowerInput α} {state : FollowerState α} {driven : Driven α}
    (routed : state.route = some route) (computed : follower.computeAt input state = .ok driven)
    (stopped : driven.command = none) : ∃ leg, route.legs.getLast? = some leg ∧
      distance input.point leg.points.last ≤ driven.remaining := by
  obtain ⟨⟨command, remaining, drove⟩, course, rfl⟩ := computeAt_course routed computed
  cases command with
  | some command => cases stopped
  | none =>
    obtain ⟨state, leg, view, sight, stops, same⟩ := course.stopped rfl
    obtain ⟨last, _⟩ := sight.last stops
    obtain ⟨onLeg, isOnLeg, sum⟩ := sight.isFrom.remaining
    rw [tailLengthM_last last, add_zero] at sum
    change remaining = view.remaining at same
    refine ⟨leg, ?_, ?_⟩
    · rw [List.getLast?_eq_getElem?, ← last]
      exact sight.onLeg
    · change distance input.point leg.points.last ≤ remaining
      rw [same.trans sum]
      exact LaneLeg.distance_le_remaining isOnLeg

/-! ### The gate -/

/-- The tests of the stop radius and of the parallel stop, without that of a car that moves away
again. -/
def stopsNear (follower : LaneFollower α) (leg : LaneLeg α) (point : Point α) (remaining : α) :
    Bool :=
  (follower.parallelStopTarget leg point remaining).any
      (fun target => decide (target.2 ≤ follower.stopRadiusM)) ||
    decide (remaining ≤ follower.stopRadiusM)

/-- On every route whose last leg ends at the stop, every call of a run that stops near the end
stops within the radius around the stop. -/
def StopsInGate (follower : LaneFollower α) (arrivalRadiusM : α) : Prop :=
  ∀ (route : LaneRoute α) (leg : LaneLeg α) (stop : StopPose α),
    route.legs.getLast? = some leg → leg.points.last = (stop.x, stop.y) →
    ∀ calls state input driven, follower.Ride (.reset (some route)) calls state →
      follower.computeAt input state = .ok driven → driven.command = none →
      follower.stopsNear leg input.point driven.remaining = true →
      hypot (input.point.1 - stop.x) (input.point.2 - stop.y) ≤ arrivalRadiusM

/-- The way along a direction is not farther behind than the distance. -/
theorem neg_distance_le_along {first last : Point α} (long : 0 < distance first last)
    (point : Point α) : -distance point last ≤
      (last.1 - point.1) * ((last.1 - first.1) / distance first last) +
        (last.2 - point.2) * ((last.2 - first.2) / distance first last) := by
  have inner := (abs_le.mp (inner_le (last.1 - point.1) (last.2 - point.2)
    (last.1 - first.1) (last.2 - first.2))).1
  have share : (last.1 - point.1) * ((last.1 - first.1) / distance first last) +
      (last.2 - point.2) * ((last.2 - first.2) / distance first last) =
        ((last.1 - point.1) * (last.1 - first.1) + (last.2 - point.2) * (last.2 - first.2)) /
          distance first last := by ring
  rw [share, le_div_iff₀ long, neg_mul]
  exact inner

/-- The distance along the leg is at most the distance to its end, also behind the end. -/
theorem parallelStopTarget_along {leg : LaneLeg α} {point : Point α} {remaining : α}
    {target : Point α × α} (parallel : follower.parallelStopTarget leg point remaining = some target) :
    0 < follower.parallelStopM ∧ remaining ≤ follower.parallelStopM ∧
      -distance point leg.points.last ≤ target.2 := by
  unfold parallelStopTarget at parallel
  split at parallel
  · cases parallel
  next window =>
    rw [not_or, not_le, not_lt] at window
    dsimp only at parallel
    split at parallel
    · cases parallel
    next long =>
      cases parallel
      refine ⟨window.1, window.2, ?_⟩
      exact neg_distance_le_along (lt_of_lt_of_le tolerance_pos (not_lt.mp long)) point

/-- A window that the stops keep to: it is closed, not larger than the gate, or left before the
distance along the leg is used up. -/
def WindowInGate (follower : LaneFollower α) (arrivalRadiusM : α) : Prop :=
  follower.parallelStopM ≤ 0 ∨ follower.parallelStopM ≤ arrivalRadiusM ∨
    follower.parallelStopM < -follower.stopRadiusM

/-- A stop near the end is in the gate if the window is. -/
theorem stopsInGate_of_window {arrivalRadiusM : α}
    (checked : follower.stopRadiusM ≤ arrivalRadiusM)
    (window : follower.WindowInGate arrivalRadiusM) : follower.StopsInGate arrivalRadiusM := by
  intro route leg stop isLast ends calls state input driven ride computed stopped near
  obtain ⟨other, isOther, within⟩ := computeAt_stopped ride.onRoute.routed computed stopped
  rw [isLast, Option.some.injEq] at isOther
  subst isOther
  have reached : hypot (input.point.1 - stop.x) (input.point.2 - stop.y) =
      distance input.point leg.points.last := by
    rw [distance_comm, ends]
  rw [reached]
  unfold stopsNear at near
  rw [Bool.or_eq_true, decide_eq_true_eq] at near
  rcases near with parallel | radius
  · cases isTarget : follower.parallelStopTarget leg input.point driven.remaining with
    | none =>
      rw [isTarget] at parallel
      cases parallel
    | some target =>
      rw [isTarget] at parallel
      have used : target.2 ≤ follower.stopRadiusM := of_decide_eq_true parallel
      obtain ⟨opened, inWindow, behind⟩ := parallelStopTarget_along isTarget
      rcases window with closed | small | left
      · exact absurd closed (not_le.mpr opened)
      · exact within.trans (inWindow.trans small)
      · linarith only [within, inWindow, behind, used, left]
  · exact within.trans (radius.trans checked)

/-! ### A car beside the stop -/

/-- A single leg of a meter along the axis. -/
def meterLeg : LaneLeg α := ⟨"meter", none, ⟨(0, 0), [(1, 0)]⟩, .finite 1, 1⟩

def meterRoute : LaneRoute α := ⟨[meterLeg], [], 1, rfl⟩

/-- Behind the end of the leg, at the far side of the window. -/
def behindEnd (follower : LaneFollower α) (sensors : Sensors α) : FollowerInput α :=
  ⟨(1 + follower.parallelStopM, 0), 0, sensors⟩

/-- The distance of a point on the axis to the end of the leg. -/
theorem distance_meter_end (x : α) : distance (x, 0) (1, 0) = |x - 1| := by
  change hypot (1 - x) (0 - 0) = _
  rw [sub_zero, hypot_axis, abs_sub_comm]

/-- At the far side of the window the distance along the leg is negative. -/
theorem meterLeg_stopsNear {follower : LaneFollower α} (opened : 0 < follower.parallelStopM)
    (used : -follower.parallelStopM ≤ follower.stopRadiusM) :
    follower.stopsNear meterLeg (1 + follower.parallelStopM, 0) follower.parallelStopM = true := by
  have norm : distance ((0, 0) : Point α) (1, 0) = 1 := by
    rw [distance_meter_end, zero_sub, abs_neg, abs_one]
  have long : ¬ distance ((0, 0) : Point α) (1, 0) < tolerance := by
    rw [norm, tolerance, not_lt]
    norm_num
  have window : ¬ (follower.parallelStopM ≤ 0 ∨ follower.parallelStopM < follower.parallelStopM) :=
    not_or.mpr ⟨not_le.mpr opened, lt_irrefl _⟩
  unfold stopsNear parallelStopTarget
  rw [if_neg window]
  change (Option.any _ (if distance ((0, 0) : Point α) (1, 0) < tolerance then none
    else some (_, (1 - (1 + follower.parallelStopM)) * ((1 - 0) / distance ((0, 0) : Point α) (1, 0)) +
      (0 - 0) * ((0 - 0) / distance ((0, 0) : Point α) (1, 0)))) || _) = true
  rw [if_neg long, norm, Bool.or_eq_true]
  refine .inl (decide_eq_true ?_)
  dsimp only
  linarith only [used]

omit [MetricHypot α] in
/-- A call that sees where to stop from its leg stops there. -/
theorem computeAt_of_stops {input : FollowerInput α} {state : FollowerState α} {leg : LaneLeg α}
    {view : Outlook α} (routed : state.route = some route)
    (sight : follower.Sight route input.point (follower.underway input.point state) leg view)
    (stops : view.stops = true) : ∃ driven, follower.computeAt input state = .ok driven ∧
      driven.command = none ∧ driven.remaining = view.remaining := by
  have legs : route.legs.length = route.turns.length + 1 := route.counts
  have drives : follower.driveOn route input.point input.headingDeg input.sensors
      (follower.underway input.point state) = .ok ⟨none, view.remaining, view.state⟩ := by
    unfold driveOn
    dsimp only
    rw [if_neg sight.straight, legs]
    unfold driveLeg
    rw [itemAt_ok.mpr sight.onLeg]
    change (follower.outlook route leg input.point (follower.underway input.point state) >>= _) = _
    rw [sight.seen]
    exact if_pos stops
  refine ⟨follower.finish input.point ⟨none, view.remaining, view.state⟩, ?_, rfl, rfl⟩
  unfold computeAt compute
  rw [routed]
  exact bind_eq_ok.mpr ⟨_, drives, rfl⟩

/-- There a call stops, as far from the end as the window is wide. -/
theorem behindEnd_stops {follower : LaneFollower α} (opened : 0 < follower.parallelStopM)
    (used : -follower.parallelStopM ≤ follower.stopRadiusM) (sensors : Sensors α) : ∃ driven,
      follower.computeAt (follower.behindEnd sensors) (.reset (some meterRoute)) = .ok driven ∧
      driven.command = none ∧ driven.remaining = follower.parallelStopM := by
  obtain ⟨_, _, _, started⟩ := follower.underway_state (follower.behindEnd sensors).point
    (.reset (some meterRoute))
  obtain ⟨view, seen, isFrom⟩ := follower.outlook_ok meterRoute meterLeg
    (follower.behindEnd sensors).point
    (follower.underway (follower.behindEnd sensors).point (.reset (some meterRoute)))
  have sight : follower.Sight meterRoute (follower.behindEnd sensors).point
      (follower.underway (follower.behindEnd sensors).point (.reset (some meterRoute))) meterLeg
      view := by
    refine ⟨?_, ?_, seen⟩
    · rw [started]
      exact TurnPhase.noConfusion
    · rw [started]
      rfl
  rw [started] at isFrom
  have remaining : view.remaining = follower.parallelStopM := by
    obtain ⟨onLeg, isOnLeg, sum⟩ := isFrom.remaining
    have same : distance (1 + follower.parallelStopM, 0) (1, 0) + 0 = onLeg :=
      Except.ok.inj isOnLeg
    rw [distance_meter_end, add_sub_cancel_left, abs_of_pos opened, add_zero] at same
    rw [sum, ← same]
    exact add_zero _
  have stops : view.stops = true := by
    rw [isFrom.stops, isFrom.isFinal, remaining, Bool.and_eq_true]
    refine ⟨rfl, ?_⟩
    have near := meterLeg_stopsNear opened used
    unfold stopsNear at near
    unfold stopsAt
    exact Bool.or_eq_true_iff.mpr (.inl near)
  obtain ⟨driven, computed, stopped, same⟩ := computeAt_of_stops rfl sight stops
  exact ⟨driven, computed, stopped, same.trans remaining⟩

/-- The stops near the end are in the gate, whatever the route and the run, exactly if the window of
the parallel stop is. -/
theorem stops_in_gate_iff (follower : LaneFollower α) {arrivalRadiusM : α}
    (checked : follower.stopRadiusM ≤ arrivalRadiusM) :
    follower.StopsInGate arrivalRadiusM ↔ follower.WindowInGate arrivalRadiusM := by
  refine ⟨fun every => ?_, stopsInGate_of_window checked⟩
  by_contra outside
  rw [WindowInGate, not_or, not_or, not_le, not_le, not_lt] at outside
  obtain ⟨opened, wide, used⟩ := outside
  obtain ⟨driven, computed, stopped, remaining⟩ := behindEnd_stops opened
    (by linarith only [used]) ⟨fun _ => 0, fun _ => ⟨false, [], .finite 0, .finite 0, .finite 0⟩,
      ⟨false, 0, 0⟩⟩
  have near := meterLeg_stopsNear opened (by linarith only [used])
  have inside := every meterRoute meterLeg ⟨"meter", 1, 0, 0, 1, 0⟩ rfl rfl _ _ _ driven .start
    computed stopped (remaining ▸ near)
  change hypot (1 + follower.parallelStopM - 1) (0 - 0) ≤ arrivalRadiusM at inside
  rw [add_sub_cancel_left, sub_zero, hypot_axis, abs_of_pos opened] at inside
  exact absurd inside (not_le.mpr wide)

/-! ### A window wider than the gate -/

theorem wideSpeed_pos : (0 : ℚ) < 22 / 100 := by
  norm_num

/-- The ring with a window of half a meter. -/
def wideFollower : LaneFollower ℚ :=
  returned (LaneFollower.new (.dict (("parallel_stop_distance_m", .float (.finite (5 / 10))) ::
    ringControl.items.toOption.getD [])) ringTable 30 (22 / 100) wideSpeed_pos true true)
    (by decide +kernel)

/-- Beside the end of the leg. -/
def besideEnd : FollowerInput ℚ := ⟨(1, 45 / 100), 0, (darkInput 0).sensors⟩

def besideDriven : Driven ℚ :=
  returned (wideFollower.computeAt besideEnd (.reset (some meterRoute))) (by decide +kernel)

/-- The car stops beside the end of the leg, outside of the gate the stop radius is inside of. -/
theorem beside_the_gate : wideFollower.stopRadiusM ≤ 4 / 10 ∧
    wideFollower.computeAt besideEnd (.reset (some meterRoute)) = .ok besideDriven ∧
    besideDriven.command = none ∧
    wideFollower.stopsNear meterLeg besideEnd.point besideDriven.remaining = true ∧
    ¬ hypot (besideEnd.point.1 - 1) (besideEnd.point.2 - 0) ≤ 4 / 10 ∧
    ¬ wideFollower.StopsInGate (4 / 10) := by
  have outside : ¬ hypot (besideEnd.point.1 - 1) (besideEnd.point.2 - 0) ≤ 4 / 10 := by
    decide +kernel
  have stopped : besideDriven.command = none := by decide +kernel
  have near : wideFollower.stopsNear meterLeg besideEnd.point besideDriven.remaining = true := by
    decide +kernel
  refine ⟨by decide +kernel, ok_returned _, stopped, near, outside, fun every => ?_⟩
  exact outside (every meterRoute meterLeg ⟨"meter", 1, 0, 0, 1, 0⟩ rfl rfl [] _ besideEnd
    besideDriven .start (ok_returned _) stopped near)

theorem stops_in_gate_iff_ring : ringFollower.StopsInGate (4 / 10) :=
  (stops_in_gate_iff ringFollower (by decide +kernel)).mpr (.inl (by decide +kernel))

end LaneFollower

end RcTaxi
