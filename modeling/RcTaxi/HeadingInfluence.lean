/-
This file compares two runs of the follower that differ in the measured heading only. Some lanes are
driven without it: the heading is replaced by the direction the positions took, or by that of the
lane. The replacement stands in front of the steering; the throttle of a leg is slowed down by the
measured heading itself.

What a call does on a leg is a plan that is made without the heading. The heading enters where the
plan is carried out: in the steering, in the throttle, and in the end of a turn, behind which the
leg is left. As long as neither run leaves the leg, they differ in nothing but the throttle, and in
the throttle only if the slow-down is decided otherwise.
-/

import RcTaxi.FollowerCourse

namespace RcTaxi

variable {α : Type} [Scalar α]

omit [Scalar α] in
/-- Two numbers are the same under a bound exactly if they are the same, or both reach it. -/
theorem min_eq_min_iff [LinearOrder α] {first second bound : α} :
    min first bound = min second bound ↔ first = second ∨ bound ≤ first ∧ bound ≤ second := by
  rcases le_total bound first with above | below
  · rw [min_eq_right above, eq_comm, min_eq_right_iff]
    exact ⟨fun above' => .inr ⟨above, above'⟩, fun either => either.elim (· ▸ above) And.right⟩
  · rw [min_eq_left below]
    rcases le_total bound second with above' | below'
    · rw [min_eq_right above']
      exact ⟨fun same => .inr ⟨same.ge, above'⟩,
        fun either => either.elim (fun same => below.antisymm (same ▸ above'))
          fun both => below.antisymm both.1⟩
    · rw [min_eq_left below']
      exact ⟨.inl, fun either => either.elim id
        fun both => (below.antisymm both.1).trans (below'.antisymm both.2).symm⟩

/-! ### Planning -/

/-- What a call does on a leg: it stops, steers to a point, makes a turn, or passes over to the next
leg. -/
inductive LegPlan (α : Type)
  | stop (remaining : α) (state : FollowerState α)
  | steer (leg : LaneLeg α) (target : Point α) (remaining : α) (isFinal : Bool)
      (state : FollowerState α)
  | bend (state : FollowerState α)
  | pass (state : FollowerState α)

namespace LegPlan

/-- The state to go on with. -/
def state {α : Type} : LegPlan α → FollowerState α
  | .stop _ state | .steer _ _ _ _ state | .bend state | .pass state => state

/-- The leg that is steered along. -/
def along? {α : Type} : LegPlan α → Option (LaneLeg α)
  | .steer leg _ _ _ _ => some leg
  | _ => none

/-- The legs that are passed over. -/
def passed {α : Type} : LegPlan α → ℕ
  | .pass _ => 1
  | _ => 0

end LegPlan

namespace LaneFollower

variable (follower : LaneFollower α) (route : LaneRoute α) (point : Point α)

/-- The plan of a call in front of a turn. -/
def planLeg (sensors : Sensors α) (state : FollowerState α) : Except PyError (LegPlan α) := do
  let leg ← itemAt route.legs state.leg
  let view ← follower.outlook route leg point state
  if view.stops then pure (.stop view.remaining view.state)
  else match route.turns[state.leg]? with
    | none => pure (.steer leg view.target view.remaining view.isFinal view.state)
    | some turn => do
      let junction ← follower.junction leg turn point sensors view.state
      match junction with
      | .stay state => pure (.steer leg view.target view.remaining view.isFinal state)
      | .pass state => pure (.pass state)
      | .turn spec state => do
        let begun ← follower.beginTurn route spec point state
        pure (.bend begun)

/-- The plan of a call; a turn is gone on with. -/
def plan (sensors : Sensors α) (state : FollowerState α) : Except PyError (LegPlan α) :=
  if state.phase = .turning then .ok (.bend state) else follower.planLeg route point sensors state

/-- Carrying out a plan; behind the leg it is continued. -/
def execute (headingDeg : α) (sensors : Sensors α)
    (continued : FollowerState α → Except PyError (Driven α)) :
    LegPlan α → Except PyError (Driven α)
  | .stop remaining state => .ok ⟨none, remaining, state⟩
  | .steer leg target remaining isFinal state =>
    follower.steer leg target point headingDeg remaining isFinal sensors.seg state
  | .bend state => follower.driveTurn route point headingDeg continued state
  | .pass state => continued state

/-- Driving along a leg is carrying out its plan. -/
theorem driveLeg_succ (headingDeg : α) (sensors : Sensors α) (legs : ℕ) (state : FollowerState α) :
    follower.driveLeg route point headingDeg sensors (legs + 1) state =
      follower.planLeg route point sensors state >>=
        follower.execute route point headingDeg sensors
          (follower.driveLeg route point headingDeg sensors legs) := by
  unfold driveLeg planLeg
  dsimp only [bind, Except.bind, pure, Except.pure]
  cases itemAt route.legs state.leg with
  | error error => rfl
  | ok leg =>
    dsimp only
    cases follower.outlook route leg point state with
    | error error => rfl
    | ok view =>
      dsimp only
      cases view.stops with
      | true => rfl
      | false =>
        cases route.turns[state.leg]? with
        | none => rfl
        | some turn =>
          rw [if_neg Bool.false_ne_true, if_neg Bool.false_ne_true]
          dsimp only
          cases follower.junction leg turn point sensors view.state with
          | error error => rfl
          | ok junction =>
            cases junction with
            | stay state => rfl
            | pass state => rfl
            | turn spec state =>
              dsimp only
              cases follower.beginTurn route spec point state <;> rfl

/-- A turn that is not over does not depend on what would follow it. -/
theorem driveTurn_stays {headingDeg : α} {state : FollowerState α}
    (stays : follower.driveTurn route point headingDeg (fun _ => .error .unfinished) state ≠
      .error .unfinished) (continued : FollowerState α → Except PyError (Driven α)) :
    follower.driveTurn route point headingDeg continued state =
      follower.driveTurn route point headingDeg (fun _ => .error .unfinished) state := by
  revert stays
  unfold driveTurn
  cases state.spec with
  | none => exact fun _ => rfl
  | some spec =>
    dsimp only [bind, Except.bind]
    cases itemAt route.legs (state.leg + (state.fuseSpan : ℕ)) with
    | error error => exact fun _ => rfl
    | ok nextLeg =>
      dsimp only
      cases itemAt route.turns (state.leg + (state.fuseSpan : ℕ) - 1) with
      | error error => exact fun _ => rfl
      | ok lastTurn =>
        dsimp only
        by_cases ended : (follower.outOfMap point ||
            turnOver spec nextLeg.headingDeg headingDeg state) = true
        · rw [if_pos ended]
          exact fun stays => absurd rfl stays
        · rw [if_neg ended, if_neg ended]
          exact fun _ => rfl

/-- A plan that does not leave the leg does not depend on what would follow. -/
theorem execute_stays {headingDeg : α} {sensors : Sensors α} {plan : LegPlan α}
    (stays : follower.execute route point headingDeg sensors (fun _ => .error .unfinished) plan ≠
      .error .unfinished) (continued : FollowerState α → Except PyError (Driven α)) :
    follower.execute route point headingDeg sensors continued plan =
      follower.execute route point headingDeg sensors (fun _ => .error .unfinished) plan := by
  cases plan with
  | stop remaining state => rfl
  | steer leg target remaining isFinal state => rfl
  | bend state => exact driveTurn_stays follower route point stays continued
  | pass state => exact absurd rfl stays

/-! ### A call on one leg -/

/-- Carrying out a plan as far as it stays on the leg; what follows on another leg is unfinished. -/
def carryOut (headingDeg : α) (sensors : Sensors α) (plan : LegPlan α) :
    Except PyError (Driven α) := do
  let driven ← follower.execute route point headingDeg sensors (fun _ => .error .unfinished) plan
  pure (follower.finish point driven)

/-- `compute` as far as it stays on the leg. -/
def computeOnLeg (input : FollowerInput α) (state : FollowerState α) : Except PyError (Driven α) :=
  match state.route with
  | none => .ok ⟨none, 0, state⟩
  | some route => do
    let plan ← follower.plan route input.point input.sensors (follower.underway input.point state)
    follower.carryOut route input.point input.headingDeg input.sensors plan

/-- A call comes to its end on the leg. -/
def StaysOnLeg (input : FollowerInput α) (state : FollowerState α) : Prop :=
  follower.computeOnLeg input state ≠ .error .unfinished

theorem passStraight_place (turn : Turn α) (state : FollowerState α) :
    (follower.passStraight turn point state).route = state.route ∧
      (follower.passStraight turn point state).leg = state.leg + 1 := by
  unfold passStraight
  split
  · exact ⟨rfl, rfl⟩
  · exact ⟨rfl, rfl⟩

/-- A plan goes on along the route: from the leg of the state, or from the next one if it passes
over. -/
structure PlannedFrom (route : LaneRoute α) (state : FollowerState α) (plan : LegPlan α) :
    Prop where
  onRoute : plan.state.route = state.route
  onLeg : plan.state.leg = state.leg + plan.passed
  along : ∀ leg, plan.along? = some leg → route.legs[state.leg]? = some leg

section OnLeg

variable {follower} {route} {point} {sensors : Sensors α} {state : FollowerState α}

theorem planLeg_from {plan : LegPlan α}
    (planned : follower.planLeg route point sensors state = .ok plan) :
    PlannedFrom route state plan := by
  obtain ⟨leg, found, planned⟩ := bind_eq_ok.mp planned
  obtain ⟨view, seen, planned⟩ := bind_eq_ok.mp planned
  obtain ⟨view', seen', isFrom⟩ := follower.outlook_ok route leg point state
  cases seen.symm.trans seen'
  obtain ⟨pt, gate, best, looked⟩ := isFrom.state
  have onRoute : view.state.route = state.route := by rw [looked]
  have onLeg : view.state.leg = state.leg := by rw [looked]
  split at planned
  · cases planned
    exact ⟨onRoute, onLeg, nofun⟩
  · split at planned
    · cases planned
      exact ⟨onRoute, onLeg, fun _ same => (itemAt_ok.mp found).trans same⟩
    next turn _ =>
      obtain ⟨junction, decided, planned⟩ := bind_eq_ok.mp planned
      obtain ⟨spec, _, same⟩ := bind_eq_ok.mp decided
      have onward : follower.onward leg turn point sensors spec
          { view.state with spec := some spec } = junction := Except.ok.inj same
      rw [looked] at onward
      cases junction with
      | stay next =>
        cases planned
        obtain ⟨_, _, _, _, rfl, _⟩ := onward_eq_stay onward
        exact ⟨rfl, rfl, fun _ same => (itemAt_ok.mp found).trans same⟩
      | pass next =>
        cases planned
        obtain ⟨_, _, rfl⟩ := onward_eq_pass onward
        obtain ⟨sameRoute, nextLeg⟩ := follower.passStraight_place point turn _
        exact ⟨sameRoute, nextLeg, nofun⟩
      | turn spec' next =>
        obtain ⟨begun, begins, planned⟩ := bind_eq_ok.mp planned
        cases planned
        obtain ⟨span, _, rfl⟩ := beginTurn_ok begins
        obtain ⟨rfl, _, _, _, rfl⟩ := onward_eq_turn onward
        obtain ⟨_, _, _, same⟩ := follower.starting_state leg spec' point sensors _
        refine ⟨?_, ?_, nofun⟩
        · rw [LegPlan.state, same]
        · rw [LegPlan.state, same]
          rfl

theorem plan_from {plan : LegPlan α}
    (planned : follower.plan route point sensors state = .ok plan) :
    PlannedFrom route state plan := by
  unfold LaneFollower.plan at planned
  split at planned
  · cases planned
    exact ⟨rfl, rfl, nofun⟩
  · exact planLeg_from planned

/-- What is carried out on the leg stays on it. -/
theorem execute_state {headingDeg : α} {plan : LegPlan α} {driven : Driven α}
    (executed : follower.execute route point headingDeg sensors (fun _ => .error .unfinished) plan =
      .ok driven) : plan.passed = 0 ∧ driven.state.route = plan.state.route ∧
        driven.state.leg = plan.state.leg := by
  cases plan with
  | stop remaining next =>
    cases executed
    exact ⟨rfl, rfl, rfl⟩
  | steer leg target remaining isFinal next =>
    obtain ⟨_, _, _, _, _, _, _, rfl⟩ := steer_ok executed
    exact ⟨rfl, rfl, rfl⟩
  | bend next =>
    rw [execute] at executed
    unfold driveTurn at executed
    split at executed
    · cases executed
    · obtain ⟨nextLeg, _, executed⟩ := bind_eq_ok.mp executed
      obtain ⟨lastTurn, _, executed⟩ := bind_eq_ok.mp executed
      dsimp only at executed
      split at executed
      · cases executed
      · cases executed
        exact ⟨rfl, rfl, rfl⟩
  | pass next => cases executed

/-- A call on one leg stays on its route and leg. -/
theorem computeOnLeg_state {input : FollowerInput α} {driven : Driven α}
    (computed : follower.computeOnLeg input state = .ok driven) :
    driven.state.route = state.route ∧ driven.state.leg = state.leg := by
  unfold computeOnLeg at computed
  split at computed
  · cases computed
    exact ⟨rfl, rfl⟩
  next route routed =>
    obtain ⟨plan, planned, carried⟩ := bind_eq_ok.mp computed
    obtain ⟨drove, executed, same⟩ := bind_eq_ok.mp carried
    cases same
    obtain ⟨sameRoute, sameLeg, _⟩ := plan_from planned
    obtain ⟨onLeg, keptRoute, keptLeg⟩ := execute_state executed
    obtain ⟨_, _, finished⟩ := finish_state input.point drove
    obtain ⟨_, _, _, underway⟩ := follower.underway_state input.point state
    rw [finished, keptRoute, keptLeg, sameRoute, sameLeg, onLeg, underway]
    exact ⟨rfl, rfl⟩

variable (follower) (point) (sensors) (state) in
/-- A call on a route, as a plan that is carried out along the legs. -/
theorem driveOn_eq (headingDeg : α) (some_ : route.legs ≠ []) : ∃ legs,
    follower.driveOn route point headingDeg sensors state =
      follower.plan route point sensors state >>= follower.execute route point headingDeg sensors
        (follower.driveLeg route point headingDeg sensors legs) := by
  unfold driveOn LaneFollower.plan
  dsimp only
  split
  · exact ⟨_, rfl⟩
  · obtain ⟨first, rest, same⟩ := List.exists_cons_of_ne_nil some_
    rw [same, List.length_cons]
    exact ⟨_, follower.driveLeg_succ route point headingDeg sensors rest.length state⟩

/-- A call that stays on the leg is the call. -/
theorem computeAt_of_stays {input : FollowerInput α} (routed : state.route = some route)
    (some_ : route.legs ≠ []) (stays : follower.StaysOnLeg input state) :
    follower.computeAt input state = follower.computeOnLeg input state := by
  obtain ⟨legs, drives⟩ := follower.driveOn_eq input.point input.sensors
    (follower.underway input.point state) input.headingDeg some_
  revert stays
  unfold StaysOnLeg computeOnLeg computeAt compute
  rw [routed]
  dsimp only
  rw [drives]
  cases follower.plan route input.point input.sensors (follower.underway input.point state) with
  | error error => exact fun _ => rfl
  | ok plan =>
    intro stays
    have onLeg : follower.execute route input.point input.headingDeg input.sensors
        (fun _ => .error .unfinished) plan ≠ .error .unfinished := fun left => stays (by
      rw [bind_ok, carryOut, left]
      rfl)
    rw [bind_ok, bind_ok, carryOut, execute_stays follower route input.point onLeg]

/-- A plan comes to its leg or behind it, and behind it if it leaves it. -/
theorem execute_leg {headingDeg : α} {continued : FollowerState α → Except PyError (Driven α)}
    (rises : ∀ next driven, continued next = .ok driven → next.leg ≤ driven.state.leg)
    {plan : LegPlan α} {driven : Driven α}
    (executed : follower.execute route point headingDeg sensors continued plan = .ok driven) :
    plan.state.leg ≤ driven.state.leg ∧
      (follower.execute route point headingDeg sensors (fun _ => .error .unfinished) plan =
        .error .unfinished → plan.state.leg < driven.state.leg + plan.passed) := by
  cases plan with
  | stop remaining next =>
    cases executed
    exact ⟨le_rfl, nofun⟩
  | steer leg target remaining isFinal next =>
    obtain ⟨_, _, _, _, _, _, _, rfl⟩ := steer_ok executed
    exact ⟨le_rfl, fun left => nomatch executed.symm.trans left⟩
  | bend next =>
    rw [execute] at executed ⊢
    unfold driveTurn at executed ⊢
    split at executed
    · cases executed
    next spec known =>
      obtain ⟨nextLeg, reached, executed⟩ := bind_eq_ok.mp executed
      obtain ⟨lastTurn, made, executed⟩ := bind_eq_ok.mp executed
      dsimp only at executed ⊢
      rw [reached, bind_ok, made, bind_ok]
      split at executed
      next ended =>
        have above := rises _ driven executed
        rw [iterate_advanceLeg] at above
        have further := lt_of_lt_of_le (Nat.lt_add_of_pos_right next.fuseSpan.pos) above
        exact ⟨further.le, fun _ => further⟩
      next lasts =>
        cases executed
        rw [if_neg lasts]
        exact ⟨le_rfl, nofun⟩
  | pass next =>
    exact ⟨rises next driven executed, fun _ => Nat.lt_succ_of_le (rises next driven executed)⟩

/-- Driving along the legs never comes back. -/
theorem driveLeg_leg {headingDeg : α} (legs : ℕ) {driven : Driven α}
    (drove : follower.driveLeg route point headingDeg sensors legs state = .ok driven) :
    state.leg ≤ driven.state.leg := by
  induction legs generalizing state driven with
  | zero => cases drove
  | succ legs inductionHypothesis =>
    rw [driveLeg_succ] at drove
    obtain ⟨plan, planned, executed⟩ := bind_eq_ok.mp drove
    obtain ⟨rises, _⟩ := execute_leg (fun _ _ => inductionHypothesis) executed
    rw [(planLeg_from planned).onLeg] at rises
    exact le_trans (Nat.le_add_right state.leg plan.passed) rises

/-- A call that returns comes to its end on the leg exactly if the leg is the same behind it. -/
theorem staysOnLeg_iff {input : FollowerInput α} {driven : Driven α}
    (routed : state.route = some route) (some_ : route.legs ≠ [])
    (computed : follower.computeAt input state = .ok driven) :
    follower.StaysOnLeg input state ↔ driven.state.leg = state.leg := by
  refine ⟨fun stays => ?_, fun same left => ?_⟩
  · rw [computeAt_of_stays routed some_ stays] at computed
    exact (computeOnLeg_state computed).2
  · obtain ⟨legs, drives⟩ := follower.driveOn_eq input.point input.sensors
      (follower.underway input.point state) input.headingDeg some_
    unfold computeAt compute at computed
    unfold computeOnLeg at left
    rw [routed] at computed left
    dsimp only at computed left
    rw [drives] at computed
    obtain ⟨drove, executed, finished⟩ := bind_eq_ok.mp computed
    obtain ⟨plan, planned, executed⟩ := bind_eq_ok.mp executed
    cases finished
    obtain ⟨_, strict⟩ := execute_leg (fun _ _ => driveLeg_leg legs) executed
    have sameLeg := (plan_from planned).onLeg
    have sameStart : (follower.underway input.point state).leg = state.leg := by
      obtain ⟨_, _, _, underway⟩ := follower.underway_state input.point state
      rw [underway]
    obtain ⟨_, _, finished⟩ := finish_state input.point drove
    rw [planned, bind_ok, carryOut] at left
    rw [finished] at same
    dsimp only at same
    cases onLeg : follower.execute route input.point input.headingDeg input.sensors
        (fun _ => .error .unfinished) plan with
    | ok driven =>
      rw [onLeg] at left
      cases left
    | error error =>
      rw [onLeg] at left
      cases left
      have further := strict onLeg
      omega

end OnLeg

/-! ### Steering without the heading -/

/-- The lane is driven without the measured heading, and without that of the lane center. -/
structure CourseLane (leg : LaneLeg α) : Prop where
  course : inLanes leg.laneNum follower.courseLanes = true
  notSeg : inLanes leg.laneNum follower.segHeadingLanes = false

/-- The measured heading is replaced, whatever it is. -/
theorem CourseLane.pursueHeading {leg : LaneLeg α} (lane : follower.CourseLane leg)
    (headingDeg heading' : α) (obs : SegObservation α) (state : FollowerState α) :
    follower.pursueHeading leg headingDeg obs state =
      follower.pursueHeading leg heading' obs state := by
  unfold LaneFollower.pursueHeading trustedHeading
  rw [lane.course, lane.notSeg, Bool.and_false, Bool.false_and]
  rfl

/-- The heading is off the direction to the target by more than the limit. -/
def Misaligned (target point : Point α) (headingDeg : α) : Prop :=
  follower.alignErrorDeg <
    |headingDiffDeg (degrees (atan2 (target.2 - point.2) (target.1 - point.1))) headingDeg|

/-- The throttle of a leg before the slow-down. -/
def fullThrottle (leg : LaneLeg α) (remaining : α) (isFinal : Bool) : α :=
  follower.cruise * follower.limitRatio leg.speedLimitMps *
    (if isFinal then follower.slowdownRatio remaining else 1)

/-- The throttle behind the ramp of a departure and behind a turn. -/
def ruledThrottle (state : FollowerState α) (throttle : α) : α :=
  (follower.applyThrottleRules ⟨throttle, 0⟩ point state).1.throttle

theorem cruiseThrottle_of_misaligned {leg : LaneLeg α} {target point : Point α} {headingDeg : α}
    (misaligned : follower.Misaligned target point headingDeg) (remaining : α) (isFinal : Bool) :
    follower.cruiseThrottle leg target point headingDeg remaining isFinal =
      follower.fullThrottle leg remaining isFinal * follower.alignRatio :=
  if_pos misaligned

theorem cruiseThrottle_of_aligned {leg : LaneLeg α} {target point : Point α} {headingDeg : α}
    (aligned : ¬ follower.Misaligned target point headingDeg) (remaining : α) (isFinal : Bool) :
    follower.cruiseThrottle leg target point headingDeg remaining isFinal =
      follower.fullThrottle leg remaining isFinal :=
  if_neg aligned

theorem pursue_cases (target point : Point α) (headingDeg : α) :
    follower.fullLockErrorDeg = 0 ∧
        follower.pursue target point headingDeg = .error .zeroDivisionError ∨
      follower.fullLockErrorDeg ≠ 0 ∧
        ∃ pursued, follower.pursue target point headingDeg = .ok pursued := by
  unfold pursue divide
  split
  next zero => exact .inl ⟨zero, rfl⟩
  next nonzero => exact .inr ⟨nonzero, _, rfl⟩

/-- A command on the lane, for every heading that may be measured: all raise, or they differ in the
throttle. -/
theorem CourseLane.steer {leg : LaneLeg α} (lane : follower.CourseLane leg) (target : Point α)
    (remaining : α) (isFinal : Bool) (obs : SegObservation α) (state : FollowerState α) :
    (follower.fullLockErrorDeg = 0 ∧ ∀ headingDeg,
        follower.steer leg target point headingDeg remaining isFinal obs state =
          .error .zeroDivisionError) ∨
      follower.fullLockErrorDeg ≠ 0 ∧ ∃ wheel segHeadingOn headingGuardOn, ∀ headingDeg,
        follower.steer leg target point headingDeg remaining isFinal obs state =
          .ok ⟨some ⟨follower.legThrottle leg target point headingDeg remaining isFinal state,
            wheel⟩, remaining, steeredState state segHeadingOn headingGuardOn wheel⟩ := by
  have same : ∀ headingDeg, follower.pursueHeading leg headingDeg obs state =
      follower.pursueHeading leg leg.headingDeg obs state :=
    fun headingDeg => lane.pursueHeading follower headingDeg leg.headingDeg obs state
  generalize chosen : follower.pursueHeading leg leg.headingDeg obs state = result at same
  obtain ⟨segOn, guardOn, headed⟩ := pursueHeading_state chosen
  obtain ⟨heading, state'⟩ := result
  dsimp only at headed
  subst headed
  rcases follower.pursue_cases target point heading with
    ⟨zero, raises⟩ | ⟨nonzero, pursued, pursuing⟩
  · refine .inl ⟨zero, fun headingDeg => ?_⟩
    unfold LaneFollower.steer
    rw [same headingDeg]
    dsimp only
    rw [raises]
    rfl
  · refine .inr ⟨nonzero, follower.limited (follower.wheelOn leg state pursued) state.lastWheel,
      segOn, guardOn, fun headingDeg => ?_⟩
    unfold LaneFollower.steer
    rw [same headingDeg]
    dsimp only
    rw [pursuing, bind_ok, rateLimit_eq]
    rfl

/-- The rules of the throttle look at the throttle of the command alone, and leave the rest. -/
theorem finish_some (throttle wheel remaining : α) (state : FollowerState α) :
    follower.finish point ⟨some ⟨throttle, wheel⟩, remaining, state⟩ =
      ⟨some ⟨follower.ruledThrottle point state throttle, wheel⟩, remaining,
        (follower.applyThrottleRules ⟨0, 0⟩ point state).2⟩ := by
  unfold finish ruledThrottle applyThrottleRules
  dsimp only
  cases state.exitHoldFrom with
  | none => rfl
  | some exit =>
    dsimp only
    split
    · rfl
    · rfl

/-- The rules of the throttle look at the departure and at the last turn. -/
theorem ruledThrottle_steered (state : FollowerState α) (segHeadingOn headingGuardOn : Bool)
    (wheel throttle : α) :
    follower.ruledThrottle point (steeredState state segHeadingOn headingGuardOn wheel) throttle =
      follower.ruledThrottle point state throttle := by
  unfold ruledThrottle applyThrottleRules
  dsimp only
  cases state.exitHoldFrom with
  | none => rfl
  | some exit =>
    dsimp only
    split
    · rfl
    · rfl

/-- The throttle is held behind a turn. -/
def Held (state : FollowerState α) : Prop :=
  ∃ exit, state.exitHoldFrom = some exit ∧
    hypot (point.1 - exit.1) (point.2 - exit.2) < follower.exitHoldM

/-- The car departs. -/
def Ramping (state : FollowerState α) : Prop :=
  hypot (point.1 - (state.origin.getD point).1) (point.2 - (state.origin.getD point).2) <
    follower.rampM

/-- Two throttles that the rules do not tell apart. -/
def SameRuled (state : FollowerState α) (first second : α) : Prop :=
  first = second ∨ follower.Held point state ∨
    follower.Ramping point state ∧ follower.turn ≤ first ∧ follower.turn ≤ second

theorem ruledThrottle_of_held {state : FollowerState α} (held : follower.Held point state)
    (throttle : α) : follower.ruledThrottle point state throttle = follower.turn := by
  obtain ⟨exit, behind, near⟩ := held
  unfold ruledThrottle applyThrottleRules
  rw [behind]
  dsimp only
  rw [if_pos near]

theorem ruledThrottle_of_ramping {state : FollowerState α} (free : ¬ follower.Held point state)
    (ramping : follower.Ramping point state) (throttle : α) :
    follower.ruledThrottle point state throttle = min throttle follower.turn := by
  unfold Ramping at ramping
  unfold ruledThrottle applyThrottleRules
  dsimp only
  rw [if_pos ramping]
  cases behind : state.exitHoldFrom with
  | none => rfl
  | some exit =>
    dsimp only
    rw [if_neg fun near => free ⟨exit, behind, near⟩]

theorem ruledThrottle_of_free {state : FollowerState α} (free : ¬ follower.Held point state)
    (away : ¬ follower.Ramping point state) (throttle : α) :
    follower.ruledThrottle point state throttle = throttle := by
  unfold Ramping at away
  unfold ruledThrottle applyThrottleRules
  dsimp only
  rw [if_neg away]
  cases behind : state.exitHoldFrom with
  | none => rfl
  | some exit =>
    dsimp only
    rw [if_neg fun near => free ⟨exit, behind, near⟩]

/-- Two throttles are the same behind the rules exactly if the rules do not tell them apart. -/
theorem ruledThrottle_eq_iff (state : FollowerState α) (first second : α) :
    follower.ruledThrottle point state first = follower.ruledThrottle point state second ↔
      follower.SameRuled point state first second := by
  by_cases held : follower.Held point state
  · rw [follower.ruledThrottle_of_held point held, follower.ruledThrottle_of_held point held]
    exact ⟨fun _ => .inr (.inl held), fun _ => rfl⟩
  · rw [SameRuled, or_iff_right held]
    by_cases ramping : follower.Ramping point state
    · rw [follower.ruledThrottle_of_ramping point held ramping,
        follower.ruledThrottle_of_ramping point held ramping, and_iff_right ramping]
      exact min_eq_min_iff
    · rw [follower.ruledThrottle_of_free point held ramping,
        follower.ruledThrottle_of_free point held ramping, iff_false_intro ramping, false_and,
        or_false]

/-! ### Two headings in one call -/

/-- The two are the same up to the throttle. -/
structure SameButThrottle {α : Type} (first second : Driven α) : Prop where
  wheel : first.command.map ControlCommand.steeringWheelDeg =
    second.command.map ControlCommand.steeringWheelDeg
  remaining : first.remaining = second.remaining
  state : first.state = second.state

theorem SameButThrottle.refl {α : Type} (driven : Driven α) : SameButThrottle driven driven :=
  ⟨rfl, rfl, rfl⟩

omit [Scalar α] in
theorem alike_refl (outcome : Except PyError (Driven α)) :
    Alike SameButThrottle outcome outcome := by
  cases outcome with
  | error error => exact rfl
  | ok driven => exact .refl driven

/-- The slow-down is decided alike for both headings, or it makes no difference: the throttle is
held behind a turn, or it is not changed, or the ramp of a departure limits it either way. -/
def SlowsAlike (leg : LaneLeg α) (target : Point α) (remaining : α) (isFinal : Bool)
    (headingDeg heading' : α) (state : FollowerState α) : Prop :=
  (follower.Misaligned target point headingDeg ↔ follower.Misaligned target point heading') ∨
    follower.SameRuled point state
      (follower.fullThrottle leg remaining isFinal * follower.alignRatio)
      (follower.fullThrottle leg remaining isFinal)

/-- The throttles of a leg outside `ARMED`. -/
theorem cruiseThrottle_eq_iff (leg : LaneLeg α) (target : Point α) (remaining : α) (isFinal : Bool)
    (headingDeg heading' : α) (state : FollowerState α) :
    follower.ruledThrottle point state
        (follower.cruiseThrottle leg target point headingDeg remaining isFinal) =
      follower.ruledThrottle point state
        (follower.cruiseThrottle leg target point heading' remaining isFinal) ↔
      follower.SlowsAlike point leg target remaining isFinal headingDeg heading' state := by
  unfold SlowsAlike
  rw [← ruledThrottle_eq_iff]
  by_cases first : follower.Misaligned target point headingDeg
  · by_cases second : follower.Misaligned target point heading'
    · rw [follower.cruiseThrottle_of_misaligned first, follower.cruiseThrottle_of_misaligned second]
      exact ⟨fun _ => .inl (iff_of_true first second), fun _ => rfl⟩
    · rw [follower.cruiseThrottle_of_misaligned first, follower.cruiseThrottle_of_aligned second]
      exact ⟨.inr, fun either => either.elim (fun same => absurd (same.mp first) second) id⟩
  · by_cases second : follower.Misaligned target point heading'
    · rw [follower.cruiseThrottle_of_aligned first, follower.cruiseThrottle_of_misaligned second]
      exact ⟨fun same => .inr same.symm,
        fun either => either.elim (fun same => absurd (same.mpr second) first) Eq.symm⟩
    · rw [follower.cruiseThrottle_of_aligned first, follower.cruiseThrottle_of_aligned second]
      exact ⟨fun _ => .inl (iff_of_false first second), fun _ => rfl⟩

/-- A command on the lane under two headings. -/
theorem CourseLane.carryOut {leg : LaneLeg α} (lane : follower.CourseLane leg) (target : Point α)
    (remaining : α) (isFinal : Bool) (sensors : Sensors α) (state : FollowerState α)
    (headingDeg heading' : α) :
    let plan := LegPlan.steer leg target remaining isFinal state
    let first := follower.carryOut route point headingDeg sensors plan
    let second := follower.carryOut route point heading' sensors plan
    Alike SameButThrottle first second ∧
      (first = second ↔ (follower.fullLockErrorDeg ≠ 0 → state.phase ≠ .armed →
        follower.SlowsAlike point leg target remaining isFinal headingDeg heading' state)) := by
  dsimp only
  rcases lane.steer follower point target remaining isFinal sensors.seg state with
    ⟨zero, raises⟩ | ⟨nonzero, wheel, segOn, guardOn, commands⟩
  · have raised : ∀ heading, follower.carryOut route point heading sensors
        (.steer leg target remaining isFinal state) = .error .zeroDivisionError := fun heading => by
      rw [LaneFollower.carryOut, execute, raises heading]
      rfl
    rw [raised, raised]
    exact ⟨rfl, fun _ nonzero => absurd zero nonzero, fun _ => rfl⟩
  · have commanded : ∀ heading, follower.carryOut route point heading sensors
        (.steer leg target remaining isFinal state) = .ok ⟨some ⟨follower.ruledThrottle point state
          (follower.legThrottle leg target point heading remaining isFinal state), wheel⟩,
          remaining, (follower.applyThrottleRules ⟨0, 0⟩ point
            (steeredState state segOn guardOn wheel)).2⟩ := fun heading => by
      rw [LaneFollower.carryOut, execute, commands heading, bind_ok, finish_some,
        ruledThrottle_steered]
      rfl
    rw [commanded, commanded]
    refine ⟨⟨rfl, rfl, rfl⟩, ?_⟩
    simp only [Except.ok.injEq, Driven.mk.injEq, Option.some.injEq, ControlCommand.mk.injEq,
      and_true]
    by_cases armed : state.phase = .armed
    · simp only [legThrottle, armed, decide_true, if_true]
      exact ⟨fun _ _ straight => absurd rfl straight, fun _ => trivial⟩
    · simp only [legThrottle, armed, decide_false, Bool.false_eq_true, if_false]
      rw [cruiseThrottle_eq_iff]
      exact ⟨fun alike _ _ => alike, fun alike => alike nonzero armed⟩

/-- A turn that neither heading ends does not depend on it. -/
theorem driveTurn_heading {headingDeg heading' : α} {state : FollowerState α}
    (stays : follower.driveTurn route point headingDeg (fun _ => .error .unfinished) state ≠
      .error .unfinished)
    (stays' : follower.driveTurn route point heading' (fun _ => .error .unfinished) state ≠
      .error .unfinished) :
    follower.driveTurn route point headingDeg (fun _ => .error .unfinished) state =
      follower.driveTurn route point heading' (fun _ => .error .unfinished) state := by
  revert stays stays'
  unfold driveTurn
  cases state.spec with
  | none => exact fun _ _ => rfl
  | some spec =>
    dsimp only [bind, Except.bind]
    cases itemAt route.legs (state.leg + (state.fuseSpan : ℕ)) with
    | error error => exact fun _ _ => rfl
    | ok nextLeg =>
      dsimp only
      cases itemAt route.turns (state.leg + (state.fuseSpan : ℕ) - 1) with
      | error error => exact fun _ _ => rfl
      | ok lastTurn =>
        dsimp only
        split
        · exact fun stays => absurd rfl stays
        · split
          · exact fun _ stays' => absurd rfl stays'
          · exact fun _ _ => rfl

/-- A plan other than to steer is carried out alike, if it stays on the leg. -/
theorem carryOut_heading {headingDeg heading' : α} {sensors : Sensors α} {plan : LegPlan α}
    (other : ∀ leg target remaining isFinal next, plan ≠ .steer leg target remaining isFinal next)
    (stays : follower.carryOut route point headingDeg sensors plan ≠ .error .unfinished)
    (stays' : follower.carryOut route point heading' sensors plan ≠ .error .unfinished) :
    follower.carryOut route point headingDeg sensors plan =
      follower.carryOut route point heading' sensors plan := by
  cases plan with
  | stop remaining next => rfl
  | steer leg target remaining isFinal next => exact absurd rfl (other _ _ _ _ _)
  | bend next =>
    have turns : ∀ {heading}, follower.carryOut route point heading sensors (.bend next) ≠
        .error .unfinished → follower.driveTurn route point heading
          (fun _ => .error .unfinished) next ≠ .error .unfinished := fun stays left => stays (by
      rw [carryOut, execute, left]
      rfl)
    rw [carryOut, carryOut, execute, execute,
      driveTurn_heading follower route point (turns stays) (turns stays')]
  | pass next => exact absurd rfl stays

/-- A call with another measured heading. -/
def FollowerInput.headed {α : Type} (heading' : α) (input : FollowerInput α) : FollowerInput α :=
  { input with headingDeg := heading' }

/-- If the call drives along the leg outside `ARMED`, the slow-down is decided alike for both
headings, or makes no difference. -/
def AlignsAlike (input : FollowerInput α) (heading' : α) (state : FollowerState α) : Prop :=
  ∀ route leg target remaining isFinal next, state.route = some route →
    follower.plan route input.point input.sensors (follower.underway input.point state) =
      .ok (.steer leg target remaining isFinal next) →
    follower.fullLockErrorDeg ≠ 0 → next.phase ≠ .armed →
      follower.SlowsAlike input.point leg target remaining isFinal input.headingDeg heading' next

section Call

variable {follower} {route} {state : FollowerState α} {input : FollowerInput α} {heading' : α}

/-- Two calls that stay on the leg are the same up to the throttle, and the same exactly if the
slow-down is. -/
theorem computeOnLeg_headed {leg : LaneLeg α} (routed : state.route = some route)
    (onLeg : route.legs[state.leg]? = some leg) (lane : follower.CourseLane leg)
    (stays : follower.StaysOnLeg input state)
    (stays' : follower.StaysOnLeg (input.headed heading') state) :
    Alike SameButThrottle (follower.computeOnLeg input state)
        (follower.computeOnLeg (input.headed heading') state) ∧
      (follower.computeOnLeg input state = follower.computeOnLeg (input.headed heading') state ↔
        follower.AlignsAlike input heading' state) := by
  have same : ∀ {outcome outcome' : Except PyError (Driven α)}, outcome = outcome' →
      (∀ leg target remaining isFinal next, follower.plan route input.point input.sensors
        (follower.underway input.point state) ≠ .ok (.steer leg target remaining isFinal next)) →
      Alike SameButThrottle outcome outcome' ∧
        (outcome = outcome' ↔ follower.AlignsAlike input heading' state) := by
    rintro outcome _ rfl other
    refine ⟨alike_refl outcome, fun _ => ?_, fun _ => rfl⟩
    intro route' leg target remaining isFinal next routed' planned
    cases routed.symm.trans routed'
    exact absurd planned (other leg target remaining isFinal next)
  revert stays stays'
  unfold StaysOnLeg computeOnLeg
  rw [routed]
  dsimp only [FollowerInput.headed]
  cases planned : follower.plan route input.point input.sensors
      (follower.underway input.point state) with
  | error error =>
    exact fun _ _ => same rfl fun _ _ _ _ _ steers => nomatch planned.symm.trans steers
  | ok plan =>
    rw [bind_ok, bind_ok]
    intro stays stays'
    by_cases steers : ∃ leg target remaining isFinal next,
        plan = .steer leg target remaining isFinal next
    · obtain ⟨leg', target, remaining, isFinal, next, rfl⟩ := steers
      have found := (plan_from planned).along leg' rfl
      obtain ⟨_, _, _, underway⟩ := follower.underway_state input.point state
      rw [underway] at found
      cases onLeg.symm.trans found
      obtain ⟨alike, aligned⟩ := lane.carryOut follower route input.point target remaining isFinal
        input.sensors next input.headingDeg heading'
      refine ⟨alike, aligned.trans ⟨fun slows => ?_, fun aligns => ?_⟩⟩
      · intro route' leg'' target' remaining' isFinal' next' routed' planned'
        cases routed.symm.trans routed'
        cases planned.symm.trans planned'
        exact slows
      · exact aligns route leg target remaining isFinal next routed planned
    · refine same (carryOut_heading follower route input.point ?_ stays stays') ?_
      · exact fun _ _ _ _ _ is => steers ⟨_, _, _, _, _, is⟩
      · exact fun _ _ _ _ _ is => steers ⟨_, _, _, _, _, Except.ok.inj (planned.symm.trans is)⟩

/-- So are the calls themselves, and where the first returns, the second does, with the state of the
first, on the same route and leg. -/
theorem computeAt_headed {leg : LaneLeg α} (routed : state.route = some route)
    (onLeg : route.legs[state.leg]? = some leg) (lane : follower.CourseLane leg)
    (stays : follower.StaysOnLeg input state)
    (stays' : follower.StaysOnLeg (input.headed heading') state) :
    Alike SameButThrottle (follower.computeAt input state)
        (follower.computeAt (input.headed heading') state) ∧
      (follower.computeAt input state = follower.computeAt (input.headed heading') state ↔
        follower.AlignsAlike input heading' state) ∧
      ∀ driven, follower.computeAt input state = .ok driven →
        driven.state.route = state.route ∧ driven.state.leg = state.leg := by
  have some_ : route.legs ≠ [] := fun none => by
    rw [none] at onLeg
    cases onLeg
  rw [computeAt_of_stays routed some_ stays, computeAt_of_stays routed some_ stays']
  obtain ⟨alike, aligned⟩ := computeOnLeg_headed routed onLeg lane stays stays'
  exact ⟨alike, aligned, fun _ computed => computeOnLeg_state computed⟩

end Call

/-! ### Two headings in every call -/

/-- What comes of calls one after another, up to the first that raises. -/
def outcomes : List (FollowerInput α) → FollowerState α → List (Except PyError (Driven α))
  | [], _ => []
  | input :: rest, state =>
    match follower.computeAt input state with
    | .ok driven => .ok driven :: outcomes rest driven.state
    | .error error => [.error error]

section Outcomes

variable {follower} {input : FollowerInput α} {state : FollowerState α}

theorem outcomes_ok {driven : Driven α} (computed : follower.computeAt input state = .ok driven)
    (rest : List (FollowerInput α)) : follower.outcomes (input :: rest) state =
      .ok driven :: follower.outcomes rest driven.state := by
  rw [outcomes, computed]

theorem outcomes_error {error : PyError} (raised : follower.computeAt input state = .error error)
    (rest : List (FollowerInput α)) : follower.outcomes (input :: rest) state = [.error error] := by
  rw [outcomes, raised]

end Outcomes

/-- In two runs that differ in the measured headings every call comes to its end on the leg. -/
def BothStay : List (FollowerInput α × α) → FollowerState α → FollowerState α → Prop
  | [], _, _ => True
  | (input, heading') :: rest, first, second =>
    follower.StaysOnLeg input first ∧ follower.StaysOnLeg (input.headed heading') second ∧
      ∀ driven driven', follower.computeAt input first = .ok driven →
        follower.computeAt (input.headed heading') second = .ok driven' →
          BothStay rest driven.state driven'.state

/-- Every call of a run aligns alike under the other heading. -/
def AlignsThroughout : List (FollowerInput α × α) → FollowerState α → Prop
  | [], _ => True
  | (input, heading') :: rest, state =>
    follower.AlignsAlike input heading' state ∧
      ∀ driven, follower.computeAt input state = .ok driven → AlignsThroughout rest driven.state

/-- Two runs along a lane that is driven without the measured heading, from one state and alike in
everything else, are the same up to the throttle as long as both stay on the leg; and they are the
same exactly if in every call the slow-down is decided alike for both headings or makes no
difference. -/
theorem heading_ignored_iff (follower : LaneFollower α) {route : LaneRoute α} {leg : LaneLeg α}
    {state : FollowerState α} (routed : state.route = some route)
    (onLeg : route.legs[state.leg]? = some leg)
    (course : inLanes leg.laneNum follower.courseLanes = true)
    (notSeg : inLanes leg.laneNum follower.segHeadingLanes = false)
    {calls : List (FollowerInput α × α)} (stay : follower.BothStay calls state state) :
    let first := follower.outcomes (calls.map Prod.fst) state
    let second := follower.outcomes (calls.map fun call => call.1.headed call.2) state
    List.Forall₂ (Alike SameButThrottle) first second ∧
      (first = second ↔ follower.AlignsThroughout calls state) := by
  dsimp only
  induction calls generalizing state with
  | nil => exact ⟨.nil, fun _ => trivial, fun _ => rfl⟩
  | cons call rest inductionHypothesis =>
    obtain ⟨input, heading'⟩ := call
    obtain ⟨stays, stays', onward⟩ := stay
    obtain ⟨alike, aligned, kept⟩ :=
      computeAt_headed routed onLeg ⟨course, notSeg⟩ stays stays'
    rw [List.map_cons, List.map_cons, AlignsThroughout]
    cases computed : follower.computeAt input state with
    | error error =>
      have raised := alike.error computed
      rw [computed, raised] at alike aligned
      rw [outcomes_error computed, outcomes_error raised]
      refine ⟨.cons alike .nil, ?_⟩
      rw [List.cons.injEq, and_iff_left rfl, aligned, and_iff_left]
      exact fun _ returned => nomatch returned
    | ok driven =>
      obtain ⟨driven', computed', same⟩ := alike.ok computed
      have next := onward driven driven' computed computed'
      rw [computed, computed'] at alike aligned
      rw [outcomes_ok computed, outcomes_ok computed', ← same.state]
      rw [← same.state] at next
      obtain ⟨sameRoute, sameLeg⟩ := kept driven computed
      obtain ⟨restAlike, restAligned⟩ := inductionHypothesis (sameRoute.trans routed)
        (by rw [sameLeg]; exact onLeg) next
      refine ⟨.cons alike restAlike, ?_⟩
      rw [List.cons.injEq, aligned, restAligned]
      refine and_congr_right fun _ =>
        ⟨fun aligns other returned => ?_, fun aligns => aligns driven rfl⟩
      cases returned
      exact aligns

/-- A follower that takes the course of the car on the leg to the east, and slows down to half. -/
def courseFollower : LaneFollower ℚ :=
  { ringFollower with courseLanes := [11], alignRatio := 1 / 2 }

/-- Near the start of the leg to the east. -/
def departInput : FollowerInput ℚ := ⟨(9 / 8, 2), 0, (darkInput 0).sensors⟩

def alongDriven : Driven ℚ :=
  returned (courseFollower.computeAt departInput (.reset (some cornerRoute)))
    (by decide +kernel)

def againstDriven : Driven ℚ :=
  returned (courseFollower.computeAt (departInput.headed 180) (.reset (some cornerRoute)))
    (by decide +kernel)

theorem along_computed : courseFollower.computeAt departInput (.reset (some cornerRoute)) =
    .ok alongDriven :=
  ok_returned _

theorem against_computed : courseFollower.computeAt (departInput.headed 180)
    (.reset (some cornerRoute)) = .ok againstDriven :=
  ok_returned _

theorem commands_differ : alongDriven.command ≠ againstDriven.command := by
  decide +kernel

theorem depart_bothStays : courseFollower.BothStay [(departInput, 180)]
    (.reset (some cornerRoute)) (.reset (some cornerRoute)) := by
  have some_ : cornerRoute.legs ≠ [] := List.cons_ne_nil _ _
  refine ⟨?_, ?_, fun _ _ _ _ => trivial⟩
  · exact (staysOnLeg_iff rfl some_ along_computed).mpr (by decide +kernel)
  · exact (staysOnLeg_iff rfl some_ against_computed).mpr (by decide +kernel)

theorem heading_ignored_iff_depart :
    List.Forall₂ (Alike SameButThrottle)
        (courseFollower.outcomes [departInput] (.reset (some cornerRoute)))
        (courseFollower.outcomes [departInput.headed 180] (.reset (some cornerRoute))) ∧
      ¬ courseFollower.AlignsThroughout [(departInput, 180)] (.reset (some cornerRoute)) := by
  have onLeg : cornerRoute.legs[0]? = some eastLeg := rfl
  obtain ⟨alike, same⟩ := heading_ignored_iff courseFollower rfl onLeg (by decide +kernel)
    (by decide +kernel) depart_bothStays
  refine ⟨alike, fun aligns => commands_differ ?_⟩
  have outcome : courseFollower.outcomes [departInput] (.reset (some cornerRoute)) =
    courseFollower.outcomes [departInput.headed 180] (.reset (some cornerRoute)) := same.mpr aligns
  rw [outcomes_ok along_computed, outcomes_ok against_computed] at outcome
  exact congrArg Driven.command (Except.ok.inj (List.cons.inj outcome).1)

/-- The heading is not used on the leg to the east; the car stays on it, and drives half as fast if
it is measured the other way round. -/
theorem heading_slows_down :
    cornerRoute.legs[(FollowerState.reset (some cornerRoute)).leg]? = some eastLeg ∧
      inLanes eastLeg.laneNum courseFollower.courseLanes = true ∧
      inLanes eastLeg.laneNum courseFollower.segHeadingLanes = false ∧
      ∃ along against, courseFollower.computeAt departInput (.reset (some cornerRoute)) =
          .ok along ∧
        courseFollower.computeAt (departInput.headed 180) (.reset (some cornerRoute)) =
          .ok against ∧
        along.state.leg = 0 ∧ against.state.leg = 0 ∧ along.command ≠ against.command :=
  ⟨rfl, by decide +kernel, by decide +kernel, alongDriven, againstDriven, along_computed,
    against_computed, by decide +kernel, by decide +kernel, commands_differ⟩

end LaneFollower

end RcTaxi
