/-
This file bounds what the follower asks for. The throttle of a leg is the cruise throttle under the
limit of the lane, the slow-down before the destination and the alignment; the rules of the
departure and of the corner exit may replace it by the turn throttle. The wheel angle is pursued
within the largest one, set to zero on some lanes, and limited in its change; in a turn it is that
of the table.

The flags of the lane center are set on some branches and have to be taken back on all others, and
the last wheel angle of the slew limit has to survive the ticks that stop. All of this is read off
the course of a call. The largest wheel angle and the limits of a turn are not checked where they
are loaded: a negative angle bounds nothing, and no travel is below a limit of `nan`.
-/

import RcTaxi.FollowerCourse

namespace RcTaxi

variable {α : Type} [Scalar α]

/-! ### Bounds -/

theorem abs_clamp_le {limit : α} (nonneg : 0 ≤ limit) (value : α) :
    |max (-limit) (min limit value)| ≤ limit :=
  abs_le.mpr ⟨le_max_left _ _, max_le (neg_le_self nonneg) (min_le_left _ _)⟩

theorem PyFloat.abs_clamp_le {limit : α} (nonneg : 0 ≤ limit) (value : PyFloat α) :
    |PyFloat.clamp limit value| ≤ limit := by
  unfold PyFloat.clamp
  split
  · exact RcTaxi.abs_clamp_le nonneg _
  · exact abs_le.mpr ⟨le_max_left _ _, max_le (neg_le_self nonneg) le_rfl⟩
  · exact abs_le.mpr ⟨le_max_left _ _, max_le (neg_le_self nonneg) le_rfl⟩
  · exact abs_le.mpr ⟨le_rfl, neg_le_self nonneg⟩

/-- What holds of every result of the second step holds of the results of both. -/
theorem bind_yields {β γ : Type} {first : Except PyError β} {next : β → Except PyError γ}
    {holds : γ → Prop} (each : ∀ value result, next value = .ok result → holds result) :
    ∀ result, (first >>= next) = .ok result → holds result := by
  intro result both
  obtain ⟨value, _, returned⟩ := bind_eq_ok.mp both
  exact each value result returned

/-- The wheel angle of a turn is limited by its table. -/
theorem TurnTable.resolve_wheelDeg (table : TurnTable α) (turn : Turn α) :
    ∀ spec, table.resolve turn = .ok spec →
      ∃ wheel, spec.wheelDeg = PyFloat.clamp table.maxWheelDeg wheel := by
  unfold resolve
  refine bind_yields fun cfg => bind_yields fun cls => ?_
  dsimp only
  -- the fields are read one after another, and two of them may be missing
  repeat' first
    | exact fun spec same => by cases same; exact ⟨_, rfl⟩
    | refine bind_yields fun _ => ?_
    | split

namespace LaneFollower

variable {follower : LaneFollower α} {route : LaneRoute α} {point : Point α} {headingDeg : α}
  {sensors : Sensors α}

/-- The configuration and the lanes of the route, as far as the bounds rest on them. -/
structure Calibrated (follower : LaneFollower α) (route : LaneRoute α) : Prop where
  cruise_nonneg : 0 ≤ follower.cruise
  turn_nonneg : 0 ≤ follower.turn
  align : 0 ≤ follower.alignRatio ∧ follower.alignRatio ≤ 1
  near : 0 ≤ follower.nearRatio ∧ follower.nearRatio ≤ 1
  limits : ∀ leg ∈ route.legs, (PyFloat.finite 0).lt leg.speedLimitMps = true
  table : follower.table.maxWheelDeg = follower.maxWheelDeg
  wheel_nonneg : 0 ≤ follower.maxWheelDeg

/-- The wheel angle of a turn is within the largest one. -/
theorem Calibrated.abs_wheelDeg_le (calibrated : follower.Calibrated route) {turn : Turn α}
    {spec : ResolvedTurn α} (resolved : follower.table.resolve turn = .ok spec) :
    |spec.wheelDeg| ≤ follower.maxWheelDeg := by
  obtain ⟨wheel, same⟩ := follower.table.resolve_wheelDeg turn spec resolved
  rw [same, calibrated.table]
  exact PyFloat.abs_clamp_le calibrated.wheel_nonneg wheel

/-! ### The throttle of a leg -/

theorem limitRatio_mem (follower : LaneFollower α) {limit : PyFloat α}
    (positive : (PyFloat.finite 0).lt limit = true) :
    0 ≤ follower.limitRatio limit ∧ follower.limitRatio limit ≤ 1 := by
  unfold limitRatio
  split
  next limit =>
    have above : 0 < limit := of_decide_eq_true positive
    exact ⟨le_min zero_le_one (div_pos above follower.maxSpeed_pos).le, min_le_left _ _⟩
  · exact ⟨zero_le_one, le_rfl⟩
  · exact ⟨zero_le_one, le_rfl⟩

theorem slowdownRatio_mem (near : 0 ≤ follower.nearRatio ∧ follower.nearRatio ≤ 1) (remaining : α) :
    0 ≤ follower.slowdownRatio remaining ∧ follower.slowdownRatio remaining ≤ 1 := by
  unfold slowdownRatio
  split
  · exact ⟨zero_le_one, le_rfl⟩
  · dsimp only
    generalize (remaining - follower.stopRadiusM) / _ = share
    have progress : 0 ≤ max 0 (min 1 share) ∧ max 0 (min 1 share) ≤ 1 :=
      ⟨le_max_left _ _, max_le zero_le_one (min_le_left _ _)⟩
    have rest : 0 ≤ 1 - follower.nearRatio := sub_nonneg.mpr near.2
    constructor
    · exact add_nonneg near.1 (mul_nonneg rest progress.1)
    · have share := mul_le_of_le_one_right rest progress.2
      linarith only [share]

/-- The throttle on a leg is between zero and the larger one of cruising and turning. -/
theorem Calibrated.legThrottle_mem (calibrated : follower.Calibrated route) {leg : LaneLeg α}
    (onRoute : leg ∈ route.legs) (target point : Point α) (headingDeg remaining : α)
    (isFinal : Bool) (state : FollowerState α) :
    0 ≤ follower.legThrottle leg target point headingDeg remaining isFinal state ∧
      follower.legThrottle leg target point headingDeg remaining isFinal state ≤
        max follower.cruise follower.turn := by
  have scaled {value ratio : α} (value_mem : 0 ≤ value ∧ value ≤ follower.cruise)
      (ratio_mem : 0 ≤ ratio ∧ ratio ≤ 1) :
      0 ≤ value * ratio ∧ value * ratio ≤ follower.cruise :=
    ⟨mul_nonneg value_mem.1 ratio_mem.1,
      (mul_le_of_le_one_right value_mem.1 ratio_mem.2).trans value_mem.2⟩
  have limited := scaled ⟨calibrated.cruise_nonneg, le_rfl⟩
    (follower.limitRatio_mem (calibrated.limits leg onRoute))
  have one : (0 : α) ≤ 1 ∧ (1 : α) ≤ 1 := ⟨zero_le_one, le_rfl⟩
  unfold legThrottle
  split
  · exact ⟨calibrated.turn_nonneg, le_max_right _ _⟩
  · have cruising : 0 ≤ follower.cruiseThrottle leg target point headingDeg remaining isFinal ∧
        follower.cruiseThrottle leg target point headingDeg remaining isFinal ≤ follower.cruise := by
      unfold cruiseThrottle
      dsimp only
      have slow : 0 ≤ (if isFinal then follower.slowdownRatio remaining else 1) ∧
          (if isFinal then follower.slowdownRatio remaining else 1) ≤ 1 := by
        split
        · exact slowdownRatio_mem calibrated.near remaining
        · exact one
      split
      · exact scaled (scaled limited slow) calibrated.align
      · exact scaled limited slow
    exact ⟨cruising.1, cruising.2.trans (le_max_left _ _)⟩

/-! ### The wheel angle of a leg -/

theorem abs_pursue_le (nonneg : 0 ≤ follower.maxWheelDeg) {target point : Point α}
    {headingDeg wheel : α} (pursued : follower.pursue target point headingDeg = .ok wheel) :
    |wheel| ≤ follower.maxWheelDeg := by
  obtain ⟨ratio, _, same⟩ := bind_eq_ok.mp pursued
  cases same
  exact abs_clamp_le nonneg _

theorem abs_wheelOn_le (nonneg : 0 ≤ follower.maxWheelDeg) (leg : LaneLeg α)
    (state : FollowerState α) {pursued : α} (within : |pursued| ≤ follower.maxWheelDeg) :
    |follower.wheelOn leg state pursued| ≤ follower.maxWheelDeg := by
  unfold wheelOn
  split
  · rwa [abs_zero]
  · exact within

/-- The slew limit stays within the bound of the wheel angles. -/
theorem abs_limited_le {bound wheel : α} (within : |wheel| ≤ bound) {last : Option α}
    (lastWithin : ∀ angle, last = some angle → |angle| ≤ bound) :
    |follower.limited wheel last| ≤ bound := by
  unfold limited
  split
  · exact within
  next angle =>
    have angleWithin := lastWithin angle rfl
    split
    · exact within
    next limits =>
      have step : 0 ≤ follower.steerStep := (not_le.mp limits).le
      rw [abs_le] at within angleWithin ⊢
      constructor
      · exact le_max_of_le_right (le_min (by linarith only [angleWithin.1, step]) within.1)
      · exact max_le (by linarith only [angleWithin.2, step]) ((min_le_right _ _).trans within.2)

/-- Behind the slew limit the wheel angle is within a step of the last one. -/
theorem abs_limited_sub_le (limits : 0 < follower.steerStep) (wheel last : α) :
    |follower.limited wheel (some last) - last| ≤ follower.steerStep := by
  change |(if follower.steerStep ≤ 0 then wheel
    else max (last - follower.steerStep) (min (last + follower.steerStep) wheel)) - last| ≤ _
  rw [if_neg (not_le.mpr limits), abs_le]
  constructor
  · have above := le_max_left (last - follower.steerStep) (min (last + follower.steerStep) wheel)
    linarith only [above]
  · have below : max (last - follower.steerStep) (min (last + follower.steerStep) wheel) ≤
        last + follower.steerStep := max_le (by linarith only [limits]) (min_le_left _ _)
    linarith only [below]

/-! ### Along a call -/

/-- The wheel angle the slew limit starts from is within the largest one. -/
def Settled (follower : LaneFollower α) (state : FollowerState α) : Prop :=
  ∀ angle, state.lastWheel = some angle → |angle| ≤ follower.maxWheelDeg

/-- In a turn the command is that of the table, the travel is below the limits of the turn unless
they are `nan`, and the car is on the map. -/
structure OnBend (follower : LaneFollower α) (route : LaneRoute α) (point : Point α)
    (driven : Driven α) (spec : ResolvedTurn α) : Prop where
  table : ∃ turn, route.turns[driven.state.leg]? = some turn ∧
    follower.table.resolve turn = .ok spec
  command : driven.command = some ⟨follower.turn, spec.wheelDeg⟩
  segOff : driven.state.segOkNow = false
  limit : spec.maxTurnM = .nan ∨
    (PyFloat.finite driven.state.turnTravelM).lt spec.maxTurnM = true
  arc : ∀ arc, spec.arcCompleteM = some arc → arc = .nan ∨
    (PyFloat.finite driven.state.turnTravelM).lt arc = true
  inside : 0 < follower.mapMarginM →
    (follower.mapMarginM ≤ point.1 ∧ point.1 ≤ follower.mapX - follower.mapMarginM) ∧
      follower.mapMarginM ≤ point.2 ∧ point.2 ≤ follower.mapY - follower.mapMarginM

/-- The bounds of what was driven. -/
structure Envelope (follower : LaneFollower α) (route : LaneRoute α) (point : Point α)
    (driven : Driven α) : Prop where
  throttle : ∀ command, driven.command = some command →
    0 ≤ command.throttle ∧ command.throttle ≤ max follower.cruise follower.turn
  wheel : ∀ command, driven.command = some command →
    |command.steeringWheelDeg| ≤ follower.maxWheelDeg
  turning : driven.state.phase = .turning → ∃ spec, follower.OnBend route point driven spec
  seg : driven.command ≠ none → driven.state.segOkNow = true →
    driven.state.phase = .follow ∧ driven.state.exitHoldFrom = none
  settled : follower.Settled driven.state

/-- A turn that is on has not reached its limits, and the car is on the map. -/
theorem Bend.onBend {state : FollowerState α} {spec : ResolvedTurn α} {nextLeg : LaneLeg α}
    {lastTurn : Turn α} (bend : Bend route state spec nextLeg lastTurn)
    (onRoute : follower.OnRoute route state)
    (on : follower.bendOver point headingDeg spec nextLeg state = false) (remaining : α) :
    follower.OnBend route point ⟨some ⟨follower.turn, spec.wheelDeg⟩, remaining,
      { state with segOkNow := false, segHeadingOn := false }⟩ spec := by
  unfold bendOver turnOver at on
  rw [Bool.or_eq_false_iff, Bool.or_eq_false_iff, Bool.or_eq_false_iff] at on
  obtain ⟨onMap, ⟨_, noArc⟩, notOver⟩ := on
  refine ⟨onRoute.resolved spec bend.known, rfl, rfl, PyFloat.lt_of_not_le notOver, ?_, ?_⟩
  · intro arc isArc
    rw [isArc] at noArc
    exact PyFloat.lt_of_not_le noArc
  · intro margin
    unfold outOfMap at onMap
    rw [decide_eq_true margin, Bool.true_and, Bool.or_eq_false_iff, Bool.or_eq_false_iff,
      Bool.or_eq_false_iff] at onMap
    obtain ⟨⟨⟨west, south⟩, east⟩, north⟩ := onMap
    exact ⟨⟨not_lt.mp (of_decide_eq_false west), not_lt.mp (of_decide_eq_false east)⟩,
      not_lt.mp (of_decide_eq_false south), not_lt.mp (of_decide_eq_false north)⟩

/-- A command of a leg is within the bounds. -/
theorem Calibrated.steered (calibrated : follower.Calibrated route) {leg : LaneLeg α}
    (onRoute : leg ∈ route.legs) {target point : Point α} {headingDeg remaining : α}
    {isFinal : Bool} {obs : SegObservation α} {state : FollowerState α} {driven : Driven α}
    (straight : state.phase ≠ .turning) (settled : follower.Settled state)
    (steered : follower.steer leg target point headingDeg remaining isFinal obs state = .ok driven) :
    follower.Envelope route point driven := by
  obtain ⟨heading, pursued, segOn, guardOn, wheel, pursuing, limited, rfl⟩ := steer_ok steered
  have within : |wheel| ≤ follower.maxWheelDeg := by
    rw [limited]
    exact abs_limited_le (abs_wheelOn_le calibrated.wheel_nonneg leg state
      (abs_pursue_le calibrated.wheel_nonneg pursuing)) settled
  refine ⟨?_, ?_, fun turning => absurd turning straight, ?_, ?_⟩
  · rintro _ ⟨⟩
    exact calibrated.legThrottle_mem onRoute target point headingDeg remaining isFinal state
  · rintro _ ⟨⟩
    exact within
  · intro _ allowed
    obtain ⟨unarmed, noHold⟩ := Bool.and_eq_true_iff.mp allowed
    rw [Bool.not_eq_true', decide_eq_false_iff_not] at unarmed
    refine ⟨?_, Option.isNone_iff_eq_none.mp noHold⟩
    change state.phase = .follow
    cases phase : state.phase with
    | follow => rfl
    | armed => exact absurd phase unarmed
    | turning => exact absurd phase straight
  · rintro _ ⟨⟩
    exact within

theorem Settled.congr {state other : FollowerState α} (settled : follower.Settled state)
    (same : other.lastWheel = state.lastWheel) : follower.Settled other := by
  unfold Settled
  rw [same]
  exact settled

/-- The state in which a leg is driven on is in no turn either, and has the last wheel angle. -/
theorem Sight.stay {state next : FollowerState α} {leg : LaneLeg α} {view : Outlook α}
    (sight : follower.Sight route point state leg view) {turn : Turn α} {spec : ResolvedTurn α}
    (stays : follower.onward leg turn point sensors spec
      { view.state with spec := some spec } = .stay next) :
    next.phase ≠ .turning ∧ next.lastWheel = state.lastWheel := by
  obtain ⟨_, _, _, _, same, straight⟩ := onward_eq_stay stays
  rw [same]
  exact ⟨straight sight.viewStraight, sight.lastWheel⟩

/-- Beginning a turn leaves the last wheel angle. -/
theorem Sight.begun_lastWheel {state next begun : FollowerState α} {leg : LaneLeg α}
    {view : Outlook α} (sight : follower.Sight route point state leg view) {turn : Turn α}
    {spec spec' : ResolvedTurn α}
    (turns : follower.onward leg turn point sensors spec
      { view.state with spec := some spec } = .turn spec' next)
    (begins : follower.beginTurn route spec' point next = .ok begun) :
    begun.lastWheel = state.lastWheel := by
  obtain ⟨_, _, _, _, rfl⟩ := onward_eq_turn turns
  obtain ⟨_, _, rfl⟩ := beginTurn_ok begins
  obtain ⟨_, _, _, same⟩ := follower.starting_state leg spec point sensors
    { view.state with spec := some spec }
  rw [same]
  exact sight.lastWheel

/-- Every course ends within the bounds. -/
theorem Course.envelope (calibrated : follower.Calibrated route) {state : FollowerState α}
    {driven : Driven α} (course : follower.Course route point headingDeg sensors state driven)
    (onRoute : follower.OnRoute route state) (settled : follower.Settled state) :
    follower.Envelope route point driven := by
  induction course with
  | stops sight stopped =>
    exact ⟨fun _ absent => (nomatch absent), fun _ absent => (nomatch absent),
      fun turning => absurd turning sight.viewStraight, fun driving => absurd rfl driving,
      settled.congr sight.lastWheel⟩
  | ends sight goes last steered =>
    exact calibrated.steered (List.mem_of_getElem? sight.onLeg) sight.viewStraight
      (settled.congr sight.lastWheel) steered
  | stays sight goes behind resolved onward steered =>
    obtain ⟨straight, lastWheel⟩ := sight.stay onward
    exact calibrated.steered (List.mem_of_getElem? sight.onLeg) straight
      (settled.congr lastWheel) steered
  | passes sight goes behind resolved onward rest inductionHypothesis =>
    obtain ⟨passed, _⟩ := sight.passed onRoute behind resolved onward
    obtain ⟨_, _, rfl⟩ := onward_eq_pass onward
    refine inductionHypothesis passed ?_
    unfold passStraight
    split
    · exact fun _ absent => (nomatch absent)
    · exact fun _ absent => (nomatch absent)
  | turns sight goes behind resolved onward begins rest inductionHypothesis =>
    obtain ⟨begun, _⟩ := sight.turned onRoute behind resolved onward begins
    exact inductionHypothesis begun (settled.congr (sight.begun_lastWheel onward begins))
  | @keeps _ _ _ _ remaining bend on =>
    have onBend := bend.onBend onRoute on remaining
    refine ⟨?_, ?_, fun _ => ⟨_, onBend⟩, fun _ allowed => (nomatch allowed), settled⟩
    · rintro _ ⟨⟩
      exact ⟨calibrated.turn_nonneg, le_max_right _ _⟩
    · rintro _ ⟨⟩
      obtain ⟨_, _, resolved⟩ := onBend.table
      exact calibrated.abs_wheelDeg_le resolved
  | finishes bend ended rest inductionHypothesis =>
    refine inductionHypothesis (bend.finish onRoute) ?_
    rw [iterate_advanceLeg]
    exact fun _ absent => (nomatch absent)

/-! ### After a call -/

/-- The bounds of what a call returns. -/
structure Bounded (follower : LaneFollower α) (route : LaneRoute α) (point : Point α)
    (driven : Driven α) : Prop where
  throttle : 0 ≤ (driven.command.getD stopCommand).throttle ∧
    (driven.command.getD stopCommand).throttle ≤ max follower.cruise follower.turn
  wheel : |(driven.command.getD stopCommand).steeringWheelDeg| ≤ follower.maxWheelDeg
  turning : driven.state.phase = .turning → ∃ spec, follower.OnBend route point driven spec
  seg : driven.state.segOkNow = true →
    driven.state.phase = .follow ∧ driven.state.exitHoldFrom = none

/-- What the rules of the throttle do to a command. -/
theorem applyThrottleRules_cases (follower : LaneFollower α) (command : ControlCommand α)
    (point : Point α) (state : FollowerState α) :
    let ruled := follower.applyThrottleRules command point state
    ruled.1.steeringWheelDeg = command.steeringWheelDeg ∧
    (ruled.1.throttle = command.throttle ∨ ruled.1.throttle = min command.throttle follower.turn ∨
      ruled.1.throttle = follower.turn) ∧
    (ruled.2.segOkNow = true → state.segOkNow = true) ∧
    (state.exitHoldFrom = none → ruled.2.exitHoldFrom = none) := by
  unfold applyThrottleRules
  dsimp only
  split
  next noHold =>
    refine ⟨rfl, ?_, id, id⟩
    dsimp only
    split
    · exact .inr (.inl rfl)
    · exact .inl rfl
  next exit hold =>
    split
    · refine ⟨rfl, .inr (.inr rfl), fun allowed => (nomatch allowed), fun none => ?_⟩
      rw [hold] at none
      cases none
    · refine ⟨rfl, ?_, id, fun _ => rfl⟩
      dsimp only
      split
      · exact .inr (.inl rfl)
      · exact .inl rfl

/-- The rules of the throttle keep the bounds, and a stop takes the permission of a correction
back. -/
theorem Envelope.finish (calibrated : follower.Calibrated route) {drove : Driven α}
    (envelope : follower.Envelope route point drove) :
    follower.Bounded route point (follower.finish point drove) := by
  obtain ⟨command, remaining, state⟩ := drove
  cases command with
  | none =>
    refine ⟨⟨le_rfl, le_max_of_le_left calibrated.cruise_nonneg⟩, ?_, ?_, fun allowed => ?_⟩
    · change |(0 : α)| ≤ _
      rw [abs_zero]
      exact calibrated.wheel_nonneg
    · intro turning
      obtain ⟨spec, onBend⟩ := envelope.turning turning
      exact absurd onBend.command.symm (Option.some_ne_none _)
    · cases allowed
  | some command =>
    have rules := follower.applyThrottleRules_cases command point state
    obtain ⟨segOkNow, exitHoldFrom, same⟩ :=
      follower.finish_state point ⟨some command, remaining, state⟩
    unfold LaneFollower.finish at same ⊢
    dsimp only at rules same ⊢
    generalize follower.applyThrottleRules command point state = ruled at rules same ⊢
    obtain ⟨⟨throttle, wheel⟩, ruledState⟩ := ruled
    dsimp only at rules same
    subst same
    obtain ⟨rfl, throttles, seg, exit⟩ := rules
    obtain ⟨nonneg, bounded⟩ := envelope.throttle command rfl
    have turn := calibrated.turn_nonneg
    refine ⟨?_, envelope.wheel command rfl, ?_, ?_⟩
    · rcases throttles with rfl | rfl | rfl
      · exact ⟨nonneg, bounded⟩
      · exact ⟨le_min nonneg turn, (min_le_left _ _).trans bounded⟩
      · exact ⟨turn, le_max_right _ _⟩
    · intro turning
      obtain ⟨spec, onBend⟩ := envelope.turning turning
      obtain ⟨rfl⟩ := onBend.command
      have same : throttle = follower.turn := by
        rcases throttles with same | same | same
        · exact same
        · exact same.trans (min_self _)
        · exact same
      refine ⟨spec, onBend.table, ?_, ?_, onBend.limit, onBend.arc, onBend.inside⟩
      · rw [same]
      · cases allowed : segOkNow with
        | false => rfl
        | true => exact absurd (seg allowed) (onBend.segOff ▸ Bool.false_ne_true)
    · intro allowed
      obtain ⟨follows, noHold⟩ := envelope.seg (Option.some_ne_none _) (seg allowed)
      exact ⟨follows, exit noHold⟩

/-! ### The last wheel angle -/

/-- A call that neither stops nor ends in a turn remembers its wheel angle. -/
theorem Course.remembers {state : FollowerState α} {driven : Driven α}
    (course : follower.Course route point headingDeg sensors state driven)
    {command : ControlCommand α} (commanded : driven.command = some command) :
    driven.state.phase = .turning ∨ driven.state.lastWheel = some command.steeringWheelDeg := by
  induction course with
  | stops sight stopped => cases commanded
  | ends sight goes last steered =>
    obtain ⟨_, _, _, _, _, _, _, rfl⟩ := steer_ok steered
    cases commanded
    exact .inr rfl
  | stays sight goes behind resolved onward steered =>
    obtain ⟨_, _, _, _, _, _, _, rfl⟩ := steer_ok steered
    cases commanded
    exact .inr rfl
  | passes sight goes behind resolved onward rest inductionHypothesis =>
    exact inductionHypothesis commanded
  | turns sight goes behind resolved onward begins rest inductionHypothesis =>
    exact inductionHypothesis commanded
  | keeps bend on => exact .inl bend.turning
  | finishes bend ended rest inductionHypothesis => exact inductionHypothesis commanded

/-- A call that ends on its leg keeps the last wheel angle, or gives a command that is limited by
it. -/
theorem Course.slews {state : FollowerState α} {driven : Driven α}
    (course : follower.Course route point headingDeg sensors state driven)
    (onRoute : follower.OnRoute route state) (sameLeg : driven.state.leg = state.leg) :
    driven.state.lastWheel = state.lastWheel ∨
      (driven.command ≠ none ∧ driven.state.phase ≠ .turning) ∧
        ∃ wheel, driven.state.lastWheel = some (follower.limited wheel state.lastWheel) := by
  induction course with
  | stops sight stopped => exact .inl sight.lastWheel
  | ends sight goes last steered =>
    obtain ⟨_, _, _, _, wheel, _, limited, rfl⟩ := steer_ok steered
    rw [sight.lastWheel] at limited
    exact .inr ⟨⟨Option.some_ne_none _, sight.viewStraight⟩, _, congrArg some limited⟩
  | stays sight goes behind resolved onward steered =>
    obtain ⟨_, _, _, _, wheel, _, limited, rfl⟩ := steer_ok steered
    obtain ⟨straight, lastWheel⟩ := sight.stay onward
    rw [lastWheel] at limited
    exact .inr ⟨⟨Option.some_ne_none _, straight⟩, _, congrArg some limited⟩
  | passes sight goes behind resolved onward rest inductionHypothesis =>
    obtain ⟨passed, next⟩ := sight.passed onRoute behind resolved onward
    have further := (rest.onRoute passed).2
    omega
  | turns sight goes behind resolved onward begins rest inductionHypothesis =>
    obtain ⟨turning, leg⟩ := sight.turned onRoute behind resolved onward begins
    rw [← sight.begun_lastWheel onward begins]
    exact inductionHypothesis turning (sameLeg.trans leg.symm)
  | keeps bend on => exact .inl rfl
  | finishes bend ended rest inductionHypothesis =>
    have further := (rest.onRoute (bend.finish onRoute)).2
    rw [iterate_advanceLeg, sameLeg] at further
    exact absurd further (not_le.mpr (Nat.lt_add_of_pos_right (PNat.pos _)))

theorem finish_wheel (follower : LaneFollower α) (point : Point α) (drove : Driven α) :
    (follower.finish point drove).command.map ControlCommand.steeringWheelDeg =
      drove.command.map ControlCommand.steeringWheelDeg := by
  obtain ⟨command, remaining, state⟩ := drove
  cases command with
  | none => rfl
  | some command =>
    exact congrArg some (follower.applyThrottleRules_cases command point state).1

/-! ### Along a run -/

/-- A call gives no straight command: it stops, or the car is in a turn. -/
def Idle (driven : Driven α) : Prop :=
  driven.command = none ∨ driven.state.phase = .turning

/-- A straight command was given on the leg with the wheel angle, or the car has left the leg. -/
def Holding (leg : ℕ) (wheel : α) (state : FollowerState α) : Prop :=
  state.leg = leg ∧ state.lastWheel = some wheel ∨ leg < state.leg

section Calls

variable {input : FollowerInput α} {state : FollowerState α} {driven : Driven α}
  (onRoute : follower.OnRoute route state)
  (computed : follower.computeAt input state = .ok driven)

include onRoute computed

/-- A straight command is held on its leg. -/
theorem computeAt_holding {command : ControlCommand α} (commanded : driven.command = some command)
    (straight : driven.state.phase ≠ .turning) :
    Holding driven.state.leg command.steeringWheelDeg driven.state := by
  obtain ⟨drove, course, rfl⟩ := computeAt_course onRoute.routed computed
  have wheels := follower.finish_wheel input.point drove
  obtain ⟨segOkNow, exitHoldFrom, finished⟩ := follower.finish_state input.point drove
  rw [commanded, Option.map_some] at wheels
  obtain ⟨raw, drives, wheel⟩ := Option.map_eq_some_iff.mp wheels.symm
  rw [finished] at straight ⊢
  have remembers := (course.remembers drives).resolve_left straight
  exact .inl ⟨rfl, wheel ▸ remembers⟩

/-- A call that ends on its leg without a straight command keeps the last wheel angle; a straight
command is limited by it. -/
theorem computeAt_slews (sameLeg : driven.state.leg = state.leg) :
    driven.state.lastWheel = state.lastWheel ∨
      ¬ Idle driven ∧
        ∃ wheel, driven.state.lastWheel = some (follower.limited wheel state.lastWheel) := by
  obtain ⟨drove, course, rfl⟩ := computeAt_course onRoute.routed computed
  have wheels := follower.finish_wheel input.point drove
  obtain ⟨segOkNow, exitHoldFrom, finished⟩ := follower.finish_state input.point drove
  obtain ⟨underway, leg⟩ := onRoute.underway input.point
  obtain ⟨_, _, _, started⟩ := follower.underway_state input.point state
  have last : (follower.underway input.point state).lastWheel = state.lastWheel := by rw [started]
  unfold Idle
  rw [finished] at sameLeg ⊢
  rw [← last]
  rcases course.slews underway (sameLeg.trans leg.symm) with kept | ⟨⟨drives, straight⟩, limited⟩
  · exact .inl kept
  · refine .inr ⟨fun idle => ?_, limited⟩
    rcases idle with stopped | turning
    · rw [stopped, Option.map_none] at wheels
      exact drives (Option.map_eq_none_iff.mp wheels.symm)
    · exact straight turning

/-- A call without a straight command leaves what is held. -/
theorem Holding.idle {leg : ℕ} {wheel : α} (holding : Holding leg wheel state)
    (idle : Idle driven) : Holding leg wheel driven.state := by
  have further := (onRoute.computeAt computed).2
  rcases holding with ⟨rfl, last⟩ | left
  · rcases further.lt_or_eq with left | same
    · exact .inr left
    · rcases computeAt_slews onRoute computed same.symm with kept | ⟨straight, _⟩
      · exact .inl ⟨same.symm, kept.trans last⟩
      · exact absurd idle straight
  · exact .inr (left.trans_le further)

/-- A straight command on the leg is within a step of the wheel angle that is held. -/
theorem Holding.slews (limits : 0 < follower.steerStep) {wheel : α}
    (holding : Holding driven.state.leg wheel state) {command : ControlCommand α}
    (commanded : driven.command = some command) (straight : driven.state.phase ≠ .turning) :
    |command.steeringWheelDeg - wheel| ≤ follower.steerStep := by
  have further := (onRoute.computeAt computed).2
  obtain ⟨sameLeg, last⟩ := holding.resolve_right (not_lt.mpr further)
  obtain ⟨_, remembered⟩ := (computeAt_holding onRoute computed commanded straight).resolve_right
    (lt_irrefl _)
  rcases computeAt_slews onRoute computed sameLeg.symm with kept | ⟨_, pursued, limited⟩
  · rw [remembered, last, Option.some.injEq] at kept
    rw [kept, sub_self, abs_zero]
    exact limits.le
  · rw [remembered, last, Option.some.injEq] at limited
    rw [limited]
    exact abs_limited_sub_le limits pursued wheel

end Calls

/-- A call drives within the bounds, and ends within those of what it returns. -/
theorem computeAt_envelope (calibrated : follower.Calibrated route) {input : FollowerInput α}
    {state : FollowerState α} {driven : Driven α} (onRoute : follower.OnRoute route state)
    (settled : follower.Settled state) (computed : follower.computeAt input state = .ok driven) :
    follower.Settled driven.state ∧ follower.Bounded route input.point driven := by
  obtain ⟨drove, course, rfl⟩ := computeAt_course onRoute.routed computed
  obtain ⟨_, _, _, underway⟩ := follower.underway_state input.point state
  obtain ⟨_, _, finished⟩ := follower.finish_state input.point drove
  have start : follower.Settled (follower.underway input.point state) := by
    rw [underway]
    exact settled
  have envelope := course.envelope calibrated (onRoute.underway input.point).1 start
  refine ⟨?_, envelope.finish calibrated⟩
  rw [finished]
  exact envelope.settled

/-- Along a run the last wheel angle is within the largest one. -/
theorem Ride.settled (calibrated : follower.Calibrated route)
    {calls : List (FollowerInput α × Driven α)} {state : FollowerState α}
    (ride : follower.Ride (.reset (some route)) calls state) : follower.Settled state := by
  induction ride with
  | start => exact fun _ absent => (nomatch absent)
  | call ridden input computed inductionHypothesis =>
    exact (computeAt_envelope calibrated ridden.onRoute inductionHypothesis computed).1

/-- What every call returns is within the bounds. -/
theorem Ride.bounded (calibrated : follower.Calibrated route)
    {calls : List (FollowerInput α × Driven α)} {state : FollowerState α}
    (ride : follower.Ride (.reset (some route)) calls state) (call : FollowerInput α × Driven α)
    (called : call ∈ calls) : follower.Bounded route call.1.point call.2 := by
  obtain ⟨earlier, later, rfl⟩ := List.append_of_mem called
  obtain ⟨before, ridden, computed⟩ := ride.computed
  exact (computeAt_envelope calibrated ridden.onRoute (ridden.settled calibrated) computed).2

/-- What a straight command leaves is held over the calls without one. -/
theorem Ride.holding {before between : List (FollowerInput α × Driven α)}
    {first : FollowerInput α × Driven α} {state : FollowerState α}
    (ride : follower.Ride (.reset (some route)) (before ++ first :: between) state)
    {command : ControlCommand α} (commanded : first.2.command = some command)
    (straight : first.2.state.phase ≠ .turning) (idle : ∀ call ∈ between, Idle call.2) :
    Holding first.2.state.leg command.steeringWheelDeg state := by
  induction between using List.reverseRecOn generalizing state with
  | nil =>
    obtain ⟨_, ridden, computed, rfl⟩ := ride.last
    exact computeAt_holding ridden.onRoute computed commanded straight
  | append_singleton between last inductionHypothesis =>
    rw [← List.cons_append, ← List.append_assoc] at ride
    obtain ⟨_, ridden, computed, rfl⟩ := ride.last
    have holding := inductionHypothesis ridden fun call member =>
      idle call (List.mem_append_left _ member)
    exact holding.idle ridden.onRoute computed (idle last (List.mem_concat_self ..))

/-- Every call of a run asks for a throttle between zero and the larger one of cruising and turning,
and for a wheel angle within the largest one. In a turn the command is that of the table, below the
limits of the turn and on the map; a correction is allowed only where the car follows a leg outside
of a corner exit; and two straight commands on a leg, with no other between them, are within a step
of the slew limit. -/
theorem output_envelope (follower : LaneFollower α) (route : LaneRoute α)
    (calibrated : follower.Calibrated route) {calls : List (FollowerInput α × Driven α)}
    {state : FollowerState α} (ride : follower.Ride (.reset (some route)) calls state) :
    (∀ call ∈ calls, follower.Bounded route call.1.point call.2) ∧
    ∀ before first between second after command command',
      calls = before ++ first :: (between ++ second :: after) → 0 < follower.steerStep →
      (∀ call ∈ between, Idle call.2) → first.2.state.leg = second.2.state.leg →
      first.2.state.phase ≠ .turning → second.2.state.phase ≠ .turning →
      first.2.command = some command → second.2.command = some command' →
      |command'.steeringWheelDeg - command.steeringWheelDeg| ≤ follower.steerStep := by
  refine ⟨ride.bounded calibrated, ?_⟩
  rintro before first between second after command command' rfl limits idle sameLeg straight
    straight' commanded commanded'
  rw [← List.cons_append, ← List.append_assoc] at ride
  obtain ⟨_, ridden, computed⟩ := ride.computed
  have holding := ridden.holding commanded straight idle
  rw [sameLeg] at holding
  exact holding.slews ridden.onRoute computed limits commanded' straight'

/-- A follower that turns its wheels by a degree in a tick. -/
def slowFollower : LaneFollower ℚ := { ringFollower with steerStep := 1 }

theorem slowFollower_calibrated : slowFollower.Calibrated cornerRoute where
  cruise_nonneg := by decide +kernel
  turn_nonneg := by decide +kernel
  align := by decide +kernel
  near := by decide +kernel
  limits := by decide +kernel
  table := by decide +kernel
  wheel_nonneg := by decide +kernel

/-- On the leg to the east. -/
def eastInput (x headingDeg : ℚ) : FollowerInput ℚ := ⟨(x, 2), headingDeg, (darkInput 0).sensors⟩

def eastDriven : Driven ℚ :=
  returned (slowFollower.computeAt (eastInput 1 0) (.reset (some cornerRoute))) (by decide +kernel)

/-- A little further, in another heading. -/
def swervedDriven : Driven ℚ :=
  returned (slowFollower.computeAt (eastInput (5 / 4) 10) eastDriven.state) (by decide +kernel)

theorem output_envelope_swerve : ∃ command command', eastDriven.command = some command ∧
    swervedDriven.command = some command' ∧
    |command'.steeringWheelDeg - command.steeringWheelDeg| ≤ 1 := by
  obtain ⟨command, commanded⟩ := Option.isSome_iff_exists.mp
    (by decide +kernel : eastDriven.command.isSome = true)
  obtain ⟨command', commanded'⟩ := Option.isSome_iff_exists.mp
    (by decide +kernel : swervedDriven.command.isSome = true)
  have ride : slowFollower.Ride (.reset (some cornerRoute))
      ([] ++ [(eastInput 1 0, eastDriven)] ++ [(eastInput (5 / 4) 10, swervedDriven)])
      swervedDriven.state :=
    .call (.call .start (eastInput 1 0) (ok_returned _)) (eastInput (5 / 4) 10) (ok_returned _)
  exact ⟨command, command', commanded, commanded',
    (output_envelope slowFollower cornerRoute slowFollower_calibrated ride).2 [] _ [] _ [] command
      command' rfl one_pos (fun _ absent => (nomatch absent)) (by decide +kernel)
      (by decide +kernel) (by decide +kernel) commanded commanded'⟩

/-! ### Where nothing is checked -/

/-- A turn table with a limit of `nan`. -/
def endlessTable : TurnTable ℚ :=
  returned (TurnTable.new (.dict [("turn_table", .dict [
    ("defaults", .dict [("max_turn_m", .float .nan)]), ("turns", .dict [])])]) (14 / 100) 30)
    (by decide +kernel)

def endlessFollower : LaneFollower ℚ := { ringFollower with table := endlessTable }

def endlessDriven : Driven ℚ :=
  returned (endlessFollower.computeAt cornerInput (.reset (some cornerRoute))) (by decide +kernel)

/-- A largest wheel angle below zero. -/
def reversedTable : TurnTable ℚ :=
  returned (TurnTable.new (.dict [("turn_table", .dict [("turns", .dict [])])]) (14 / 100) (-30))
    (by decide +kernel)

theorem reversedSpeed_pos : (0 : ℚ) < 22 / 100 := by
  norm_num

def reversedFollower : LaneFollower ℚ :=
  returned (LaneFollower.new ringControl reversedTable (-30) (22 / 100) reversedSpeed_pos true true)
    (by decide +kernel)

def reversedDriven : Driven ℚ :=
  returned (reversedFollower.computeAt (eastInput 1 0) (.reset (some cornerRoute)))
    (by decide +kernel)

/-- The configuration as it is checked, without the sign of the largest wheel angle. -/
def Tuned (follower : LaneFollower α) (route : LaneRoute α) : Prop :=
  (0 ≤ follower.cruise ∧ 0 ≤ follower.turn ∧ 0 < follower.fullLockErrorDeg) ∧
  (0 ≤ follower.alignRatio ∧ follower.alignRatio ≤ 1) ∧
  (0 ≤ follower.nearRatio ∧ follower.nearRatio ≤ 1) ∧
  (∀ leg ∈ route.legs, (PyFloat.finite 0).lt leg.speedLimitMps = true) ∧
  follower.table.maxWheelDeg = follower.maxWheelDeg

/-- A wheel angle is not within a largest one below zero, and the travel of a turn is not below a
limit of `nan`. -/
theorem unchecked_limits_bound_nothing :
    (Tuned reversedFollower cornerRoute ∧
      reversedFollower.Ride (.reset (some cornerRoute)) [(eastInput 1 0, reversedDriven)]
        reversedDriven.state ∧
      ¬ |(reversedDriven.command.getD stopCommand).steeringWheelDeg| ≤
        reversedFollower.maxWheelDeg) ∧
    (Tuned endlessFollower cornerRoute ∧
      endlessFollower.Ride (.reset (some cornerRoute)) [(cornerInput, endlessDriven)]
        endlessDriven.state ∧
      endlessDriven.state.phase = .turning ∧
      ∃ spec, endlessFollower.table.resolve cornerTurn = .ok spec ∧
        ¬ (PyFloat.finite endlessDriven.state.turnTravelM).lt spec.maxTurnM = true) := by
  refine ⟨⟨?_, .call .start (eastInput 1 0) (ok_returned _), by decide +kernel⟩,
    ⟨?_, .call .start cornerInput (ok_returned _), by decide +kernel,
      returned (endlessFollower.table.resolve cornerTurn) (by decide +kernel), ok_returned _,
      by decide +kernel⟩⟩
  · unfold Tuned
    decide +kernel
  · unfold Tuned
    decide +kernel

end LaneFollower

end RcTaxi
