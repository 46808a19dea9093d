/-
This file follows one call of `compute` through the legs of a route. A call may pass over several
connectors and finish several turns before it comes to a command, so its course is a relation: one
case for each way a leg is left or driven on, with the conditions the program checks there. What
holds of every call is proved along the course.

The first results are about the machine itself: every call comes to an end within the legs that are
left, no list is read out of its range, and the leg only moves on, by one over a connector or a turn
and by two over two turns in one.
-/

import RcTaxi.SegInfluence

namespace RcTaxi

variable {α : Type} [Scalar α]

/-! ### Points in range -/

/-- A list of points is not passed over as a whole. -/
theorem passedPoints_lt (lookaheadM : α) (point : Point α) {points : List (Point α)}
    (some_ : points ≠ []) : passedPoints lookaheadM point points < points.length := by
  fun_induction passedPoints lookaheadM point points with
  | case1 first second rest near inductionHypothesis =>
    have shorter := inductionHypothesis (List.cons_ne_nil _ _)
    rw [List.length_cons]
    omega
  | case2 first second rest far => exact Nat.succ_pos _
  | case3 points short => exact List.length_pos_iff.mpr some_

namespace LaneFollower

variable (follower : LaneFollower α)

/-- The point to aim at is a point of the leg. -/
theorem advancePt_lt (leg : LaneLeg α) (point : Point α) (pt : ℕ) :
    follower.advancePt leg point pt < leg.points.points.length := by
  have some_ : 0 < leg.points.points.length := Nat.succ_pos _
  have inside : min pt (leg.points.points.length - 1) < leg.points.points.length := by omega
  have ahead : leg.points.points.drop (min pt (leg.points.points.length - 1)) ≠ [] := by
    rw [Ne, List.drop_eq_nil_iff]
    omega
  have passed := passedPoints_lt follower.lookaheadM point ahead
  rw [List.length_drop] at passed
  unfold advancePt
  dsimp only
  omega

end LaneFollower

theorem itemAt_ok {Item : Type} {items : List Item} {index : ℕ} {item : Item} :
    itemAt items index = .ok item ↔ items[index]? = some item := by
  unfold itemAt
  split
  next found same => rw [same, Except.ok.injEq, Option.some.injEq]
  next missing => rw [missing]; exact ⟨(nomatch ·), (nomatch ·)⟩

theorem exists_itemAt {Item : Type} {items : List Item} {index : ℕ} (inside : index < items.length) :
    ∃ item, itemAt items index = .ok item :=
  ⟨items[index], itemAt_ok.mpr (List.getElem?_eq_getElem inside)⟩

namespace LaneFollower

variable {follower : LaneFollower α}

/-! ### What the parts of a call do -/

/-- Looking at the gate forgets it or leaves it. -/
theorem straightGateTarget_state (follower : LaneFollower α) (point : Point α)
    (state : FollowerState α) :
    (follower.straightGateTarget point state).2 = state ∨
      (follower.straightGateTarget point state).2 = { state with straightGate := none } := by
  unfold straightGateTarget
  split
  · exact .inl rfl
  · split
    · exact .inr rfl
    · exact .inl rfl

theorem approached_state (driven : Bool) (remaining : α) (state : FollowerState α) :
    ∃ best, approached driven remaining state = { state with bestRemaining := best } := by
  unfold approached
  split
  · exact ⟨_, rfl⟩
  · exact ⟨_, rfl⟩

/-- What is seen from a leg: whether it is the last one, the remaining distance by way of the point
aimed at, and whether to stop there. -/
structure Outlook.IsFrom (follower : LaneFollower α) (route : LaneRoute α) (leg : LaneLeg α)
    (point : Point α) (state : FollowerState α) (view : Outlook α) : Prop where
  isFinal : view.isFinal = decide (state.leg + 1 = route.legs.length)
  remaining : ∃ onLeg, leg.remaining (follower.advancePt leg point state.pt) point = .ok onLeg ∧
    view.remaining = onLeg + route.tailLengthM state.leg
  stops : view.stops =
    (view.isFinal && follower.stopsAt leg point view.remaining state.bestRemaining)
  state : ∃ pt gate best, view.state =
    { state with pt := pt, straightGate := gate, bestRemaining := best }

/-- Looking out from a leg never fails, and changes the point, the gate and the best distance. -/
theorem outlook_ok (route : LaneRoute α) (leg : LaneLeg α) (point : Point α)
    (state : FollowerState α) : ∃ view, follower.outlook route leg point state = .ok view ∧
      view.IsFrom follower route leg point state := by
  obtain ⟨target, found⟩ := exists_itemAt (follower.advancePt_lt leg point state.pt)
  have gates := follower.straightGateTarget_state point
    { state with pt := follower.advancePt leg point state.pt }
  unfold outlook LaneLeg.remaining
  dsimp only
  rw [found]
  generalize follower.straightGateTarget point
    { state with pt := follower.advancePt leg point state.pt } = gated at gates ⊢
  obtain ⟨gate, state'⟩ := gated
  dsimp only at gates ⊢
  have samePt : state'.pt = follower.advancePt leg point state.pt := by
    rcases gates with rfl | rfl <;> rfl
  have sameBest : state'.bestRemaining = state.bestRemaining := by
    rcases gates with rfl | rfl <;> rfl
  have sameLeg : state'.leg = state.leg := by
    rcases gates with rfl | rfl <;> rfl
  rw [samePt, found]
  refine ⟨_, rfl, rfl, ⟨_, bind_eq_ok.mpr ⟨target, found, rfl⟩, ?_⟩, ?_, ?_⟩
  · rw [sameLeg]
  · rw [sameBest]
  · dsimp only
    obtain ⟨best, same⟩ := approached_state
      (decide (state.leg + 1 = route.legs.length) && _) _ state'
    rw [same]
    rcases gates with rfl | rfl
    · exact ⟨_, _, _, rfl⟩
    · exact ⟨_, _, _, rfl⟩

theorem fire_state (spec : ResolvedTurn α) (point : Point α) (now : α) (obs : MarkObservation α)
    (state : FollowerState α) : ∃ firedAt travel last, fire spec point now obs state =
      { state with firedAt := firedAt, firedTravelM := travel, firedLastT := last } := by
  unfold fire
  split
  · exact ⟨_, _, _, rfl⟩
  · exact ⟨_, _, _, rfl⟩

/-- Whether a turn starts is decided with the fired trigger alone. -/
theorem shouldStartTurn_state (follower : LaneFollower α) (spec : ResolvedTurn α) (ahead : α)
    (point : Point α) (now : α) (obs : MarkObservation α) (state : FollowerState α) :
    ∃ firedAt travel last,
    (follower.shouldStartTurn spec ahead point now obs state).2 =
      { state with firedAt := firedAt, firedTravelM := travel, firedLastT := last } := by
  obtain ⟨firedAt, travel, last, same⟩ := fire_state spec point now obs state
  unfold shouldStartTurn
  rw [same]
  dsimp only
  split
  · split
    · exact ⟨_, _, _, rfl⟩
    · exact ⟨_, _, _, rfl⟩
  · exact ⟨_, _, _, rfl⟩

/-- The state behind a turn that is armed, with what the sensors say about starting it. -/
abbrev starting (follower : LaneFollower α) (leg : LaneLeg α) (spec : ResolvedTurn α)
    (point : Point α) (sensors : Sensors α) (state : FollowerState α) : Bool × FollowerState α :=
  follower.shouldStartTurn spec (leg.exitAhead point) point (sensors.clock state.leg)
    (sensors.marks state.leg) (arm leg spec (leg.exitAhead point) state)

/-- The ways on from a leg, with their conditions. -/
inductive Onward (follower : LaneFollower α) (leg : LaneLeg α) (turn : Turn α) (point : Point α)
    (sensors : Sensors α) (spec : ResolvedTurn α) (state : FollowerState α) : Junction α → Prop
  | far (isTurn : spec.isTurn = true)
      (unarmed : (arm leg spec (leg.exitAhead point) state).phase ≠ .armed) :
      Onward follower leg turn point sensors spec state
        (.stay (arm leg spec (leg.exitAhead point) state))
  | waits (isTurn : spec.isTurn = true)
      (armed : (arm leg spec (leg.exitAhead point) state).phase = .armed)
      (notYet : (follower.starting leg spec point sensors state).1 = false) :
      Onward follower leg turn point sensors spec state
        (.stay (follower.starting leg spec point sensors state).2)
  | starts (isTurn : spec.isTurn = true)
      (armed : (arm leg spec (leg.exitAhead point) state).phase = .armed)
      (now : (follower.starting leg spec point sensors state).1 = true) :
      Onward follower leg turn point sensors spec state
        (.turn spec (follower.starting leg spec point sensors state).2)
  | passes (straight : spec.isTurn = false) (reached : leg.exitAhead point ≤ 0) :
      Onward follower leg turn point sensors spec state
        (.pass (follower.passStraight turn point state))
  | drives (straight : spec.isTurn = false) (ahead : 0 < leg.exitAhead point) :
      Onward follower leg turn point sensors spec state (.stay state)

theorem onward_onward (follower : LaneFollower α) (leg : LaneLeg α) (turn : Turn α)
    (point : Point α) (sensors : Sensors α) (spec : ResolvedTurn α) (state : FollowerState α) :
    follower.Onward leg turn point sensors spec state
      (follower.onward leg turn point sensors spec state) := by
  unfold onward
  dsimp only
  split
  next isTurn =>
    split
    next armed =>
      split
      next now => exact .starts isTurn armed now
      next notYet => exact .waits isTurn armed (Bool.not_eq_true _ ▸ notYet)
    next unarmed => exact .far isTurn unarmed
  next straight =>
    split
    next reached => exact .passes (Bool.not_eq_true _ ▸ straight) reached
    next ahead => exact .drives (Bool.not_eq_true _ ▸ straight) (not_le.mp ahead)

section Onward

variable {leg : LaneLeg α} {turn : Turn α} {point : Point α} {sensors : Sensors α}
  {spec : ResolvedTurn α} {state : FollowerState α}

/-- A connector is passed over where its maneuver is no turn and the end of the leg is reached. -/
theorem onward_eq_pass {next : FollowerState α}
    (passed : follower.onward leg turn point sensors spec state = .pass next) :
    spec.isTurn = false ∧ leg.exitAhead point ≤ 0 ∧ next = follower.passStraight turn point state := by
  have ways := follower.onward_onward leg turn point sensors spec state
  rw [passed] at ways
  cases ways with
  | passes straight reached => exact ⟨straight, reached, rfl⟩

/-- A turn is started once it is armed and the sensors say so. -/
theorem onward_eq_turn {spec' : ResolvedTurn α} {next : FollowerState α}
    (turned : follower.onward leg turn point sensors spec state = .turn spec' next) :
    spec' = spec ∧ spec.isTurn = true ∧
      (arm leg spec (leg.exitAhead point) state).phase = .armed ∧
      (follower.starting leg spec point sensors state).1 = true ∧
      next = (follower.starting leg spec point sensors state).2 := by
  have ways := follower.onward_onward leg turn point sensors spec state
  rw [turned] at ways
  cases ways with
  | starts isTurn armed now => exact ⟨rfl, isTurn, armed, now, rfl⟩

theorem passStraight_phase (turn : Turn α) (point : Point α) (state : FollowerState α) :
    (follower.passStraight turn point state).phase = .follow := by
  unfold passStraight
  split
  · rfl
  · rfl

theorem beginTurn_ok {route : LaneRoute α} {begun : FollowerState α}
    (begins : follower.beginTurn route spec point state = .ok begun) :
    ∃ span, follower.fusedSpan route spec state.leg = .ok span ∧
      begun = { state with
        phase := .turning
        turnTravelM := 0
        turnPath := [point]
        followPath := []
        headingGuardOn := false
        fuseSpan := span } := by
  obtain ⟨span, spanned, same⟩ := bind_eq_ok.mp begins
  cases same
  exact ⟨span, spanned, rfl⟩

end Onward

/-- Arming changes the phase of a state that follows, if anything. -/
theorem arm_state (leg : LaneLeg α) (spec : ResolvedTurn α) (ahead : α) (state : FollowerState α) :
    (arm leg spec ahead state = { state with phase := .armed } ∧ state.phase = .follow) ∨
      arm leg spec ahead state = state := by
  unfold arm
  split
  next due =>
    rw [Bool.and_eq_true, decide_eq_true_eq] at due
    exact .inl ⟨rfl, due.1⟩
  · exact .inr rfl

/-- Arming and looking for the start change the phase and the fired trigger. -/
theorem starting_state (follower : LaneFollower α) (leg : LaneLeg α) (spec : ResolvedTurn α)
    (point : Point α) (sensors : Sensors α) (state : FollowerState α) :
    ∃ firedAt travel last, (follower.starting leg spec point sensors state).2 =
      { state with
        phase := (arm leg spec (leg.exitAhead point) state).phase
        firedAt := firedAt, firedTravelM := travel, firedLastT := last } := by
  obtain ⟨firedAt, travel, last, same⟩ := follower.shouldStartTurn_state spec (leg.exitAhead point)
    point (sensors.clock state.leg) (sensors.marks state.leg)
    (arm leg spec (leg.exitAhead point) state)
  refine ⟨firedAt, travel, last, same.trans ?_⟩
  rcases arm_state leg spec (leg.exitAhead point) state with ⟨armed, _⟩ | armed
  · rw [armed]
  · rw [armed]

/-- Staying on a leg changes the phase and the fired trigger, and starts no turn. -/
theorem onward_eq_stay {leg : LaneLeg α} {turn : Turn α} {point : Point α} {sensors : Sensors α}
    {spec : ResolvedTurn α} {state next : FollowerState α}
    (stays : follower.onward leg turn point sensors spec state = .stay next) :
    ∃ phase firedAt travel last, next = { state with
      phase := phase, firedAt := firedAt, firedTravelM := travel, firedLastT := last } ∧
      (state.phase ≠ .turning → phase ≠ .turning) := by
  have armed (straight : state.phase ≠ .turning) :
      (arm leg spec (leg.exitAhead point) state).phase ≠ .turning := arm_notTurning _ _ _ straight
  have ways := follower.onward_onward leg turn point sensors spec state
  rw [stays] at ways
  cases ways with
  | far =>
    refine ⟨_, state.firedAt, state.firedTravelM, state.firedLastT, ?_, armed⟩
    rcases arm_state leg spec (leg.exitAhead point) state with ⟨arms, _⟩ | arms
    · rw [arms]
    · rw [arms]
  | waits =>
    obtain ⟨firedAt, travel, last, same⟩ := follower.starting_state leg spec point sensors state
    exact ⟨_, firedAt, travel, last, same, armed⟩
  | drives => exact ⟨_, _, _, _, rfl, id⟩

/-- Two turns are made in one: the entry says so, and the next connector is a turn too and has a leg
behind it. -/
def Fuses (follower : LaneFollower α) (route : LaneRoute α) (spec : ResolvedTurn α) (leg : ℕ) :
    Prop :=
  spec.fuseNext = true ∧ leg + 2 < route.legs.length ∧
    ∃ next nextSpec, route.turns[leg + 1]? = some next ∧
      follower.table.resolve next = .ok nextSpec ∧ nextSpec.isTurn = true

/-- A turn spans one leg, or two where it is made in one with the next. -/
theorem fusedSpan_cases {route : LaneRoute α} {spec : ResolvedTurn α} {leg : ℕ} {span : ℕ+}
    (fused : follower.fusedSpan route spec leg = .ok span) :
    span = 1 ∧ ¬ follower.Fuses route spec leg ∨ span = 2 ∧ follower.Fuses route spec leg := by
  unfold fusedSpan at fused
  split at fused
  next single =>
    cases fused
    refine .inl ⟨rfl, fun fuses => ?_⟩
    rw [fuses.1] at single
    cases single
  next fuses =>
    rw [Bool.not_eq_true', Bool.not_eq_false] at fuses
    split at fused
    next absent =>
      cases fused
      refine .inl ⟨rfl, fun ⟨_, _, next, _, found, _⟩ => ?_⟩
      rw [absent] at found
      cases found
    next next found =>
      split at fused
      next last =>
        cases fused
        exact .inl ⟨rfl, fun fuses => absurd fuses.2.1 (not_lt.mpr last)⟩
      next room =>
        obtain ⟨nextSpec, resolved, same⟩ := bind_eq_ok.mp fused
        cases same
        split
        next isTurn =>
          exact .inr ⟨rfl, fuses, not_le.mp room, next, nextSpec, found, resolved, isTurn⟩
        next straight =>
          refine .inl ⟨rfl, fun ⟨_, _, other, otherSpec, same, resolved', isTurn⟩ => straight ?_⟩
          rw [found, Option.some.injEq] at same
          rw [← same, resolved, Except.ok.injEq] at resolved'
          rw [resolved']
          exact isTurn

theorem fusedSpan_ok {route : LaneRoute α}
    (resolves : ∀ turn ∈ route.turns, ∃ spec, follower.table.resolve turn = .ok spec)
    (spec : ResolvedTurn α) (leg : ℕ) : ∃ span, follower.fusedSpan route spec leg = .ok span := by
  unfold fusedSpan
  split
  · exact ⟨_, rfl⟩
  · split
    · exact ⟨_, rfl⟩
    next next found =>
      split
      · exact ⟨_, rfl⟩
      · obtain ⟨nextSpec, resolved⟩ := resolves next (List.mem_of_getElem? found)
        rw [resolved]
        exact ⟨_, rfl⟩

/-- The throttle on a leg. -/
abbrev legThrottle (follower : LaneFollower α) (leg : LaneLeg α) (target point : Point α)
    (headingDeg remaining : α) (isFinal : Bool) (state : FollowerState α) : α :=
  if decide (state.phase = .armed) then follower.turn
  else follower.cruiseThrottle leg target point headingDeg remaining isFinal

/-- The state behind a command of a leg. -/
abbrev steeredState (state : FollowerState α) (segHeadingOn headingGuardOn : Bool) (wheel : α) :
    FollowerState α :=
  { state with
    segHeadingOn := segHeadingOn
    headingGuardOn := headingGuardOn
    segOkNow := !decide (state.phase = .armed) && state.exitHoldFrom.isNone
    lastWheel := some wheel }

/-- The wheel angle behind the slew limit. -/
def limited (follower : LaneFollower α) (wheel : α) : Option α → α
  | none => wheel
  | some last =>
    if follower.steerStep ≤ 0 then wheel
    else max (last - follower.steerStep) (min (last + follower.steerStep) wheel)

theorem rateLimit_eq (wheel : α) (state : FollowerState α) : follower.rateLimit wheel state =
    (follower.limited wheel state.lastWheel,
      { state with lastWheel := some (follower.limited wheel state.lastWheel) }) := by
  unfold rateLimit
  cases state.lastWheel with
  | none => rfl
  | some last => rfl

/-- A command of a leg: the throttle of the phase, and a pursued wheel angle behind the fixed angles
and the slew limit. -/
theorem steer_ok {leg : LaneLeg α} {target point : Point α} {headingDeg remaining : α}
    {isFinal : Bool} {obs : SegObservation α} {state : FollowerState α} {driven : Driven α}
    (steered : follower.steer leg target point headingDeg remaining isFinal obs state = .ok driven) :
    ∃ heading pursued segHeadingOn headingGuardOn wheel,
      follower.pursue target point heading = .ok pursued ∧
      wheel = follower.limited (follower.wheelOn leg state pursued) state.lastWheel ∧
      driven = ⟨some ⟨follower.legThrottle leg target point headingDeg remaining isFinal state,
        wheel⟩, remaining, steeredState state segHeadingOn headingGuardOn wheel⟩ := by
  unfold steer at steered
  generalize chosen : follower.pursueHeading leg headingDeg obs state = result at steered
  obtain ⟨segOn, guardOn, headed⟩ := pursueHeading_state chosen
  obtain ⟨heading, state'⟩ := result
  dsimp only at headed steered
  subst headed
  obtain ⟨pursued, pursuing, same⟩ := bind_eq_ok.mp steered
  cases same
  refine ⟨heading, pursued, segOn, guardOn, _, pursuing, rfl, ?_⟩
  rw [rateLimit_eq]
  rfl

/-! ### The course of a call -/

section Course

variable (follower : LaneFollower α) (route : LaneRoute α) (point : Point α) (headingDeg : α)
  (sensors : Sensors α)

/-- Outside of a turn the car is on a leg and looks out from it. -/
structure Sight (state : FollowerState α) (leg : LaneLeg α) (view : Outlook α) : Prop where
  straight : state.phase ≠ .turning
  onLeg : route.legs[state.leg]? = some leg
  seen : follower.outlook route leg point state = .ok view

/-- In a turn the car is on its way to the leg behind it. -/
structure Bend (state : FollowerState α) (spec : ResolvedTurn α) (nextLeg : LaneLeg α)
    (lastTurn : Turn α) : Prop where
  turning : state.phase = .turning
  known : state.spec = some spec
  nextLeg : route.legs[state.leg + (state.fuseSpan : ℕ)]? = some nextLeg
  lastTurn : route.turns[state.leg + (state.fuseSpan : ℕ) - 1]? = some lastTurn

/-- The turn is broken off or over. -/
def bendOver (spec : ResolvedTurn α) (nextLeg : LaneLeg α) (state : FollowerState α) : Bool :=
  follower.outOfMap point || turnOver spec nextLeg.headingDeg headingDeg state

/-- The ways of a call: it stops, drives along the leg, or goes on with the turn, perhaps behind
connectors it passed over and turns it finished. -/
inductive Course : FollowerState α → Driven α → Prop
  | stops {state : FollowerState α} {leg : LaneLeg α} {view : Outlook α}
      (sight : follower.Sight route point state leg view) (stopped : view.stops = true) :
      Course state ⟨none, view.remaining, view.state⟩
  | ends {state : FollowerState α} {leg : LaneLeg α} {view : Outlook α} {driven : Driven α}
      (sight : follower.Sight route point state leg view) (goes : view.stops = false)
      (last : route.turns[state.leg]? = none)
      (steered : follower.steer leg view.target point headingDeg view.remaining view.isFinal
        sensors.seg view.state = .ok driven) : Course state driven
  | stays {state next : FollowerState α} {leg : LaneLeg α} {view : Outlook α} {turn : Turn α}
      {spec : ResolvedTurn α} {driven : Driven α}
      (sight : follower.Sight route point state leg view) (goes : view.stops = false)
      (behind : route.turns[state.leg]? = some turn)
      (resolved : follower.specOf turn view.state = .ok spec)
      (onward : follower.onward leg turn point sensors spec
        { view.state with spec := some spec } = .stay next)
      (steered : follower.steer leg view.target point headingDeg view.remaining view.isFinal
        sensors.seg next = .ok driven) : Course state driven
  | passes {state next : FollowerState α} {leg : LaneLeg α} {view : Outlook α} {turn : Turn α}
      {spec : ResolvedTurn α} {driven : Driven α}
      (sight : follower.Sight route point state leg view) (goes : view.stops = false)
      (behind : route.turns[state.leg]? = some turn)
      (resolved : follower.specOf turn view.state = .ok spec)
      (onward : follower.onward leg turn point sensors spec
        { view.state with spec := some spec } = .pass next)
      (rest : Course next driven) : Course state driven
  | turns {state next begun : FollowerState α} {leg : LaneLeg α} {view : Outlook α}
      {turn : Turn α} {spec spec' : ResolvedTurn α} {driven : Driven α}
      (sight : follower.Sight route point state leg view) (goes : view.stops = false)
      (behind : route.turns[state.leg]? = some turn)
      (resolved : follower.specOf turn view.state = .ok spec)
      (onward : follower.onward leg turn point sensors spec
        { view.state with spec := some spec } = .turn spec' next)
      (begins : follower.beginTurn route spec' point next = .ok begun)
      (rest : Course begun driven) : Course state driven
  | keeps {state : FollowerState α} {spec : ResolvedTurn α} {nextLeg : LaneLeg α}
      {lastTurn : Turn α} {remaining : α} (bend : Bend route state spec nextLeg lastTurn)
      (on : follower.bendOver point headingDeg spec nextLeg state = false) :
      Course state ⟨some ⟨follower.turn, spec.wheelDeg⟩, remaining,
        { state with segOkNow := false, segHeadingOn := false }⟩
  | finishes {state : FollowerState α} {spec : ResolvedTurn α} {nextLeg : LaneLeg α}
      {lastTurn : Turn α} {driven : Driven α} (bend : Bend route state spec nextLeg lastTurn)
      (ended : follower.bendOver point headingDeg spec nextLeg state = true)
      (rest : Course (FollowerState.advanceLeg^[(state.fuseSpan : ℕ)]
        { state with exitHoldFrom := some point }) driven) : Course state driven

end Course

section Sound

variable {route : LaneRoute α} {point : Point α} {headingDeg : α} {sensors : Sensors α}

/-- A turn takes one of the ways if what follows it does. -/
theorem driveTurn_course {continued : FollowerState α → Except PyError (Driven α)}
    (continuation : ∀ state driven, state.phase ≠ .turning → continued state = .ok driven →
      follower.Course route point headingDeg sensors state driven)
    {state : FollowerState α} {driven : Driven α} (turning : state.phase = .turning)
    (drove : follower.driveTurn route point headingDeg continued state = .ok driven) :
    follower.Course route point headingDeg sensors state driven := by
  unfold driveTurn at drove
  split at drove
  · cases drove
  next spec known =>
    obtain ⟨nextLeg, nextFound, drove⟩ := bind_eq_ok.mp drove
    obtain ⟨lastTurn, lastFound, drove⟩ := bind_eq_ok.mp drove
    have bend : Bend route state spec nextLeg lastTurn :=
      ⟨turning, known, itemAt_ok.mp nextFound, itemAt_ok.mp lastFound⟩
    dsimp only at drove
    split at drove
    next ended =>
      refine .finishes bend ended (continuation _ _ ?_ drove)
      rw [iterate_advanceLeg_phase]
      exact TurnPhase.noConfusion
    next on =>
      cases drove
      exact .keeps bend (Bool.not_eq_true _ ▸ on)

theorem driveLeg_course (legs : ℕ) {state : FollowerState α} {driven : Driven α}
    (straight : state.phase ≠ .turning)
    (drove : follower.driveLeg route point headingDeg sensors legs state = .ok driven) :
    follower.Course route point headingDeg sensors state driven := by
  induction legs generalizing state driven with
  | zero => cases drove
  | succ legs inductionHypothesis =>
    unfold driveLeg at drove
    obtain ⟨leg, found, drove⟩ := bind_eq_ok.mp drove
    obtain ⟨view, seen, drove⟩ := bind_eq_ok.mp drove
    have sight : follower.Sight route point state leg view := ⟨straight, itemAt_ok.mp found, seen⟩
    split at drove
    next stopped =>
      cases drove
      exact .stops sight stopped
    next goes =>
      rw [Bool.not_eq_true] at goes
      dsimp only at drove
      split at drove
      next last => exact .ends sight goes last drove
      next turn behind =>
        obtain ⟨junction, decided, drove⟩ := bind_eq_ok.mp drove
        obtain ⟨spec, resolved, same⟩ := bind_eq_ok.mp decided
        have onward : follower.onward leg turn point sensors spec
            { view.state with spec := some spec } = junction := Except.ok.inj same
        cases junction with
        | stay next => exact .stays sight goes behind resolved onward drove
        | pass next =>
          obtain ⟨_, _, rfl⟩ := onward_eq_pass onward
          exact .passes sight goes behind resolved onward
            (inductionHypothesis (passStraight_phase turn point _ ▸ TurnPhase.noConfusion) drove)
        | turn spec' next =>
          obtain ⟨begun, begins, drove⟩ := bind_eq_ok.mp drove
          obtain ⟨span, _, rfl⟩ := beginTurn_ok begins
          exact .turns sight goes behind resolved onward begins (driveTurn_course
            (fun _ _ straight drove => inductionHypothesis straight drove) rfl drove)

theorem driveOn_course {state : FollowerState α} {driven : Driven α}
    (drove : follower.driveOn route point headingDeg sensors state = .ok driven) :
    follower.Course route point headingDeg sensors state driven := by
  unfold driveOn at drove
  dsimp only at drove
  split at drove
  next turning =>
    exact driveTurn_course (fun _ _ straight drove => driveLeg_course _ straight drove) turning drove
  next straight => exact driveLeg_course _ straight drove

end Sound

/-! ### Staying on the route -/

/-- The leg is one of the route, a resolved turn is the one behind the leg, the car only prepares
and makes turns, and a turn spans what it spanned when it began. -/
structure OnRoute (follower : LaneFollower α) (route : LaneRoute α) (state : FollowerState α) :
    Prop where
  routed : state.route = some route
  inside : state.leg < route.legs.length
  resolved : ∀ spec, state.spec = some spec → ∃ turn, route.turns[state.leg]? = some turn ∧
    follower.table.resolve turn = .ok spec
  bends : state.phase ≠ .follow → ∃ spec, state.spec = some spec ∧ spec.isTurn = true
  spans : state.phase = .turning → ∀ spec, state.spec = some spec →
    follower.fusedSpan route spec state.leg = .ok state.fuseSpan

section OnRoute

variable {route : LaneRoute α} {point : Point α} {headingDeg : α} {sensors : Sensors α}
  {state : FollowerState α}

theorem OnRoute.reset (follower : LaneFollower α) (route : LaneRoute α) :
    follower.OnRoute route (.reset (some route)) where
  routed := rfl
  inside := by
    rw [route.counts]
    exact Nat.succ_pos _
  resolved _ absent := (nomatch absent)
  bends turning := absurd rfl turning
  spans turning := (nomatch turning)

/-- A turn that is prepared or made has a leg behind it. -/
theorem OnRoute.behind (onRoute : follower.OnRoute route state) (bending : state.phase ≠ .follow) :
    state.leg + 1 < route.legs.length := by
  obtain ⟨spec, known, _⟩ := onRoute.bends bending
  obtain ⟨turn, found, _⟩ := onRoute.resolved spec known
  have inside := (List.getElem?_eq_some_iff.mp found).1
  rw [route.counts]
  omega

/-- A state that differs in other fields is on the route too. -/
theorem OnRoute.congr (onRoute : follower.OnRoute route state) {other : FollowerState α}
    (routed : other.route = state.route) (leg : other.leg = state.leg)
    (spec : other.spec = state.spec) (phase : other.phase = state.phase)
    (span : other.fuseSpan = state.fuseSpan) : follower.OnRoute route other where
  routed := routed.trans onRoute.routed
  inside := leg ▸ onRoute.inside
  resolved := by rw [spec, leg]; exact onRoute.resolved
  bends := by rw [phase, spec]; exact onRoute.bends
  spans := by rw [phase, spec, leg, span]; exact onRoute.spans

theorem Sight.isFrom {leg : LaneLeg α} {view : Outlook α}
    (sight : follower.Sight route point state leg view) :
    view.IsFrom follower route leg point state := by
  obtain ⟨other, seen, isFrom⟩ := follower.outlook_ok route leg point state
  rw [sight.seen, Except.ok.injEq] at seen
  exact seen ▸ isFrom

/-- The car stops on the last leg only. -/
theorem Sight.last {leg : LaneLeg α} {view : Outlook α}
    (sight : follower.Sight route point state leg view) (stopped : view.stops = true) :
    state.leg + 1 = route.legs.length ∧ route.turns[state.leg]? = none := by
  rw [sight.isFrom.stops, sight.isFrom.isFinal, Bool.and_eq_true, decide_eq_true_eq] at stopped
  refine ⟨stopped.1, List.getElem?_eq_none ?_⟩
  have counts := route.counts
  omega

theorem Sight.onRoute {leg : LaneLeg α} {view : Outlook α}
    (sight : follower.Sight route point state leg view) (onRoute : follower.OnRoute route state) :
    follower.OnRoute route view.state ∧ view.state.leg = state.leg ∧
      view.state.phase = state.phase := by
  obtain ⟨pt, gate, best, same⟩ := sight.isFrom.state
  rw [same]
  exact ⟨onRoute.congr rfl rfl rfl rfl rfl, rfl, rfl⟩

/-- Where the car stands in no turn, looking ahead makes none. -/
theorem Sight.viewStraight {leg : LaneLeg α} {view : Outlook α}
    (sight : follower.Sight route point state leg view) : view.state.phase ≠ .turning := by
  obtain ⟨_, _, _, same⟩ := sight.isFrom.state
  rw [same]
  exact sight.straight

/-- Looking ahead leaves the last wheel angle. -/
theorem Sight.lastWheel {leg : LaneLeg α} {view : Outlook α}
    (sight : follower.Sight route point state leg view) :
    view.state.lastWheel = state.lastWheel := by
  obtain ⟨_, _, _, same⟩ := sight.isFrom.state
  rw [same]

/-- The turn behind the leg is resolved. -/
theorem OnRoute.specify (onRoute : follower.OnRoute route state) (straight : state.phase ≠ .turning)
    {turn : Turn α} (behind : route.turns[state.leg]? = some turn) {spec : ResolvedTurn α}
    (resolved : follower.specOf turn state = .ok spec) :
    follower.table.resolve turn = .ok spec ∧
      follower.OnRoute route { state with spec := some spec } := by
  have resolves : follower.table.resolve turn = .ok spec := by
    unfold specOf at resolved
    split at resolved
    next known same =>
      obtain ⟨turn', behind', resolves⟩ := onRoute.resolved known same
      rw [behind, Option.some.injEq] at behind'
      rw [behind', resolves, ← resolved]
    · exact resolved
  refine ⟨resolves, onRoute.routed, onRoute.inside, ?_, ?_, fun turning => absurd turning straight⟩
  · rintro _ ⟨⟩
    exact ⟨turn, behind, resolves⟩
  · intro bending
    obtain ⟨known, same, isTurn⟩ := onRoute.bends bending
    unfold specOf at resolved
    rw [same] at resolved
    cases resolved
    exact ⟨spec, rfl, isTurn⟩

/-- Arming the turn stays on the leg. -/
theorem OnRoute.armed (onRoute : follower.OnRoute route state) (leg : LaneLeg α) (ahead : α)
    {spec : ResolvedTurn α} (known : state.spec = some spec) (isTurn : spec.isTurn = true) :
    follower.OnRoute route (arm leg spec ahead state) := by
  rcases arm_state leg spec ahead state with ⟨same, _⟩ | same
  · rw [same]
    exact ⟨onRoute.routed, onRoute.inside, onRoute.resolved, fun _ => ⟨spec, known, isTurn⟩,
      fun turning => absurd turning TurnPhase.noConfusion⟩
  · rw [same]
    exact onRoute

/-- Looking for the start of the turn stays on the leg. -/
theorem OnRoute.started (onRoute : follower.OnRoute route state) (leg : LaneLeg α)
    (point : Point α) (sensors : Sensors α) {spec : ResolvedTurn α}
    (known : state.spec = some spec) (isTurn : spec.isTurn = true) :
    follower.OnRoute route (follower.starting leg spec point sensors state).2 ∧
      (follower.starting leg spec point sensors state).2.spec = some spec ∧
      (follower.starting leg spec point sensors state).2.leg = state.leg := by
  have armed := onRoute.armed leg (leg.exitAhead point) known isTurn
  obtain ⟨firedAt, travel, last, same⟩ := follower.starting_state leg spec point sensors state
  rw [same]
  refine ⟨?_, known, rfl⟩
  rcases arm_state leg spec (leg.exitAhead point) state with ⟨arms, _⟩ | arms
  · rw [arms] at armed ⊢
    exact armed.congr rfl rfl rfl rfl rfl
  · rw [arms]
    exact onRoute.congr rfl rfl rfl rfl rfl

/-- Staying on the leg stays on it, armed or not. -/
theorem OnRoute.stays (onRoute : follower.OnRoute route state) {leg : LaneLeg α} {turn : Turn α}
    {spec : ResolvedTurn α} (known : state.spec = some spec) {next : FollowerState α}
    (stayed : follower.onward leg turn point sensors spec state = .stay next) :
    follower.OnRoute route next ∧ next.leg = state.leg := by
  have ways := follower.onward_onward leg turn point sensors spec state
  rw [stayed] at ways
  cases ways with
  | far isTurn unarmed =>
    refine ⟨onRoute.armed leg (leg.exitAhead point) known isTurn, ?_⟩
    rcases arm_state leg spec (leg.exitAhead point) state with ⟨arms, _⟩ | arms
    · rw [arms]
    · rw [arms]
  | waits isTurn armed notYet =>
    obtain ⟨started, _, sameLeg⟩ := onRoute.started leg point sensors known isTurn
    exact ⟨started, sameLeg⟩
  | drives straight ahead => exact ⟨onRoute, rfl⟩

/-- Passing over a connector leads to the next leg. -/
theorem OnRoute.pass (onRoute : follower.OnRoute route state) (point : Point α) {turn : Turn α}
    (behind : route.turns[state.leg]? = some turn) :
    follower.OnRoute route (follower.passStraight turn point state) ∧
      (follower.passStraight turn point state).leg = state.leg + 1 := by
  have inside : state.leg + 1 < route.legs.length := by
    have before := (List.getElem?_eq_some_iff.mp behind).1
    rw [route.counts]
    omega
  have advanced : follower.OnRoute route state.advanceLeg :=
    ⟨onRoute.routed, inside, fun _ absent => (nomatch absent), fun bending => absurd rfl bending,
      fun turning => (nomatch turning)⟩
  unfold passStraight
  split
  · exact ⟨advanced.congr rfl rfl rfl rfl rfl, rfl⟩
  · exact ⟨advanced, rfl⟩

/-- Beginning a turn stays on the leg. -/
theorem OnRoute.begin (onRoute : follower.OnRoute route state) {spec : ResolvedTurn α}
    (known : state.spec = some spec) (isTurn : spec.isTurn = true) {begun : FollowerState α}
    (begins : follower.beginTurn route spec point state = .ok begun) :
    follower.OnRoute route begun ∧ begun.leg = state.leg := by
  obtain ⟨span, spanned, rfl⟩ := beginTurn_ok begins
  refine ⟨⟨onRoute.routed, onRoute.inside, onRoute.resolved, fun _ => ⟨spec, known, isTurn⟩, ?_⟩, rfl⟩
  intro _ other same
  rw [known, Option.some.injEq] at same
  exact same ▸ spanned

section Sight

variable {leg : LaneLeg α} {view : Outlook α} {turn : Turn α} {spec : ResolvedTurn α}
  (sight : follower.Sight route point state leg view) (onRoute : follower.OnRoute route state)
  (behind : route.turns[state.leg]? = some turn)
  (resolved : follower.specOf turn view.state = .ok spec)

include sight onRoute behind resolved

/-- The turn behind the leg in sight is resolved. -/
theorem Sight.specify : follower.table.resolve turn = .ok spec ∧
    follower.OnRoute route { view.state with spec := some spec } ∧ view.state.leg = state.leg := by
  obtain ⟨viewed, leg, _⟩ := sight.onRoute onRoute
  rw [← leg] at behind
  obtain ⟨resolves, specified⟩ := viewed.specify sight.viewStraight behind resolved
  exact ⟨resolves, specified, leg⟩

/-- Staying on the leg in sight. -/
theorem Sight.stayed {next : FollowerState α} (stays : follower.onward leg turn point sensors spec
    { view.state with spec := some spec } = .stay next) :
    follower.OnRoute route next ∧ next.leg = state.leg := by
  obtain ⟨_, specified, leg⟩ := sight.specify onRoute behind resolved
  obtain ⟨stayed, same⟩ := specified.stays rfl stays
  exact ⟨stayed, same.trans leg⟩

/-- Passing over the connector behind the leg in sight. -/
theorem Sight.passed {next : FollowerState α} (passes : follower.onward leg turn point sensors spec
    { view.state with spec := some spec } = .pass next) :
    follower.OnRoute route next ∧ next.leg = state.leg + 1 := by
  obtain ⟨_, specified, leg⟩ := sight.specify onRoute behind resolved
  obtain ⟨_, _, rfl⟩ := onward_eq_pass passes
  rw [← leg] at behind ⊢
  exact specified.pass point behind

/-- Beginning the turn behind the leg in sight. -/
theorem Sight.turned {spec' : ResolvedTurn α} {next begun : FollowerState α}
    (turns : follower.onward leg turn point sensors spec
      { view.state with spec := some spec } = .turn spec' next)
    (begins : follower.beginTurn route spec' point next = .ok begun) :
    follower.OnRoute route begun ∧ begun.leg = state.leg := by
  obtain ⟨_, specified, leg⟩ := sight.specify onRoute behind resolved
  obtain ⟨rfl, isTurn, _, _, rfl⟩ := onward_eq_turn turns
  obtain ⟨started, known, same⟩ := specified.started _ point sensors rfl isTurn
  obtain ⟨begun, begunLeg⟩ := started.begin known isTurn begins
  exact ⟨begun, (begunLeg.trans same).trans leg⟩

end Sight

/-- The legs a turn spans are advanced at once. -/
theorem iterate_advanceLeg (state : FollowerState α) (span : ℕ+) :
    FollowerState.advanceLeg^[(span : ℕ)] state =
      { state.advanceLeg with leg := state.leg + (span : ℕ) } := by
  induction span with
  | one => rfl
  | succ span inductionHypothesis =>
    rw [PNat.add_coe, PNat.one_coe, Function.iterate_succ_apply', inductionHypothesis]
    rfl

/-- A turn has the legs it spans. -/
theorem OnRoute.bend (onRoute : follower.OnRoute route state) (turning : state.phase = .turning) :
    ∃ spec nextLeg lastTurn, Bend route state spec nextLeg lastTurn := by
  obtain ⟨spec, known, _⟩ := onRoute.bends (turning ▸ TurnPhase.noConfusion)
  have inside : state.leg + (state.fuseSpan : ℕ) < route.legs.length := by
    rcases fusedSpan_cases (onRoute.spans turning spec known) with ⟨one, _⟩ | ⟨two, _, room, _⟩
    · rw [one]
      exact onRoute.behind (turning ▸ TurnPhase.noConfusion)
    · rw [two]
      exact room
  have before : state.leg + (state.fuseSpan : ℕ) - 1 < route.turns.length := by
    have positive := state.fuseSpan.pos
    rw [route.counts] at inside
    omega
  exact ⟨spec, _, _, turning, known, List.getElem?_eq_getElem inside,
    List.getElem?_eq_getElem before⟩

/-- Finishing a turn leads to the leg behind what it spans. -/
theorem Bend.finish {spec : ResolvedTurn α} {nextLeg : LaneLeg α} {lastTurn : Turn α}
    (bend : Bend route state spec nextLeg lastTurn) (onRoute : follower.OnRoute route state) :
    follower.OnRoute route (FollowerState.advanceLeg^[(state.fuseSpan : ℕ)]
      { state with exitHoldFrom := some point }) := by
  rw [iterate_advanceLeg]
  exact ⟨onRoute.routed, (List.getElem?_eq_some_iff.mp bend.nextLeg).1,
    fun _ absent => (nomatch absent), fun bending => absurd rfl bending,
    fun turning => (nomatch turning)⟩

end OnRoute

/-! ### Every call returns -/

/-- A call returns a command, or divides by a full lock error of zero. -/
def Returns (follower : LaneFollower α) (outcome : Except PyError (Driven α)) : Prop :=
  (∃ driven, outcome = .ok driven) ∨
    outcome = .error .zeroDivisionError ∧ follower.fullLockErrorDeg = 0

section Returns

variable {route : LaneRoute α} {point : Point α} {headingDeg : α} {sensors : Sensors α}
  {state : FollowerState α}

theorem steer_returns (leg : LaneLeg α) (target point : Point α) (headingDeg remaining : α)
    (isFinal : Bool) (obs : SegObservation α) (state : FollowerState α) :
    follower.Returns (follower.steer leg target point headingDeg remaining isFinal obs state) := by
  unfold steer
  generalize follower.pursueHeading leg headingDeg obs state = result
  obtain ⟨heading, state⟩ := result
  dsimp only
  unfold pursue divide
  split
  next zero => exact .inr ⟨rfl, zero⟩
  · exact .inl ⟨_, rfl⟩

/-- A turn returns if what follows it does. -/
theorem driveTurn_returns {continued : FollowerState α → Except PyError (Driven α)}
    (continuation : ∀ next, follower.OnRoute route next → next.phase ≠ .turning →
      state.leg < next.leg → follower.Returns (continued next))
    (onRoute : follower.OnRoute route state) (turning : state.phase = .turning) :
    follower.Returns (follower.driveTurn route point headingDeg continued state) := by
  obtain ⟨spec, nextLeg, lastTurn, bend⟩ := onRoute.bend turning
  unfold driveTurn
  split
  next absent =>
    rw [bend.known] at absent
    cases absent
  next other same =>
    dsimp only
    rw [itemAt_ok.mpr bend.nextLeg, itemAt_ok.mpr bend.lastTurn]
    change follower.Returns (if _ then _ else _)
    split
    · refine continuation _ (bend.finish onRoute) ?_ ?_
      · rw [iterate_advanceLeg]
        exact TurnPhase.noConfusion
      · rw [iterate_advanceLeg]
        exact Nat.lt_add_of_pos_right state.fuseSpan.pos
    · exact .inl ⟨_, rfl⟩

theorem specOf_ok (resolves : ∀ turn ∈ route.turns, ∃ spec, follower.table.resolve turn = .ok spec)
    {turn : Turn α} (behind : turn ∈ route.turns) (state : FollowerState α) :
    ∃ spec, follower.specOf turn state = .ok spec := by
  unfold specOf
  split
  · exact ⟨_, rfl⟩
  · exact resolves turn behind

/-- Driving along the legs returns before they are counted down. -/
theorem driveLeg_returns
    (resolves : ∀ turn ∈ route.turns, ∃ spec, follower.table.resolve turn = .ok spec) (legs : ℕ)
    (onRoute : follower.OnRoute route state) (straight : state.phase ≠ .turning)
    (enough : route.legs.length ≤ state.leg + legs) :
    follower.Returns (follower.driveLeg route point headingDeg sensors legs state) := by
  induction legs generalizing state with
  | zero => exact absurd onRoute.inside (not_lt.mpr enough)
  | succ legs inductionHypothesis =>
    obtain ⟨leg, found⟩ := exists_itemAt onRoute.inside
    obtain ⟨view, seen, _⟩ := follower.outlook_ok route leg point state
    have sight : follower.Sight route point state leg view := ⟨straight, itemAt_ok.mp found, seen⟩
    unfold driveLeg
    rw [found]
    change follower.Returns (follower.outlook route leg point state >>= _)
    rw [seen]
    change follower.Returns (if _ then _ else _)
    split
    · exact .inl ⟨_, rfl⟩
    · split
      · exact steer_returns ..
      next turn behind =>
        obtain ⟨spec, resolved⟩ := specOf_ok resolves (List.mem_of_getElem? behind) view.state
        have decided : follower.junction leg turn point sensors view.state = .ok
            (follower.onward leg turn point sensors spec { view.state with spec := some spec }) := by
          unfold junction
          rw [resolved]
          rfl
        rw [decided]
        cases way : follower.onward leg turn point sensors spec
            { view.state with spec := some spec } with
        | stay next => exact steer_returns ..
        | pass next =>
          obtain ⟨passed, nextLeg⟩ := sight.passed onRoute behind resolved way
          obtain ⟨_, _, rfl⟩ := onward_eq_pass way
          refine inductionHypothesis passed (passStraight_phase turn point _ ▸ TurnPhase.noConfusion) ?_
          omega
        | turn spec' next =>
          obtain ⟨span, spanned⟩ := follower.fusedSpan_ok resolves spec' next.leg
          have begins : follower.beginTurn route spec' point next = .ok _ :=
            bind_eq_ok.mpr ⟨span, spanned, rfl⟩
          obtain ⟨begun, sameLeg⟩ := sight.turned onRoute behind resolved way begins
          change follower.Returns (follower.beginTurn route spec' point next >>= _)
          rw [begins]
          refine driveTurn_returns (fun next onRoute straight further => ?_) begun rfl
          rw [sameLeg] at further
          exact inductionHypothesis onRoute straight (by omega)

end Returns

/-! ### The legs of a call -/

section Move

variable (follower : LaneFollower α) (route : LaneRoute α) (point : Point α) (headingDeg : α)
  (sensors : Sensors α)

/-- The moves of a call from one state of the machine to the next: it passes over the connector behind
the leg, begins the turn behind it, or finishes the turn it makes. -/
inductive Move : FollowerState α → FollowerState α → Prop
  | pass {state next : FollowerState α} {leg : LaneLeg α} {view : Outlook α} {turn : Turn α}
      {spec : ResolvedTurn α} (sight : follower.Sight route point state leg view)
      (goes : view.stops = false) (behind : route.turns[state.leg]? = some turn)
      (resolved : follower.specOf turn view.state = .ok spec)
      (onward : follower.onward leg turn point sensors spec
        { view.state with spec := some spec } = .pass next) : Move state next
  | begin {state next begun : FollowerState α} {leg : LaneLeg α} {view : Outlook α} {turn : Turn α}
      {spec spec' : ResolvedTurn α} (sight : follower.Sight route point state leg view)
      (goes : view.stops = false) (behind : route.turns[state.leg]? = some turn)
      (resolved : follower.specOf turn view.state = .ok spec)
      (onward : follower.onward leg turn point sensors spec
        { view.state with spec := some spec } = .turn spec' next)
      (begins : follower.beginTurn route spec' point next = .ok begun) : Move state begun
  | finish {state : FollowerState α} {spec : ResolvedTurn α} {nextLeg : LaneLeg α}
      {lastTurn : Turn α} (bend : Bend route state spec nextLeg lastTurn)
      (ended : follower.bendOver point headingDeg spec nextLeg state = true) :
      Move state (FollowerState.advanceLeg^[(state.fuseSpan : ℕ)]
        { state with exitHoldFrom := some point })

/-- What a move does to the leg and the phase: outside of a turn one leg is left for the next over a
connector that is no turn, or a turn begins on the leg; in a turn the leg is left for the next one, or
for the one behind the next where two turns are made in one. -/
inductive Advances (state next : FollowerState α) : Prop
  | passed {turn : Turn α} {spec : ResolvedTurn α} (outside : state.phase ≠ .turning)
      (behind : route.turns[state.leg]? = some turn)
      (resolved : follower.table.resolve turn = .ok spec) (straight : spec.isTurn = false)
      (follows : next.phase = .follow) (leg : next.leg = state.leg + 1)
  | begun {turn : Turn α} {spec : ResolvedTurn α} (outside : state.phase ≠ .turning)
      (behind : route.turns[state.leg]? = some turn)
      (resolved : follower.table.resolve turn = .ok spec) (isTurn : spec.isTurn = true)
      (turns : next.phase = .turning) (leg : next.leg = state.leg)
  | finished {turn : Turn α} {spec : ResolvedTurn α} (turning : state.phase = .turning)
      (behind : route.turns[state.leg]? = some turn)
      (resolved : follower.table.resolve turn = .ok spec) (isTurn : spec.isTurn = true)
      (ordinary : ¬ follower.Fuses route spec state.leg)
      (follows : next.phase = .follow) (leg : next.leg = state.leg + 1)
  | fused {turn : Turn α} {spec : ResolvedTurn α} (turning : state.phase = .turning)
      (behind : route.turns[state.leg]? = some turn)
      (resolved : follower.table.resolve turn = .ok spec) (isTurn : spec.isTurn = true)
      (fuses : follower.Fuses route spec state.leg)
      (follows : next.phase = .follow) (leg : next.leg = state.leg + 2)

/-- A move with what it does. -/
def MovesOn (state next : FollowerState α) : Prop :=
  follower.Move route point headingDeg sensors state next ∧ follower.Advances route state next

end Move

section Path

variable {route : LaneRoute α} {point : Point α} {headingDeg : α} {sensors : Sensors α}
  {state next : FollowerState α}

theorem Advances.le (advances : follower.Advances route state next) : state.leg ≤ next.leg := by
  cases advances with
  | passed _ _ _ _ _ leg => omega
  | begun _ _ _ _ _ leg => omega
  | finished _ _ _ _ _ _ leg => omega
  | fused _ _ _ _ _ _ leg => omega

/-- A turn is left for a later leg only. -/
theorem Advances.lt (advances : follower.Advances route state next)
    (turning : state.phase = .turning) : state.leg < next.leg := by
  cases advances with
  | passed outside => exact absurd turning outside
  | begun outside => exact absurd turning outside
  | finished _ _ _ _ _ _ leg => omega
  | fused _ _ _ _ _ _ leg => omega

/-- Every move on the route stays on it, and advances the leg as it should. -/
theorem Move.advances (move : follower.Move route point headingDeg sensors state next)
    (onRoute : follower.OnRoute route state) :
    follower.OnRoute route next ∧ follower.Advances route state next := by
  cases move with
  | pass sight goes behind resolved onward =>
    obtain ⟨passed, leg⟩ := sight.passed onRoute behind resolved onward
    obtain ⟨resolves, _, _⟩ := sight.specify onRoute behind resolved
    obtain ⟨straight, _, rfl⟩ := onward_eq_pass onward
    exact ⟨passed, .passed sight.straight behind resolves straight (passStraight_phase ..) leg⟩
  | begin sight goes behind resolved onward begins =>
    obtain ⟨begun, leg⟩ := sight.turned onRoute behind resolved onward begins
    obtain ⟨resolves, _, _⟩ := sight.specify onRoute behind resolved
    obtain ⟨rfl, isTurn, _⟩ := onward_eq_turn onward
    obtain ⟨span, _, rfl⟩ := beginTurn_ok begins
    exact ⟨begun, .begun sight.straight behind resolves isTurn rfl leg⟩
  | finish bend ended =>
    refine ⟨bend.finish onRoute, ?_⟩
    rw [iterate_advanceLeg]
    obtain ⟨turn, behind, resolved⟩ := onRoute.resolved _ bend.known
    obtain ⟨other, known, isTurn⟩ := onRoute.bends (bend.turning ▸ TurnPhase.noConfusion)
    rw [bend.known, Option.some.injEq] at known
    subst known
    rcases fusedSpan_cases (onRoute.spans bend.turning _ bend.known) with
      ⟨span, ordinary⟩ | ⟨span, fuses⟩
    · rw [span]
      exact .finished bend.turning behind resolved isTurn ordinary rfl rfl
    · rw [span]
      exact .fused bend.turning behind resolved isTurn fuses rfl rfl

/-- A call comes by moves to the state it ends in, but for what it does on its last leg. -/
theorem Course.path {driven : Driven α}
    (course : follower.Course route point headingDeg sensors state driven)
    (onRoute : follower.OnRoute route state) : follower.OnRoute route driven.state ∧
      ∃ last, Relation.ReflTransGen (follower.MovesOn route point headingDeg sensors) state last ∧
        driven.state.leg = last.leg ∧ (driven.state.phase = .turning ↔ last.phase = .turning) := by
  induction course with
  | stops sight stopped =>
    obtain ⟨viewed, leg, phase⟩ := sight.onRoute onRoute
    exact ⟨viewed, _, .refl, leg, by rw [phase]⟩
  | ends sight goes last steered =>
    obtain ⟨viewed, leg, phase⟩ := sight.onRoute onRoute
    obtain ⟨_, _, _, _, _, _, _, rfl⟩ := steer_ok steered
    exact ⟨viewed.congr rfl rfl rfl rfl rfl, _, .refl, leg, by rw [← phase]⟩
  | stays sight goes behind resolved onward steered =>
    obtain ⟨stayed, leg⟩ := sight.stayed onRoute behind resolved onward
    obtain ⟨_, _, _, _, same, straight⟩ := onward_eq_stay onward
    have outside := straight sight.viewStraight
    subst same
    obtain ⟨_, _, _, _, _, _, _, rfl⟩ := steer_ok steered
    exact ⟨stayed.congr rfl rfl rfl rfl rfl, _, .refl, leg, iff_of_false outside sight.straight⟩
  | passes sight goes behind resolved onward rest inductionHypothesis =>
    have move : follower.Move route point headingDeg sensors _ _ :=
      .pass sight goes behind resolved onward
    obtain ⟨passed, advances⟩ := move.advances onRoute
    obtain ⟨inside, last, path, ends⟩ := inductionHypothesis passed
    exact ⟨inside, last, .head ⟨move, advances⟩ path, ends⟩
  | turns sight goes behind resolved onward begins rest inductionHypothesis =>
    have move : follower.Move route point headingDeg sensors _ _ :=
      .begin sight goes behind resolved onward begins
    obtain ⟨begun, advances⟩ := move.advances onRoute
    obtain ⟨inside, last, path, ends⟩ := inductionHypothesis begun
    exact ⟨inside, last, .head ⟨move, advances⟩ path, ends⟩
  | keeps bend on =>
    exact ⟨onRoute.congr rfl rfl rfl rfl rfl, _, .refl, rfl, Iff.rfl⟩
  | finishes bend ended rest inductionHypothesis =>
    have move : follower.Move route point headingDeg sensors _ _ := .finish bend ended
    obtain ⟨finished, advances⟩ := move.advances onRoute
    obtain ⟨inside, last, path, ends⟩ := inductionHypothesis finished
    exact ⟨inside, last, .head ⟨move, advances⟩ path, ends⟩

theorem le_of_path
    (path : Relation.ReflTransGen (follower.MovesOn route point headingDeg sensors) state next) :
    state.leg ≤ next.leg := by
  induction path with
  | refl => exact le_rfl
  | tail _ move before => exact before.trans move.2.le

/-- A turn goes on, or the leg is left. -/
theorem lt_of_path (turning : state.phase = .turning)
    (path : Relation.ReflTransGen (follower.MovesOn route point headingDeg sensors) state next) :
    next = state ∨ state.leg < next.leg := by
  rcases path.cases_head with same | ⟨between, move, rest⟩
  · exact .inl same.symm
  · exact .inr ((move.2.lt turning).trans_le (le_of_path rest))

/-- A call stays on the route, and on its leg or behind it. -/
theorem Course.onRoute {driven : Driven α}
    (course : follower.Course route point headingDeg sensors state driven)
    (onRoute : follower.OnRoute route state) :
    follower.OnRoute route driven.state ∧ state.leg ≤ driven.state.leg := by
  obtain ⟨inside, last, path, leg, _⟩ := course.path onRoute
  exact ⟨inside, leg ▸ le_of_path path⟩

end Path

/-! ### Calls after calls -/

/-- The pose and the sensors of one call. -/
structure FollowerInput (α : Type) where
  point : Point α
  headingDeg : α
  sensors : Sensors α

/-- `compute` at its inputs. -/
def computeAt (follower : LaneFollower α) (input : FollowerInput α) (state : FollowerState α) :
    Except PyError (Driven α) :=
  follower.compute input.point input.headingDeg input.sensors state

/-- The calls that returned one after another, and the state behind them. -/
inductive Ride (follower : LaneFollower α) (start : FollowerState α) :
    List (FollowerInput α × Driven α) → FollowerState α → Prop
  | start : Ride follower start [] start
  | call {before : List (FollowerInput α × Driven α)} {state : FollowerState α} {driven : Driven α}
      (ridden : Ride follower start before state) (input : FollowerInput α)
      (computed : follower.computeAt input state = .ok driven) :
      Ride follower start (before ++ [(input, driven)]) driven.state

/-- What one call keeps holds behind every call. -/
theorem Ride.invariant {start : FollowerState α} {holds : FollowerState α → Prop}
    (initially : holds start)
    (kept : ∀ input state driven, holds state → follower.computeAt input state = .ok driven →
      holds driven.state) {calls : List (FollowerInput α × Driven α)} {state : FollowerState α}
    (ride : follower.Ride start calls state) : holds state := by
  induction ride with
  | start => exact initially
  | call _ input computed inductionHypothesis => exact kept input _ _ inductionHypothesis computed

/-- The last call of a run. -/
theorem Ride.last {start state : FollowerState α} {calls : List (FollowerInput α × Driven α)}
    {input : FollowerInput α} {driven : Driven α}
    (ride : follower.Ride start (calls ++ [(input, driven)]) state) :
    ∃ before, follower.Ride start calls before ∧ follower.computeAt input before = .ok driven ∧
      state = driven.state := by
  generalize all : calls ++ [(input, driven)] = every at ride
  cases ride with
  | start => exact absurd all (List.append_ne_nil_of_right_ne_nil _ (List.cons_ne_nil _ _))
  | call ridden input' computed =>
    obtain ⟨rfl, last⟩ := List.append_inj' all rfl
    cases last
    exact ⟨_, ridden, computed, rfl⟩

/-- The calls of a run before its last ones are a run. -/
theorem Ride.take {start state : FollowerState α} {calls rest : List (FollowerInput α × Driven α)}
    (ride : follower.Ride start (calls ++ rest) state) :
    ∃ before, follower.Ride start calls before := by
  induction rest using List.reverseRecOn generalizing state with
  | nil => exact ⟨state, List.append_nil calls ▸ ride⟩
  | append_singleton rest last inductionHypothesis =>
    rw [← List.append_assoc] at ride
    obtain ⟨before, ridden, _⟩ := ride.last
    exact inductionHypothesis ridden

/-- Every call of a run is one from the state behind those before it. -/
theorem Ride.computed {start state : FollowerState α}
    {before after : List (FollowerInput α × Driven α)} {call : FollowerInput α × Driven α}
    (ride : follower.Ride start (before ++ call :: after) state) :
    ∃ reached, follower.Ride start before reached ∧
      follower.computeAt call.1 reached = .ok call.2 := by
  rw [List.append_cons] at ride
  obtain ⟨_, upTo⟩ := ride.take
  obtain ⟨reached, ridden, computed, _⟩ := upTo.last
  exact ⟨reached, ridden, computed⟩

/-- The state a call drives on with. -/
abbrev underway (follower : LaneFollower α) (point : Point α) (state : FollowerState α) :
    FollowerState α :=
  follower.accumulateTravel point (state.depart point)

theorem underway_state (point : Point α) (state : FollowerState α) :
    ∃ travel turnPath followPath, follower.underway point state =
      { state with
        turnTravelM := travel, turnPath := turnPath, followPath := followPath,
        lastPos := some point, origin := some (state.origin.getD point) } := by
  unfold underway accumulateTravel
  dsimp only
  split
  · exact ⟨_, _, _, rfl⟩
  · split
    · exact ⟨_, _, _, rfl⟩
    · exact ⟨_, _, _, rfl⟩

theorem finish_state (point : Point α) (driven : Driven α) : ∃ segOkNow exitHoldFrom,
    (follower.finish point driven).state =
      { driven.state with segOkNow := segOkNow, exitHoldFrom := exitHoldFrom } := by
  unfold finish applyThrottleRules
  split
  · exact ⟨_, _, rfl⟩
  · dsimp only
    split
    · exact ⟨_, _, rfl⟩
    · split
      · exact ⟨_, _, rfl⟩
      · exact ⟨_, _, rfl⟩

section Compute

variable {route : LaneRoute α} {input : FollowerInput α} {state : FollowerState α}

/-- A call on a route is a course from the state underway, with the rules of the throttle at its
end. -/
theorem computeAt_course (routed : state.route = some route) {driven : Driven α}
    (computed : follower.computeAt input state = .ok driven) : ∃ drove,
      follower.Course route input.point input.headingDeg input.sensors
        (follower.underway input.point state) drove ∧
      driven = follower.finish input.point drove := by
  unfold computeAt compute at computed
  rw [routed] at computed
  obtain ⟨drove, driving, same⟩ := bind_eq_ok.mp computed
  cases same
  exact ⟨drove, driveOn_course driving, rfl⟩

theorem OnRoute.underway (onRoute : follower.OnRoute route state) (point : Point α) :
    follower.OnRoute route (follower.underway point state) ∧
      (follower.underway point state).leg = state.leg := by
  obtain ⟨travel, turnPath, followPath, same⟩ := follower.underway_state point state
  rw [same]
  exact ⟨onRoute.congr rfl rfl rfl rfl rfl, rfl⟩

/-- A call stays on the route, and comes by moves to the state it ends in. -/
theorem OnRoute.computePath (onRoute : follower.OnRoute route state) {driven : Driven α}
    (computed : follower.computeAt input state = .ok driven) :
    follower.OnRoute route driven.state ∧
      ∃ last, Relation.ReflTransGen
          (follower.MovesOn route input.point input.headingDeg input.sensors)
          (follower.underway input.point state) last ∧
        driven.state.leg = last.leg ∧ (driven.state.phase = .turning ↔ last.phase = .turning) := by
  obtain ⟨drove, course, rfl⟩ := computeAt_course onRoute.routed computed
  obtain ⟨underway, _⟩ := onRoute.underway input.point
  obtain ⟨drivenOn, last, path, ends⟩ := course.path underway
  obtain ⟨segOkNow, exitHoldFrom, same⟩ := follower.finish_state input.point drove
  rw [same]
  exact ⟨drivenOn.congr rfl rfl rfl rfl rfl, last, path, ends⟩

/-- A call stays on the route, and on its leg or behind it. -/
theorem OnRoute.computeAt (onRoute : follower.OnRoute route state) {driven : Driven α}
    (computed : follower.computeAt input state = .ok driven) :
    follower.OnRoute route driven.state ∧ state.leg ≤ driven.state.leg := by
  obtain ⟨drivenOn, last, path, leg, _⟩ := onRoute.computePath computed
  obtain ⟨_, sameLeg⟩ := onRoute.underway input.point
  exact ⟨drivenOn, leg ▸ sameLeg ▸ le_of_path path⟩

/-- A call on a route whose turns resolve returns. -/
theorem OnRoute.returns (onRoute : follower.OnRoute route state)
    (resolves : ∀ turn ∈ route.turns, ∃ spec, follower.table.resolve turn = .ok spec)
    (input : FollowerInput α) : follower.Returns (follower.computeAt input state) := by
  obtain ⟨underway, _⟩ := onRoute.underway input.point
  have drives : follower.Returns (follower.driveOn route input.point input.headingDeg input.sensors
      (follower.underway input.point state)) := by
    unfold driveOn
    dsimp only
    split
    next turning =>
      exact driveTurn_returns (fun next onRoute straight _ => driveLeg_returns resolves _ onRoute
        straight (Nat.le_add_left _ _)) underway turning
    next straight => exact driveLeg_returns resolves _ underway straight (Nat.le_add_left _ _)
  unfold LaneFollower.computeAt compute
  rw [onRoute.routed]
  rcases drives with ⟨drove, driving⟩ | ⟨raised, zero⟩
  · exact .inl ⟨_, bind_eq_ok.mpr ⟨drove, driving, rfl⟩⟩
  · refine .inr ⟨?_, zero⟩
    change (follower.driveOn _ _ _ _ _ >>= _) = _
    rw [raised]
    rfl

end Compute

/-- The car stays on the route it was set on. -/
theorem Ride.onRoute {route : LaneRoute α} {calls : List (FollowerInput α × Driven α)}
    {state : FollowerState α} (ride : follower.Ride (.reset (some route)) calls state) :
    follower.OnRoute route state :=
  ride.invariant (OnRoute.reset follower route) fun _ _ _ holds computed =>
    (holds.computeAt computed).1

end LaneFollower

/-! ### A corner -/

def eastLeg : LaneLeg ℚ := ⟨"east", some 11, ⟨(1, 2), [(2, 2)]⟩, .finite (22 / 100), 1⟩

def southLeg : LaneLeg ℚ :=
  ⟨"south", some 22, ⟨(9 / 4, 7 / 4), [(9 / 4, 1)]⟩, .finite (22 / 100), 3 / 4⟩

def cornerTurn : Turn ℚ :=
  ⟨"east_south", .right, some 11, some 22, "south", some (.finite (1 / 4)), 4 / 10, (2, 2),
    (9 / 4, 7 / 4)⟩

/-- To the east, a right turn, and to the south. -/
def cornerRoute : LaneRoute ℚ := ⟨[eastLeg, southLeg], [cornerTurn], 215 / 100, rfl⟩

def cornerSpec : ResolvedTurn ℚ :=
  returned (ringFollower.table.resolve cornerTurn) (by decide +kernel)

theorem cornerTurn_resolves : ringFollower.table.resolve cornerTurn = .ok cornerSpec :=
  ok_returned _

theorem cornerRoute_resolves :
    ∀ turn ∈ cornerRoute.turns, ∃ spec, ringFollower.table.resolve turn = .ok spec := by
  intro turn behind
  rw [cornerRoute, List.mem_singleton] at behind
  subst behind
  exact ⟨cornerSpec, cornerTurn_resolves⟩

namespace LaneFollower

/-- At the end of the leg to the east, with nothing seen. -/
def cornerInput : FollowerInput ℚ := ⟨(2, 2), 0, (darkInput 0).sensors⟩

/-- What comes of a call at the end of the leg. -/
def cornerDriven : Driven ℚ :=
  returned (ringFollower.computeAt cornerInput (.reset (some cornerRoute))) (by decide +kernel)

theorem corner_ride :
    ringFollower.Ride (.reset (some cornerRoute)) [(cornerInput, cornerDriven)]
      cornerDriven.state :=
  .call .start cornerInput (ok_returned _)

theorem corner_turning : cornerDriven.state.phase = .turning := by
  decide +kernel

/-- Behind every call the leg is one of the route, and no turn is prepared or made on the last one.
Every call returns, unless it divides by a full lock error of zero. It comes to its leg by moves from
its own state, each of which passes over a connector that is no turn, begins a turn, or finishes it
for the next leg, or for the one behind the next exactly where two turns are made in one; and it
leaves a turn for a later leg only. -/
theorem ride_on_route (follower : LaneFollower α) (route : LaneRoute α)
    (resolves : ∀ turn ∈ route.turns, ∃ spec, follower.table.resolve turn = .ok spec)
    {calls : List (FollowerInput α × Driven α)} {state : FollowerState α}
    (ride : follower.Ride (.reset (some route)) calls state) :
    state.leg < route.legs.length ∧
    (state.phase ≠ .follow → state.leg + 1 < route.legs.length) ∧
    ∀ input, follower.Returns (follower.computeAt input state) ∧
      ∀ driven, follower.computeAt input state = .ok driven → state.leg ≤ driven.state.leg ∧
        (state.phase = .turning → driven.state.phase = .turning ∧ driven.state.leg = state.leg ∨
          state.leg < driven.state.leg) ∧
        ∃ last, Relation.ReflTransGen
            (follower.MovesOn route input.point input.headingDeg input.sensors)
            (follower.underway input.point state) last ∧
          driven.state.leg = last.leg ∧
          (driven.state.phase = .turning ↔ last.phase = .turning) := by
  have onRoute := ride.onRoute
  refine ⟨onRoute.inside, onRoute.behind, fun input => ⟨onRoute.returns resolves input, ?_⟩⟩
  intro driven computed
  obtain ⟨_, last, path, leg, phase⟩ := onRoute.computePath computed
  refine ⟨(onRoute.computeAt computed).2, fun turning => ?_, last, path, leg, phase⟩
  obtain ⟨_, _, _, same⟩ := follower.underway_state input.point state
  have turns : (follower.underway input.point state).phase = .turning := by
    rw [same]
    exact turning
  have sameLeg := (onRoute.underway input.point).2
  rcases lt_of_path turns path with rfl | further
  · exact .inl ⟨phase.mpr turns, leg.trans sameLeg⟩
  · exact .inr (leg ▸ sameLeg ▸ further)

theorem ride_on_route_corner : cornerDriven.state.leg + 1 < cornerRoute.legs.length :=
  (ride_on_route ringFollower cornerRoute cornerRoute_resolves corner_ride).2.1
    (corner_turning ▸ TurnPhase.noConfusion)

end LaneFollower

end RcTaxi
