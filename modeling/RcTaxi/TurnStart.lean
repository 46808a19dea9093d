/-
This file asks whether the car may drive past a turn. A turn is armed near the end of the leg and
started by a road mark, or at the lane end where none was seen; a gate behind a straight connector
holds the arming back, and a mark starts a distance the car has to travel first.

A call that leaves the car on a leg in front of a turn comes out of the branch of `_drive_leg` that
stays on the leg, so what it asked of the turn is known of the state it leaves. The travel behind a
fired trigger is compared with the offset of the table, which may be `nan` in the file: no travel
reaches such an offset, and none is below it.
-/

import RcTaxi.FollowerCourse

namespace RcTaxi

variable {α : Type} [Scalar α]

/-! ### Comparing -/

/-- What is at most two bounds is at most the smaller one. -/
theorem PyFloat.le_pyMin {value first second : PyFloat α} (below : value.le first = true)
    (below' : value.le second = true) : value.le (first.pyMin second) = true := by
  unfold pyMin
  split
  · exact below'
  · exact below

namespace LaneFollower

variable {follower : LaneFollower α} {route : LaneRoute α} {point : Point α} {headingDeg : α}
  {sensors : Sensors α}

/-! ### The trigger of a turn -/

/-- No road mark starts a turn: there is no adapter, or none of its observations is valid. -/
def Blind (follower : LaneFollower α) (sensors : Sensors α) : Prop :=
  follower.marks = false ∨ ∀ leg, (sensors.marks leg).valid = false

/-- The travel behind the trigger is never negative. -/
structure Triggers (blind : Prop) (state : FollowerState α) : Prop where
  travel : 0 ≤ state.firedTravelM
  unfired : blind → state.firedAt = none

theorem Triggers.advanced {blind : Prop} {state : FollowerState α} (fresh : state.firedAt = none)
    (zero : state.firedTravelM = 0) : Triggers blind state :=
  ⟨zero.ge, fun _ => fresh⟩

theorem firedTravel_nonneg (now : α) {state : FollowerState α} (travel : 0 ≤ state.firedTravelM) :
    0 ≤ firedTravel now state := by
  have speed : (0 : α) ≤ offsetSpeedMps := by
    unfold offsetSpeedMps
    positivity
  unfold firedTravel
  split
  · exact travel
  · split
    next last known within => exact add_nonneg travel (mul_nonneg within.1.le speed)
    · exact travel

/-- Looking at the road marks fires the trigger unless nothing is seen. -/
theorem Triggers.fire {blind : Prop} {state : FollowerState α} (triggers : Triggers blind state)
    (spec : ResolvedTurn α) (point : Point α) (now : α) {obs : MarkObservation α}
    (unseen : blind → obs.valid = false) : Triggers blind (fire spec point now obs state) := by
  unfold LaneFollower.fire
  split
  next seen =>
    refine ⟨le_rfl, fun isBlind => ?_⟩
    rw [MarkObservation.triggered, unseen isBlind, Bool.and_false, Bool.false_and, Bool.false_and,
      Bool.and_false] at seen
    cases seen
  · exact triggers

theorem Triggers.shouldStartTurn {blind : Prop} {state : FollowerState α}
    (triggers : Triggers blind state) (spec : ResolvedTurn α) (ahead : α) (point : Point α) (now : α)
    {obs : MarkObservation α} (unseen : blind → follower.marks = false ∨ obs.valid = false) :
    Triggers blind (follower.shouldStartTurn spec ahead point now obs state).2 := by
  unfold LaneFollower.shouldStartTurn
  dsimp only
  split
  next looks =>
    have fired : Triggers blind (LaneFollower.fire spec point now obs state) := by
      refine triggers.fire spec point now fun isBlind => (unseen isBlind).resolve_left ?_
      rw [(Bool.and_eq_true_iff.mp looks).2]
      exact Bool.true_eq_false_eq_False
    split
    · exact ⟨firedTravel_nonneg now fired.travel, fired.unfired⟩
    · exact fired
  · exact triggers

/-! ### In front of a turn -/

/-- The car is within the distances at which a turn is armed and started at the lane end. -/
structure NearEnd (leg : LaneLeg α) (spec : ResolvedTurn α) (ahead : α) : Prop where
  lead : (PyFloat.finite ahead).le spec.fallbackLeadM = true
  window : (PyFloat.finite ahead).le spec.armDistanceM = true
  length : ahead ≤ leg.lengthM

/-- The turn is on, or its trigger has fired and the travel is still below its offset; it never
reaches an offset of `nan`. -/
def UnderWay (spec : ResolvedTurn α) (state : FollowerState α) : Prop :=
  state.phase = .turning ∨ state.firedAt.isSome = true ∧
    (spec.startOffsetM = .nan ∨
      (PyFloat.finite state.firedTravelM).lt spec.startOffsetM = true)

/-- Near the end of the leg a turn that no gate holds back is armed. -/
theorem NearEnd.armed {leg : LaneLeg α} {spec : ResolvedTurn α} {ahead : α}
    (near : NearEnd leg spec ahead) {state : FollowerState α} (ungated : state.straightGate = none)
    (straight : state.phase ≠ .turning) : (arm leg spec ahead state).phase = .armed := by
  have due : (PyFloat.finite ahead).le (armDistance leg spec state.straightGate) = true := by
    rw [ungated]
    exact PyFloat.le_pyMin near.window (decide_eq_true near.length)
  unfold LaneFollower.arm
  rw [due, Bool.and_true]
  split
  · rfl
  next unarmed =>
    rw [decide_eq_true_eq] at unarmed
    cases phase : state.phase with
    | follow => exact absurd phase unarmed
    | armed => rfl
    | turning => exact absurd phase straight

/-- A turn that may start at the lane end and does not start near it waits for its offset. -/
theorem NearEnd.waits {leg : LaneLeg α} {spec : ResolvedTurn α} {ahead : α}
    (near : NearEnd leg spec ahead) (fallback : spec.fallbackAtLaneEnd = true) (point : Point α)
    (now : α) (obs : MarkObservation α) (state : FollowerState α)
    (notYet : (follower.shouldStartTurn spec ahead point now obs state).1 = false) :
    UnderWay spec (follower.shouldStartTurn spec ahead point now obs state).2 := by
  unfold shouldStartTurn at notYet ⊢
  rw [fallback, near.lead] at notYet
  dsimp only at notYet ⊢
  split at notYet
  next looks =>
    rw [if_pos looks]
    split at notYet
    next fired =>
      rw [if_pos fired]
      exact .inr ⟨fired, PyFloat.lt_of_not_le notYet⟩
    · cases notYet
  · cases notYet

/-- Staying on the leg near its end leaves the turn waiting for its offset. -/
theorem stay_underWay {leg : LaneLeg α} {turn : Turn α} {spec : ResolvedTurn α}
    {state next : FollowerState α} (isTurn : spec.isTurn = true)
    (fallback : spec.fallbackAtLaneEnd = true) (straight : state.phase ≠ .turning)
    (near : NearEnd leg spec (leg.exitAhead point))
    (stays : follower.onward leg turn point sensors spec state = .stay next)
    (ungated : next.straightGate = none) : UnderWay spec next := by
  have ways := follower.onward_onward leg turn point sensors spec state
  rw [stays] at ways
  cases ways with
  | far _ unarmed =>
    have open' : state.straightGate = none := by
      rcases arm_state leg spec (leg.exitAhead point) state with ⟨arms, _⟩ | arms
      · rw [arms] at ungated
        exact ungated
      · rwa [arms] at ungated
    exact absurd (near.armed open' straight) unarmed
  | waits _ armed notYet => exact near.waits fallback point _ _ _ notYet
  | drives level _ =>
    rw [isTurn] at level
    cases level

/-- A call that leaves the car near the end of a leg, in front of a turn that no gate holds back,
leaves it in the turn or behind a fired trigger. -/
theorem Course.underWay {state : FollowerState α} {driven : Driven α}
    (course : follower.Course route point headingDeg sensors state driven)
    (onRoute : follower.OnRoute route state) {leg : LaneLeg α} {turn : Turn α}
    {spec : ResolvedTurn α} (onLeg : route.legs[driven.state.leg]? = some leg)
    (behind : route.turns[driven.state.leg]? = some turn)
    (resolved : follower.table.resolve turn = .ok spec) (isTurn : spec.isTurn = true)
    (fallback : spec.fallbackAtLaneEnd = true) (ungated : driven.state.straightGate = none)
    (near : NearEnd leg spec (leg.exitAhead point)) : UnderWay spec driven.state := by
  induction course with
  | stops sight stopped =>
    obtain ⟨_, leg, _⟩ := sight.onRoute onRoute
    rw [leg, (sight.last stopped).2] at behind
    cases behind
  | ends sight goes last steered =>
    obtain ⟨_, sameLeg, _⟩ := sight.onRoute onRoute
    obtain ⟨_, _, _, _, _, _, _, rfl⟩ := steer_ok steered
    rw [← sameLeg] at last
    exact absurd (last.symm.trans behind) (Option.some_ne_none _).symm
  | @stays _ next _ view _ _ _ sight goes behind' resolved' onward steered =>
    obtain ⟨_, sameLeg⟩ := sight.stayed onRoute behind' resolved' onward
    obtain ⟨resolves, _, _⟩ := sight.specify onRoute behind' resolved'
    obtain ⟨_, _, _, _, _, _, _, rfl⟩ := steer_ok steered
    change route.legs[next.leg]? = some leg at onLeg
    change route.turns[next.leg]? = some turn at behind
    change next.straightGate = none at ungated
    rw [sameLeg, sight.onLeg, Option.some.injEq] at onLeg
    rw [sameLeg, behind', Option.some.injEq] at behind
    subst onLeg behind
    rw [resolved, Except.ok.injEq] at resolves
    subst resolves
    have under : UnderWay spec next :=
      stay_underWay isTurn fallback (by exact sight.viewStraight) near onward ungated
    exact under
  | passes sight goes behind' resolved' onward rest inductionHypothesis =>
    exact inductionHypothesis (sight.passed onRoute behind' resolved' onward).1 onLeg behind ungated
  | turns sight goes behind' resolved' onward begins rest inductionHypothesis =>
    exact inductionHypothesis (sight.turned onRoute behind' resolved' onward begins).1 onLeg behind
      ungated
  | keeps bend on => exact .inl bend.turning
  | finishes bend ended rest inductionHypothesis =>
    exact inductionHypothesis (bend.finish onRoute) onLeg behind ungated

/-! ### The trigger along a run -/

theorem Triggers.armed {blind : Prop} {state : FollowerState α} (triggers : Triggers blind state)
    (leg : LaneLeg α) (spec : ResolvedTurn α) (ahead : α) :
    Triggers blind (arm leg spec ahead state) := by
  rcases arm_state leg spec ahead state with ⟨arms, _⟩ | arms
  · rw [arms]
    exact ⟨triggers.travel, triggers.unfired⟩
  · rwa [arms]

theorem Triggers.starting {blind : Prop} {state : FollowerState α} (triggers : Triggers blind state)
    (unseen : blind → follower.Blind sensors) (leg : LaneLeg α) (spec : ResolvedTurn α)
    (point : Point α) :
    Triggers blind (follower.starting leg spec point sensors state).2 :=
  (triggers.armed leg spec (leg.exitAhead point)).shouldStartTurn spec _ point _ fun isBlind =>
    (unseen isBlind).imp id fun dark => dark state.leg

theorem Triggers.view {blind : Prop} {state : FollowerState α} (triggers : Triggers blind state)
    {leg : LaneLeg α} {view : Outlook α} (sight : follower.Sight route point state leg view) :
    Triggers blind view.state := by
  obtain ⟨_, _, _, same⟩ := sight.isFrom.state
  rw [same]
  exact ⟨triggers.travel, triggers.unfired⟩

/-- Along a course the trigger of a turn is fired by what is seen. -/
theorem Course.triggers {blind : Prop} (unseen : blind → follower.Blind sensors)
    {state : FollowerState α} {driven : Driven α}
    (course : follower.Course route point headingDeg sensors state driven)
    (triggers : Triggers blind state) : Triggers blind driven.state := by
  induction course with
  | stops sight stopped => exact triggers.view sight
  | ends sight goes last steered =>
    obtain ⟨_, _, _, _, _, _, _, rfl⟩ := steer_ok steered
    exact ⟨(triggers.view sight).travel, (triggers.view sight).unfired⟩
  | @stays _ next leg view turn spec _ sight goes behind resolved onward steered =>
    obtain ⟨_, _, _, _, _, _, _, rfl⟩ := steer_ok steered
    have specified : Triggers blind { view.state with spec := some spec } :=
      ⟨(triggers.view sight).travel, (triggers.view sight).unfired⟩
    have ways := follower.onward_onward leg turn point sensors spec
      { view.state with spec := some spec }
    rw [onward] at ways
    have stayed : Triggers blind next := by
      cases ways with
      | far => exact specified.armed leg spec _
      | waits => exact specified.starting unseen leg spec point
      | drives => exact specified
    exact ⟨stayed.travel, stayed.unfired⟩
  | passes sight goes behind resolved onward rest inductionHypothesis =>
    obtain ⟨_, _, rfl⟩ := onward_eq_pass onward
    refine inductionHypothesis ?_
    unfold passStraight
    split
    · exact .advanced rfl rfl
    · exact .advanced rfl rfl
  | @turns _ _ _ leg view _ _ spec _ sight goes behind resolved onward begins rest
      inductionHypothesis =>
    obtain ⟨rfl, _, _, _, rfl⟩ := onward_eq_turn onward
    obtain ⟨span, _, rfl⟩ := beginTurn_ok begins
    have specified : Triggers blind { view.state with spec := some spec } :=
      ⟨(triggers.view sight).travel, (triggers.view sight).unfired⟩
    have started := specified.starting unseen leg spec point
    exact inductionHypothesis ⟨started.travel, started.unfired⟩
  | keeps bend on => exact ⟨triggers.travel, triggers.unfired⟩
  | finishes bend ended rest inductionHypothesis =>
    refine inductionHypothesis ?_
    rw [iterate_advanceLeg]
    exact .advanced rfl rfl

theorem computeAt_triggers {blind : Prop} {input : FollowerInput α}
    (unseen : blind → follower.Blind input.sensors) {state : FollowerState α} {driven : Driven α}
    (routed : state.route = some route) (triggers : Triggers blind state)
    (computed : follower.computeAt input state = .ok driven) : Triggers blind driven.state := by
  obtain ⟨drove, course, rfl⟩ := computeAt_course routed computed
  obtain ⟨_, _, _, underway⟩ := follower.underway_state input.point state
  have driven : Triggers blind drove.state := by
    refine course.triggers unseen ?_
    rw [underway]
    exact ⟨triggers.travel, triggers.unfired⟩
  obtain ⟨_, _, finished⟩ := follower.finish_state input.point drove
  rw [finished]
  exact ⟨driven.travel, driven.unfired⟩

/-- Along a run the trigger of a turn is fired by what is seen. -/
theorem Ride.triggers {calls : List (FollowerInput α × Driven α)} {state : FollowerState α}
    (ride : follower.Ride (.reset (some route)) calls state) :
    Triggers (∀ call ∈ calls, follower.Blind call.1.sensors) state := by
  induction ride with
  | start => exact .advanced rfl rfl
  | call ridden input computed triggers =>
    refine computeAt_triggers (fun blind => blind _ (List.mem_concat_self ..)) ridden.onRoute.routed
      ?_ computed
    exact ⟨triggers.travel, fun blind =>
      triggers.unfired fun call member => blind call (List.mem_append_left _ member)⟩

/-! ### No turn is missed -/

/-- The turns of the route may start at the lane end. -/
def FallsBack (follower : LaneFollower α) (route : LaneRoute α) : Prop :=
  ∀ turn ∈ route.turns, ∀ spec, follower.table.resolve turn = .ok spec → spec.isTurn = true →
    spec.fallbackAtLaneEnd = true

/-- A call that leaves the car in front of a turn that no gate holds back, within the distances of
the fallback, of the arming and of the leg, leaves it in the turn, or behind a fired trigger whose
travel is still below the offset or whose offset is `nan`. While nothing is seen, and with an offset
of zero, it is in the turn. -/
theorem no_turn_missed (follower : LaneFollower α) (route : LaneRoute α)
    (fallsBack : follower.FallsBack route) {calls : List (FollowerInput α × Driven α)}
    {input : FollowerInput α} {driven : Driven α}
    (ride : follower.Ride (.reset (some route)) (calls ++ [(input, driven)]) driven.state)
    {leg : LaneLeg α} {turn : Turn α} {spec : ResolvedTurn α}
    (onLeg : route.legs[driven.state.leg]? = some leg)
    (behind : route.turns[driven.state.leg]? = some turn)
    (resolved : follower.table.resolve turn = .ok spec) (isTurn : spec.isTurn = true)
    (ungated : driven.state.straightGate = none)
    (near : NearEnd leg spec (leg.exitAhead input.point)) :
    UnderWay spec driven.state ∧
    ((∀ call ∈ calls ++ [(input, driven)], follower.Blind call.1.sensors) →
      driven.state.phase = .turning) ∧
    (spec.startOffsetM = .finite 0 → driven.state.phase = .turning) := by
  obtain ⟨state, ridden, computed, _⟩ := ride.last
  have triggers := ride.triggers
  obtain ⟨underway, _⟩ := ridden.onRoute.underway input.point
  obtain ⟨drove, course, rfl⟩ := computeAt_course ridden.onRoute.routed computed
  obtain ⟨_, _, finished⟩ := follower.finish_state input.point drove
  have fallback := fallsBack turn (List.mem_of_getElem? behind) spec resolved isTurn
  rw [finished] at onLeg behind ungated triggers ⊢
  have under : UnderWay spec drove.state :=
    course.underWay underway onLeg behind resolved isTurn fallback ungated near
  refine ⟨under, fun blind => ?_, fun zero => ?_⟩
  · rcases under with turning | ⟨fired, _⟩
    · exact turning
    · rw [triggers.unfired blind] at fired
      cases fired
  · rcases under with turning | ⟨_, nan | below⟩
    · exact turning
    · rw [zero] at nan
      cases nan
    · rw [zero] at below
      exact absurd (of_decide_eq_true below) (not_lt.mpr triggers.travel)

theorem cornerRoute_fallsBack : ringFollower.FallsBack cornerRoute := by
  intro turn behind spec resolved _
  rw [cornerRoute, List.mem_singleton] at behind
  subst behind
  rw [cornerTurn_resolves, Except.ok.injEq] at resolved
  subst resolved
  decide +kernel

theorem corner_near : NearEnd eastLeg cornerSpec (eastLeg.exitAhead cornerInput.point) :=
  ⟨by decide +kernel, by decide +kernel, by decide +kernel⟩

theorem no_turn_missed_corner : UnderWay cornerSpec cornerDriven.state := by
  have leg : cornerDriven.state.leg = 0 := by decide +kernel
  have ride : ringFollower.Ride (.reset (some cornerRoute)) ([] ++ [(cornerInput, cornerDriven)])
    cornerDriven.state := corner_ride
  exact (no_turn_missed ringFollower cornerRoute cornerRoute_fallsBack ride
    (leg ▸ rfl) (leg ▸ rfl) cornerTurn_resolves (by decide +kernel) (by decide +kernel)
    corner_near).1

/-! ### An offset that no travel reaches -/

/-- A turn table whose turns are started by a stop line, a distance behind it that is `nan`. -/
def nanTable : TurnTable ℚ :=
  returned (TurnTable.new (.dict [("turn_table", .dict [
    ("defaults", .dict [("start_offset_m", .float .nan),
      ("trigger", .dict [("class", .str "stop_line")])]),
    ("turns", .dict [])])]) (14 / 100) 30) (by decide +kernel)

def nanFollower : LaneFollower ℚ := { ringFollower with table := nanTable }

/-- At the end of the leg to the east, on a stop line. -/
def lineInput : FollowerInput ℚ :=
  ⟨(2, 2), 0, ⟨fun _ => 0, fun _ => ⟨true, [⟨"stop_line", .finite 1, 1, 0⟩], .finite 1, .finite 1,
    .finite 0⟩, ⟨false, 0, 0⟩⟩⟩

def lineDriven : Driven ℚ :=
  returned (nanFollower.computeAt lineInput (.reset (some cornerRoute))) (by decide +kernel)

def nanSpec : ResolvedTurn ℚ :=
  returned (nanTable.resolve cornerTurn) (by decide +kernel)

/-- Behind a stop line the turn waits for an offset of `nan`: the car is at the end of the leg, not
in the turn, and the travel is not below the offset. -/
theorem nan_offset_is_not_reached :
    nanFollower.FallsBack cornerRoute ∧
    nanFollower.Ride (.reset (some cornerRoute)) [(lineInput, lineDriven)] lineDriven.state ∧
    lineDriven.state.leg = 0 ∧ nanFollower.table.resolve cornerTurn = .ok nanSpec ∧
    nanSpec.isTurn = true ∧ lineDriven.state.straightGate = none ∧
    NearEnd eastLeg nanSpec (eastLeg.exitAhead lineInput.point) ∧
    ¬ (lineDriven.state.phase = .turning ∨ lineDriven.state.firedAt.isSome = true ∧
      (PyFloat.finite lineDriven.state.firedTravelM).lt nanSpec.startOffsetM = true) := by
  have resolves : nanFollower.table.resolve cornerTurn = .ok nanSpec := ok_returned _
  refine ⟨?_, .call .start lineInput (ok_returned _), by decide +kernel, resolves,
    by decide +kernel, by decide +kernel, ⟨by decide +kernel, by decide +kernel, by decide +kernel⟩,
    by decide +kernel⟩
  intro turn behind spec resolved _
  rw [cornerRoute, List.mem_singleton] at behind
  subst behind
  rw [resolves, Except.ok.injEq] at resolved
  subst resolved
  decide +kernel

end LaneFollower

end RcTaxi
