/-
This file shows that the observations of the lane center reach the wheel angle and nothing else.
Two followers that differ in the lane center alone, or in having an adapter for it, go through the
same legs and phases, ask for the same throttle, and stop at the same tick; while the car turns
they ask for the same wheel angle too.

The lane center enters through the heading that is pursued and leaves a trace in three fields of
the follower: the last wheel angle of the slew limit and the two flags of the heading. Two states
are on the same course if they agree outside these fields, and every phase of a tick keeps this.
-/

import RcTaxi.DrivingWorker

namespace RcTaxi

variable {α : Type} [Scalar α]

/-! ### The same course -/

/-- Other values in the fields that the lane center may change. -/
def FollowerState.steered {α : Type} (state : FollowerState α) (lastWheel : Option α)
    (segHeadingOn headingGuardOn : Bool) : FollowerState α :=
  { state with
    lastWheel := lastWheel, segHeadingOn := segHeadingOn, headingGuardOn := headingGuardOn }

/-- The states agree outside the fields that the lane center may change. -/
def SameCourse {α : Type} (first second : FollowerState α) : Prop :=
  ∃ lastWheel segHeadingOn headingGuardOn,
    second = first.steered lastWheel segHeadingOn headingGuardOn

/-- The outcomes are those of states on the same course: the same remaining distance and throttle,
a stop in both or in none, and in a turn the same wheel angle, which no correction may change. -/
structure DrivenAlike {α : Type} (first second : Driven α) : Prop where
  course : SameCourse first.state second.state
  remaining : second.remaining = first.remaining
  throttle : second.command.map ControlCommand.throttle = first.command.map ControlCommand.throttle
  turning : first.state.phase = .turning →
    second.command = first.command ∧ first.state.segOkNow = false

section Steered

variable {α : Type} (state : FollowerState α) (lastWheel : Option α)
  (segHeadingOn headingGuardOn : Bool)

@[simp] theorem FollowerState.steered_phase :
    (state.steered lastWheel segHeadingOn headingGuardOn).phase = state.phase := rfl

@[simp] theorem FollowerState.steered_leg :
    (state.steered lastWheel segHeadingOn headingGuardOn).leg = state.leg := rfl

@[simp] theorem FollowerState.steered_spec :
    (state.steered lastWheel segHeadingOn headingGuardOn).spec = state.spec := rfl

@[simp] theorem FollowerState.steered_route :
    (state.steered lastWheel segHeadingOn headingGuardOn).route = state.route := rfl

@[simp] theorem FollowerState.steered_lastPos :
    (state.steered lastWheel segHeadingOn headingGuardOn).lastPos = state.lastPos := rfl

@[simp] theorem FollowerState.steered_exitHoldFrom :
    (state.steered lastWheel segHeadingOn headingGuardOn).exitHoldFrom = state.exitHoldFrom := rfl

@[simp] theorem FollowerState.steered_origin :
    (state.steered lastWheel segHeadingOn headingGuardOn).origin = state.origin := rfl

@[simp] theorem FollowerState.steered_straightGate :
    (state.steered lastWheel segHeadingOn headingGuardOn).straightGate = state.straightGate := rfl

@[simp] theorem FollowerState.steered_straightFrom :
    (state.steered lastWheel segHeadingOn headingGuardOn).straightFrom = state.straightFrom := rfl

end Steered

section SameCourse

variable {α : Type} {first second : FollowerState α} (course : SameCourse first second)

include course

theorem SameCourse.route : second.route = first.route := by
  obtain ⟨lastWheel, segHeadingOn, headingGuardOn, rfl⟩ := course
  rfl

theorem SameCourse.leg : second.leg = first.leg := by
  obtain ⟨lastWheel, segHeadingOn, headingGuardOn, rfl⟩ := course
  rfl

theorem SameCourse.phase : second.phase = first.phase := by
  obtain ⟨lastWheel, segHeadingOn, headingGuardOn, rfl⟩ := course
  rfl

theorem SameCourse.segOkNow : second.segOkNow = first.segOkNow := by
  obtain ⟨lastWheel, segHeadingOn, headingGuardOn, rfl⟩ := course
  rfl

end SameCourse

omit [Scalar α] in
theorem SameCourse.refl (state : FollowerState α) : SameCourse state state := ⟨_, _, _, rfl⟩

/-- The follower with or without an adapter for the lane center. -/
def LaneFollower.withSeg (follower : LaneFollower α) (seg : Bool) : LaneFollower α :=
  { follower with seg := seg }

/-- The sensors with another observation of the lane center. -/
def Sensors.withSeg {α : Type} (sensors : Sensors α) (obs : SegObservation α) : Sensors α :=
  { sensors with seg := obs }

namespace LaneFollower

variable (follower : LaneFollower α) (seg : Bool)

/-! ### The phases of a tick -/

variable {follower}

/-- Choosing the heading changes its two flags. -/
theorem pursueHeading_state {leg : LaneLeg α} {headingDeg : α} {obs : SegObservation α}
    {state : FollowerState α} {result : α × FollowerState α}
    (chosen : follower.pursueHeading leg headingDeg obs state = result) :
    ∃ segHeadingOn headingGuardOn,
      result.2 = state.steered state.lastWheel segHeadingOn headingGuardOn := by
  subst chosen
  unfold pursueHeading
  split
  · exact ⟨_, _, rfl⟩
  · exact ⟨_, _, rfl⟩

/-- Limiting the wheel angle changes the last one. -/
theorem rateLimit_state {wheel : α} {state : FollowerState α} {result : α × FollowerState α}
    (limited : follower.rateLimit wheel state = result) : ∃ lastWheel,
      result.2 = state.steered lastWheel state.segHeadingOn state.headingGuardOn := by
  subst limited
  unfold rateLimit
  split
  · exact ⟨_, rfl⟩
  · exact ⟨_, rfl⟩

variable (follower)

/-- Whether a pursuit raises does not depend on the heading. -/
theorem pursue_alike (target point : Point α) (headingDeg headingDeg' : α) :
    Alike (fun _ _ => True) (follower.pursue target point headingDeg)
      (follower.pursue target point headingDeg') := by
  unfold pursue divide
  split
  · exact rfl
  · exact trivial

theorem steer_alike (leg : LaneLeg α) (target point : Point α) (headingDeg remaining : α)
    (isFinal : Bool) (obs obs' : SegObservation α) {first second : FollowerState α}
    (course : SameCourse first second) (notTurning : first.phase ≠ .turning) :
    Alike DrivenAlike
      (follower.steer leg target point headingDeg remaining isFinal obs first)
      ((follower.withSeg seg).steer leg target point headingDeg remaining isFinal obs' second) := by
  obtain ⟨lastWheel, segHeadingOn, headingGuardOn, rfl⟩ := course
  unfold steer
  generalize chosen : follower.pursueHeading leg headingDeg obs first = result
  generalize chosen' : (follower.withSeg seg).pursueHeading leg headingDeg obs' _ = result'
  obtain ⟨on, guarded, headed⟩ := pursueHeading_state chosen
  obtain ⟨on', guarded', headed'⟩ := pursueHeading_state chosen'
  obtain ⟨heading, state⟩ := result
  obtain ⟨heading', state'⟩ := result'
  dsimp only at headed headed' ⊢
  subst headed headed'
  refine (follower.pursue_alike target point heading heading').bind fun wheel wheel' _ => ?_
  generalize limited : follower.rateLimit _ _ = result
  generalize limited' : (follower.withSeg seg).rateLimit _ _ = result'
  obtain ⟨last, stated⟩ := rateLimit_state limited
  obtain ⟨last', stated'⟩ := rateLimit_state limited'
  obtain ⟨angle, state⟩ := result
  obtain ⟨angle', state'⟩ := result'
  dsimp only at stated stated'
  subst stated stated'
  exact ⟨⟨last', on', guarded', rfl⟩, rfl, rfl, fun turning => absurd turning notTurning⟩

section Commutes

variable (state : FollowerState α) (lastWheel : Option α) (segHeadingOn headingGuardOn : Bool)

theorem straightGateTarget_steered (point : Point α) :
    follower.straightGateTarget point (state.steered lastWheel segHeadingOn headingGuardOn) =
      ((follower.straightGateTarget point state).1,
        (follower.straightGateTarget point state).2.steered lastWheel segHeadingOn
          headingGuardOn) := by
  unfold straightGateTarget
  rw [FollowerState.steered_straightGate]
  cases state.straightGate with
  | none => rfl
  | some gate =>
    dsimp only
    rw [FollowerState.steered_straightFrom]
    split
    · rfl
    · rfl

omit follower in
theorem fire_steered (spec : ResolvedTurn α) (point : Point α) (now : α) (obs : MarkObservation α) :
    fire spec point now obs (state.steered lastWheel segHeadingOn headingGuardOn) =
      (fire spec point now obs state).steered lastWheel segHeadingOn headingGuardOn := by
  unfold fire
  rw [apply_ite fun fired : FollowerState α => fired.steered lastWheel segHeadingOn headingGuardOn]
  rfl

theorem shouldStartTurn_steered (spec : ResolvedTurn α) (ahead : α) (point : Point α) (now : α)
    (obs : MarkObservation α) :
    follower.shouldStartTurn spec ahead point now obs
        (state.steered lastWheel segHeadingOn headingGuardOn) =
      ((follower.shouldStartTurn spec ahead point now obs state).1,
        (follower.shouldStartTurn spec ahead point now obs state).2.steered lastWheel segHeadingOn
          headingGuardOn) := by
  unfold shouldStartTurn
  rw [fire_steered]
  generalize fire spec point now obs state = fired
  cases fired with
  | mk =>
    dsimp only [FollowerState.steered]
    split_ifs <;> rfl

omit follower in
theorem arm_steered (leg : LaneLeg α) (spec : ResolvedTurn α) (ahead : α) :
    arm leg spec ahead (state.steered lastWheel segHeadingOn headingGuardOn) =
      (arm leg spec ahead state).steered lastWheel segHeadingOn headingGuardOn := by
  unfold arm
  rw [apply_ite fun armed : FollowerState α => armed.steered lastWheel segHeadingOn headingGuardOn]
  rfl

end Commutes

/-- The ways on are the same, on the same course. -/
inductive JunctionAlike : Junction α → Junction α → Prop
  | stay {first second : FollowerState α} (course : SameCourse first second)
      (notTurning : first.phase ≠ .turning) : JunctionAlike (.stay first) (.stay second)
  | turn {spec : ResolvedTurn α} {first second : FollowerState α}
      (course : SameCourse first second) : JunctionAlike (.turn spec first) (.turn spec second)
  | pass {first second : FollowerState α} (course : SameCourse first second)
      (notTurning : first.phase ≠ .turning) : JunctionAlike (.pass first) (.pass second)

omit follower in
theorem arm_notTurning (leg : LaneLeg α) (spec : ResolvedTurn α) (ahead : α)
    {state : FollowerState α} (notTurning : state.phase ≠ .turning) :
    (arm leg spec ahead state).phase ≠ .turning := by
  unfold arm
  split
  · exact TurnPhase.noConfusion
  · exact notTurning

omit follower in
theorem fire_phase (spec : ResolvedTurn α) (point : Point α) (now : α) (obs : MarkObservation α)
    (state : FollowerState α) : (fire spec point now obs state).phase = state.phase := by
  unfold fire
  split
  · rfl
  · rfl

/-- Looking for the start of a turn does not start it. -/
theorem shouldStartTurn_phase (spec : ResolvedTurn α) (ahead : α) (point : Point α) (now : α)
    (obs : MarkObservation α) (state : FollowerState α) :
    (follower.shouldStartTurn spec ahead point now obs state).2.phase = state.phase := by
  have fired := fire_phase spec point now obs state
  unfold shouldStartTurn
  dsimp only
  split_ifs
  · exact fired
  · exact fired
  · rfl

theorem onward_alike (leg : LaneLeg α) (turn : Turn α) (point : Point α) (sensors : Sensors α)
    (obs : SegObservation α) (spec : ResolvedTurn α) {first second : FollowerState α}
    (course : SameCourse first second) (notTurning : first.phase ≠ .turning) :
    JunctionAlike (follower.onward leg turn point sensors spec first)
      ((follower.withSeg seg).onward leg turn point (sensors.withSeg obs) spec second) := by
  obtain ⟨lastWheel, segHeadingOn, headingGuardOn, rfl⟩ := course
  change JunctionAlike _ (follower.onward leg turn point sensors spec _)
  unfold onward
  dsimp only
  split
  · rw [arm_steered]
    have armed := arm_notTurning leg spec (leg.exitAhead point) notTurning
    generalize arm leg spec (leg.exitAhead point) first = state at armed
    simp only [shouldStartTurn_steered, FollowerState.steered_phase, FollowerState.steered_leg]
    have phase := follower.shouldStartTurn_phase spec (leg.exitAhead point) point
      (sensors.clock first.leg) (sensors.marks first.leg) state
    split_ifs
    · exact .turn ⟨_, _, _, rfl⟩
    · exact .stay ⟨_, _, _, rfl⟩ (phase ▸ armed)
    · exact .stay ⟨_, _, _, rfl⟩ armed
  · split
    · unfold passStraight
      split
      · exact .pass ⟨none, segHeadingOn, false, rfl⟩ TurnPhase.noConfusion
      · exact .pass ⟨none, segHeadingOn, false, rfl⟩ TurnPhase.noConfusion
    · exact .stay ⟨_, _, _, rfl⟩ notTurning

theorem junction_alike (leg : LaneLeg α) (turn : Turn α) (point : Point α) (sensors : Sensors α)
    (obs : SegObservation α) {first second : FollowerState α} (course : SameCourse first second)
    (notTurning : first.phase ≠ .turning) :
    Alike JunctionAlike (follower.junction leg turn point sensors first)
      ((follower.withSeg seg).junction leg turn point (sensors.withSeg obs) second) := by
  obtain ⟨lastWheel, segHeadingOn, headingGuardOn, rfl⟩ := course
  exact Alike.same (follower.specOf turn first) fun spec =>
    follower.onward_alike seg leg turn point sensors obs spec ⟨_, _, _, rfl⟩ notTurning

/-! ### Driving -/

theorem advanceLeg_course {first second : FollowerState α} (course : SameCourse first second) :
    SameCourse first.advanceLeg second.advanceLeg := by
  obtain ⟨lastWheel, segHeadingOn, headingGuardOn, rfl⟩ := course
  exact ⟨none, segHeadingOn, false, rfl⟩

theorem iterate_advanceLeg_course {first second : FollowerState α}
    (course : SameCourse first second) (span : ℕ) :
    SameCourse (FollowerState.advanceLeg^[span] first) (FollowerState.advanceLeg^[span] second) := by
  induction span generalizing first second with
  | zero => exact course
  | succ span inductionHypothesis => exact inductionHypothesis (advanceLeg_course course)

theorem iterate_advanceLeg_phase (state : FollowerState α) (span : ℕ+) :
    (FollowerState.advanceLeg^[(span : ℕ)] state).phase = .follow := by
  obtain ⟨before, positive⟩ := Nat.exists_eq_succ_of_ne_zero span.ne_zero
  rw [positive, Function.iterate_succ_apply']
  rfl

/-- A turn drives alike if what follows it does. -/
theorem driveTurn_alike (route : LaneRoute α) (point : Point α) (headingDeg : α)
    {continued continued' : FollowerState α → Except PyError (Driven α)}
    (continuation : ∀ first second, SameCourse first second → first.phase ≠ .turning →
      Alike DrivenAlike (continued first) (continued' second))
    {first second : FollowerState α} (course : SameCourse first second) :
    Alike DrivenAlike (follower.driveTurn route point headingDeg continued first)
      ((follower.withSeg seg).driveTurn route point headingDeg continued' second) := by
  obtain ⟨lastWheel, segHeadingOn, headingGuardOn, rfl⟩ := course
  unfold driveTurn
  rw [FollowerState.steered_spec]
  cases first.spec with
  | none => exact rfl
  | some spec =>
    refine Alike.same _ fun nextLeg => Alike.same _ fun lastTurn => ?_
    change Alike DrivenAlike (if (follower.outOfMap point ||
        turnOver spec nextLeg.headingDeg headingDeg first) = true then _ else _)
      (if (follower.outOfMap point ||
        turnOver spec nextLeg.headingDeg headingDeg first) = true then _ else _)
    split
    · refine continuation _ _ (iterate_advanceLeg_course ⟨_, _, _, rfl⟩ _) ?_
      rw [iterate_advanceLeg_phase]
      exact TurnPhase.noConfusion
    · exact ⟨⟨_, _, _, rfl⟩, rfl, rfl, fun _ => ⟨rfl, rfl⟩⟩

/-- Looking for the gate keeps the phase. -/
theorem straightGateTarget_phase (point : Point α) (state : FollowerState α) :
    (follower.straightGateTarget point state).2.phase = state.phase := by
  unfold straightGateTarget
  split
  · rfl
  · split
    · rfl
    · rfl

omit follower in
theorem approached_course (driven : Bool) (remaining : α) {first second : FollowerState α}
    (course : SameCourse first second) :
    SameCourse (approached driven remaining first) (approached driven remaining second) := by
  obtain ⟨lastWheel, segHeadingOn, headingGuardOn, rfl⟩ := course
  cases driven with
  | false => exact ⟨_, _, _, rfl⟩
  | true => exact ⟨lastWheel, segHeadingOn, headingGuardOn, rfl⟩

omit follower in
theorem approached_phase (driven : Bool) (remaining : α) (state : FollowerState α) :
    (approached driven remaining state).phase = state.phase := by
  cases driven with
  | false => rfl
  | true => rfl

/-- The outlooks agree, on the same course. -/
structure OutlookAlike (first second : Outlook α) : Prop where
  target : second.target = first.target
  remaining : second.remaining = first.remaining
  isFinal : second.isFinal = first.isFinal
  stops : second.stops = first.stops
  course : SameCourse first.state second.state
  notTurning : first.state.phase ≠ .turning

theorem outlook_alike (route : LaneRoute α) (leg : LaneLeg α) (point : Point α)
    {first second : FollowerState α} (course : SameCourse first second)
    (notTurning : first.phase ≠ .turning) :
    Alike OutlookAlike (follower.outlook route leg point first)
      ((follower.withSeg seg).outlook route leg point second) := by
  obtain ⟨lastWheel, segHeadingOn, headingGuardOn, rfl⟩ := course
  change Alike OutlookAlike _ (follower.outlook route leg point _)
  unfold outlook
  refine Alike.same _ fun pointOfLeg => ?_
  have gated := follower.straightGateTarget_steered
    { first with pt := follower.advancePt leg point first.pt } lastWheel segHeadingOn
    headingGuardOn point
  have phase := follower.straightGateTarget_phase point
    { first with pt := follower.advancePt leg point first.pt }
  dsimp only [FollowerState.steered] at gated phase ⊢
  rw [gated]
  generalize follower.straightGateTarget point _ = result at phase
  obtain ⟨gate, state⟩ := result
  dsimp only at phase
  refine Alike.same _ fun onLeg => ?_
  refine ⟨rfl, rfl, rfl, rfl, ?_, ?_⟩
  · exact approached_course _ _ ⟨_, _, _, rfl⟩
  · exact (approached_phase _ _ state).trans phase ▸ notTurning

theorem beginTurn_alike (route : LaneRoute α) (spec : ResolvedTurn α) (point : Point α)
    {first second : FollowerState α} (course : SameCourse first second) :
    Alike SameCourse (follower.beginTurn route spec point first)
      ((follower.withSeg seg).beginTurn route spec point second) := by
  obtain ⟨lastWheel, segHeadingOn, headingGuardOn, rfl⟩ := course
  exact Alike.same (follower.fusedSpan route spec first.leg) fun span =>
    ⟨lastWheel, segHeadingOn, false, rfl⟩

theorem driveLeg_alike (route : LaneRoute α) (point : Point α) (headingDeg : α)
    (sensors : Sensors α) (obs : SegObservation α) (legs : ℕ) {first second : FollowerState α}
    (course : SameCourse first second) (notTurning : first.phase ≠ .turning) :
    Alike DrivenAlike (follower.driveLeg route point headingDeg sensors legs first)
      ((follower.withSeg seg).driveLeg route point headingDeg (sensors.withSeg obs) legs second) := by
  induction legs generalizing first second with
  | zero => exact rfl
  | succ legs inductionHypothesis =>
    unfold driveLeg
    rw [course.leg]
    refine Alike.same _ fun leg =>
      (follower.outlook_alike seg route leg point course notTurning).bind fun view view' alike => ?_
    rw [alike.stops, alike.target, alike.remaining, alike.isFinal]
    have steers {first second : FollowerState α} (course : SameCourse first second)
        (notTurning : first.phase ≠ .turning) :=
      follower.steer_alike seg leg view.target point headingDeg view.remaining view.isFinal
        sensors.seg obs course notTurning
    split
    · exact ⟨alike.course, rfl, rfl, fun turning => absurd turning alike.notTurning⟩
    · dsimp only
      split
      · exact steers alike.course alike.notTurning
      · next turn _ =>
        refine (follower.junction_alike seg leg turn point sensors obs alike.course
          alike.notTurning).bind fun junction junction' ways => ?_
        cases ways with
        | stay course notTurning => exact steers course notTurning
        | pass course notTurning => exact inductionHypothesis course notTurning
        | turn course =>
          exact (follower.beginTurn_alike seg route _ point course).bind fun begun begun' course =>
            follower.driveTurn_alike seg route point headingDeg
              (fun _ _ course notTurning => inductionHypothesis course notTurning) course

/-! ### compute -/

theorem accumulateTravel_course (point : Point α) {first second : FollowerState α}
    (course : SameCourse first second) :
    SameCourse (follower.accumulateTravel point first)
      ((follower.withSeg seg).accumulateTravel point second) := by
  obtain ⟨lastWheel, segHeadingOn, headingGuardOn, rfl⟩ := course
  unfold accumulateTravel
  rw [FollowerState.steered_lastPos, FollowerState.steered_phase]
  dsimp only
  split
  · exact ⟨lastWheel, segHeadingOn, headingGuardOn, rfl⟩
  · split
    · exact ⟨lastWheel, segHeadingOn, headingGuardOn, rfl⟩
    · exact ⟨lastWheel, segHeadingOn, headingGuardOn, rfl⟩

/-- The rules of the throttle keep the wheel angle and the phase and look at neither; they may only
take the permission for a correction away. -/
theorem applyThrottleRules_alike (point : Point α) {command command' : ControlCommand α}
    (throttle : command'.throttle = command.throttle) {first second : FollowerState α}
    (course : SameCourse first second) :
    let ruled := follower.applyThrottleRules command point first
    let ruled' := follower.applyThrottleRules command' point second
    SameCourse ruled.2 ruled'.2 ∧ ruled'.1.throttle = ruled.1.throttle ∧
      ruled.2.phase = first.phase ∧ (command' = command → ruled'.1 = ruled.1) ∧
      (first.segOkNow = false → ruled.2.segOkNow = false) := by
  obtain ⟨lastWheel, segHeadingOn, headingGuardOn, rfl⟩ := course
  unfold applyThrottleRules
  rw [FollowerState.steered_origin, FollowerState.steered_exitHoldFrom, throttle]
  dsimp only
  split
  · exact ⟨⟨lastWheel, segHeadingOn, headingGuardOn, rfl⟩, rfl, rfl, by rintro rfl; rfl, id⟩
  · split
    · exact ⟨⟨lastWheel, segHeadingOn, headingGuardOn, rfl⟩, rfl, rfl, by rintro rfl; rfl,
        fun _ => rfl⟩
    · exact ⟨⟨lastWheel, segHeadingOn, headingGuardOn, rfl⟩, rfl, rfl, by rintro rfl; rfl, id⟩

/-- A finished outcome; a stop is not corrected. -/
structure FinishedAlike (first second : Driven α) : Prop extends DrivenAlike first second where
  stopped : first.command = none → first.state.segOkNow = false

theorem finish_alike (point : Point α) {first second : Driven α}
    (alike : DrivenAlike first second) :
    FinishedAlike (follower.finish point first) ((follower.withSeg seg).finish point second) := by
  obtain ⟨command, remaining, state⟩ := first
  obtain ⟨command', remaining', state'⟩ := second
  obtain ⟨course, rfl, throttle, turning⟩ := alike
  dsimp only at course throttle turning
  change FinishedAlike _ (follower.finish point _)
  unfold finish
  cases command with
  | none => cases command' with
    | some command' => exact absurd throttle (Option.some_ne_none _)
    | none =>
      obtain ⟨lastWheel, segHeadingOn, headingGuardOn, rfl⟩ := course
      exact ⟨⟨⟨lastWheel, segHeadingOn, headingGuardOn, rfl⟩, rfl, rfl, fun _ => ⟨rfl, rfl⟩⟩,
        fun _ => rfl⟩
  | some command => cases command' with
    | none => exact absurd throttle.symm (Option.some_ne_none _)
    | some command' =>
      obtain ⟨ruled, throttle, phase, same, blind⟩ := follower.applyThrottleRules_alike point
        (Option.some.inj throttle) course
      refine ⟨⟨ruled, rfl, congrArg some throttle, fun inTurn => ?_⟩,
        fun stopped => absurd stopped (Option.some_ne_none _)⟩
      obtain ⟨equal, notOk⟩ := turning (phase ▸ inTurn)
      exact ⟨congrArg some (same (Option.some.inj equal)), blind notOk⟩

theorem driveOn_alike (route : LaneRoute α) (point : Point α) (headingDeg : α)
    (sensors : Sensors α) (obs : SegObservation α) {first second : FollowerState α}
    (course : SameCourse first second) :
    Alike DrivenAlike (follower.driveOn route point headingDeg sensors first)
      ((follower.withSeg seg).driveOn route point headingDeg (sensors.withSeg obs) second) := by
  have drives (first second : FollowerState α) (course : SameCourse first second)
      (notTurning : first.phase ≠ .turning) :=
    follower.driveLeg_alike seg route point headingDeg sensors obs route.legs.length course
      notTurning
  unfold driveOn
  rw [course.phase]
  dsimp only
  split
  · exact follower.driveTurn_alike seg route point headingDeg drives course
  · next notTurning => exact drives first second course notTurning

/-- A call of `compute` is alike, whatever the observation of the lane center. -/
theorem compute_alike (point : Point α) (headingDeg : α) (sensors : Sensors α)
    (obs : SegObservation α) {first second : FollowerState α} (course : SameCourse first second)
    (routed : first.route.isSome) :
    Alike FinishedAlike (follower.compute point headingDeg sensors first)
      ((follower.withSeg seg).compute point headingDeg (sensors.withSeg obs) second) := by
  obtain ⟨lastWheel, segHeadingOn, headingGuardOn, rfl⟩ := course
  obtain ⟨route, routed⟩ := Option.isSome_iff_exists.mp routed
  unfold compute
  rw [FollowerState.steered_route, routed]
  have departed : SameCourse (first.depart point)
      ((first.steered lastWheel segHeadingOn headingGuardOn).depart point) := ⟨_, _, _, rfl⟩
  have travelled := follower.accumulateTravel_course seg point departed
  refine (follower.driveOn_alike seg route point headingDeg sensors obs travelled).bind
    fun driven driven' alike => ?_
  exact follower.finish_alike seg point alike

end LaneFollower

/-! ### Ticks -/

/-- What is seen of the lane center at a tick, for the heading and for the correction, and the
commands that the earlier ticks left in the two snapshots that are read. -/
structure SegView (α : Type) where
  heading : SegObservation α
  correction : SegObservation α
  stored : ControlCommand α
  gateStored : ControlCommand α

/-- The scene with another view of the lane center. -/
def Scene.withSeg {α : Type} (scene : Scene α) (view : SegView α) : Scene α where
  input :=
    { scene.input with
      sensors := scene.input.sensors.withSeg view.heading, segCorrection := view.correction }
  snap := scene.snap.setControlCommand view.stored
  gate := (scene.gate.1.setControlCommand view.gateStored, scene.gate.2)

/-- Calls that differ in a wheel angle at most. -/
inductive CallAlike {α : Type} : WorkerOp α → WorkerOp α → Prop
  | same (op : WorkerOp α) : CallAlike op op
  | setAngleDeg (wheelDeg wheelDeg' : α) :
      CallAlike (.output (.setAngleDeg wheelDeg)) (.output (.setAngleDeg wheelDeg'))
  | setControlCommand {command command' : ControlCommand α}
      (throttle : command'.throttle = command.throttle) :
      CallAlike (.output (.setControlCommand command)) (.output (.setControlCommand command'))

/-- The states agree, on the same course. -/
structure WorkerAlike {α : Type} (first second : WorkerState α) : Prop where
  course : SameCourse first.follower second.follower
  arrival : second.arrival = first.arrival

/-- The decisions agree in all but the wheel angle. -/
structure DecisionAlike {α : Type} (first second : Decision α) : Prop where
  stops : second.stops = first.stops
  remaining : second.remaining = first.remaining
  throttle : second.command.throttle = first.command.throttle

/-- The tick drove along a leg: it neither turned nor stopped. -/
def Ticked.Steers {α : Type} (ticked : Ticked α) : Prop :=
  ∃ decision, ticked.decision = some decision ∧ decision.stops = false ∧
    ticked.follower.phase ≠ .turning

/-- The states after two ticks agree, and so do their decisions; unless the tick drove along a leg,
the wheel angle agrees too. -/
structure TickedAlike {α : Type} (first second : Ticked α) : Prop
    extends WorkerAlike first.toWorkerState second.toWorkerState where
  decision : Option.Rel DecisionAlike first.decision second.decision
  fixed : ¬ first.Steers → second.decision = first.decision

/-- Two ticks raise the same error or agree; their calls differ in wheel angles at most, and only
if the tick drove along a leg. -/
structure TickAlike {α : Type} (first second : Except PyError (Ticked α) × List (WorkerOp α)) :
    Prop where
  ticked : Alike TickedAlike first.1 second.1
  calls : List.Forall₂ CallAlike first.2 second.2
  fixed : ∀ ticked, first.1 = .ok ticked → ¬ ticked.Steers → second.2 = first.2

namespace DrivingWorker

variable (worker : DrivingWorker α) (seg : Bool) (adapter : Option (SegAdapter α))

/-- The worker with other adapters for the lane center, or without them. -/
def withSeg : DrivingWorker α :=
  { worker with follower := worker.follower.withSeg seg, seg := adapter }

section Tick

variable {answer answer' : (op : WorkerOp α) → op.Answer}
  {first second : WorkerProgram α (Except PyError (Ticked α))}

omit [Scalar α] in
/-- Programs with the same calls. -/
theorem tickAlike_of_same
    (similar : Program.Similar answer answer' Eq (Alike TickedAlike) first second) :
    TickAlike (first.observe answer) (second.observe answer') := by
  have calls := similar.calls
  rw [List.forall₂_eq_eq_eq] at calls
  refine ⟨similar.result, ?_, fun _ _ _ => calls.symm⟩
  rw [← calls]
  exact List.forall₂_same.mpr fun op _ => .same op

omit [Scalar α] in
/-- Programs that drive along a leg. -/
theorem tickAlike_of_steers
    (similar : Program.Similar answer answer' CallAlike
      (Alike fun ticked ticked' => TickedAlike ticked ticked' ∧ ticked.Steers) first second) :
    TickAlike (first.observe answer) (second.observe answer') := by
  refine ⟨similar.result.imp fun _ _ alike => alike.1, similar.calls, fun ticked ran fixed => ?_⟩
  obtain ⟨ticked', -, -, steers⟩ := similar.result.ok ran
  exact absurd steers fixed

end Tick

variable (scene : Scene α) (view : SegView α)

/-- The supervisor sends the same command on the same request. -/
theorem apply_same (command : ControlCommand α) :
    Program.Similar scene.answer (scene.withSeg view).answer Eq Eq
      (outputOf (worker.supervisor.apply command)) (outputOf (worker.supervisor.apply command)) :=
  .call rfl (.call rfl (.call rfl (.call rfl (.done rfl))))

/-- The supervisor sends the same throttle on a request with another wheel angle. -/
theorem apply_alike {command command' : ControlCommand α}
    (throttle : command'.throttle = command.throttle) :
    Program.Similar scene.answer (scene.withSeg view).answer CallAlike
      (fun applied applied' => applied'.throttle = applied.throttle)
      (outputOf (worker.supervisor.apply command))
      (outputOf (worker.supervisor.apply command')) := by
  have applied := worker.supervisor.appliedCommand_throttle_eq throttle scene.gate
  have first : CallAlike (.output (.setThrottle
      (worker.supervisor.appliedCommand command scene.gate).throttle)) (.output (.setThrottle
      (worker.supervisor.appliedCommand command' scene.gate).throttle)) := by
    rw [applied]
    exact .same _
  exact .call (.same _) (.call first (.call (.setAngleDeg _ _)
    (.call (.setControlCommand applied) (.done applied))))

/-- The end of a tick looks at the throttle of the applied command. -/
theorem conclude_alike {call : WorkerOp α → WorkerOp α → Prop} (reflexive : ∀ op, call op op)
    {result : Ticked α → Ticked α → Prop} (pose : LocalizationPose α)
    {decision decision' : Decision α} {follower follower' : FollowerState α}
    (related : ∀ arrival, result ⟨⟨follower, arrival⟩, some decision⟩
      ⟨⟨follower', arrival⟩, some decision'⟩)
    (arrival : ArrivalState α) {applied applied' : ControlCommand α}
    (throttle : applied'.throttle = applied.throttle) :
    Program.Similar scene.answer (scene.withSeg view).answer call (Alike result)
      (worker.conclude scene.input scene.snap pose decision follower arrival applied)
      ((worker.withSeg seg adapter).conclude (scene.withSeg view).input (scene.withSeg view).snap
        pose decision' follower' arrival applied') := by
  unfold conclude
  rw [throttle]
  have arrives : (worker.withSeg seg adapter).arrives (scene.withSeg view).input
      (scene.withSeg view).snap pose applied.throttle arrival =
    worker.arrives scene.input scene.snap pose applied.throttle arrival := rfl
  rw [arrives]
  cases worker.arrives scene.input scene.snap pose applied.throttle arrival with
  | error error => exact .done rfl
  | ok found =>
    obtain ⟨arrived, arrival⟩ := found
    cases arrived with
    | false => exact .done (related arrival)
    | true => exact .call (reflexive _) (.done (related arrival))

/-- The correction changes the wheel angle. -/
theorem correct_throttle (input : TickInput α) (segOk : Bool) (command : ControlCommand α) :
    (worker.correct input segOk command).throttle = command.throttle := by
  unfold correct
  split
  · rfl
  · split
    · rfl
    · rfl

/-- Without permission there is no correction. -/
theorem correct_notOk (input : TickInput α) (command : ControlCommand α) :
    worker.correct input false command = command := by
  unfold correct
  split
  · rfl
  · rfl

theorem announced_alike {call : WorkerOp α → WorkerOp α → Prop} (reflexive : ∀ op, call op op)
    {result : Except PyError (Ticked α) → Except PyError (Ticked α) → Prop} (remaining : α)
    {output output' : WorkerProgram α (Except PyError (Ticked α))}
    (similar : Program.Similar scene.answer (scene.withSeg view).answer call result output output') :
    Program.Similar scene.answer (scene.withSeg view).answer call result
      (worker.announced scene.snap remaining output)
      ((worker.withSeg seg adapter).announced (scene.withSeg view).snap remaining output') := by
  change Program.Similar _ _ _ _ _ (worker.announced scene.snap remaining output')
  unfold announced
  split
  · exact .call (reflexive _) similar
  · exact similar

section Driven

variable {driven driven' : Driven α} (alike : LaneFollower.FinishedAlike driven driven')
  (input input' : TickInput α)

include alike

/-- The decisions agree, up to the wheel angle. -/
theorem decisionOf_alike : DecisionAlike (worker.decisionOf input driven)
    ((worker.withSeg seg adapter).decisionOf input' driven') := by
  refine ⟨?_, alike.remaining, ?_⟩
  · have none := congrArg Option.isNone alike.throttle
    rw [Option.isNone_map, Option.isNone_map] at none
    exact none
  · unfold decisionOf
    rw [correct_throttle, correct_throttle, ← Option.getD_map ControlCommand.throttle,
      ← Option.getD_map ControlCommand.throttle, alike.throttle]

/-- In a turn, and where the car stops, the decisions agree. -/
theorem decisionOf_fixed (fixed : driven.command = none ∨ driven.state.phase = .turning) :
    (worker.withSeg seg adapter).decisionOf input' driven' = worker.decisionOf input driven := by
  have same : driven'.command = driven.command ∧ driven.state.segOkNow = false := by
    rcases fixed with stopped | turning
    · have throttle := alike.throttle
      rw [stopped] at throttle
      exact ⟨(Option.map_eq_none_iff.mp throttle).trans stopped.symm, alike.stopped stopped⟩
    · exact alike.turning turning
  unfold decisionOf
  rw [alike.course.segOkNow, same.1, same.2, correct_notOk, correct_notOk, alike.remaining]

/-- What is carried out agrees; outside a leg the calls are the same. -/
theorem carryOut_alike (pose : LocalizationPose α) (arrival : ArrivalState α) :
    TickAlike ((worker.carryOut scene.input scene.snap pose arrival driven).observe scene.answer)
      (((worker.withSeg seg adapter).carryOut (scene.withSeg view).input (scene.withSeg view).snap
        pose arrival driven').observe (scene.withSeg view).answer) := by
  have decision := worker.decisionOf_alike seg adapter alike scene.input (scene.withSeg view).input
  unfold carryOut
  rw [alike.remaining]
  by_cases fixed : driven.command = none ∨ driven.state.phase = .turning
  · have same := worker.decisionOf_fixed seg adapter alike scene.input (scene.withSeg view).input
      fixed
    rw [same]
    refine tickAlike_of_same (worker.announced_alike seg adapter scene view (fun _ => rfl) _ ?_)
    refine (worker.apply_same scene view _).bind fun applied applied' equal => ?_
    refine worker.conclude_alike seg adapter scene view (fun _ => rfl) pose (fun arrival => ?_)
      arrival (congrArg _ equal.symm)
    exact ⟨⟨alike.course, rfl⟩, .some ⟨rfl, rfl, rfl⟩, fun _ => rfl⟩
  · obtain ⟨drives, notTurning⟩ := not_or.mp fixed
    refine tickAlike_of_steers (worker.announced_alike seg adapter scene view .same _ ?_)
    refine (worker.apply_alike scene view decision.throttle).bind fun applied applied' equal => ?_
    refine worker.conclude_alike seg adapter scene view .same pose (fun arrival => ?_) arrival equal
    have steers : Ticked.Steers ⟨⟨driven.state, arrival⟩,
        some (worker.decisionOf scene.input driven)⟩ := ⟨_, rfl, by
      rw [decisionOf, ← Bool.not_eq_true, Option.isNone_iff_eq_none]; exact drives, notTurning⟩
    exact ⟨⟨⟨alike.course, rfl⟩, .some decision, fun rest => absurd steers rest⟩, steers⟩

end Driven

variable {first second : WorkerState α} (alike : WorkerAlike first second)

omit [Scalar α] in
/-- States that agree, after ticks that did not drive. -/
theorem ticked_alike {first second : WorkerState α} (alike : WorkerAlike first second) :
    TickedAlike ⟨first, none⟩ ⟨second, none⟩ :=
  ⟨alike, .none, fun _ => rfl⟩

/-- A tick that stops the car agrees. -/
theorem stop_alike {next next' : WorkerState α} (alike : WorkerAlike next next') :
    Program.Similar scene.answer (scene.withSeg view).answer Eq (Alike TickedAlike)
      ((outputOf (worker.supervisor.apply stopCommand)).bind fun _ => .done (.ok ⟨next, none⟩))
      ((outputOf (worker.supervisor.apply stopCommand)).bind fun _ => .done (.ok ⟨next', none⟩)) :=
  (worker.apply_same scene view _).bind fun _ _ _ => .done (ticked_alike alike)

include alike

/-- The route is planned alike. -/
theorem plan_alike :
    Program.Similar scene.answer (scene.withSeg view).answer Eq (Alike WorkerAlike)
      (worker.plan scene.snap first)
      ((worker.withSeg seg adapter).plan (scene.withSeg view).snap second) := by
  change Program.Similar _ _ _ _ _ (worker.plan scene.snap second)
  unfold plan
  split
  · exact .call rfl (.done alike)
  · split
    · exact .done alike
    · split
      · exact .done alike
      · split
        · exact .done rfl
        · exact .done alike
        · exact .call rfl (.done ⟨.refl _, rfl⟩)

/-- The driving part of a tick agrees. -/
theorem drive_alike :
    TickAlike ((worker.drive scene.input scene.snap first).observe scene.answer)
      (((worker.withSeg seg adapter).drive (scene.withSeg view).input (scene.withSeg view).snap
        second).observe (scene.withSeg view).answer) := by
  have pose : (scene.withSeg view).snap.pose = scene.snap.pose := rfl
  have stale : (scene.withSeg view).snap.poseStale = scene.snap.poseStale := rfl
  unfold drive
  rw [pose, stale, alike.course.route]
  cases scene.snap.pose with
  | none => exact tickAlike_of_same (worker.stop_alike scene view alike)
  | some pose =>
    dsimp only
    split_ifs with stale unrouted
    · refine tickAlike_of_same ((worker.apply_same scene view _).bind fun _ _ _ => .done ?_)
      rw [alike.arrival]
      exact ticked_alike ⟨alike.course, rfl⟩
    · exact tickAlike_of_same (.call rfl (.done (ticked_alike alike)))
    · have routed := Option.isSome_iff_ne_none.mpr (mt Option.isNone_iff_eq_none.mpr unrouted)
      have computed := worker.follower.compute_alike seg (pose.x, pose.y) pose.headingDeg
        scene.input.sensors view.heading alike.course routed
      rw [alike.arrival]
      change Alike _ _ ((worker.withSeg seg adapter).follower.compute (pose.x, pose.y)
        pose.headingDeg (scene.withSeg view).input.sensors second.follower) at computed
      generalize worker.follower.compute _ _ _ _ = result at computed ⊢
      generalize (worker.withSeg seg adapter).follower.compute _ _ _ _ = result' at computed ⊢
      cases result with
      | error error => cases result' with
        | error error' => exact tickAlike_of_same (.done computed)
        | ok driven' => exact computed.elim
      | ok driven => cases result' with
        | error error' => exact computed.elim
        | ok driven' => exact worker.carryOut_alike seg adapter scene view computed pose _

theorem cleared_alike (snap : VehicleSnapshot α) :
    WorkerAlike (cleared snap first) (cleared snap second) := by
  unfold cleared
  rw [alike.course.route]
  split
  · exact ⟨.refl _, rfl⟩
  · exact alike

theorem react_alike :
    TickAlike ((worker.react scene.input first scene.snap).observe scene.answer)
      (((worker.withSeg seg adapter).react (scene.withSeg view).input second
        (scene.withSeg view).snap).observe (scene.withSeg view).answer) := by
  have state : (scene.withSeg view).snap.drivingState = scene.snap.drivingState := rfl
  unfold react
  rw [state]
  split
  · refine tickAlike_of_same ((worker.plan_alike seg adapter scene view alike).bind ?_)
    intro planned planned' related
    cases planned with
    | error error => cases planned' with
      | error error' => exact .done related
      | ok next' => exact related.elim
    | ok next => cases planned' with
      | error error' => exact related.elim
      | ok next' => exact worker.stop_alike scene view related
  · exact worker.drive_alike seg adapter scene view alike
  · exact worker.drive_alike seg adapter scene view alike
  · exact tickAlike_of_same (worker.stop_alike scene view (cleared_alike alike scene.snap))

/-- A tick agrees, on states on the same course. -/
theorem seen_alike :
    TickAlike (worker.seen scene first)
      ((worker.withSeg seg adapter).seen (scene.withSeg view) second) := by
  have reacted := worker.react_alike seg adapter scene view alike
  exact ⟨reacted.ticked, .cons (.same _) reacted.calls, fun ticked ran fixed =>
    congrArg (List.cons WorkerOp.readSnapshot) (reacted.fixed ticked ran fixed)⟩

end DrivingWorker

/-- **The lane center steers and does nothing else.** Two workers over the same set-up, with
adapters of their own for the lane center or without any, go through the same scenes but for what
they see of it. Tick by tick they come to the same leg, phase, remaining distance, throttle,
permission for a correction, start and end of every turn, stop and arrival, and they make the same
calls but for the wheel angle; unless the tick drove along a leg the wheel angle is the same
too. -/
theorem seg_only_steers (worker : DrivingWorker α) (seg : Bool) (adapter : Option (SegAdapter α))
    (scenes : List (Scene α × SegView α)) (state : WorkerState α) :
    List.Forall₂ TickAlike (worker.watch (scenes.map Prod.fst) state)
      ((worker.withSeg seg adapter).watch (scenes.map fun pair => pair.1.withSeg pair.2) state) := by
  suffices runs : ∀ first second : WorkerState α, WorkerAlike first second →
      List.Forall₂ TickAlike (worker.watch (scenes.map Prod.fst) first)
        ((worker.withSeg seg adapter).watch (scenes.map fun pair => pair.1.withSeg pair.2)
          second) from runs state state ⟨.refl _, rfl⟩
  induction scenes with
  | nil => exact fun _ _ _ => .nil
  | cons pair scenes inductionHypothesis =>
    intro first second alike
    have tick := worker.seen_alike seg adapter pair.1 pair.2 alike
    refine .cons tick ?_
    have ticked := tick.ticked
    dsimp only
    generalize (worker.seen pair.1 first).1 = result at ticked ⊢
    generalize DrivingWorker.seen _ (pair.1.withSeg pair.2) second = observed at ticked ⊢
    obtain ⟨result', calls⟩ := observed
    cases result with
    | error error => cases result' with
      | error error' => exact .nil
      | ok next' => exact ticked.elim
    | ok next => cases result' with
      | error error' => exact ticked.elim
      | ok next' => exact inductionHypothesis _ _ ticked.toWorkerAlike

end RcTaxi
