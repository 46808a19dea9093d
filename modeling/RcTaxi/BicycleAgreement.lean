/-
This file compares the two integrators of the bicycle model. `DeadReckoner.propagate` and
`HeadingEstimator._propagate` are written out here one by one, with the constructors that read the
configuration they share. Each of them is shown to be the step of the common model, and both stay
in step over every sequence of commands and times.

The wheelbase is positive, as the configuration loader checks. Neither class checks the measured
speed points; without any, both raise when they look a speed up.
-/

import RcTaxi.DeadReckoner

namespace RcTaxi

variable {α : Type} [Scalar α]

/-! ### The two programs -/

/-- The `tunnel` section of the configuration. -/
structure TunnelConfig (α : Type) where
  wheelBiasDeg : α
  servoRateDps : α
  accelMps2 : Option α
  speedPoints : List (α × α)
  maxBlindDistanceM : α
  maxBlindTimeS : α

/-- The `heading_estimator` section of the configuration. -/
structure HeadingConfig (α : Type) where
  courseMinDistanceM : Option α
  courseAlpha : Option α
  markerAlpha : Option α

/-- The attributes of a `DeadReckoner`. -/
structure ReckonerNumbers (α : Type) where
  wheelbase : α
  bias : α
  servoRate : α
  accel : α
  pts : List (α × α)
  maxDist : α
  maxTime : α

/-- The attributes of a `HeadingEstimator`. -/
structure EstimatorNumbers (α : Type) where
  courseMin : α
  aCourse : α
  aMarker : α
  wheelbase : α
  bias : α
  servoRate : α
  accel : α
  pts : List (α × α)

namespace ReckonerNumbers

/-- `DeadReckoner(cfg, wheelbase_m)`. -/
def new (cfg : TunnelConfig α) (wheelbaseM : α) : ReckonerNumbers α where
  wheelbase := wheelbaseM
  bias := cfg.wheelBiasDeg
  servoRate := cfg.servoRateDps
  accel := cfg.accelMps2.getD (5 / 10)
  pts := cfg.speedPoints
  maxDist := cfg.maxBlindDistanceM
  maxTime := cfg.maxBlindTimeS

variable (numbers : ReckonerNumbers α)

/-- `DeadReckoner._speed`. -/
def speed (throttle : α) : Except PyError α :=
  match numbers.pts with
  | [] => .error .indexError
  | first :: rest =>
    if throttle ≤ first.1 then .ok 0
    else .ok (speedLoop (rest.getLastD first).2 throttle ((first :: rest).zip rest))

/-- A round of the loop of `DeadReckoner.propagate`. -/
def round (targetV steeringWheelDeg dt : α) (state : ReckonerState α) : ReckonerState α :=
  let dw := steeringWheelDeg - state.motion.wheelDeg
  let step := numbers.servoRate * dt
  let wheel := state.motion.wheelDeg + max (-step) (min step dw)
  let dv := numbers.accel * dt
  let v := if state.motion.v < targetV then min targetV (state.motion.v + dv)
    else max targetV (state.motion.v - dv)
  let heading := state.motion.headingDeg -
    degrees (v / numbers.wheelbase * tan (radians (wheel + numbers.bias)) * dt)
  { state with
    motion := ⟨wheel, v, heading⟩
    position := state.position.map fun place =>
      (place.1 + v * cos (radians heading) * dt, place.2 + v * sin (radians heading) * dt)
    blindDistanceM := state.blindDistanceM + v * dt
    blindTimeS := state.blindTimeS + dt }

/-- `DeadReckoner.propagate`. -/
def propagate (state : ReckonerState α) (throttle steeringWheelDeg monotonicS : α) :
    Except PyError (ReckonerState α) :=
  if !DeadReckoner.anchored state ∨ monotonicS ≤ state.t then .ok state
  else do
    let targetV ← numbers.speed throttle
    let advanced := integrate (numbers.round targetV steeringWheelDeg) (monotonicS - state.t) state
    pure { advanced with t := monotonicS }

end ReckonerNumbers

namespace EstimatorNumbers

/-- `HeadingEstimator(cfg, motion_cfg, wheelbase_m)`. -/
def new (cfg : HeadingConfig α) (motionCfg : TunnelConfig α) (wheelbaseM : α) :
    EstimatorNumbers α where
  courseMin := cfg.courseMinDistanceM.getD (4 / 100)
  aCourse := cfg.courseAlpha.getD (45 / 100)
  aMarker := cfg.markerAlpha.getD (3 / 100)
  wheelbase := wheelbaseM
  bias := motionCfg.wheelBiasDeg
  servoRate := motionCfg.servoRateDps
  accel := motionCfg.accelMps2.getD (5 / 10)
  pts := motionCfg.speedPoints

variable (numbers : EstimatorNumbers α)

/-- `HeadingEstimator._speed`. -/
def speed (throttle : α) : Except PyError α :=
  match numbers.pts with
  | [] => .error .indexError
  | first :: rest =>
    if throttle ≤ first.1 then .ok 0
    else .ok (speedLoop (rest.getLastD first).2 throttle ((first :: rest).zip rest))

/-- A round of the loop of `HeadingEstimator._propagate`. -/
def round (targetV wheelCmdDeg dt : α) (state : HeadingState α) : HeadingState α :=
  let dw := wheelCmdDeg - state.motion.wheelDeg
  let step := numbers.servoRate * dt
  let wheel := state.motion.wheelDeg + max (-step) (min step dw)
  let dv := numbers.accel * dt
  let v := if state.motion.v < targetV then min targetV (state.motion.v + dv)
    else max targetV (state.motion.v - dv)
  let heading := state.motion.headingDeg -
    degrees (v / numbers.wheelbase * tan (radians (wheel + numbers.bias)) * dt)
  { state with motion := ⟨wheel, v, heading⟩ }

/-- `HeadingEstimator._propagate`. -/
def propagate (state : HeadingState α) (throttle wheelCmdDeg monotonicS : α) :
    Except PyError (HeadingState α) :=
  if monotonicS ≤ state.t then .ok state
  else do
    let targetV ← numbers.speed throttle
    let advanced := integrate (numbers.round targetV wheelCmdDeg) (monotonicS - state.t) state
    pure { advanced with
      motion := { advanced.motion with headingDeg := pyMod advanced.motion.headingDeg 360 }
      t := monotonicS }

end EstimatorNumbers

/-! ### The common model -/

section Common

variable {wheelbaseM : α} (wheelbase_pos : 0 < wheelbaseM) (cfg : TunnelConfig α)

/-- The bicycle model of a configuration with these speed points. -/
def TunnelConfig.model (points : SpeedPoints α) : BicycleModel α where
  wheelbaseM := wheelbaseM
  wheelbase_pos := wheelbase_pos
  wheelBiasDeg := cfg.wheelBiasDeg
  servoRateDps := cfg.servoRateDps
  accelMps2 := cfg.accelMps2.getD (5 / 10)
  speedPoints := points

/-- With speed points, the dead reckoner as it is written is the one of the common model. -/
theorem ReckonerNumbers.propagate_eq {points : SpeedPoints α}
    (listed : cfg.speedPoints = points.first :: points.rest) (command : ControlCommand α)
    (now : α) (state : ReckonerState α) :
    (ReckonerNumbers.new cfg wheelbaseM).propagate state command.throttle
        command.steeringWheelDeg now =
      .ok (DeadReckoner.propagate
        ⟨cfg.model wheelbase_pos points, cfg.maxBlindDistanceM, cfg.maxBlindTimeS⟩
        command now state) := by
  have looked : (ReckonerNumbers.new cfg wheelbaseM).speed command.throttle =
      .ok (points.speed command.throttle) := by
    unfold ReckonerNumbers.speed ReckonerNumbers.new SpeedPoints.speed
    rw [listed]
    dsimp only
    split <;> rfl
  unfold ReckonerNumbers.propagate DeadReckoner.propagate
  rw [looked]
  split
  · rfl
  · rfl

/-- With speed points, the heading estimator as it is written is the one of the common model, up to
the place it keeps. -/
theorem EstimatorNumbers.propagate_eq (heading : HeadingConfig α) {points : SpeedPoints α}
    (listed : cfg.speedPoints = points.first :: points.rest) (command : ControlCommand α)
    (now : α) (state : HeadingState α) :
    (EstimatorNumbers.new heading cfg wheelbaseM).propagate state command.throttle
        command.steeringWheelDeg now =
      .ok (HeadingEstimator.propagate ⟨cfg.model wheelbase_pos points,
        heading.courseMinDistanceM.getD (4 / 100), heading.courseAlpha.getD (45 / 100),
        heading.markerAlpha.getD (3 / 100)⟩ command now state) := by
  have looked : (EstimatorNumbers.new heading cfg wheelbaseM).speed command.throttle =
      .ok (points.speed command.throttle) := by
    unfold EstimatorNumbers.speed EstimatorNumbers.new SpeedPoints.speed
    rw [listed]
    dsimp only
    split <;> rfl
  unfold EstimatorNumbers.propagate HeadingEstimator.propagate
  rw [looked]
  split
  · rfl
  · have kept := integrate_related
      (fun (moved : HeadingState α) (motion : Motion α) =>
        moved = { state with motion := motion })
      ((EstimatorNumbers.new heading cfg wheelbaseM).round
        (points.speed command.throttle) command.steeringWheelDeg)
      ((cfg.model wheelbase_pos points).advance (points.speed command.throttle)
        command.steeringWheelDeg)
      (fun dt moved motion same => by rw [same]; rfl) (now - state.t) state state.motion rfl
    exact congrArg (fun moved : HeadingState α => Except.ok { moved with
      motion := { moved.motion with headingDeg := pyMod moved.motion.headingDeg 360 }
      t := now }) kept

end Common

/-! ### Staying in step -/

/-- The two integrators agree: equal wheel angle, speed and time, and headings congruent modulo
360. -/
structure InStep (reckoned : ReckonerState α) (estimated : HeadingState α) : Prop where
  wheel : reckoned.motion.wheelDeg = estimated.motion.wheelDeg
  speed : reckoned.motion.v = estimated.motion.v
  time : reckoned.t = estimated.t
  heading : ∃ turns : ℤ,
    reckoned.motion.headingDeg = estimated.motion.headingDeg + 360 * turns

theorem exists_pyMod_add (heading : α) : ∃ turns : ℤ, heading = pyMod heading 360 + 360 * turns :=
  ⟨⌊heading / 360⌋, (sub_add_cancel heading _).symm⟩

section Step

variable (cfg : TunnelConfig α) (heading : HeadingConfig α) (wheelbaseM : α)

/-- A round keeps them in step: it reads the heading nowhere but to turn it. -/
theorem InStep.round {reckoned : ReckonerState α} {estimated : HeadingState α}
    (inStep : InStep reckoned estimated) (targetV wheelDeg dt : α) :
    InStep ((ReckonerNumbers.new cfg wheelbaseM).round targetV wheelDeg dt reckoned)
      ((EstimatorNumbers.new heading cfg wheelbaseM).round targetV wheelDeg dt estimated) := by
  obtain ⟨wheel, speed, time, turns, congruent⟩ := inStep
  unfold ReckonerNumbers.round EstimatorNumbers.round
  dsimp only
  rw [wheel, speed, congruent]
  refine ⟨rfl, rfl, time, turns, ?_⟩
  exact add_sub_right_comm _ _ _

/-- A call keeps an anchored reckoner and the estimator in step, or both raise. -/
theorem InStep.propagate {reckoned : ReckonerState α} {estimated : HeadingState α}
    (anchored : DeadReckoner.anchored reckoned = true) (inStep : InStep reckoned estimated)
    (throttle wheelDeg now : α) :
    Alike (fun reckoned estimated => DeadReckoner.anchored reckoned = true ∧
        InStep reckoned estimated)
      ((ReckonerNumbers.new cfg wheelbaseM).propagate reckoned throttle wheelDeg now)
      ((EstimatorNumbers.new heading cfg wheelbaseM).propagate estimated throttle wheelDeg now) := by
  have same : (EstimatorNumbers.new heading cfg wheelbaseM).speed throttle =
      (ReckonerNumbers.new cfg wheelbaseM).speed throttle := rfl
  unfold ReckonerNumbers.propagate EstimatorNumbers.propagate
  rw [anchored, ← inStep.time, same]
  by_cases past : now ≤ reckoned.t
  · rw [if_pos (Or.inr past), if_pos past]
    exact ⟨anchored, inStep⟩
  · have onward : ¬ ((!true) = true ∨ now ≤ reckoned.t) :=
      fun stays => stays.elim (nomatch ·) past
    rw [if_neg onward, if_neg past]
    refine .same _ fun targetV => ?_
    obtain ⟨anchored, wheel, speed, _, turns, congruent⟩ := integrate_related
      (fun reckoned estimated => DeadReckoner.anchored reckoned = true ∧
        InStep reckoned estimated)
      ((ReckonerNumbers.new cfg wheelbaseM).round targetV wheelDeg)
      ((EstimatorNumbers.new heading cfg wheelbaseM).round targetV wheelDeg)
      (fun dt moved moved' both => ⟨(Option.isSome_map ..).trans both.1,
        both.2.round cfg heading wheelbaseM targetV wheelDeg dt⟩)
      (now - reckoned.t) reckoned estimated ⟨anchored, inStep⟩
    obtain ⟨more, normalised⟩ := exists_pyMod_add (integrate
      ((EstimatorNumbers.new heading cfg wheelbaseM).round targetV wheelDeg)
      (now - reckoned.t) estimated).motion.headingDeg
    refine ⟨anchored, wheel, speed, rfl, more + turns, ?_⟩
    rw [Int.cast_add, mul_add, ← add_assoc]
    exact congruent.trans (congrArg (· + 360 * (turns : α)) normalised)

/-- Over every sequence of throttles, wheel commands and times, an anchored dead reckoner and an
initialised heading estimator that start in step stay in step, or raise at the same call. -/
theorem propagations_inStep (commands : List (α × α × α)) {reckoned : ReckonerState α}
    {estimated : HeadingState α} (anchored : DeadReckoner.anchored reckoned = true)
    (inStep : InStep reckoned estimated) :
    Alike InStep
      (commands.foldlM (fun state command => (ReckonerNumbers.new cfg wheelbaseM).propagate
        state command.1 command.2.1 command.2.2) reckoned)
      (commands.foldlM (fun state command => (EstimatorNumbers.new heading cfg wheelbaseM).propagate
        state command.1 command.2.1 command.2.2) estimated) := by
  induction commands generalizing reckoned estimated with
  | nil => exact inStep
  | cons command rest inductionHypothesis =>
    rw [List.foldlM_cons, List.foldlM_cons]
    exact (InStep.propagate cfg heading wheelbaseM anchored inStep _ _ _).bind
      fun _ _ both => inductionHypothesis both.1 both.2

end Step

/-- A reckoner anchored at a pose and an estimator initialised with it are in step, although the
estimator has taken a turn off the heading; three commands later they still are, one of which goes
back in time. -/
theorem propagations_inStep_pose :
    Alike InStep
      ([((1 : ℚ), (10 : ℚ), (11 : ℚ)), (0, -5, 10), (1 / 2, 0, 100)].foldlM
        (fun state command => (ReckonerNumbers.new
          ⟨-16 / 10, 60, none, [(24 / 100, 0), (1, 199 / 1000)], 3, 20⟩ (14 / 100)).propagate
          state command.1 command.2.1 command.2.2)
        (DeadReckoner.anchor ⟨1, 2, 370, 0, 10⟩ DeadReckoner.reset))
      ([((1 : ℚ), (10 : ℚ), (11 : ℚ)), (0, -5, 10), (1 / 2, 0, 100)].foldlM
        (fun state command => (EstimatorNumbers.new ⟨none, none, none⟩
          ⟨-16 / 10, 60, none, [(24 / 100, 0), (1, 199 / 1000)], 3, 20⟩ (14 / 100)).propagate
          state command.1 command.2.1 command.2.2)
        ⟨⟨0, 0, 10⟩, (1, 2), 10⟩) :=
  propagations_inStep _ _ _ _ rfl ⟨rfl, rfl, rfl, 1, by decide +kernel⟩

end RcTaxi
