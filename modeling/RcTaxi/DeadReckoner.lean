/-
This file models `localization/dead_reckoner.py`, `localization/heading_estimator.py` and
`localization/motion_estimator.py`: what the car believes about its motion between and behind
the poses it receives. The dead reckoner and the heading estimator integrate the same bicycle
model in steps of 20 ms; the program writes the model out twice, here it stands once.

The integration loop runs while more than a nanosecond remains. Its rounds are counted
beforehand, and the count is shown to be enough.
-/

import RcTaxi.Geometry
import RcTaxi.StateStore

namespace RcTaxi

/-- The measured points from throttle to speed; there is at least one. -/
structure SpeedPoints (α : Type) where
  first : α × α
  rest : List (α × α)

/-- The bicycle model of the car. The wheelbase is checked when the configuration is loaded. -/
structure BicycleModel (α : Type) [Scalar α] where
  wheelbaseM : α
  wheelbase_pos : 0 < wheelbaseM
  wheelBiasDeg : α
  servoRateDps : α
  accelMps2 : α
  speedPoints : SpeedPoints α

/-- The estimated wheel angle and speed, and the heading. -/
structure Motion (α : Type) where
  wheelDeg : α
  v : α
  headingDeg : α

variable {α : Type} [Scalar α]

/-! ### The bicycle model -/

/-- The loop of `_speed`. -/
def speedLoop (last : α) (throttle : α) : List ((α × α) × (α × α)) → α
  | [] => last
  | ((a, va), (b, vb)) :: rest =>
    if throttle ≤ b then va + (vb - va) * (throttle - a) / (b - a)
    else speedLoop last throttle rest

/-- `_speed`: nothing moves up to the first point. -/
def SpeedPoints.speed (points : SpeedPoints α) (throttle : α) : α :=
  if throttle ≤ points.first.1 then 0
  else speedLoop (points.rest.getLastD points.first).2 throttle
    ((points.first :: points.rest).zip points.rest)

/-- One step of the model towards a speed and a wheel angle. -/
def BicycleModel.advance (model : BicycleModel α) (targetV wheelCommandDeg dt : α)
    (motion : Motion α) : Motion α :=
  let step := model.servoRateDps * dt
  let wheelDeg := motion.wheelDeg + max (-step) (min step (wheelCommandDeg - motion.wheelDeg))
  let dv := model.accelMps2 * dt
  let v := if motion.v < targetV then min targetV (motion.v + dv) else max targetV (motion.v - dv)
  let turned := degrees (v / model.wheelbaseM * tan (radians (wheelDeg + model.wheelBiasDeg)) * dt)
  ⟨wheelDeg, v, motion.headingDeg - turned⟩

/-! ### The integration loop -/

section Integration

variable {State : Type}

/-- `_STEP_S`. -/
def stepS : α := 2 / 100

/-- The remainder that ends the loop. -/
def remainderS : α := 1 / 1000000000

/-- The rounds of the loop: one for every full or partial step. -/
def integrationRounds (remain : α) : ℕ := ⌈remain / stepS⌉₊

/-- `while remain > 1e-9`: advance by a step, or by what remains. -/
def integrateLoop (advance : α → State → State) : ℕ → α → State → State
  | 0, _, state => state
  | rounds + 1, remain, state =>
    if remain ≤ remainderS then state
    else
      let dt := min stepS remain
      integrateLoop advance rounds (remain - dt) (advance dt state)

def integrate (advance : α → State → State) (remain : α) (state : State) : State :=
  integrateLoop advance (integrationRounds remain) remain state

theorem stepS_pos : (0 : α) < stepS := by
  unfold stepS
  norm_num

theorem integrateLoop_succ (advance : α → State → State) (rounds : ℕ) (remain : α)
    (state : State) :
    integrateLoop advance (rounds + 1) remain state =
      if remain ≤ remainderS then state
      else integrateLoop advance rounds (remain - min stepS remain)
        (advance (min stepS remain) state) := rfl

/-- The counted rounds end the loop: more of them change nothing. -/
theorem integrateLoop_enough (advance : α → State → State) (rounds : ℕ) (remain : α)
    (state : State) (enough : integrationRounds remain ≤ rounds) :
    integrateLoop advance (rounds + 1) remain state = integrateLoop advance rounds remain state := by
  have small : (0 : α) < remainderS := by
    unfold remainderS
    norm_num
  induction rounds generalizing remain state with
  | zero =>
    have done : remain / stepS ≤ 0 := by
      have ceiling := Nat.ceil_eq_zero.mp (Nat.le_zero.mp enough)
      exact ceiling
    have nothing : remain ≤ 0 := by
      rwa [div_le_iff₀ stepS_pos, zero_mul] at done
    rw [integrateLoop_succ, if_pos (nothing.trans small.le)]
    rfl
  | succ rounds inductionHypothesis =>
    by_cases done : remain ≤ remainderS
    · rw [integrateLoop_succ, if_pos done, integrateLoop_succ, if_pos done]
    · rw [integrateLoop_succ, if_neg done, integrateLoop_succ _ rounds remain state, if_neg done]
      refine inductionHypothesis _ _ ?_
      rw [integrationRounds, Nat.ceil_le] at enough ⊢
      rw [div_le_iff₀ stepS_pos] at enough ⊢
      push_cast at enough
      rcases min_cases stepS remain with ⟨same, _⟩ | ⟨same, _⟩
      · rw [same]
        linarith
      · rw [same, sub_self]
        exact mul_nonneg (Nat.cast_nonneg _) stepS_pos.le

/-- Two loops over the same time whose steps keep two states related end in related states. -/
theorem integrate_related {State' : Type} (related : State → State' → Prop)
    (advance : α → State → State) (advance' : α → State' → State')
    (kept : ∀ dt state state', related state state' →
      related (advance dt state) (advance' dt state'))
    (remain : α) (state : State) (state' : State') (initially : related state state') :
    related (integrate advance remain state) (integrate advance' remain state') := by
  unfold integrate
  generalize integrationRounds remain = rounds
  induction rounds generalizing remain state state' with
  | zero => exact initially
  | succ rounds inductionHypothesis =>
    rw [integrateLoop_succ, integrateLoop_succ]
    split
    · exact initially
    · exact inductionHypothesis _ _ _ (kept _ _ _ initially)

/-- What every step keeps, the loop keeps. -/
theorem integrate_kept (holds : State → Prop) {advance : α → State → State}
    (kept : ∀ dt state, holds state → holds (advance dt state)) (remain : α) (state : State)
    (initially : holds state) : holds (integrate advance remain state) :=
  integrate_related (fun state _ => holds state) advance (fun _ (_ : Unit) => ())
    (fun dt state _ => kept dt state) remain state () initially

end Integration

/-! ### DeadReckoner -/

structure DeadReckoner (α : Type) [Scalar α] where
  model : BicycleModel α
  maxBlindDistanceM : α
  maxBlindTimeS : α

/-- Where the reckoner is and how far it went blind. The position is unset until it is anchored. -/
structure ReckonerState (α : Type) where
  position : Option (Point α)
  motion : Motion α
  t : α
  ts0 : α
  t0 : α
  blindDistanceM : α
  blindTimeS : α

namespace DeadReckoner

variable (reckoner : DeadReckoner α)

/-- `reset`: no anchor, and a car that stands with straight wheels. -/
def reset : ReckonerState α := ⟨none, ⟨0, 0, 0⟩, 0, 0, 0, 0, 0⟩

def anchored (state : ReckonerState α) : Bool := state.position.isSome

def withinBudget (state : ReckonerState α) : Bool :=
  state.blindDistanceM ≤ reckoner.maxBlindDistanceM ∧ state.blindTimeS ≤ reckoner.maxBlindTimeS

/-- `anchor`: a trusted pose starts the blind distance and time anew; the wheel angle and the
speed are kept. -/
def anchor (pose : LocalizationPose α) (state : ReckonerState α) : ReckonerState α :=
  { state with
    position := some (pose.x, pose.y)
    motion := { state.motion with headingDeg := pose.headingDeg }
    t := pose.receivedMonotonicS
    t0 := pose.receivedMonotonicS
    ts0 := pose.sourceTimestampS
    blindDistanceM := 0
    blindTimeS := 0 }

/-- One step of `propagate`. -/
def advance (targetV wheelCommandDeg dt : α) (state : ReckonerState α) : ReckonerState α :=
  let motion := reckoner.model.advance targetV wheelCommandDeg dt state.motion
  let heading := radians motion.headingDeg
  { state with
    motion := motion
    position := state.position.map fun place =>
      (place.1 + motion.v * cos heading * dt, place.2 + motion.v * sin heading * dt)
    blindDistanceM := state.blindDistanceM + motion.v * dt
    blindTimeS := state.blindTimeS + dt }

/-- `propagate`: on to a later time under a command; without an anchor, or back in time, nothing
happens. -/
def propagate (command : ControlCommand α) (now : α) (state : ReckonerState α) : ReckonerState α :=
  if !anchored state ∨ now ≤ state.t then state
  else
    let targetV := reckoner.model.speedPoints.speed command.throttle
    { integrate (reckoner.advance targetV command.steeringWheelDeg) (now - state.t) state with
      t := now }

/-- Propagating neither sets nor loses the anchor. -/
theorem anchored_propagate (command : ControlCommand α) (now : α) (state : ReckonerState α) :
    anchored (reckoner.propagate command now state) = anchored state := by
  unfold propagate
  split
  · rfl
  · refine integrate_kept (fun later => anchored later = anchored state)
      (fun dt later same => ?_) _ _ rfl
    rw [← same, anchored, anchored, advance, Option.isSome_map]

/-- `predict`: the synthetic timestamp stays 50 ms behind, so that a real pose is newer. -/
def predict (now : α) (state : ReckonerState α) : Option (LocalizationPose α) :=
  state.position.map fun place =>
    ⟨place.1, place.2, pyMod state.motion.headingDeg 360,
      state.ts0 + (state.t - state.t0) - 5 / 100, now⟩

/-- `deviation_m`. -/
def deviationM (point : Point α) (state : ReckonerState α) : α :=
  match state.position with
  | some place => hypot (point.1 - place.1) (point.2 - place.2)
  | none => 0

end DeadReckoner

/-! ### HeadingEstimator -/

/-- `blend_angle`: mix two directions by the shorter way around. -/
def blendAngle (currentDeg targetDeg alpha : α) : α :=
  pyMod (currentDeg + alpha * headingDiffDeg targetDeg currentDeg) 360

structure HeadingEstimator (α : Type) [Scalar α] where
  model : BicycleModel α
  courseMinDistanceM : α
  courseAlpha : α
  markerAlpha : α

/-- The estimated motion, the place the last course was taken from, and the time; unset until the
first pose. -/
structure HeadingState (α : Type) where
  motion : Motion α
  place : Point α
  t : α

namespace HeadingEstimator

variable (estimator : HeadingEstimator α)

/-- `_propagate`. -/
def propagate (command : ControlCommand α) (now : α) (state : HeadingState α) : HeadingState α :=
  if now ≤ state.t then state
  else
    let targetV := estimator.model.speedPoints.speed command.throttle
    let motion := integrate (estimator.model.advance targetV command.steeringWheelDeg)
      (now - state.t) state.motion
    { state with motion := { motion with headingDeg := pyMod motion.headingDeg 360 }, t := now }

/-- `update`: the heading of a pose, from the model, the course driven and, weakly, the marker. -/
def update (pose : LocalizationPose α) (command : ControlCommand α) :
    Option (HeadingState α) → α × HeadingState α
  | none =>
    let heading := pyMod pose.headingDeg 360
    (heading, ⟨⟨0, 0, heading⟩, (pose.x, pose.y), pose.receivedMonotonicS⟩)
  | some state =>
    let state := estimator.propagate command pose.receivedMonotonicS state
    let dx := pose.x - state.place.1
    let dy := pose.y - state.place.2
    if estimator.courseMinDistanceM ≤ hypot dx dy then
      let course := pyMod (degrees (atan2 dy dx)) 360
      let heading := blendAngle state.motion.headingDeg course estimator.courseAlpha
      (heading, { state with
        motion := { state.motion with headingDeg := heading }
        place := (pose.x, pose.y) })
    else
      let heading := blendAngle state.motion.headingDeg pose.headingDeg estimator.markerAlpha
      (heading, { state with motion := { state.motion with headingDeg := heading } })

end HeadingEstimator

/-! ### MotionEstimator -/

/-- The window is checked when the estimator is built. -/
structure MotionEstimator (α : Type) where
  windowPoses : ℕ
  window_ok : 2 ≤ windowPoses
  maxGapS : α

/-- The speeds of the last intervals, oldest first, and the last pose. -/
structure SpeedState (α : Type) where
  samples : List α
  previous : Option (LocalizationPose α)

namespace MotionEstimator

variable (estimator : MotionEstimator α)

def reset : SpeedState α := ⟨[], none⟩

/-- `speed_mps`: the mean of the samples. -/
def speedMps (state : SpeedState α) : α :=
  if state.samples.isEmpty then 0 else state.samples.sum / state.samples.length

/-- `append` on a deque that keeps one sample less than the window has poses. -/
def push (sample : α) (samples : List α) : List α :=
  (samples ++ [sample]).drop (samples.length + 1 - (estimator.windowPoses - 1))

/-- `update`: the new speed; a gap in time empties the window. -/
def update (pose : LocalizationPose α) (state : SpeedState α) : α × SpeedState α :=
  let state' : SpeedState α := match state.previous with
    | none => { state with previous := some pose }
    | some previous =>
      let dt := pose.sourceTimestampS - previous.sourceTimestampS
      if dt ≤ 0 ∨ estimator.maxGapS < dt then ⟨[], some pose⟩
      else ⟨estimator.push (hypot (pose.x - previous.x) (pose.y - previous.y) / dt) state.samples,
        some pose⟩
  (speedMps state', state')

end MotionEstimator

end RcTaxi
