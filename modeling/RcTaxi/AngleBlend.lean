/-
This file is about the mixing of two directions in `localization/heading_estimator.py`. The error
between them is taken modulo 360 into the half-open interval from -180 to 180, so it is a shortest
arc from the current direction to the target, also where the two are opposite, and a blend moves by
a fraction of that arc.

An update of the estimator moves the heading by the bicycle model and then corrects it by one blend,
towards the course driven or towards the marker. Between two propagations the corrections are all
that moves the heading.
-/

import RcTaxi.DeadReckoner
import RcTaxi.PoseChain
import RcTaxi.Transition

namespace RcTaxi

variable {α : Type} [Scalar α]

/-! ### One blend -/

/-- The wrapped error leads from the one direction to the other, up to whole turns. -/
theorem exists_add_headingDiffDeg (current target : α) :
    ∃ turns : ℤ, current + headingDiffDeg target current = target + 360 * turns := by
  refine ⟨-⌊(target - current + 180) / 360⌋, ?_⟩
  rw [headingDiffDeg, pyMod]
  push_cast
  ring

theorem circularDistance_pyMod (a b : α) :
    circularDistance 360 (pyMod a 360) b = circularDistance 360 a b := by
  have unwrapped : pyMod a 360 = a + 360 * ((-⌊a / 360⌋ : ℤ) : α) := by
    rw [pyMod]
    push_cast
    ring
  rw [unwrapped, circularDistance_add_turns degrees_turn_pos]

section Blend

variable (current target : α) {alpha : α} (nonneg : 0 ≤ alpha) (atMost : alpha ≤ 1)

include nonneg atMost

/-- A blend leaves the rest of the distance to the target. -/
theorem circularDistance_blendAngle_target :
    circularDistance 360 (blendAngle current target alpha) target =
      (1 - alpha) * circularDistance 360 current target := by
  obtain ⟨turns, reached⟩ := exists_add_headingDiffDeg current target
  have moved := circularDistance_end degrees_turn_pos current
    (abs_headingDiffDeg_le target current) nonneg atMost
  rw [reached, circularDistance_turns_add degrees_turn_pos,
    circularDistance_turns_add degrees_turn_pos] at moved
  rw [blendAngle, circularDistance_pyMod]
  exact moved

/-- A blend moves by its fraction of the distance to the target. -/
theorem circularDistance_blendAngle_current :
    circularDistance 360 (blendAngle current target alpha) current =
      alpha * circularDistance 360 current target := by
  obtain ⟨turns, reached⟩ := exists_add_headingDiffDeg current target
  have moved := circularDistance_start degrees_turn_pos current
    (abs_headingDiffDeg_le target current) nonneg atMost
  rw [reached, circularDistance_turns_add degrees_turn_pos] at moved
  rw [blendAngle, circularDistance_pyMod]
  exact moved

/-- A blend towards a target, or towards a direction whole turns away from it, comes no further away
from it. -/
theorem circularDistance_blendAngle_le {towards : α}
    (same : circularDistance 360 towards target = 0) :
    circularDistance 360 (blendAngle current towards alpha) target ≤
      circularDistance 360 current target := by
  have turns : ∃ turns : ℤ, target = towards + 360 * turns := by
    refine ⟨-round ((towards - target) / 360), ?_⟩
    have zero := abs_eq_zero.mp same
    push_cast
    linarith only [zero]
  obtain ⟨turns, rfl⟩ := turns
  rw [circularDistance_turns_add degrees_turn_pos, circularDistance_turns_add degrees_turn_pos,
    circularDistance_blendAngle_target current towards nonneg atMost]
  exact mul_le_of_le_one_left (circularDistance_nonneg _ _ _) (sub_le_self _ nonneg)

end Blend

/-! ### Corrections between two propagations -/

namespace HeadingEstimator

variable (estimator : HeadingEstimator α)

/-- The direction an update corrects towards: the course from where the last one was taken once the
car has driven far enough, and the marker before. -/
def correctionTarget (pose : LocalizationPose α) (state : HeadingState α) : α :=
  let dx := pose.x - state.place.1
  let dy := pose.y - state.place.2
  if estimator.courseMinDistanceM ≤ hypot dx dy then pyMod (degrees (atan2 dy dx)) 360
  else pose.headingDeg

/-- How much of it is mixed in. -/
def correctionAlpha (pose : LocalizationPose α) (state : HeadingState α) : α :=
  if estimator.courseMinDistanceM ≤ hypot (pose.x - state.place.1) (pose.y - state.place.2) then
    estimator.courseAlpha
  else estimator.markerAlpha

/-- An update of an estimator that is initialised. -/
def corrected (state : HeadingState α) (update : LocalizationPose α × ControlCommand α) :
    HeadingState α :=
  (estimator.update update.1 update.2 (some state)).2

theorem place_propagate (command : ControlCommand α) (now : α) (state : HeadingState α) :
    (estimator.propagate command now state).place = state.place := by
  unfold propagate
  split
  · rfl
  · rfl

theorem propagate_of_le (command : ControlCommand α) {now : α} {state : HeadingState α}
    (past : now ≤ state.t) : estimator.propagate command now state = state := if_pos past

/-- An update is one blend behind the propagation. -/
theorem headingDeg_corrected (state : HeadingState α)
    (update : LocalizationPose α × ControlCommand α) :
    (estimator.corrected state update).motion.headingDeg =
      blendAngle
        (estimator.propagate update.2 update.1.receivedMonotonicS state).motion.headingDeg
        (estimator.correctionTarget update.1 state) (estimator.correctionAlpha update.1 state) := by
  unfold corrected HeadingEstimator.update correctionTarget correctionAlpha
  dsimp only
  rw [place_propagate]
  split
  · rfl
  · rfl

/-- The mixing ratios are fractions. -/
structure MixesFractions : Prop where
  course : 0 ≤ estimator.courseAlpha ∧ estimator.courseAlpha ≤ 1
  marker : 0 ≤ estimator.markerAlpha ∧ estimator.markerAlpha ≤ 1

theorem MixesFractions.correctionAlpha {estimator : HeadingEstimator α}
    (fractions : MixesFractions estimator) (pose : LocalizationPose α) (state : HeadingState α) :
    0 ≤ estimator.correctionAlpha pose state ∧ estimator.correctionAlpha pose state ≤ 1 := by
  unfold HeadingEstimator.correctionAlpha
  split
  · exact fractions.course
  · exact fractions.marker

/-- The update comes before the next propagation, and corrects towards the target or a direction
whole turns away from it. -/
def CorrectsTowards (target : α) (state : HeadingState α)
    (update : LocalizationPose α × ControlCommand α) : Prop :=
  update.1.receivedMonotonicS ≤ state.t ∧
    circularDistance 360 (estimator.correctionTarget update.1 state) target = 0

/-- A correction does not lead away from the target it corrects towards. -/
theorem corrected_le (fractions : MixesFractions estimator) {target : α} (state : HeadingState α)
    (update : LocalizationPose α × ControlCommand α)
    (towards : circularDistance 360 (estimator.correctionTarget update.1 state) target = 0) :
    circularDistance 360 (estimator.corrected state update).motion.headingDeg target ≤
      circularDistance 360
        (estimator.propagate update.2 update.1.receivedMonotonicS state).motion.headingDeg
        target := by
  obtain ⟨nonneg, atMost⟩ := fractions.correctionAlpha update.1 state
  rw [headingDeg_corrected]
  exact circularDistance_blendAngle_le _ _ nonneg atMost towards

/-- Nor do corrections towards one target, however many. -/
theorem run_corrected_le (fractions : MixesFractions estimator) {target : α}
    (state : HeadingState α) (updates : List (LocalizationPose α × ControlCommand α))
    (along : Transition.Along estimator.corrected (estimator.CorrectsTowards target) state
      updates) :
    circularDistance 360
        (Transition.run estimator.corrected state updates).motion.headingDeg target ≤
      circularDistance 360 state.motion.headingDeg target := by
  induction updates generalizing state with
  | nil => exact le_rfl
  | cons update rest inductionHypothesis =>
    obtain ⟨⟨past, towards⟩, later⟩ := along
    have once := estimator.corrected_le fractions state update towards
    rw [estimator.propagate_of_le update.2 past] at once
    exact (inductionHypothesis _ later).trans once

end HeadingEstimator

/-- A blend of any two directions lies between 0 and 360, the rest of the distance from the target
and the fraction of it from where it started; and corrections of the estimator that come between
two propagations, towards one target, never lead further away from it. -/
theorem blends_contract :
    (∀ current target alpha : α, 0 ≤ alpha → alpha ≤ 1 →
      (0 ≤ blendAngle current target alpha ∧ blendAngle current target alpha < 360) ∧
      circularDistance 360 (blendAngle current target alpha) target =
        (1 - alpha) * circularDistance 360 current target ∧
      circularDistance 360 (blendAngle current target alpha) current =
        alpha * circularDistance 360 current target) ∧
    ∀ estimator : HeadingEstimator α, estimator.MixesFractions →
      ∀ (target : α) (state : HeadingState α),
        (∀ update, circularDistance 360 (estimator.correctionTarget update.1 state) target = 0 →
          circularDistance 360 (estimator.corrected state update).motion.headingDeg target ≤
            circularDistance 360
              (estimator.propagate update.2 update.1.receivedMonotonicS state).motion.headingDeg
              target) ∧
        ∀ earlier later, Transition.Along estimator.corrected (estimator.CorrectsTowards target)
            state (earlier ++ later) →
          circularDistance 360
              (Transition.run estimator.corrected state (earlier ++ later)).motion.headingDeg
              target ≤
            circularDistance 360
              (Transition.run estimator.corrected state earlier).motion.headingDeg target := by
  refine ⟨fun current target alpha nonneg atMost => ⟨pyMod_360 _, ?_, ?_⟩,
    fun estimator fractions target state => ⟨fun update towards => ?_,
      fun earlier later along => ?_⟩⟩
  · exact circularDistance_blendAngle_target current target nonneg atMost
  · exact circularDistance_blendAngle_current current target nonneg atMost
  · exact estimator.corrected_le fractions state update towards
  · rw [Transition.run_append]
    exact estimator.run_corrected_le fractions _ later
      (Transition.along_append.mp along).2

/-- An estimator on the grid that mixes in half of the course and a tenth of the marker. -/
def gridEstimator : HeadingEstimator ℚ where
  model := ⟨1, one_pos, 0, 0, 0, ⟨(0, 0), []⟩⟩
  courseMinDistanceM := 1
  courseAlpha := 1 / 2
  markerAlpha := 1 / 10

/-- Two directions opposite each other, and a heading of 350 degrees that is corrected by a course
to the north and then by a marker to the north. -/
theorem blends_contract_north :
    ((0 ≤ blendAngle 270 (90 : ℚ) (1 / 2) ∧ blendAngle 270 (90 : ℚ) (1 / 2) < 360) ∧
      circularDistance 360 (blendAngle 270 (90 : ℚ) (1 / 2)) 90 =
        (1 - 1 / 2) * circularDistance 360 270 90 ∧
      circularDistance 360 (blendAngle 270 (90 : ℚ) (1 / 2)) 270 =
        1 / 2 * circularDistance 360 270 90) ∧
    circularDistance 360 (Transition.run gridEstimator.corrected ⟨⟨0, 0, 350⟩, (0, 0), 5⟩
        ([(⟨0, 2, 0, 0, 5⟩, ⟨0, 0⟩)] ++ [(⟨0, 2, 450, 0, 5⟩, ⟨0, 0⟩)])).motion.headingDeg 90 ≤
      circularDistance 360 (Transition.run gridEstimator.corrected ⟨⟨0, 0, 350⟩, (0, 0), 5⟩
        [(⟨0, 2, 0, 0, 5⟩, ⟨0, 0⟩)]).motion.headingDeg 90 :=
  ⟨blends_contract.1 270 90 (1 / 2) (by norm_num) (by norm_num),
    (blends_contract.2 gridEstimator
      ⟨⟨by decide +kernel, by decide +kernel⟩, by decide +kernel, by decide +kernel⟩ 90
      ⟨⟨0, 0, 350⟩, (0, 0), 5⟩).2 [(⟨0, 2, 0, 0, 5⟩, ⟨0, 0⟩)] [(⟨0, 2, 450, 0, 5⟩, ⟨0, 0⟩)]
      ⟨⟨by decide +kernel, by decide +kernel⟩, ⟨by decide +kernel, by decide +kernel⟩, trivial⟩⟩

end RcTaxi
