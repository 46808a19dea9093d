/-
This file is about the poses the validator accepts and the service does not adopt. A suspected pose
leaves before anything but the dead reckoner has seen it. A pose the store refuses leaves behind the
heading estimator: the estimate has been made, and only what follows the store (the speed, the time
of the last adoption, the anchor of the reckoner) is left out.

So a refused pose leaves the estimators as they are exactly if there is no heading estimator, or the
estimate it makes is the estimate it has.
-/

import RcTaxi.PoseOrder

namespace RcTaxi

variable {α : Type} [Scalar α]

/-! ### Estimates that stay -/

namespace HeadingEstimator

variable (estimator : HeadingEstimator α)

/-- The pose comes no later than the estimate and is where the last course was taken from, or near
it, and its direction mixed into the heading is the heading. -/
def Keeps (pose : LocalizationPose α) (state : HeadingState α) : Prop :=
  pose.receivedMonotonicS ≤ state.t ∧
    if estimator.courseMinDistanceM ≤ hypot (pose.x - state.place.1) (pose.y - state.place.2) then
      state.place = (pose.x, pose.y) ∧
        blendAngle state.motion.headingDeg
          (pyMod (degrees (atan2 (pose.y - state.place.2) (pose.x - state.place.1))) 360)
          estimator.courseAlpha = state.motion.headingDeg
    else blendAngle state.motion.headingDeg pose.headingDeg estimator.markerAlpha =
      state.motion.headingDeg

variable {estimator}

/-- An estimate is made for the time of the pose, if that is later. -/
theorem update_t {pose : LocalizationPose α} {command : ControlCommand α} {state : HeadingState α}
    (later : state.t < pose.receivedMonotonicS) :
    (estimator.update pose command (some state)).2.t = pose.receivedMonotonicS := by
  have moved : (estimator.propagate command pose.receivedMonotonicS state).t =
      pose.receivedMonotonicS := by
    unfold propagate
    rw [if_neg (not_le.mpr later)]
  unfold update
  dsimp only
  split
  · exact moved
  · exact moved

theorem update_eq_iff {pose : LocalizationPose α} {command : ControlCommand α}
    {state : HeadingState α} :
    (estimator.update pose command (some state)).2 = state ↔ estimator.Keeps pose state := by
  unfold Keeps
  by_cases noLater : pose.receivedMonotonicS ≤ state.t
  · have still : estimator.propagate command pose.receivedMonotonicS state = state := if_pos noLater
    rw [and_iff_right noLater]
    unfold update
    dsimp only
    rw [still]
    obtain ⟨⟨wheelDeg, v, headingDeg⟩, place, t⟩ := state
    split
    next far =>
      constructor
      · intro same
        injection same with sameMotion samePlace
        injection sameMotion with _ _ sameHeading
        exact ⟨samePlace.symm, sameHeading⟩
      · rintro ⟨samePlace, sameHeading⟩
        rw [sameHeading]
        exact congrArg (HeadingState.mk _ · _) samePlace.symm
    next near =>
      constructor
      · intro same
        injection same with sameMotion
        injection sameMotion
      · intro sameHeading
        rw [sameHeading]
  · refine iff_of_false (fun same => ?_) fun keeps => noLater keeps.1
    have moved : (estimator.update pose command (some state)).2.t = pose.receivedMonotonicS :=
      update_t (not_le.mp noLater)
    rw [same] at moved
    exact noLater moved.ge

end HeadingEstimator

/-! ### Poses that are not adopted -/

/-- The estimators, the time of the last adoption, the loss and the store are as they were. -/
structure Untouched (before after : Localization α) : Prop where
  heading : after.heading = before.heading
  speed : after.speed = before.speed
  lastAcceptS : after.lastAcceptS = before.lastAcceptS
  lost : after.lost = before.lost
  store : after.store = before.store

namespace LocalizationService

variable (service : LocalizationService α) {pose : LocalizationPose α} {state : Localization α}

/-- Whether the reckoner suspects the pose or the store refuses it. -/
def Unadopted (pose : LocalizationPose α) (state : Localization α) : Prop :=
  (service.suspect pose state).1 = true ∨ ¬ Newer state pose

/-- A pose is suspected, or there is no heading estimator, or one that stays as it is. -/
def Spares (pose : LocalizationPose α) (state : Localization α) : Prop :=
  (service.suspect pose state).1 = true ∨ service.heading = none ∨
    ∃ estimator estimate, service.heading = some estimator ∧ state.heading = some estimate ∧
      estimator.Keeps pose estimate

/-- The suspicion moves the reckoner only. -/
theorem suspect_untouched (pose : LocalizationPose α) (state : Localization α) :
    Untouched state (service.suspect pose state).2 := by
  rcases suspect_state pose state with same | ⟨tunnel, moved⟩
  · rw [same]
    exact ⟨rfl, rfl, rfl, rfl, rfl⟩
  · rw [moved]
    exact ⟨rfl, rfl, rfl, rfl, rfl⟩

variable {service}

/-- The heading estimator stays as it is exactly if there is none, or the estimate stays. -/
theorem estimateHeading_heading_iff (pose : LocalizationPose α) (state : Localization α) :
    (service.estimateHeading pose state).2.heading = state.heading ↔
      service.heading = none ∨ ∃ estimator estimate, service.heading = some estimator ∧
        state.heading = some estimate ∧ estimator.Keeps pose estimate := by
  unfold estimateHeading
  cases service.heading with
  | none => exact iff_of_true rfl (.inl rfl)
  | some estimator =>
    dsimp only
    cases state.heading with
    | none =>
      refine iff_of_false (fun same => (nomatch same)) ?_
      rintro (without | ⟨_, _, _, unset, _⟩)
      · cases without
      · cases unset
    | some estimate =>
      rw [Option.some.injEq, HeadingEstimator.update_eq_iff]
      constructor
      · exact fun keeps => .inr ⟨estimator, estimate, rfl, rfl, keeps⟩
      · rintro (without | ⟨_, _, isEstimator, isEstimate, keeps⟩)
        · cases without
        · cases isEstimator
          cases isEstimate
          exact keeps

/-- A pose that is not adopted touches nothing exactly if it is suspected or the heading estimate
stays. -/
theorem accept_untouched_iff (unadopted : service.Unadopted pose state) (wall : α) :
    Untouched state (service.accept pose wall state) ↔ service.Spares pose state := by
  have untouched := service.suspect_untouched pose state
  unfold Spares
  cases suspected : (service.suspect pose state).1 with
  | true =>
    rw [accept_suspected suspected]
    exact iff_of_true untouched (.inl rfl)
  | false =>
    have notNewer : ¬ Newer state pose :=
      unadopted.resolve_left (by rw [suspected]; exact Bool.false_ne_true)
    rw [accept_unadopted suspected notNewer, or_iff_right Bool.false_ne_true, ← untouched.heading,
      ← estimateHeading_heading_iff]
    obtain ⟨estimate, headed⟩ := service.estimateHeading_state pose (service.suspect pose state).2
    constructor
    · intro stays
      exact stays.heading.trans untouched.heading.symm
    · intro stays
      rw [headed] at stays ⊢
      exact ⟨stays.trans untouched.heading, untouched.speed, untouched.lastAcceptS, untouched.lost,
        untouched.store⟩

/-! ### Runs -/

/-- In this step nothing is touched by a pose that is accepted and not adopted. -/
def RefusalTouchesNothing (service : LocalizationService α) (policy : CommandPolicy α)
    (state : Localization α) (label : LocalizationLabel α) : Prop :=
  ∀ message now wall pose validator, label = .raw message now wall →
    service.validator.validate state.validator message now = .ok (.accepted pose, validator) →
      service.Unadopted pose state → Untouched state (service.step policy state label)

/-- The estimators are spared by the pose of this step, if it is accepted and not adopted. -/
def RefusalSpared (service : LocalizationService α) (state : Localization α)
    (label : LocalizationLabel α) : Prop :=
  ∀ message now wall pose validator, label = .raw message now wall →
    service.validator.validate state.validator message now = .ok (.accepted pose, validator) →
      service.Unadopted pose state → service.Spares pose state

/-- In every run, the poses that are not adopted touch nothing exactly if each of them is suspected,
or comes without a heading estimator, or leaves the heading estimate as it is. -/
theorem refused_poses_touch_nothing_iff (service : LocalizationService α) (policy : CommandPolicy α)
    (labels : List (LocalizationLabel α)) :
    Transition.Along (service.step policy) (service.RefusalTouchesNothing policy)
        (Localization.start Stack.initial) labels ↔
      Transition.Along (service.step policy) service.RefusalSpared
        (Localization.start Stack.initial) labels := by
  refine Transition.along_congr (fun state label => ?_) _ _
  refine forall_congr' fun message => forall_congr' fun now => forall_congr' fun wall =>
    forall_congr' fun pose => forall_congr' fun validator => forall_congr' fun isRaw =>
      forall_congr' fun accepted => forall_congr' fun unadopted => ?_
  subst isRaw
  have settled : (service.suspect pose { state with validator := validator }).1 =
      (service.suspect pose state).1 := suspect_settled validator
  have unadopted : service.Unadopted pose { state with validator := validator } := by
    unfold Unadopted
    rw [settled]
    exact unadopted
  have judged := accept_untouched_iff unadopted wall
  unfold Spares at judged ⊢
  rw [settled] at judged
  rw [← judged]
  have answered : service.step policy state (.raw message now wall) = _ :=
    onRaw_accepted accepted wall
  rw [answered]
  exact ⟨fun kept => ⟨kept.heading, kept.speed, kept.lastAcceptS, kept.lost, kept.store⟩,
    fun kept => ⟨kept.heading, kept.speed, kept.lastAcceptS, kept.lost, kept.store⟩⟩

/-- A car with a wheelbase of 14 cm. -/
def plainModel : BicycleModel ℚ := ⟨14 / 100, by norm_num, 0, 60, 1 / 2, ⟨(0, 0), [(1, 1)]⟩⟩

/-- The service with a heading estimator. -/
def headedService : LocalizationService ℚ :=
  { plainService with heading := some ⟨plainModel, 4 / 100, 45 / 100, 3 / 100⟩ }

/-- The position is lost behind a pose of the time 100, and the estimate with it. -/
def headlessAtHundred : Localization ℚ :=
  Transition.run (headedService.step ⟨5, 3⟩) (Localization.start Stack.initial)
    [.raw (some (markerSeen 1 1 100)) 0 0, .disconnected 0]

/-- Behind a restart of the server's clock the store refuses a pose, and the heading estimator has
started anew from it. -/
theorem refused_pose_starts_estimate :
    Transition.Reachable (headedService.step ⟨5, 3⟩) (Localization.start Stack.initial)
        headlessAtHundred ∧
      headlessAtHundred.heading.isNone = true ∧
      ¬ headedService.RefusalTouchesNothing ⟨5, 3⟩ headlessAtHundred
        (.raw (some (markerSeen 1 1 1)) 1 1) := by
  refine ⟨⟨_, rfl⟩, by decide +kernel, fun untouched => ?_⟩
  have accepts : acceptsAt 1 (headedService.validator.validate headlessAtHundred.validator
      (some (markerSeen 1 1 1)) 1) = true := by decide +kernel
  obtain ⟨pose, validator, accepted, time⟩ := exists_accepted _ accepts
  have older : ¬ Newer headlessAtHundred pose := by
    have stored : headlessAtHundred.store.pose.map LocalizationPose.sourceTimestampS =
        some 100 := by
      decide +kernel
    obtain ⟨stored, held, at100⟩ := Option.map_eq_some_iff.mp stored
    intro newer
    have before := newer stored held
    rw [time, at100] at before
    norm_num at before
  have kept := untouched _ _ _ pose validator rfl accepted (.inr older)
  have started : (headedService.step ⟨5, 3⟩ headlessAtHundred
      (.raw (some (markerSeen 1 1 1)) 1 1)).heading.isSome = true := by decide +kernel
  have unset : headlessAtHundred.heading.isSome = false := by decide +kernel
  rw [kept.heading, unset] at started
  cases started

end LocalizationService

end RcTaxi
