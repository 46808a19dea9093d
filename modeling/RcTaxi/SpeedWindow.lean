/-
This file describes the estimated speed by the whole history of the motion estimator. The poses
since the last reset make intervals; the last of them that are continuous in time, up to the window,
are the ones whose speeds contribute, and the estimate is their mean.
-/

import RcTaxi.DeadReckoner

namespace RcTaxi

variable {α : Type} [Scalar α]

namespace MotionEstimator

/-! ### Histories -/

/-- A call of the estimator. -/
inductive Call (α : Type)
  | update (pose : LocalizationPose α)
  | reset

/-- The pose of an update. -/
def Call.pose? {α : Type} : Call α → Option (LocalizationPose α)
  | .update pose => some pose
  | .reset => none

variable (estimator : MotionEstimator α)

def call (state : SpeedState α) : Call α → SpeedState α
  | .update pose => (estimator.update pose state).2
  | .reset => MotionEstimator.reset

/-- The state of a new estimator behind some calls. -/
def after (calls : List (Call α)) : SpeedState α := calls.foldl estimator.call reset

/-- The poses since the last reset. -/
def posesSinceReset (calls : List (Call α)) : List (LocalizationPose α) :=
  (calls.rtakeWhile fun call => call.pose?.isSome).filterMap Call.pose?

/-- The intervals between consecutive poses. -/
def intervals (poses : List (LocalizationPose α)) :
    List (LocalizationPose α × LocalizationPose α) := poses.zip poses.tail

/-- The time between the two poses, by their own timestamps. -/
def duration (interval : LocalizationPose α × LocalizationPose α) : α :=
  interval.2.sourceTimestampS - interval.1.sourceTimestampS

/-- Time goes on in the interval, and not too far. -/
def continuous (interval : LocalizationPose α × LocalizationPose α) : Bool :=
  0 < duration interval ∧ duration interval ≤ estimator.maxGapS

/-- The distance between the two poses over the time between them. -/
def intervalSpeed (interval : LocalizationPose α × LocalizationPose α) : α :=
  hypot (interval.2.x - interval.1.x) (interval.2.y - interval.1.y) / duration interval

/-- The intervals since the last reset or discontinuous interval. -/
def unbroken (calls : List (Call α)) : List (LocalizationPose α × LocalizationPose α) :=
  (intervals (posesSinceReset calls)).rtakeWhile estimator.continuous

/-- The speeds that contribute: the last ones of the unbroken intervals, one less than the window
has poses. -/
def contributing (calls : List (Call α)) : List α :=
  ((estimator.unbroken calls).map intervalSpeed).rtake (estimator.windowPoses - 1)

/-- The arithmetic mean, zero for no value. -/
def mean (values : List α) : α := if values = [] then 0 else values.sum / values.length

/-! ### One more call -/

omit [Scalar α] in
theorem posesSinceReset_update (calls : List (Call α)) (pose : LocalizationPose α) :
    posesSinceReset (calls ++ [.update pose]) = posesSinceReset calls ++ [pose] := by
  unfold posesSinceReset
  rw [List.rtakeWhile_concat_pos _ _ _ rfl, List.filterMap_append]
  rfl

omit [Scalar α] in
theorem posesSinceReset_reset (calls : List (Call α)) :
    posesSinceReset (calls ++ [.reset]) = [] := by
  unfold posesSinceReset
  rw [List.rtakeWhile_concat_neg _ _ _ Bool.false_ne_true]
  rfl

omit [Scalar α] in
theorem intervals_concat (poses : List (LocalizationPose α)) (last pose : LocalizationPose α) :
    intervals (poses ++ [last] ++ [pose]) = intervals (poses ++ [last]) ++ [(last, pose)] := by
  unfold intervals
  induction poses with
  | nil => rfl
  | cons first rest inductionHypothesis =>
    cases rest with
    | nil => rfl
    | cons second rest => exact congrArg ((first, second) :: ·) inductionHypothesis

theorem rtake_rtake_succ {Item : Type} (items : List Item) (count : ℕ) :
    (items.rtake (count + 1)).rtake count = items.rtake count := by
  rw [List.rtake_eq_reverse_take_reverse, List.rtake_eq_reverse_take_reverse,
    List.rtake_eq_reverse_take_reverse, List.reverse_reverse, List.take_take,
    Nat.min_eq_left (Nat.le_succ count)]

omit [Scalar α] in
/-- Appending to the deque keeps the last samples. -/
theorem push_rtake (sample : α) (speeds : List α) :
    estimator.push sample (speeds.rtake (estimator.windowPoses - 1)) =
      (speeds ++ [sample]).rtake (estimator.windowPoses - 1) := by
  obtain ⟨count, window⟩ : ∃ count, estimator.windowPoses - 1 = count + 1 :=
    ⟨estimator.windowPoses - 2, by have := estimator.window_ok; omega⟩
  have kept : ∀ samples : List α, estimator.push sample samples =
      (samples ++ [sample]).rtake (count + 1) := by
    intro samples
    unfold push List.rtake
    rw [window, List.length_append, List.length_singleton]
  rw [kept, window, List.rtake_concat_succ, List.rtake_concat_succ, rtake_rtake_succ]

theorem contributing_nil {calls : List (Call α)} (none : intervals (posesSinceReset calls) = []) :
    estimator.contributing calls = [] := by
  unfold contributing unbroken
  rw [none, List.rtakeWhile_nil, List.map_nil, List.rtake_nil]

/-- One more interval without a break: its speed is appended to the deque. -/
theorem contributing_concat {calls more : List (Call α)}
    {interval : LocalizationPose α × LocalizationPose α}
    (longer : intervals (posesSinceReset more) =
      intervals (posesSinceReset calls) ++ [interval])
    (continues : estimator.continuous interval = true) :
    estimator.contributing more =
      estimator.push (intervalSpeed interval) (estimator.contributing calls) := by
  unfold contributing unbroken
  rw [longer, List.rtakeWhile_concat_pos _ _ _ continues, List.map_append, List.map_singleton,
    push_rtake]

/-- One more interval with a break: nothing contributes. -/
theorem contributing_break {calls more : List (Call α)}
    {interval : LocalizationPose α × LocalizationPose α}
    (longer : intervals (posesSinceReset more) =
      intervals (posesSinceReset calls) ++ [interval])
    (breaks : ¬ estimator.continuous interval = true) : estimator.contributing more = [] := by
  unfold contributing unbroken
  rw [longer, List.rtakeWhile_concat_neg _ _ _ breaks, List.map_nil, List.rtake_nil]

theorem after_concat (calls : List (Call α)) (last : Call α) :
    estimator.after (calls ++ [last]) = estimator.call (estimator.after calls) last := by
  unfold after
  rw [List.foldl_append, List.foldl_cons, List.foldl_nil]

/-- The state behind some calls: the last pose since the last reset, and the speeds that
contribute. -/
theorem after_eq (calls : List (Call α)) :
    estimator.after calls =
      ⟨estimator.contributing calls, (posesSinceReset calls).getLast?⟩ := by
  induction calls using List.reverseRecOn with
  | nil =>
    rw [estimator.contributing_nil rfl]
    rfl
  | append_singleton calls last inductionHypothesis =>
    rw [after_concat, inductionHypothesis]
    cases last with
    | reset =>
      have none := posesSinceReset_reset calls
      have dropped : estimator.contributing (calls ++ [.reset]) = [] :=
        estimator.contributing_nil (by rw [none]; rfl)
      rw [dropped, none]
      rfl
    | update pose =>
      have more := posesSinceReset_update calls pose
      rcases List.eq_nil_or_concat' (posesSinceReset calls) with none | ⟨poses, previous, some⟩
      · have before : estimator.contributing calls = [] :=
          estimator.contributing_nil (by rw [none]; rfl)
        have behind : estimator.contributing (calls ++ [.update pose]) = [] :=
          estimator.contributing_nil (by rw [more, none]; rfl)
        rw [before, behind, more, none]
        rfl
      · have longer : intervals (posesSinceReset (calls ++ [.update pose])) =
            intervals (posesSinceReset calls) ++ [(previous, pose)] := by
          rw [more, some]
          exact intervals_concat poses previous pose
        rw [some, List.getLast?_concat, more, List.getLast?_concat, call, update]
        dsimp only
        split
        next broken =>
          have breaks : ¬ estimator.continuous (previous, pose) = true := fun continues =>
            broken.elim (of_decide_eq_true continues).1.not_ge
              (of_decide_eq_true continues).2.not_gt
          rw [estimator.contributing_break longer breaks]
        next whole =>
          have continues : estimator.continuous (previous, pose) = true :=
            decide_eq_true ⟨not_le.mp fun back => whole (Or.inl back),
              not_lt.mp fun gap => whole (Or.inr gap)⟩
          rw [estimator.contributing_concat longer continues]
          rfl

/-! ### The mean -/

theorem speedMps_eq_mean (state : SpeedState α) : speedMps state = mean state.samples := by
  unfold speedMps mean
  cases state.samples <;> rfl

theorem mean_nonneg {values : List α} (nonneg : ∀ value ∈ values, 0 ≤ value) :
    0 ≤ mean values := by
  unfold mean
  split
  · exact le_refl 0
  · exact div_nonneg (List.sum_nonneg nonneg) (Nat.cast_nonneg _)

/-- Some value is at least as large as the mean. -/
theorem exists_mean_le {values : List α} (some : values ≠ []) :
    ∃ value ∈ values, mean values ≤ value := by
  have count : (values.length : α) ≠ 0 :=
    Nat.cast_ne_zero.mpr (List.length_pos_iff.mpr some).ne'
  refine List.exists_le_of_sum_le some (fun _ => mean values) (fun value => value) (le_of_eq ?_)
  rw [List.map_const', List.sum_replicate, nsmul_eq_mul, List.map_id', mean, if_neg some,
    mul_div_cancel₀ _ count]

/-- The estimated speed is the mean of the last interval speeds since the last reset or
discontinuous interval, and lies between zero and the largest of them. -/
theorem speedMps_eq_windowed_mean [LawfulHypot α] (calls : List (Call α)) :
    speedMps (estimator.after calls) = mean (estimator.contributing calls) ∧
      (estimator.contributing calls).length =
        min (estimator.windowPoses - 1) (estimator.unbroken calls).length ∧
      0 ≤ speedMps (estimator.after calls) ∧
      (estimator.contributing calls ≠ [] → ∃ speed ∈ estimator.contributing calls,
        speedMps (estimator.after calls) ≤ speed) := by
  have windowed : speedMps (estimator.after calls) = mean (estimator.contributing calls) := by
    rw [after_eq, speedMps_eq_mean]
  refine ⟨windowed, ?_, ?_, fun some => ?_⟩
  · unfold contributing List.rtake
    rw [List.length_drop, List.length_map]
    omega
  · rw [windowed]
    refine mean_nonneg fun speed member => ?_
    obtain ⟨interval, inRun, rfl⟩ := List.mem_map.mp (List.mem_of_mem_drop member)
    have continues : estimator.continuous interval = true := List.mem_rtakeWhile_imp inRun
    exact div_nonneg (hypot_nonneg _ _) (of_decide_eq_true continues).1.le
  · rw [windowed]
    exact exists_mean_le some

/-- Four poses with a gap behind the first: two intervals contribute to a window of three poses, and
the jump over the gap does not. -/
theorem speedMps_eq_windowed_mean_gap :
    speedMps ((⟨3, by decide, 1⟩ : MotionEstimator ℚ).after
        [.update ⟨9, 9, 0, 0, 0⟩, .update ⟨0, 0, 0, 5, 5⟩, .update ⟨1, 0, 0, 6, 6⟩,
          .update ⟨1, 3, 0, 7, 7⟩]) = 2 ∧
      0 ≤ speedMps ((⟨3, by decide, 1⟩ : MotionEstimator ℚ).after
        [.update ⟨9, 9, 0, 0, 0⟩, .update ⟨0, 0, 0, 5, 5⟩, .update ⟨1, 0, 0, 6, 6⟩,
          .update ⟨1, 3, 0, 7, 7⟩]) := by
  have windowed := speedMps_eq_windowed_mean (⟨3, by decide, 1⟩ : MotionEstimator ℚ)
    [.update ⟨9, 9, 0, 0, 0⟩, .update ⟨0, 0, 0, 5, 5⟩, .update ⟨1, 0, 0, 6, 6⟩,
      .update ⟨1, 3, 0, 7, 7⟩]
  refine ⟨windowed.1.trans ?_, windowed.2.2.1⟩
  decide +kernel

end MotionEstimator

end RcTaxi
