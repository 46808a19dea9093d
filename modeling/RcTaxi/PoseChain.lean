/-
This file is about the poses a validator accepts between two resets. Each is compared to the one
accepted before it, with a tolerance that grows with the time between the two, so that the poses
form a chain of bounded steps. A distance that obeys the triangle inequality is then bounded along
the chain by the sum of the tolerances, and the shortest angle between two directions obeys it too.

A message that is not accepted leaves the memory of the validator as it is: whether it came at all
has no influence on what is accepted of the others.
-/

import RcTaxi.CircularDistance
import RcTaxi.PoseOrder

namespace RcTaxi

/-! ### Chains of bounded steps -/

section Chains

variable {Place α : Type} [AddCommMonoid α]

/-- The sum of the costs of the steps of a path. -/
def pathSum (cost : Place → Place → α) : List Place → α
  | [] => 0
  | [_] => 0
  | first :: second :: rest => cost first second + pathSum cost (second :: rest)

theorem pathSum_singleton (cost : Place → Place → α) (place : Place) :
    pathSum cost [place] = 0 := rfl

theorem pathSum_cons_cons (cost : Place → Place → α) (first second : Place) (rest : List Place) :
    pathSum cost (first :: second :: rest) = cost first second + pathSum cost (second :: rest) :=
  rfl

variable {distance cost : Place → Place → α}

/-- Along a chain of bounded steps the distance of the ends is at most the sum of the bounds. -/
theorem le_pathSum [PartialOrder α] [IsOrderedAddMonoid α]
    (triangle : ∀ first second third,
      distance first third ≤ distance first second + distance second third)
    {first last : Place} {between : List Place}
    (chain : (first :: (between ++ [last])).IsChain fun before after =>
      distance before after ≤ cost before after) :
    distance first last ≤ pathSum cost (first :: (between ++ [last])) := by
  induction between generalizing first with
  | nil =>
    have step := (List.isChain_cons_cons.mp chain).1
    rw [List.nil_append, pathSum_cons_cons, pathSum_singleton, add_zero]
    exact step
  | cons next between inductionHypothesis =>
    obtain ⟨step, rest⟩ := List.isChain_cons_cons.mp chain
    rw [List.cons_append, pathSum_cons_cons]
    exact (triangle first next last).trans (add_le_add step (inductionHypothesis rest))

end Chains

/-- A common factor of the costs is a factor of their sum. -/
theorem pathSum_mul {Place α : Type} [NonUnitalNonAssocSemiring α] (factor : α)
    (cost : Place → Place → α) (path : List Place) :
    pathSum (fun before after => factor * cost before after) path = factor * pathSum cost path := by
  induction path with
  | nil => exact (mul_zero factor).symm
  | cons first rest inductionHypothesis =>
    cases rest with
    | nil => exact (mul_zero factor).symm
    | cons second rest =>
      rw [pathSum_cons_cons, pathSum_cons_cons, inductionHypothesis, mul_add]

variable {α : Type} [Scalar α]

/-! ### The shortest angle between two directions -/

theorem pyMod_360 (x : α) : 0 ≤ pyMod x 360 ∧ pyMod x 360 < 360 := by
  have below := Int.floor_le (x / 360)
  have above := Int.lt_floor_add_one (x / 360)
  rw [le_div_iff₀ (by norm_num)] at below
  rw [div_lt_iff₀ (by norm_num)] at above
  unfold pyMod
  constructor
  · linarith only [below]
  · linarith only [above]

theorem degrees_turn_pos : (0 : α) < 360 := by norm_num

/-- The wrapped difference is at most half a turn, also at the cut. -/
theorem abs_headingDiffDeg_le (a b : α) : |headingDiffDeg a b| ≤ 360 / 2 := by
  obtain ⟨nonneg, below⟩ := pyMod_360 (a - b + 180)
  have half : (360 : α) / 2 = 180 := by norm_num
  rw [half, headingDiffDeg]
  exact abs_le.mpr ⟨by linarith only [nonneg], by linarith only [below]⟩

/-- The shortest angle between two headings is their distance on the circle. -/
theorem headingDeltaDeg_eq (a b : α) : headingDeltaDeg a b = circularDistance 360 a b := by
  have arc : headingDiffDeg a b = a - b - 360 * ⌊(a - b + 180) / 360⌋ := by
    rw [headingDiffDeg, pyMod]
    ring
  have short := abs_headingDiffDeg_le a b
  rw [arc] at short
  rw [headingDeltaDeg, arc, circularDistance_eq degrees_turn_pos short]

theorem headingDeltaDeg_triangle (a b c : α) :
    headingDeltaDeg a c ≤ headingDeltaDeg a b + headingDeltaDeg b c := by
  rw [headingDeltaDeg_eq, headingDeltaDeg_eq, headingDeltaDeg_eq]
  exact circularDistance_triangle degrees_turn_pos a b c

/-! ### One accepted pose -/

namespace PoseValidator

variable (validator : PoseValidator α)

/-- The factor of the tolerances for the time between two poses. -/
def toleranceScale (before after : LocalizationPose α) : α :=
  max 1 ((after.sourceTimestampS - before.sourceTimestampS) / validator.nominalDtS)

/-- How far apart two poses are. -/
def poseDistance (before after : LocalizationPose α) : α :=
  hypot (after.x - before.x) (after.y - before.y)

/-- How far the car has turned between two poses, at least. -/
def poseTurn (before after : LocalizationPose α) : α :=
  headingDeltaDeg after.headingDeg before.headingDeg

/-- What is known of an accepted pose by itself. -/
structure Placed (pose : LocalizationPose α) : Prop where
  xOnMap : 0 ≤ pose.x ∧ pose.x ≤ validator.mapXMax
  yOnMap : 0 ≤ pose.y ∧ pose.y ≤ validator.mapYMax
  heading : 0 ≤ pose.headingDeg ∧ pose.headingDeg < 360

/-- What is known of an accepted pose behind the one accepted before it. -/
structure Follows (before after : LocalizationPose α) : Prop where
  newer : before.sourceTimestampS < after.sourceTimestampS
  near : poseDistance before after ≤ validator.maxJumpM * validator.toleranceScale before after
  turned : poseTurn before after ≤
    validator.maxHeadingJumpDeg * validator.toleranceScale before after

variable {validator} {state next : ValidatorState α}

/-- What a call that accepts a pose has checked. -/
structure Accepts (validator : PoseValidator α) (state : ValidatorState α) (received : α)
    (pose : LocalizationPose α) (next : ValidatorState α) : Prop where
  remembered : next.previous = some pose
  receivedAt : pose.receivedMonotonicS = received
  placed : validator.Placed pose
  newer : ∀ previous, state.previous = some previous →
    previous.sourceTimestampS < pose.sourceTimestampS
  unjumped : validator.cube = none → ∀ previous, state.previous = some previous →
    validator.jumps previous pose = .ok false

omit [Scalar α] in
/-- Only a pose that is not judged a jump is accepted. -/
theorem accepted_of_verdict {judged : Except PyError Bool} {pose accepted : LocalizationPose α}
    {face : Option ℤ}
    (verdict : (judged >>= fun jumped =>
      (if jumped = true then pure (.rejected .jump, state)
        else pure (.accepted pose, ⟨some pose, face⟩) :
        Except PyError (PoseResult α × ValidatorState α))) = .ok (.accepted accepted, next)) :
    judged = .ok false ∧ accepted = pose ∧ next = ⟨some pose, face⟩ := by
  obtain ⟨jumped, done, result⟩ := bind_eq_ok.mp verdict
  cases jumped with
  | true => cases result
  | false =>
    cases result
    exact ⟨done, rfl, rfl⟩

theorem checkPose_accepts {face : Option ℤ} {offset timestamp received : α} {point : Point α}
    {heading : α} {pose : LocalizationPose α}
    (checked : validator.checkPose state face offset timestamp received point heading =
      .ok (.accepted pose, next)) :
    validator.Accepts state received pose next := by
  unfold checkPose at checked
  split at checked
  · cases checked
  next inOrder =>
    dsimp only at checked
    split at checked
    · cases checked
    next notOutside =>
      obtain ⟨onMapX, onMapY⟩ := not_not.mp notOutside
      split at checked
      next previous remembered =>
        have newer : previous.sourceTimestampS < timestamp := by
          rw [remembered] at inOrder
          exact not_le.mp fun late => inOrder (decide_eq_true late)
        split at checked
        next sameFace =>
          obtain ⟨judged, rfl, rfl⟩ := accepted_of_verdict checked
          refine ⟨rfl, rfl, ⟨onMapX, onMapY, pyMod_360 _⟩, ?_, ?_⟩
          · intro other same
            cases remembered.symm.trans same
            exact newer
          · intro _ other same
            cases remembered.symm.trans same
            exact judged
        next otherFace =>
          obtain ⟨-, rfl, rfl⟩ := accepted_of_verdict checked
          refine ⟨rfl, rfl, ⟨onMapX, onMapY, pyMod_360 _⟩, ?_, ?_⟩
          · intro other same
            cases remembered.symm.trans same
            exact newer
          · intro noCube
            rw [noCube] at otherFace
            exact absurd rfl otherFace
      next forgotten =>
        obtain ⟨-, rfl, rfl⟩ := accepted_of_verdict checked
        refine ⟨rfl, rfl, ⟨onMapX, onMapY, pyMod_360 _⟩, ?_, ?_⟩
        · intro previous remembered
          cases forgotten.symm.trans remembered
        · intro _ previous remembered
          cases forgotten.symm.trans remembered

theorem validate_accepts {message : Option (PyValue α)} {received : α} {pose : LocalizationPose α}
    (validated : validator.validate state message received = .ok (.accepted pose, next)) :
    validator.Accepts state received pose next := by
  unfold validate at validated
  split at validated
  · cases validated
  · split at validated
    · cases validated
    · obtain ⟨marker, -, behindMarker⟩ := bind_eq_ok.mp validated
      cases marker with
      | none => cases behindMarker
      | some marker =>
        obtain ⟨timestamp, -, behindTime⟩ := bind_eq_ok.mp behindMarker
        cases timestamp with
        | none => cases behindTime
        | some timestamp =>
          dsimp only at behindTime
          split at behindTime
          · cases behindTime
          · obtain ⟨place, -, behindPlace⟩ := bind_eq_ok.mp behindTime
            cases place with
            | none => cases behindPlace
            | some place => exact checkPose_accepts behindPlace

/-- A pose that is not judged a jump is within the tolerances. -/
theorem within_of_unjumped {previous pose : LocalizationPose α}
    (unjumped : validator.jumps previous pose = .ok false) :
    poseDistance previous pose ≤ validator.maxJumpM * validator.toleranceScale previous pose ∧
      poseTurn previous pose ≤
        validator.maxHeadingJumpDeg * validator.toleranceScale previous pose := by
  unfold jumps at unjumped
  split at unjumped
  · cases unjumped
  · have notFar := of_decide_eq_false (Except.ok.inj unjumped)
    rw [not_or, not_lt, not_lt] at notFar
    exact notFar

/-! ### Sequences of calls -/

/-- A call of `validate`: the decoded text and the time it was received at. -/
abbrev ValidateCall (α : Type) := Option (PyValue α) × α

variable (validator)

/-- The pose a call accepts, and the memory behind it. A call that raises leaves the memory. -/
def judge (state : ValidatorState α) (call : ValidateCall α) :
    Option (LocalizationPose α) × ValidatorState α :=
  match validator.validate state call.1 call.2 with
  | .ok (.accepted pose, next) => (some pose, next)
  | .ok (.rejected _, next) => (none, next)
  | .error _ => (none, state)

/-- What becomes of every call of a sequence. -/
def verdicts : ValidatorState α → List (ValidateCall α) → List (Option (LocalizationPose α))
  | _, [] => []
  | state, call :: calls => (validator.judge state call).1 ::
    verdicts (validator.judge state call).2 calls

variable {validator}

/-- What is not accepted leaves the memory as it is. -/
theorem judge_none {call : ValidateCall α} (notAccepted : (validator.judge state call).1 = none) :
    (validator.judge state call).2 = state := by
  unfold judge at notAccepted ⊢
  split at notAccepted
  · cases notAccepted
  next validated => exact validate_remembers validated
  · rfl

theorem judge_some {call : ValidateCall α} {pose : LocalizationPose α}
    (accepted : (validator.judge state call).1 = some pose) :
    validator.Accepts state call.2 pose (validator.judge state call).2 := by
  unfold judge at accepted ⊢
  split at accepted
  next validated =>
    cases accepted
    exact validate_accepts validated
  · cases accepted
  · cases accepted

/-- Behind the pose that is remembered, the accepted poses are a chain. -/
theorem chain_verdicts (noCube : validator.cube = none) (state : ValidatorState α)
    (calls : List (ValidateCall α)) :
    (state.previous.toList ++ (validator.verdicts state calls).reduceOption).IsChain
      validator.Follows := by
  induction calls generalizing state with
  | nil =>
    rw [verdicts, List.reduceOption_nil, List.append_nil]
    cases state.previous with
    | none => exact List.isChain_nil
    | some previous => exact List.isChain_singleton previous
  | cons call calls inductionHypothesis =>
    have rest := inductionHypothesis (validator.judge state call).2
    rw [verdicts]
    cases verdict : (validator.judge state call).1 with
    | none =>
      rw [judge_none verdict] at rest ⊢
      exact rest
    | some pose =>
      have accepts := judge_some verdict
      rw [accepts.remembered] at rest
      rw [List.reduceOption_cons_of_some]
      cases remembered : state.previous with
      | none => exact rest
      | some previous =>
        obtain ⟨near, turned⟩ := within_of_unjumped (accepts.unjumped noCube previous remembered)
        exact List.isChain_cons_cons.mpr
          ⟨⟨accepts.newer previous remembered, near, turned⟩, rest⟩

theorem placed_verdicts (state : ValidatorState α) (calls : List (ValidateCall α))
    {pose : LocalizationPose α} (accepted : some pose ∈ validator.verdicts state calls) :
    validator.Placed pose := by
  induction calls generalizing state with
  | nil => cases accepted
  | cons call calls inductionHypothesis =>
    rcases List.mem_cons.mp accepted with first | later
    · exact (judge_some first.symm).placed
    · exact inductionHypothesis _ later

/-! ### Calls that are left out -/

/-- A sequence of calls in which some are marked as left out. -/
abbrev MarkedCalls (α : Type) := List (ValidateCall α × Bool)

/-- The calls of the whole sequence. -/
def MarkedCalls.all (marked : MarkedCalls α) : List (ValidateCall α) := marked.map Prod.fst

/-- The calls that stay. -/
def MarkedCalls.kept (marked : MarkedCalls α) : List (ValidateCall α) :=
  (marked.filter fun entry => !entry.2).map Prod.fst

/-- Among results of the whole sequence, those of the calls that stay. -/
def MarkedCalls.keptOf {Result : Type} (marked : MarkedCalls α) (results : List Result) :
    List Result :=
  ((marked.zip results).filter fun entry => !entry.1.2).map Prod.snd

/-- Where they stand in the whole sequence, the calls that are left out are not accepted. -/
def LeavesOutUnaccepted (validator : PoseValidator α) (state : ValidatorState α)
    (marked : MarkedCalls α) : Prop :=
  ∀ entry ∈ marked.zip (validator.verdicts state marked.all), entry.1.2 = true → entry.2 = none

/-- What is not accepted has no influence on what becomes of the other calls. -/
theorem verdicts_kept {state : ValidatorState α} {marked : MarkedCalls α}
    (unaccepted : validator.LeavesOutUnaccepted state marked) :
    validator.verdicts state marked.kept =
      marked.keptOf (validator.verdicts state marked.all) := by
  induction marked generalizing state with
  | nil => rfl
  | cons entry marked inductionHypothesis =>
    obtain ⟨call, leftOut⟩ := entry
    have rest : validator.LeavesOutUnaccepted (validator.judge state call).2 marked :=
      fun entry member => unaccepted entry (List.mem_cons_of_mem _ member)
    cases leftOut with
    | false => exact congrArg ((validator.judge state call).1 :: ·) (inductionHypothesis rest)
    | true =>
      have notAccepted : (validator.judge state call).1 = none :=
        unaccepted ((call, true), (validator.judge state call).1) List.mem_cons_self rfl
      rw [judge_none notAccepted] at rest
      refine (inductionHypothesis rest).trans ?_
      conv_rhs => rw [MarkedCalls.all, List.map_cons, verdicts, judge_none notAccepted]
      rfl

/-! ### The chain -/

/-- A chain of poses: strictly increasing times, each pose on the map and its heading normalised,
and any two of them as near to each other as the tolerances of the steps between them add up to. -/
structure PoseChain (validator : PoseValidator α) (poses : List (LocalizationPose α)) : Prop where
  increasing : poses.Pairwise fun before after => before.sourceTimestampS < after.sourceTimestampS
  placed : ∀ pose ∈ poses, validator.Placed pose
  near : ∀ first between last, first :: (between ++ [last]) <:+: poses →
    poseDistance first last ≤ validator.maxJumpM *
      pathSum validator.toleranceScale (first :: (between ++ [last]))
  turned : ∀ first between last, first :: (between ++ [last]) <:+: poses →
    poseTurn first last ≤ validator.maxHeadingJumpDeg *
      pathSum validator.toleranceScale (first :: (between ++ [last]))

theorem poseDistance_triangle [MetricHypot α] (first second third : LocalizationPose α) :
    poseDistance first third ≤ poseDistance first second + poseDistance second third := by
  have way := hypot_add_le (second.x - first.x) (second.y - first.y) (third.x - second.x)
    (third.y - second.y)
  rw [add_comm, sub_add_sub_cancel, add_comm, sub_add_sub_cancel] at way
  exact way

theorem poseTurn_triangle (first second third : LocalizationPose α) :
    poseTurn first third ≤ poseTurn first second + poseTurn second third := by
  rw [add_comm]
  exact headingDeltaDeg_triangle third.headingDeg second.headingDeg first.headingDeg

theorem poseChain_of_follows [MetricHypot α] {poses : List (LocalizationPose α)}
    (chain : poses.IsChain validator.Follows) (placed : ∀ pose ∈ poses, validator.Placed pose) :
    validator.PoseChain poses where
  increasing := by
    have times := (List.isChain_map LocalizationPose.sourceTimestampS).mpr
      (chain.imp fun _ _ follows => follows.newer)
    exact List.pairwise_map.mp (List.isChain_iff_pairwise.mp times)
  placed := placed
  near first between last part := by
    have within := List.IsChain.infix chain part
    rw [← pathSum_mul]
    exact le_pathSum poseDistance_triangle (within.imp fun _ _ follows => follows.near)
  turned first between last part := by
    have within := List.IsChain.infix chain part
    rw [← pathSum_mul]
    exact le_pathSum poseTurn_triangle (within.imp fun _ _ follows => follows.turned)

/-- The poses accepted since a reset are a chain, and calls that are not accepted where they stand
may come or not: the other calls are accepted alike, with the same poses. -/
theorem accepted_poses_chain [MetricHypot α] (validator : PoseValidator α)
    (noCube : validator.cube = none) (calls : List (ValidateCall α)) :
    validator.PoseChain (validator.verdicts reset calls).reduceOption ∧
      ∀ marked : MarkedCalls α, validator.LeavesOutUnaccepted reset marked →
        validator.verdicts reset marked.kept =
          marked.keptOf (validator.verdicts reset marked.all) := by
  refine ⟨poseChain_of_follows (chain_verdicts noCube reset calls) fun pose accepted => ?_,
    fun marked unaccepted => verdicts_kept unaccepted⟩
  exact placed_verdicts reset calls (List.reduceOption_mem_iff.mp accepted)

theorem accepted_poses_chain_plain :
    LocalizationService.plainService.validator.PoseChain
        (LocalizationService.plainService.validator.verdicts reset
          [(some (LocalizationService.markerSeen 1 1 100), 0),
            (some (LocalizationService.markerSeen 1 1 101), 1)]).reduceOption ∧
      (LocalizationService.plainService.validator.verdicts reset
        [(some (LocalizationService.markerSeen 1 1 100), 0),
          (some (LocalizationService.markerSeen 1 1 101), 1)]).reduceOption.length = 2 :=
  ⟨(accepted_poses_chain LocalizationService.plainService.validator rfl _).1, by decide +kernel⟩

end PoseValidator

end RcTaxi
