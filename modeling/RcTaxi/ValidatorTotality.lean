/-
This file says when `PoseValidator.validate` returns a result. Asking whether a number is finite
converts it to a float, and an integer from `floatLimit` on has none; asking whether a marker id is
a face of the cube hashes it, and a list or an object has no hash; and a validator whose interval is
zero divides by it when it judges a jump. Each of the three is asked only behind the checks that
come before it, so that the condition follows the order of the checks.
-/

import RcTaxi.PoseOrder

namespace RcTaxi

variable {α : Type} [Scalar α]

/-! ### Fields that are asked for a number -/

namespace PyValue

/-- An integer that has no float. -/
def oversized : PyValue α → Bool
  | .int value => floatLimit ≤ |value|
  | _ => false

/-- The number of an integer or of a finite float. -/
def finite? : PyValue α → Option α
  | .int value => some value
  | .float (.finite value) => some value
  | _ => Option.none

/-- A list and an object cannot be looked up in a dictionary. -/
def hashable : PyValue α → Bool
  | .list _ | .dict _ => false
  | _ => true

end PyValue

/-- A computation that raises nothing. -/
def Completes {β : Type} (result : Except PyError β) : Prop := ∃ value, result = .ok value

section Completes

variable {β γ : Type} {first : Except PyError β} {next : β → Except PyError γ} {value : β}

theorem completes_pure (value : β) : Completes (pure value : Except PyError β) := ⟨value, rfl⟩

/-- The error of a computation that raises. -/
def raised? : Except PyError β → Option PyError
  | .error error => some error
  | .ok _ => none

theorem eq_error {error : PyError} {result : Except PyError β}
    (raises : raised? result = some error) : result = .error error := by
  cases result with
  | error other => exact congrArg _ (Option.some.inj raises)
  | ok value => cases raises

theorem not_completes_error (error : PyError) : ¬ Completes (.error error : Except PyError β) :=
  fun ⟨_, raised⟩ => nomatch raised

/-- A sequence completes exactly if its first step does, and behind its value the second. -/
theorem completes_bind :
    Completes (first >>= next) ↔ ∃ value, first = .ok value ∧ Completes (next value) := by
  constructor
  · rintro ⟨result, done⟩
    obtain ⟨value, started, continued⟩ := bind_eq_ok.mp done
    exact ⟨value, started, result, continued⟩
  · rintro ⟨value, started, result, continued⟩
    exact ⟨result, bind_eq_ok.mpr ⟨value, started, continued⟩⟩

theorem completes_bind_ok (started : first = .ok value) :
    Completes (first >>= next) ↔ Completes (next value) := by
  rw [started]
  exact Iff.rfl

end Completes

/-- A number is asked for in vain exactly if it is an integer without a float. -/
theorem finiteNumber_eq (value : PyValue α) :
    finiteNumber value = if value.oversized then .error .overflowError else .ok value.finite? := by
  unfold finiteNumber
  split
  next value =>
    unfold PyValue.oversized PyValue.finite?
    by_cases large : floatLimit ≤ |value|
    · rw [if_pos large, if_pos (decide_eq_true large)]
    · rw [if_neg large, if_neg (fun holds => large (of_decide_eq_true holds))]
  · rfl
  next notInt notFinite =>
    cases value with
    | int value => exact absurd rfl (notInt value)
    | float value => cases value with
      | finite value => exact absurd rfl (notFinite value)
      | nan => rfl
      | inf negative => rfl
    | none | bool value | str value | list items | dict fields => rfl

/-! ### The position of a message -/

/-- The numbers of a position that are asked for have a float: `y` is asked for behind a number `x`,
and the heading behind both. -/
def positionFits (message : PyValue α) : Bool :=
  let position := message.get "position"
  !position.isDict || !(position.get "x").oversized && ((position.get "x").finite?.isNone ||
    !(position.get "y").oversized && ((position.get "y").finite?.isNone ||
      !(message.get "heading").oversized))

/-- The position and the heading of a message, where both are numbers. -/
def placeOf (message : PyValue α) : Option (Point α × α) :=
  let position := message.get "position"
  if position.isDict then do
    let x ← (position.get "x").finite?
    let y ← (position.get "y").finite?
    let heading ← (message.get "heading").finite?
    some ((x, y), heading)
  else none

theorem readPose_eq (message : PyValue α) : readPose message =
    if positionFits message then .ok (placeOf message) else .error .overflowError := by
  unfold readPose positionFits placeOf
  dsimp only
  by_cases isDict : (message.get "position").isDict = true
  · simp only [isDict, finiteNumber_eq, Bool.not_true, Bool.false_or, if_true]
    cases ((message.get "position").get "x").oversized with
    | true => rfl
    | false =>
      cases ((message.get "position").get "x").finite? with
      | none => rfl
      | some x =>
        cases ((message.get "position").get "y").oversized with
        | true => rfl
        | false =>
          cases ((message.get "position").get "y").finite? with
          | none => rfl
          | some y =>
            cases (message.get "heading").oversized with
            | true => rfl
            | false => cases (message.get "heading").finite? <;> rfl
  · rw [Bool.not_eq_true] at isDict
    simp only [isDict, Bool.not_false, Bool.true_or, if_true]
    rfl

/-! ### The marker of a message -/

namespace PoseValidator

variable (validator : PoseValidator α)

/-- The marker id can be looked for. -/
def markerFits (message : PyValue α) : Bool :=
  validator.cube.isNone || (message.get "marker_id").hashable

/-- The face and the yaw offset of a message with a marker of this car. -/
def ownMarker (message : PyValue α) : Option (Option ℤ × α) :=
  match validator.cube with
  | some cube => (cube.faceYawOffsetDeg.find? fun face =>
      (message.get "marker_id").equalsInt face.1).map fun face => (some face.1, face.2)
  | none => if (message.get "marker_id").equalsInt validator.markerId then
      some (none, validator.markerYawOffsetDeg) else none

theorem markerOf_eq (message : PyValue α) : validator.markerOf message =
    if validator.markerFits message then .ok (validator.ownMarker message)
    else .error .typeError := by
  unfold markerOf markerFits ownMarker
  cases validator.cube with
  | none =>
    dsimp only
    cases (message.get "marker_id").equalsInt validator.markerId <;> rfl
  | some cube =>
    dsimp only
    unfold MarkerCube.face
    generalize (message.get "marker_id") = markerId
    cases markerId with
    | list items | dict fields => rfl
    | none | bool value | int value | float value | str value =>
      cases cube.faceYawOffsetDeg.find? _ <;> rfl

/-! ### When a message is judged -/

/-- A pose is remembered, and the message behind its checks of order and map range is compared to
it. -/
def ComparesTo (state : ValidatorState α) (face : Option ℤ) (timestamp : α) (point : Point α)
    (heading : α) : Prop :=
  ∃ previous, state.previous = some previous ∧ previous.sourceTimestampS < timestamp ∧
    ((0 ≤ (validator.toMap point heading).1 ∧
        (validator.toMap point heading).1 ≤ validator.mapXMax) ∧
      0 ≤ (validator.toMap point heading).2 ∧
        (validator.toMap point heading).2 ≤ validator.mapYMax) ∧
    (validator.cube.isNone || (face.isSome && face = state.previousFace)) = true

/-- What is converted, hashed or divided by can be, at every check that is reached. -/
def Answerable (state : ValidatorState α) (message : PyValue α) : Prop :=
  validator.markerFits message = true ∧
    ∀ face offset, validator.ownMarker message = some (face, offset) →
      (message.get "timestamp").oversized = false ∧
        ∀ timestamp, (message.get "timestamp").finite? = some timestamp →
          (message.get "found").truthy = true →
            positionFits message = true ∧
              ∀ point heading, placeOf message = some (point, heading) →
                validator.nominalDtS = 0 →
                  ¬ validator.ComparesTo state face timestamp point heading

theorem completes_jumps (previous pose : LocalizationPose α) :
    Completes (validator.jumps previous pose) ↔ validator.nominalDtS ≠ 0 := by
  unfold jumps
  split
  next zero =>
    exact ⟨fun raised => (not_completes_error _ raised).elim, fun other => absurd zero other⟩
  next other => exact ⟨fun _ => other, fun _ => ⟨_, rfl⟩⟩

omit [Scalar α] in
/-- The verdict on a judged jump raises nothing. -/
theorem completes_verdict {state : ValidatorState α} {pose : LocalizationPose α} {face : Option ℤ}
    {judged : Except PyError Bool} :
    Completes (judged >>= fun jumped =>
      (if jumped = true then pure (.rejected .jump, state)
        else pure (.accepted pose, ⟨some pose, face⟩) :
        Except PyError (PoseResult α × ValidatorState α))) ↔ Completes judged := by
  rw [completes_bind]
  constructor
  · rintro ⟨jumped, done, -⟩
    exact ⟨jumped, done⟩
  · rintro ⟨jumped, done⟩
    refine ⟨jumped, done, ?_⟩
    split
    · exact completes_pure _
    · exact completes_pure _

theorem completes_checkPose {state : ValidatorState α} {face : Option ℤ}
    {offset timestamp received : α} {point : Point α} {heading : α} :
    Completes (validator.checkPose state face offset timestamp received point heading) ↔
      (validator.nominalDtS = 0 → ¬ validator.ComparesTo state face timestamp point heading) := by
  unfold checkPose
  split
  next late =>
    refine ⟨fun _ _ compares => ?_, fun _ => completes_pure _⟩
    obtain ⟨previous, remembered, newer, -, -⟩ := compares
    rw [remembered] at late
    exact absurd (of_decide_eq_true late) (not_le.mpr newer)
  next inOrder =>
    dsimp only
    split
    next outside =>
      refine ⟨fun _ _ compares => ?_, fun _ => completes_pure _⟩
      obtain ⟨_, -, -, inside, -⟩ := compares
      exact outside inside
    next notOutside =>
      have inside := not_not.mp notOutside
      split
      next previous remembered =>
        have newer : previous.sourceTimestampS < timestamp := by
          rw [remembered] at inOrder
          exact not_le.mp fun late => inOrder (decide_eq_true late)
        split
        next sameFace =>
          rw [completes_verdict, completes_jumps]
          refine ⟨fun other zero => absurd zero other, fun spared zero => ?_⟩
          exact spared zero ⟨previous, remembered, newer, inside, sameFace⟩
        next otherFace =>
          refine ⟨fun _ _ compares => ?_, fun _ => completes_verdict.mpr (completes_pure _)⟩
          obtain ⟨_, -, -, -, sameFace⟩ := compares
          exact otherFace sameFace
      next forgotten =>
        refine ⟨fun _ _ compares => ?_, fun _ => completes_verdict.mpr (completes_pure _)⟩
        obtain ⟨previous, remembered, -⟩ := compares
        rw [forgotten] at remembered
        cases remembered

/-- An object is judged exactly if every check that is reached can be made. -/
theorem completes_validate {state : ValidatorState α} {message : PyValue α} {received : α}
    (isDict : message.isDict = true) :
    Completes (validator.validate state (some message) received) ↔
      validator.Answerable state message := by
  unfold validate Answerable
  dsimp only
  rw [isDict, markerOf_eq]
  cases validator.markerFits message with
  | false => exact ⟨fun raised => (not_completes_error _ raised).elim, fun fits => nomatch fits.1⟩
  | true =>
    refine (completes_bind_ok rfl).trans (Iff.trans ?_ (and_iff_right rfl).symm)
    cases validator.ownMarker message with
    | none => exact ⟨fun _ _ _ other => (nomatch other), fun _ => completes_pure _⟩
    | some marker =>
      obtain ⟨face, offset⟩ := marker
      dsimp only
      refine Iff.trans ?_ ⟨fun fits _ _ own => by cases own; exact fits, fun all => all _ _ rfl⟩
      rw [finiteNumber_eq]
      cases (message.get "timestamp").oversized with
      | true =>
        exact ⟨fun raised => (not_completes_error _ raised).elim, fun fits => nomatch fits.1⟩
      | false =>
        refine (completes_bind_ok rfl).trans (Iff.trans ?_ (and_iff_right rfl).symm)
        cases (message.get "timestamp").finite? with
        | none => exact ⟨fun _ _ other => (nomatch other), fun _ => completes_pure _⟩
        | some timestamp =>
          dsimp only
          refine Iff.trans ?_ ⟨fun fits _ own => by cases own; exact fits, fun all => all _ rfl⟩
          cases (message.get "found").truthy with
          | false => exact ⟨fun _ other => (nomatch other), fun _ => completes_pure _⟩
          | true =>
            refine Iff.trans ?_ (forall_prop_of_true rfl).symm
            rw [readPose_eq]
            cases positionFits message with
            | false =>
              exact ⟨fun raised => (not_completes_error _ raised).elim, fun fits => nomatch fits.1⟩
            | true =>
              refine (completes_bind_ok rfl).trans (Iff.trans ?_ (and_iff_right rfl).symm)
              cases placeOf message with
              | none => exact ⟨fun _ _ _ other => (nomatch other), fun _ => completes_pure _⟩
              | some place =>
                obtain ⟨point, heading⟩ := place
                refine validator.completes_checkPose.trans ?_
                exact ⟨fun spared _ _ placed => by cases placed; exact spared,
                  fun all => all _ _ rfl⟩

/-- `validate` returns a result, and leaves the memory as it is where it does not accept. -/
def Answers (state : ValidatorState α) (message : Option (PyValue α)) (received : α) : Prop :=
  ∃ result next, validator.validate state message received = .ok (result, next) ∧
    ∀ reason, result = .rejected reason → next = state

/-- A message is answered exactly if it is no object, or every check of it that is reached can be
made. -/
theorem validate_answers_iff (state : ValidatorState α) (message : Option (PyValue α))
    (received : α) :
    validator.Answers state message received ↔
      ∀ fields, message = some fields → fields.isDict = true →
        validator.Answerable state fields := by
  have answers : validator.Answers state message received ↔
      Completes (validator.validate state message received) := by
    constructor
    · rintro ⟨result, next, validated, -⟩
      exact ⟨_, validated⟩
    · rintro ⟨⟨result, next⟩, validated⟩
      refine ⟨result, next, validated, fun reason rejected => ?_⟩
      subst rejected
      exact validate_remembers validated
  rw [answers]
  cases message with
  | none => exact ⟨fun _ _ other => (nomatch other), fun _ => completes_pure _⟩
  | some message =>
    refine Iff.trans ?_ ⟨fun judged _ same => by cases same; exact judged, fun all => all _ rfl⟩
    cases isDict : message.isDict with
    | true =>
      exact (validator.completes_validate isDict).trans
        ⟨fun judged _ => judged, fun all => all rfl⟩
    | false =>
      refine ⟨fun _ other => (nomatch other), fun _ => ?_⟩
      unfold validate
      dsimp only
      rw [isDict]
      exact completes_pure _

/-- A message that is timed beyond the floats. -/
def timedBeyondFloats : PyValue ℚ :=
  .dict [("marker_id", .int 6), ("timestamp", .int (2 ^ 1024)), ("found", .bool false)]

/-- A timestamp that has no float is not answered, though the message says itself that the marker
was not found. -/
theorem timestamp_raises :
    LocalizationService.plainService.validator.validate reset (some timedBeyondFloats) 0 =
        .error .overflowError ∧
      ¬ LocalizationService.plainService.validator.Answers reset (some timedBeyondFloats) 0 := by
  have raises : LocalizationService.plainService.validator.validate reset
      (some timedBeyondFloats) 0 = .error .overflowError := eq_error (by decide +kernel)
  refine ⟨raises, ?_⟩
  rintro ⟨result, next, validated, -⟩
  rw [raises] at validated
  cases validated

end PoseValidator

end RcTaxi
