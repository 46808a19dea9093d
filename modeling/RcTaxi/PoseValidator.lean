/-
This file models `localization/pose_validator.py`: the checks a message of the localization
server passes before its pose is used, in the order in which they are made. The validator
remembers the last accepted pose only.

A Python integer may be too large for a float, and asking whether it is finite raises; a key
that cannot be hashed raises when the faces of the cube are searched. In these cases nothing is
remembered.
-/

import RcTaxi.Geometry
import RcTaxi.StateStore

namespace RcTaxi

/-- Why a message is not a valid pose. -/
inductive PoseReason
  | parse
  | otherMarker
  | notFound
  | malformed
  | outOfOrder
  | outOfMap
  | jump
  deriving DecidableEq, Repr

inductive PoseResult (α : Type)
  | accepted (pose : LocalizationPose α)
  | rejected (reason : PoseReason)

/-- The marker cube: the direction each face looks to, and how far a face is from the center. -/
structure MarkerCube (α : Type) where
  faceYawOffsetDeg : List (ℤ × α)
  centerOffsetM : α

/-- The map coordinates of a point: `a` times the server coordinates, moved by `t`. -/
structure FrameTransform (α : Type) where
  a : (α × α) × (α × α)
  t : α × α

structure PoseValidator (α : Type) where
  markerId : ℤ
  markerYawOffsetDeg : α
  maxJumpM : α
  maxHeadingJumpDeg : α
  nominalDtS : α
  mapXMax : α
  mapYMax : α
  cube : Option (MarkerCube α)
  frame : FrameTransform α

/-- What the validator remembers: the last accepted pose and the face it was seen by. -/
structure ValidatorState (α : Type) where
  previous : Option (LocalizationPose α)
  previousFace : Option ℤ

variable {α : Type} [Scalar α]

/-- The number of a finite `int` or `float`, `none` for anything else. -/
def finiteNumber : PyValue α → Except PyError (Option α)
  | .int value => if floatLimit ≤ |value| then .error .overflowError else .ok (some value)
  | .float (.finite value) => .ok (some value)
  | _ => .ok none

/-- The shortest angle between two directions. -/
def headingDeltaDeg (a b : α) : α := |headingDiffDeg a b|

/-- The face of the cube a marker id names. -/
def MarkerCube.face (cube : MarkerCube α) (markerId : PyValue α) :
    Except PyError (Option (ℤ × α)) :=
  match markerId with
  | .list _ | .dict _ => .error .typeError
  | _ => .ok (cube.faceYawOffsetDeg.find? fun face => markerId.equalsInt face.1)

/-- The finite position and heading of a message. -/
def readPose (message : PyValue α) : Except PyError (Option (Point α × α)) := do
  let position := message.get "position"
  if !position.isDict then pure none
  else match ← finiteNumber (position.get "x") with
    | none => pure none
    | some x => match ← finiteNumber (position.get "y") with
      | none => pure none
      | some y => match ← finiteNumber (message.get "heading") with
        | none => pure none
        | some heading => pure (some ((x, y), heading))

namespace FrameTransform

variable (frame : FrameTransform α)

def isIdentity : Bool := frame.a = ((1, 0), (0, 1)) ∧ frame.t = (0, 0)

def rotationDeg : α := degrees (atan2 frame.a.2.1 frame.a.1.1)

def apply (point : Point α) : Point α :=
  if frame.isIdentity then point
  else (frame.a.1.1 * point.1 + frame.a.1.2 * point.2 + frame.t.1,
    frame.a.2.1 * point.1 + frame.a.2.2 * point.2 + frame.t.2)

end FrameTransform

namespace PoseValidator

variable (validator : PoseValidator α)

/-- The state of a new validator, and after `reset`. -/
def reset : ValidatorState α := ⟨none, none⟩

/-- The yaw offset and the face of a message, `none` for another car's marker. -/
def markerOf (message : PyValue α) : Except PyError (Option (Option ℤ × α)) :=
  let markerId := message.get "marker_id"
  match validator.cube with
  | some cube => do
    match ← cube.face markerId with
    | some (face, offset) => pure (some (some face, offset))
    | none => pure none
  | none =>
    if markerId.equalsInt validator.markerId then
      .ok (some (none, validator.markerYawOffsetDeg))
    else .ok none

/-- The center of the car in map coordinates. -/
def toMap (point : Point α) (heading : α) : Point α :=
  validator.frame.apply <| match validator.cube with
    | some cube =>
      let rad := radians heading
      (point.1 - cube.centerOffsetM * cos rad, point.2 - cube.centerOffsetM * sin rad)
    | none => point

/-- The jump from the last accepted pose is too large for the time between the two. -/
def jumps (previous pose : LocalizationPose α) : Except PyError Bool :=
  if validator.nominalDtS = 0 then .error .zeroDivisionError
  else
    let scale := max 1 ((pose.sourceTimestampS - previous.sourceTimestampS) / validator.nominalDtS)
    .ok (validator.maxJumpM * scale < hypot (pose.x - previous.x) (pose.y - previous.y) ∨
      validator.maxHeadingJumpDeg * scale < headingDeltaDeg pose.headingDeg previous.headingDeg)

/-- The checks behind a found marker: order, map range, jump. -/
def checkPose (state : ValidatorState α) (face : Option ℤ) (offset timestamp received : α)
    (point : Point α) (heading : α) : Except PyError (PoseResult α × ValidatorState α) := do
  if state.previous.any fun previous => timestamp ≤ previous.sourceTimestampS then
    pure (.rejected .outOfOrder, state)
  else
    let (x, y) := validator.toMap point heading
    if ¬ ((0 ≤ x ∧ x ≤ validator.mapXMax) ∧ 0 ≤ y ∧ y ≤ validator.mapYMax) then
      pure (.rejected .outOfMap, state)
    else
      let pose : LocalizationPose α :=
        ⟨x, y, pyMod (heading + offset + validator.frame.rotationDeg) 360, timestamp, received⟩
      let sameFace := validator.cube.isNone || (face.isSome && face = state.previousFace)
      let jumped ← match state.previous with
        | some previous => if sameFace then validator.jumps previous pose else pure false
        | none => pure false
      if jumped then pure (.rejected .jump, state)
      else pure (.accepted pose, ⟨some pose, face⟩)

/-- `PoseValidator.validate` on the decoded message; a text that is not JSON is an absent one. -/
def validate (state : ValidatorState α) (message : Option (PyValue α)) (received : α) :
    Except PyError (PoseResult α × ValidatorState α) := do
  match message with
  | none => pure (.rejected .parse, state)
  | some message =>
    if !message.isDict then pure (.rejected .parse, state)
    else match ← validator.markerOf message with
      | none => pure (.rejected .otherMarker, state)
      | some (face, offset) =>
        match ← finiteNumber (message.get "timestamp") with
        | none => pure (.rejected .malformed, state)
        | some timestamp =>
          if !(message.get "found").truthy then pure (.rejected .notFound, state)
          else match ← readPose message with
            | none => pure (.rejected .malformed, state)
            | some (point, heading) =>
              validator.checkPose state face offset timestamp received point heading

end PoseValidator

end RcTaxi
