/-
This file models `core/enums.py`, `core/models.py` and `core/state_store.py`: the states
of the car, the data the threads share, and the store that keeps one snapshot of them.
A store call is a function on snapshots; the lock of the store makes each of them one
atomic step.
-/

import RcTaxi.Scalar

namespace RcTaxi

/-- `DrivingState`; the last four are never entered. -/
inductive DrivingState
  | boot
  | waiting
  | planning
  | followingRoute
  | approachingDestination
  | arrived
  | error
  | approachingStopLine
  | stoppedAtLine
  | crossingIntersection
  | obstacleWait
  deriving DecidableEq, Repr

/-- `driving_state in DRIVING_STATES`. -/
def DrivingState.isDriving : DrivingState → Bool
  | .planning | .followingRoute | .approachingDestination => true
  | _ => false

/-- `ServiceKind`. -/
inductive ServiceKind
  | pickup
  | carry
  deriving DecidableEq, Repr

/-- `kind.value`. -/
def ServiceKind.value : ServiceKind → String
  | .pickup => "호출 응답 이동 중"
  | .carry => "고객 탑승 이동 중"

/-- `to_service_state`: the state reported to the control server. -/
def toServiceState (driving : DrivingState) (kind : Option ServiceKind) : String :=
  if driving = .error then "오류 정지"
  else if driving.isDriving = true ∨ driving = .arrived then
    match kind with
    | some kind => kind.value
    | none => "대기 중"
  else if kind = some .pickup then "탑승 대기 중"
  else "대기 중"

structure LocalizationPose (α : Type) where
  x : α
  y : α
  headingDeg : α
  sourceTimestampS : α
  receivedMonotonicS : α
  deriving DecidableEq

structure ControlCommand (α : Type) where
  throttle : α
  steeringWheelDeg : α
  deriving DecidableEq

structure ActiveMission (α : Type) where
  destX : α
  destY : α
  kind : ServiceKind
  acceptedAtS : α
  deriving DecidableEq

structure VehicleSnapshot (α : Type) where
  drivingState : DrivingState
  prevStateForRecovery : Option DrivingState
  serviceKind : Option ServiceKind
  pose : Option (LocalizationPose α)
  poseStale : Bool
  mission : Option (ActiveMission α)
  controlCommand : ControlCommand α
  estimatedSpeedMps : α

variable {α : Type}

/-- `STOP_COMMAND`. -/
def stopCommand [Scalar α] : ControlCommand α := ⟨0, 0⟩

namespace VehicleSnapshot

/-- The snapshot a store is created with. -/
def initial [Scalar α] : VehicleSnapshot α := ⟨.boot, none, none, none, true, none, stopCommand, 0⟩

/-! ### Poses -/

/-- `update_pose`: only a pose newer than the stored one is taken, and makes it fresh. -/
def updatePose [Scalar α] (pose : LocalizationPose α) (snap : VehicleSnapshot α) :
    Bool × VehicleSnapshot α :=
  match snap.pose with
  | some previous =>
    if pose.sourceTimestampS ≤ previous.sourceTimestampS then (false, snap)
    else (true, { snap with pose := some pose, poseStale := false })
  | none => (true, { snap with pose := some pose, poseStale := false })

/-- A pose the store takes becomes the stored one and is fresh. -/
theorem updatePose_taken [Scalar α] {pose : LocalizationPose α} {snap : VehicleSnapshot α}
    (taken : (snap.updatePose pose).1 = true) :
    (snap.updatePose pose).2 = { snap with pose := some pose, poseStale := false } := by
  unfold updatePose at taken ⊢
  split at taken
  · split at taken
    · exact absurd taken Bool.false_ne_true
    next newer => rw [if_neg newer]
  · rfl

def markPoseStale (snap : VehicleSnapshot α) : VehicleSnapshot α := { snap with poseStale := true }

def setEstimatedSpeed [Scalar α] (mps : α) (snap : VehicleSnapshot α) : VehicleSnapshot α :=
  { snap with estimatedSpeedMps := max 0 mps }

/-! ### Driving state -/

/-- `set_driving_state`: entering `ERROR` remembers the state it is entered from, and any other
state forgets what was remembered. -/
def setDrivingState (state : DrivingState) (snap : VehicleSnapshot α) : VehicleSnapshot α :=
  { snap with
    drivingState := state
    prevStateForRecovery :=
      if state = .error then
        if snap.drivingState = .error then snap.prevStateForRecovery else some snap.drivingState
      else none }

/-- `recover_previous_state`. -/
def recoverPreviousState (snap : VehicleSnapshot α) : VehicleSnapshot α :=
  { snap with
    drivingState := snap.prevStateForRecovery.getD .waiting
    prevStateForRecovery := none }

/-! ### Mission and command -/

/-- `set_mission`; `now` is the reading of `time.time()`. -/
def setMission (destX destY : α) (kind : ServiceKind) (now : α) (snap : VehicleSnapshot α) :
    VehicleSnapshot α :=
  { snap with mission := some ⟨destX, destY, kind, now⟩, serviceKind := some kind }

def clearMission (nextKind : Option ServiceKind) (snap : VehicleSnapshot α) : VehicleSnapshot α :=
  { snap with mission := none, serviceKind := nextKind }

def setControlCommand (command : ControlCommand α) (snap : VehicleSnapshot α) :
    VehicleSnapshot α :=
  { snap with controlCommand := command }

/-- The driving state behind an error: the remembered one while in `ERROR`. -/
def effectiveState (snap : VehicleSnapshot α) : DrivingState :=
  if snap.drivingState = .error then snap.prevStateForRecovery.getD .waiting
  else snap.drivingState

/-- `ERROR` remembers a state other than itself, and only `ERROR` remembers one. -/
structure Remembers (snap : VehicleSnapshot α) : Prop where
  inError : snap.drivingState = .error →
    ∃ previous, snap.prevStateForRecovery = some previous ∧ previous ≠ .error
  outside : snap.drivingState ≠ .error → snap.prevStateForRecovery = none

theorem Remembers.setDrivingState {snap : VehicleSnapshot α} (remembers : snap.Remembers)
    (state : DrivingState) : (snap.setDrivingState state).Remembers := by
  constructor
  · intro entered
    have toError : state = .error := entered
    subst toError
    by_cases already : snap.drivingState = .error
    · obtain ⟨previous, remembered, different⟩ := remembers.inError already
      exact ⟨previous, by rw [VehicleSnapshot.setDrivingState, if_pos rfl, if_pos already,
        remembered], different⟩
    · exact ⟨snap.drivingState, by rw [VehicleSnapshot.setDrivingState, if_pos rfl,
        if_neg already], already⟩
  · intro outside
    exact if_neg outside

theorem Remembers.recoverPreviousState {snap : VehicleSnapshot α} (remembers : snap.Remembers) :
    snap.recoverPreviousState.Remembers := by
  refine ⟨fun stillError => ?_, fun _ => rfl⟩
  by_cases inError : snap.drivingState = .error
  · obtain ⟨previous, remembered, different⟩ := remembers.inError inError
    rw [VehicleSnapshot.recoverPreviousState, remembered] at stillError
    exact absurd stillError different
  · rw [VehicleSnapshot.recoverPreviousState, remembers.outside inError] at stillError
    cases stillError

/-- Recovering from an error leads to the state behind it. -/
theorem recoverPreviousState_drivingState {snap : VehicleSnapshot α}
    (inError : snap.drivingState = .error) :
    snap.recoverPreviousState.drivingState = snap.effectiveState := by
  rw [effectiveState, if_pos inError]
  rfl

/-- Entering an error keeps the state behind it. -/
theorem effectiveState_setDrivingState_error {snap : VehicleSnapshot α}
    (outside : snap.drivingState ≠ .error) :
    (snap.setDrivingState .error).effectiveState = snap.drivingState := by
  rw [effectiveState, setDrivingState, if_pos rfl, if_pos rfl, if_neg outside, Option.getD_some]

theorem effectiveState_setDrivingState {snap : VehicleSnapshot α} {state : DrivingState}
    (outside : state ≠ .error) : (snap.setDrivingState state).effectiveState = state :=
  if_neg outside

end VehicleSnapshot

end RcTaxi
