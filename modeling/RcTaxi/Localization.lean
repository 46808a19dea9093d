/-
This file models `localization/localization_service.py` as the runtime wires it: poses go
to the store, and losing and recovering the position go to the policy. The tunnel mode and the
heading estimator are optional, as in the configuration.

A step is a message, a disconnection, or a tick, each holding the lock of the service. The
readings of the monotonic clock and of `time.time()` are its arguments. What the service does
is recorded in order: the poses it adopts and makes up, the motion it integrates blindly, and
the two hooks it calls. Fields that only steer the log output are left out.
-/

import RcTaxi.CommandPolicy
import RcTaxi.DeadReckoner
import RcTaxi.PoseValidator

namespace RcTaxi

/-- A zone of the tunnel mode: `x0 ≤ x ≤ x1` and `y0 ≤ y ≤ y1`. -/
structure Zone (α : Type) where
  x0 : α
  x1 : α
  y0 : α
  y1 : α

/-- The tunnel mode. -/
structure Tunnel (α : Type) [Scalar α] where
  reckoner : DeadReckoner α
  zones : List (Zone α)
  distrustDeviationM : α

structure LocalizationService (α : Type) [Scalar α] where
  validator : PoseValidator α
  estimator : MotionEstimator α
  timeoutS : α
  tunnel : Option (Tunnel α)
  heading : Option (HeadingEstimator α)

/-- What the service does. A synthetic pose is recorded with the driving state it is written in
and with the blind distance and time of the reckoner. -/
inductive LocalizationEvent (α : Type)
  | adopted (pose : LocalizationPose α)
  | propagated (command : ControlCommand α) (now : α)
  | synthetic (pose : LocalizationPose α) (state : DrivingState) (distanceM timeS : α)
  | lost
  | recovered

/-- The policy and the store, with the state of the service and its log. -/
structure Localization (α : Type) extends Stack α where
  validator : ValidatorState α
  speed : SpeedState α
  hadPose : Bool
  lost : Bool
  lastAcceptS : α
  reckoner : ReckonerState α
  heading : Option (HeadingState α)
  log : List (LocalizationEvent α)

variable {α : Type} [Scalar α]

def Zone.contains (zone : Zone α) (point : Point α) : Bool :=
  (zone.x0 ≤ point.1 ∧ point.1 ≤ zone.x1) ∧ zone.y0 ≤ point.2 ∧ point.2 ≤ zone.y1

/-- `_in_zone`. -/
def Tunnel.inZone (tunnel : Tunnel α) (point : Point α) : Bool :=
  tunnel.zones.any fun zone => zone.contains point

/-- `driving_state in _TUNNEL_STATES`. -/
def DrivingState.inTunnelStates : DrivingState → Bool
  | .followingRoute | .approachingDestination => true
  | _ => false

namespace Localization

/-- The service before its first message. -/
def start (stack : Stack α) : Localization α :=
  { stack with
    validator := PoseValidator.reset
    speed := MotionEstimator.reset
    hadPose := false
    lost := false
    lastAcceptS := 0
    reckoner := DeadReckoner.reset
    heading := none
    log := [] }

/-- A call of the store. -/
def onStore (change : VehicleSnapshot α → VehicleSnapshot α) (state : Localization α) :
    Localization α :=
  { state with store := change state.store }

/-- A call of the policy. -/
def onPolicy (change : Stack α → Stack α) (state : Localization α) : Localization α :=
  { state with toStack := change state.toStack }

def note (event : LocalizationEvent α) (state : Localization α) : Localization α :=
  { state with log := state.log ++ [event] }

/-- `propagate` under the stored command. -/
def propagate (tunnel : Tunnel α) (now : α) (state : Localization α) : Localization α :=
  { state with
    reckoner := tunnel.reckoner.propagate state.store.controlCommand now state.reckoner }.note
      (.propagated state.store.controlCommand now)

/-- `update_pose` with the speed the pose leads to; unchanged if the store refuses it. -/
def storePose (service : LocalizationService α) (pose : LocalizationPose α)
    (state : Localization α) : Bool × Localization α :=
  let (taken, store) := state.store.updatePose pose
  if taken then
    let (speed, estimator) := service.estimator.update pose state.speed
    (true, { state with store := store.setEstimatedSpeed speed, speed := estimator })
  else (false, state)

end Localization

namespace LocalizationService

variable (service : LocalizationService α)

/-- `_suspect`: a pose in a zone that is far from where the reckoner expects the car. -/
def suspect (pose : LocalizationPose α) (state : Localization α) : Bool × Localization α :=
  match service.tunnel with
  | none => (false, state)
  | some tunnel =>
    if !DeadReckoner.anchored state.reckoner || !tunnel.inZone (pose.x, pose.y) ||
        !state.store.drivingState.inTunnelStates ||
        !tunnel.reckoner.withinBudget state.reckoner then (false, state)
    else
      let state := state.propagate tunnel pose.receivedMonotonicS
      (tunnel.distrustDeviationM < DeadReckoner.deviationM (pose.x, pose.y) state.reckoner, state)

/-- `_estimate_heading`. -/
def estimateHeading (pose : LocalizationPose α) (state : Localization α) :
    LocalizationPose α × Localization α :=
  match service.heading with
  | none => (pose, state)
  | some estimator =>
    let (heading, estimate) := estimator.update pose state.store.controlCommand state.heading
    ({ pose with headingDeg := heading }, { state with heading := some estimate })

/-- The state after the store took a real pose. -/
def adopt (pose : LocalizationPose α) (state : Localization α) : Localization α :=
  { state with
    lastAcceptS := pose.receivedMonotonicS
    reckoner := if service.tunnel.isSome then DeadReckoner.anchor pose state.reckoner
      else state.reckoner
    hadPose := true }.note (.adopted pose)

/-- `on_recovered`, if the position was lost. -/
def recover (wall : α) (state : Localization α) : Localization α :=
  if state.lost then
    ({ state with lost := false }.note .recovered).onPolicy (Stack.onGpsRecovered wall)
  else state

/-- `_accept`. -/
def accept (pose : LocalizationPose α) (wall : α) (state : Localization α) : Localization α :=
  let (suspected, state) := service.suspect pose state
  if suspected then state
  else
    let (pose, state) := service.estimateHeading pose state
    let (taken, state) := state.storePose service pose
    if taken then recover wall (service.adopt pose state) else state

/-- `_declare_lost`: once, and not before the first pose. -/
def declareLost (wall : α) (state : Localization α) : Localization α :=
  if state.lost || !state.hadPose then state
  else
    ({ state with
      lost := true
      store := (state.store.markPoseStale).setEstimatedSpeed 0
      validator := PoseValidator.reset
      speed := MotionEstimator.reset
      reckoner := DeadReckoner.reset
      heading := none }.note .lost).onPolicy (Stack.onGpsLost wall)

/-- `_tunnel_feed`: write a synthetic pose, if every condition for it holds. -/
def tunnelFeed (now : α) (state : Localization α) : Bool × Localization α :=
  match service.tunnel with
  | none => (false, state)
  | some tunnel =>
    if !DeadReckoner.anchored state.reckoner || !state.store.drivingState.inTunnelStates then
      (false, state)
    else
      let state := state.propagate tunnel now
      match DeadReckoner.predict now state.reckoner with
      | none => (false, state)
      | some pose =>
        if !tunnel.inZone (pose.x, pose.y) || !tunnel.reckoner.withinBudget state.reckoner then
          (false, state)
        else
          let (taken, state) := state.storePose service pose
          (taken, if taken then state.note (.synthetic pose state.store.drivingState
            state.reckoner.blindDistanceM state.reckoner.blindTimeS) else state)

/-- `on_raw`. A message that makes the validator raise leaves everything as it is. -/
def onRaw (message : Option (PyValue α)) (now wall : α) (state : Localization α) :
    Localization α :=
  match service.validator.validate state.validator message now with
  | .error _ => state
  | .ok (result, validator) =>
    let state := { state with validator := validator }
    match result with
    | .accepted pose => service.accept pose wall state
    | .rejected .notFound => state.onStore VehicleSnapshot.markPoseStale
    | .rejected _ => state

/-- `on_disconnected`. -/
def onDisconnected (wall : α) (state : Localization α) : Localization α :=
  declareLost wall state

/-- `tick`. -/
def tick (now wall : α) (state : Localization α) : Localization α :=
  if state.lost || !state.hadPose then state
  else
    let age := now - state.lastAcceptS
    if state.store.poseStale || service.timeoutS ≤ age then
      let (fed, state) := service.tunnelFeed now state
      if fed then state
      else if service.timeoutS ≤ age then declareLost wall state
      else state
    else state

end LocalizationService

/-! ### Runs -/

/-- A step of the service, an operation of the policy the control side calls, or what the control
thread does to the store: any driving state and any command. -/
inductive LocalizationLabel (α : Type)
  | raw (message : Option (PyValue α)) (now wall : α)
  | disconnected (wall : α)
  | tick (now wall : α)
  | rawCommand (message : Option (PyValue α)) (clock : ℕ → α)
  | controlDisconnected
  | controlConnected (wall : α)
  | notifyArrived (wall : α)
  | outside (state : DrivingState) (command : ControlCommand α)

namespace LocalizationService

def step (service : LocalizationService α) (policy : CommandPolicy α) (state : Localization α) :
    LocalizationLabel α → Localization α
  | .raw message now wall => service.onRaw message now wall state
  | .disconnected wall => onDisconnected wall state
  | .tick now wall => service.tick now wall state
  | .rawCommand message clock => state.onPolicy (policy.onRawMessage message clock)
  | .controlDisconnected => state.onPolicy Stack.onControlDisconnected
  | .controlConnected wall => state.onPolicy (Stack.onControlConnected wall)
  | .notifyArrived wall => state.onPolicy (Stack.notifyArrived wall)
  | .outside driving command =>
    state.onStore fun snap => (snap.setDrivingState driving).setControlCommand command

/-- The operations of the policy that neither lose nor recover the position. -/
inductive ControlOperation (policy : CommandPolicy α) : (Stack α → Stack α) → Prop
  | rawMessage (message : Option (PyValue α)) (clock : ℕ → α) :
      ControlOperation policy (policy.onRawMessage message clock)
  | disconnected : ControlOperation policy Stack.onControlDisconnected
  | connected (wall : α) : ControlOperation policy (Stack.onControlConnected wall)
  | notifyArrived (wall : α) : ControlOperation policy (Stack.notifyArrived wall)

/-- What a step is made of. Every condition under which the service writes a pose or calls a hook
stands here. -/
inductive Move (service : LocalizationService α) (policy : CommandPolicy α) :
    Localization α → Localization α → Prop
  | settle (state : Localization α) (validator : ValidatorState α)
      (heading : Option (HeadingState α)) :
      Move service policy state { state with validator := validator, heading := heading }
  | markStale (state : Localization α) :
      Move service policy state (state.onStore VehicleSnapshot.markPoseStale)
  | propagate (state : Localization α) (tunnel : Tunnel α) (enabled : service.tunnel = some tunnel)
      (now : α) : Move service policy state (state.propagate tunnel now)
  | adopt (state taken : Localization α) (pose : LocalizationPose α) (wall : α)
      (stored : state.storePose service pose = (true, taken)) :
      Move service policy state (recover wall (service.adopt pose taken))
  | feed (state taken : Localization α) (tunnel : Tunnel α) (now : α) (pose : LocalizationPose α)
      (enabled : service.tunnel = some tunnel)
      (driving : state.store.drivingState.inTunnelStates = true)
      (predicted : DeadReckoner.predict now state.reckoner = some pose)
      (inZone : tunnel.inZone (pose.x, pose.y) = true)
      (budget : tunnel.reckoner.withinBudget state.reckoner = true)
      (stored : state.storePose service pose = (true, taken)) :
      Move service policy state (taken.note (.synthetic pose taken.store.drivingState
        taken.reckoner.blindDistanceM taken.reckoner.blindTimeS))
  | lose (state : Localization α) (wall : α) (found : state.lost = false)
      (hadPose : state.hadPose = true) : Move service policy state (declareLost wall state)
  | control (state : Localization α) (change : Stack α → Stack α)
      (operation : ControlOperation policy change) : Move service policy state (state.onPolicy change)
  | outside (state : Localization α) (driving : DrivingState) (command : ControlCommand α) :
      Move service policy state
        (state.onStore fun snap => (snap.setDrivingState driving).setControlCommand command)

/-- A sequence of moves. -/
abbrev Moves (service : LocalizationService α) (policy : CommandPolicy α) :
    Localization α → Localization α → Prop :=
  Relation.ReflTransGen (Move service policy)

/-- A pose the store takes becomes the stored one and is fresh. -/
theorem storePose_taken {service : LocalizationService α} {pose : LocalizationPose α}
    {state taken : Localization α} (stored : state.storePose service pose = (true, taken)) :
    ∃ speed mps, taken = { state with
      store := { state.store with
        pose := some pose, poseStale := false, estimatedSpeedMps := mps }
      speed := speed } := by
  unfold Localization.storePose at stored
  dsimp only at stored
  split at stored
  next accepted =>
    rw [VehicleSnapshot.updatePose_taken accepted] at stored
    cases stored
    exact ⟨_, _, rfl⟩
  · cases stored

/-- A pose the store refuses changes nothing. -/
theorem storePose_refused {service : LocalizationService α} {pose : LocalizationPose α}
    {state refused : Localization α} (stored : state.storePose service pose = (false, refused)) :
    refused = state := by
  unfold Localization.storePose at stored
  dsimp only at stored
  split at stored <;> cases stored
  rfl

variable (service : LocalizationService α) (policy : CommandPolicy α)

theorem moves_declareLost (wall : α) (state : Localization α) :
    Moves service policy state (declareLost wall state) := by
  by_cases found : state.lost = false
  · by_cases hadPose : state.hadPose = true
    · exact .single (.lose state wall found hadPose)
    · have unchanged : declareLost wall state = state := if_pos (by simp [hadPose])
      rw [unchanged]
  · have unchanged : declareLost wall state = state := if_pos (by simp [found])
    rw [unchanged]

theorem moves_suspect (pose : LocalizationPose α) (state : Localization α) :
    Moves service policy state (service.suspect pose state).2 := by
  unfold suspect
  split
  · exact .refl
  next tunnel enabled =>
    split
    · exact .refl
    · exact .single (.propagate state tunnel enabled _)

theorem moves_estimateHeading (pose : LocalizationPose α) (state : Localization α) :
    Moves service policy state (service.estimateHeading pose state).2 := by
  unfold estimateHeading
  split
  · exact .refl
  · exact .single (.settle state state.validator _)

theorem moves_accept (pose : LocalizationPose α) (wall : α) (state : Localization α) :
    Moves service policy state (service.accept pose wall state) := by
  have suspected := moves_suspect service policy pose state
  unfold accept
  generalize service.suspect pose state = suspicion at suspected ⊢
  obtain ⟨isSuspect, checked⟩ := suspicion
  dsimp only at suspected ⊢
  split
  · exact suspected
  · have estimated := moves_estimateHeading service policy pose checked
    generalize service.estimateHeading pose checked = estimate at estimated ⊢
    obtain ⟨pose, headed⟩ := estimate
    dsimp only at estimated ⊢
    have reached := suspected.trans estimated
    generalize result : headed.storePose service pose = outcome
    obtain ⟨isTaken, taken⟩ := outcome
    dsimp only
    split
    next accepted =>
      subst accepted
      exact reached.tail (.adopt headed taken pose wall result)
    next refused =>
      rw [Bool.not_eq_true] at refused
      subst refused
      rwa [storePose_refused result]

/-- What comes of a feed: nothing, blind motion alone, or a synthetic pose in the store. -/
inductive Feed (now : α) (state : Localization α) : Bool × Localization α → Prop
  | idle : Feed now state (false, state)
  | blind (tunnel : Tunnel α) (enabled : service.tunnel = some tunnel) :
      Feed now state (false, state.propagate tunnel now)
  | fed (tunnel : Tunnel α) (pose : LocalizationPose α) (taken : Localization α)
      (enabled : service.tunnel = some tunnel)
      (driving : (state.propagate tunnel now).store.drivingState.inTunnelStates = true)
      (predicted : DeadReckoner.predict now (state.propagate tunnel now).reckoner = some pose)
      (inZone : tunnel.inZone (pose.x, pose.y) = true)
      (budget : tunnel.reckoner.withinBudget (state.propagate tunnel now).reckoner = true)
      (stored : (state.propagate tunnel now).storePose service pose = (true, taken)) :
      Feed now state (true, taken.note (.synthetic pose taken.store.drivingState
        taken.reckoner.blindDistanceM taken.reckoner.blindTimeS))

theorem tunnelFeed_feed (now : α) (state : Localization α) :
    service.Feed now state (service.tunnelFeed now state) := by
  unfold tunnelFeed
  split
  · exact .idle
  next tunnel enabled =>
    split
    · exact .idle
    next ready =>
      rw [Bool.or_eq_true, not_or, Bool.not_eq_true, Bool.not_eq_true, Bool.not_eq_false',
        Bool.not_eq_false'] at ready
      dsimp only
      split
      · exact .blind tunnel enabled
      next pose predicted =>
        split
        · exact .blind tunnel enabled
        next good =>
          rw [Bool.or_eq_true, not_or, Bool.not_eq_true, Bool.not_eq_true, Bool.not_eq_false',
            Bool.not_eq_false'] at good
          generalize result : (state.propagate tunnel now).storePose service pose = outcome
          obtain ⟨isTaken, taken⟩ := outcome
          dsimp only
          split
          next accepted =>
            subst accepted
            exact .fed tunnel pose taken enabled ready.2 predicted good.1 good.2 result
          next refused =>
            rw [Bool.not_eq_true] at refused
            subst refused
            rw [storePose_refused result]
            exact .blind tunnel enabled

theorem moves_tunnelFeed (now : α) (state : Localization α) :
    Moves service policy state (service.tunnelFeed now state).2 := by
  have feed := tunnelFeed_feed service now state
  generalize service.tunnelFeed now state = outcome at feed ⊢
  cases feed with
  | idle => exact .refl
  | blind tunnel enabled => exact .single (.propagate state tunnel enabled now)
  | fed tunnel pose taken enabled driving predicted inZone budget stored =>
    have propagated : Moves service policy state (state.propagate tunnel now) :=
      .single (.propagate state tunnel enabled now)
    exact propagated.tail
      (.feed _ taken tunnel now pose enabled driving predicted inZone budget stored)

theorem moves_onRaw (message : Option (PyValue α)) (now wall : α) (state : Localization α) :
    Moves service policy state (service.onRaw message now wall state) := by
  unfold onRaw
  split
  · exact .refl
  next result validator validated =>
    have settled : Moves service policy state { state with validator := validator } :=
      .single (.settle state validator state.heading)
    dsimp only
    split
    · exact settled.trans (moves_accept service policy _ wall _)
    · exact settled.tail (.markStale _)
    · exact settled

theorem moves_tick (now wall : α) (state : Localization α) :
    Moves service policy state (service.tick now wall state) := by
  unfold tick
  split
  · exact .refl
  · dsimp only
    split
    · have fed := moves_tunnelFeed service policy now state
      split
      · exact fed
      · split
        · exact fed.trans (moves_declareLost service policy wall _)
        · exact fed
    · exact .refl

/-- Every step is made of moves. -/
theorem step_moves (state : Localization α) (label : LocalizationLabel α) :
    Moves service policy state (service.step policy state label) := by
  cases label with
  | raw message now wall => exact moves_onRaw service policy message now wall state
  | disconnected wall => exact moves_declareLost service policy wall state
  | tick now wall => exact moves_tick service policy now wall state
  | rawCommand message clock => exact .single (.control state _ (.rawMessage message clock))
  | controlDisconnected => exact .single (.control state _ .disconnected)
  | controlConnected wall => exact .single (.control state _ (.connected wall))
  | notifyArrived wall => exact .single (.control state _ (.notifyArrived wall))
  | outside driving command => exact .single (.outside state driving command)

/-- What every move keeps, a sequence of moves keeps. -/
theorem moves_kept {holds : Localization α → Prop}
    (kept : ∀ before after, Move service policy before after → holds before → holds after)
    {state after : Localization α} (moves : Moves service policy state after)
    (initially : holds state) : holds after := by
  induction moves with
  | refl => exact initially
  | tail _ move inductionHypothesis => exact kept _ _ move inductionHypothesis

/-- What every move keeps holds in every state of a run. -/
theorem run_kept {holds : Localization α → Prop}
    (kept : ∀ before after, Move service policy before after → holds before → holds after)
    {start : Localization α} (initially : holds start) (labels : List (LocalizationLabel α)) :
    holds (Transition.run (service.step policy) start labels) :=
  Transition.run_invariant
    (fun state label => moves_kept service policy kept (step_moves service policy state label))
    initially labels

end LocalizationService

end RcTaxi
