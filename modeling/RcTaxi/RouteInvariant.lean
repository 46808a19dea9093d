/-
This file shows that the car always drives along the route of its current mission. The mission and
the driving state are in the store, the route in the follower and the stop in the arrival check; the
policy writes the first two on the commands of the control server and on losses, and the control
thread writes the driving state and its own two in the middle of a tick, on a snapshot it took
before.

What the thread may rely on is small. While a car plans or is on its way, no other thread changes
the state behind an error or the mission; otherwise none of them puts it on its way. What it has to
keep to is a contract on the programs of a tick: between its calls the others do what they may, and
at its end the route and the stop are those of the mission, if the car is on its way. The contract
also counts the commands handed to the supervisor, and does not allow the call that plans again for
want of a route.

`notify_arrived` is called by the control thread alone, so it is a step of that thread here.
-/

import RcTaxi.FollowerCourse
import RcTaxi.Effects

namespace RcTaxi

variable {α : Type}

/-! ### Errands -/

/-- `driving_state in (FOLLOWING_ROUTE, APPROACHING_DESTINATION)`. -/
def DrivingState.isOnRoute : DrivingState → Bool
  | .followingRoute | .approachingDestination => true
  | _ => false

/-- The driving state behind an error, and the mission. -/
structure Errand (α : Type) where
  state : DrivingState
  mission : Option (ActiveMission α)

def VehicleSnapshot.errand (snap : VehicleSnapshot α) : Errand α :=
  ⟨snap.effectiveState, snap.mission⟩

namespace Errand

/-- There is a mission exactly from the accepted move to the accepted stop. -/
def Valid (errand : Errand α) : Prop :=
  errand.mission.isSome = true ↔ errand.state.isDriving = true ∨ errand.state = .arrived

/-- What the other threads may do: nothing while the car plans or is on its way, and otherwise
anything but putting it on its way. -/
def Changes (before after : Errand α) : Prop :=
  after = before ∨ before.state.isDriving = false ∧ after.state.isOnRoute = false

theorem isDriving_of_isOnRoute {state : DrivingState} (onRoute : state.isOnRoute = true) :
    state.isDriving = true := by
  cases state <;> first | rfl | cases onRoute

theorem Changes.refl (errand : Errand α) : errand.Changes errand := .inl rfl

theorem Changes.trans {first second third : Errand α} (before : first.Changes second)
    (after : second.Changes third) : first.Changes third := by
  rcases before with rfl | ⟨notDriving, notOnRoute⟩
  · exact after
  · rcases after with rfl | ⟨_, stillNot⟩
    · exact .inr ⟨notDriving, notOnRoute⟩
    · exact .inr ⟨notDriving, stillNot⟩

/-- A car that plans or is on its way is left alone. -/
theorem Changes.eq_of_isDriving {before after : Errand α} (changes : before.Changes after)
    (driving : before.state.isDriving = true) : after = before := by
  rcases changes with same | ⟨notDriving, _⟩
  · exact same
  · exact (nomatch driving.symm.trans notDriving)

/-- A car that is on its way was so before. -/
theorem Changes.eq_of_isOnRoute {before after : Errand α} (changes : before.Changes after)
    (onRoute : after.state.isOnRoute = true) : after = before := by
  rcases changes with same | ⟨_, notOnRoute⟩
  · exact same
  · exact (nomatch onRoute.symm.trans notOnRoute)

end Errand

/-! ### The other threads -/

/-- The operations of the policy that other threads call. -/
inductive OutsideOp (α : Type)
  | rawMessage (message : Option (PyValue α)) (clock : ℕ → α)
  | controlDisconnected
  | controlConnected (now : α)
  | gpsLost (now : α)
  | gpsRecovered (now : α)

def OutsideOp.toPolicy : OutsideOp α → PolicyLabel α
  | .rawMessage message clock => .rawMessage message clock
  | .controlDisconnected => .controlDisconnected
  | .controlConnected now => .controlConnected now
  | .gpsLost now => .gpsLost now
  | .gpsRecovered now => .gpsRecovered now

/-- The atomic steps: those of the control thread, and the whole operations of the others. -/
inductive ThreadLabel (α : Type)
  | policy (op : OutsideOp α)
  | reportTick
  | pose (op : PoseOp α)
  | beginTick (input : TickInput α)
  | stepTick

def ThreadLabel.toRuntime : ThreadLabel α → RuntimeLabel α
  | .policy op => .policy op.toPolicy
  | .reportTick => .reportTick
  | .pose op => .pose op
  | .beginTick input => .beginTick input
  | .stepTick => .stepTick

/-- What is known of the store between two calls. -/
structure Stack.Sound (stack : Stack α) : Prop where
  remembers : stack.store.Remembers
  valid : stack.store.errand.Valid

/-- A step of another thread. -/
structure Stack.Passes (before after : Stack α) : Prop where
  sound : after.Sound
  changes : before.store.errand.Changes after.store.errand

namespace Stack

variable {stack after : Stack α}

theorem Passes.refl (sound : stack.Sound) : Passes stack stack := ⟨sound, .refl _⟩

/-- A step that does not touch the service passes. -/
theorem Passes.of_service (sound : stack.Sound) (remembers : after.store.Remembers)
    (same : after.service = stack.service) : Passes stack after := by
  have errand : after.store.errand = stack.store.errand :=
    congrArg (fun service : Service α => (⟨service.state, service.mission⟩ : Errand α)) same
  refine ⟨⟨remembers, ?_⟩, ?_⟩
  · rw [errand]
    exact sound.valid
  · rw [errand]
    exact .refl _

end Stack

section Policy

variable [Scalar α] {stack : Stack α}

omit [Scalar α] in
/-- A move is accepted while the car waits. -/
theorem onMove_passes (sound : stack.Sound) (x y : α) (clock : ℕ → α) :
    stack.Passes (stack.onMove x y clock) := by
  unfold Stack.onMove
  split
  · exact .refl sound
  next isWaiting =>
    have waiting := not_not.mp isWaiting
    refine ⟨⟨⟨fun inError => (nomatch inError), fun _ => rfl⟩, ?_⟩, .inr ⟨?_, rfl⟩⟩
    · exact iff_of_true rfl (.inl rfl)
    · unfold VehicleSnapshot.errand VehicleSnapshot.effectiveState
      rw [waiting]
      rfl

omit [Scalar α] in
/-- A stop is accepted when the car has arrived. -/
theorem onStop_passes (sound : stack.Sound) : stack.Passes stack.onStop := by
  unfold Stack.onStop
  split
  · exact .refl sound
  next hasArrived =>
    have arrived := not_not.mp hasArrived
    refine ⟨⟨⟨fun inError => (nomatch inError), fun _ => rfl⟩, ?_⟩, .inr ⟨?_, rfl⟩⟩
    · exact iff_of_false Bool.false_ne_true (by rintro (driving | state) <;> contradiction)
    · unfold VehicleSnapshot.errand VehicleSnapshot.effectiveState
      rw [arrived]
      rfl

theorem enterError_passes (sound : stack.Sound) (reason : Reason) :
    stack.Passes (stack.enterError reason) :=
  .of_service sound (Stack.enterError_remembers sound.remembers reason)
    (Stack.enterError_service reason)

omit [Scalar α] in
theorem clearReason_passes (sound : stack.Sound) (event : Event α) (reason : Reason) :
    stack.Passes ((stack.emit event).clearReason reason) := by
  have emitted : (stack.emit event).store.Remembers := sound.remembers
  exact .of_service sound (Stack.clearReason_remembers emitted reason)
    (Stack.clearReason_service emitted reason)

/-- No operation of another thread disturbs a car that plans or is on its way. -/
theorem outsideOp_passes (policy : CommandPolicy α) (sound : stack.Sound) (op : OutsideOp α) :
    stack.Passes (policy.step stack op.toPolicy) := by
  cases op with
  | rawMessage message clock =>
    rw [OutsideOp.toPolicy, CommandPolicy.step, CommandPolicy.onRawMessage]
    split
    · exact .refl sound
    next command _ =>
      cases command with
      | move x y => exact onMove_passes sound x y clock
      | stop => exact onStop_passes sound
      | resume =>
        rw [Stack.onCommand, Stack.onResume]
        split
        · exact .refl sound
        · exact clearReason_passes sound _ _
  | controlDisconnected => exact enterError_passes sound _
  | controlConnected now =>
    rw [OutsideOp.toPolicy, CommandPolicy.step, Stack.onControlConnected]
    split
    · exact .of_service sound sound.remembers rfl
    · exact .refl sound
  | gpsLost now =>
    rw [OutsideOp.toPolicy, CommandPolicy.step, Stack.onGpsLost]
    split
    · exact enterError_passes sound _
    · exact .of_service sound (Stack.enterError_remembers sound.remembers _)
        (Stack.enterError_service .gpsLost)
  | gpsRecovered now =>
    rw [OutsideOp.toPolicy, CommandPolicy.step, Stack.onGpsRecovered]
    split
    · exact clearReason_passes sound _ _
    · exact .refl sound

omit [Scalar α] in
theorem reportTick_passes (sound : stack.Sound) : stack.Passes stack.reportTick := by
  obtain ⟨added, ticked, -⟩ := reportTick_adds stack
  rw [ticked]
  exact .of_service sound sound.remembers rfl

theorem poseOp_passes (sound : stack.Sound) (op : PoseOp α) :
    stack.Passes (stack.onStore op.apply) := by
  obtain ⟨pose, stale, speed, applied⟩ := op.apply_eq stack.store
  rw [Stack.onStore, applied]
  exact .of_service sound ⟨sound.remembers.inError, sound.remembers.outside⟩ rfl

end Policy

/-! ### The contract of the control thread -/

/-- What the thread sees of the store, and the commands it handed to the supervisor in this tick. -/
structure TickView (α : Type) where
  errand : Errand α
  applied : ℕ

/-- Reading the gate is the first step of `apply`, and a step of nothing else. -/
def OutputOp.applies : OutputOp α → ℕ
  | .readGate => 1
  | _ => 0

/-- What the others may do between two calls. -/
def TickView.Relies (before after : TickView α) : Prop :=
  after.errand.Valid ∧ before.errand.Changes after.errand ∧ after.applied = before.applied

/-- The thread writes no state behind which there is no mission to drive, and never plans again. -/
def TickView.Allows (op : WorkerOp α) (view : TickView α) : Prop :=
  match op with
  | .setDrivingState state => state ≠ .planning ∧ state ≠ .error ∧
    (⟨state, view.errand.mission⟩ : Errand α).Valid
  | _ => True

/-- A car that drives arrives. -/
def TickView.arrive (view : TickView α) : TickView α :=
  { view with errand := ⟨.arrived, view.errand.mission⟩ }

/-- The answers to the calls of the thread, and what it sees behind them. -/
def TickView.Answers : (op : WorkerOp α) → TickView α → op.Answer → TickView α → Prop
  | .readSnapshot, view, snap, after => snap.errand = view.errand ∧ after = view
  | .setDrivingState state, view, _, after =>
    after = { view with errand := ⟨state, view.errand.mission⟩ }
  | .output op, view, _, after => after = { view with applied := view.applied + op.applies }
  | .notifyArrived _, view, _, after =>
    after = view ∨ view.errand.state.isDriving = true ∧ after = view.arrive
  | .latch, view, _, after => after = view

/-- The contract of a tick. -/
def tickContract (α : Type) : Contract (WorkerOp α) WorkerOp.Answer (TickView α) where
  rely := TickView.Relies
  allowed := TickView.Allows
  answers := TickView.Answers

variable [Scalar α]

/-- The route of the follower and the stop of the arrival check are built for the mission. -/
structure DrivingWorker.Serves (worker : DrivingWorker α) (state : WorkerState α)
    (mission : ActiveMission α) (route : LaneRoute α) : Prop where
  stop : state.arrival.stop = some (worker.resolver.resolve (mission.destX, mission.destY))
  planned : ∃ found planned,
    worker.routeTo found (worker.resolver.resolve (mission.destX, mission.destY)) = .ok planned ∧
      LaneRoute.fromRoute planned = .ok route
  onRoute : worker.follower.OnRoute route state.follower

namespace DrivingWorker

variable (worker : DrivingWorker α)

/-- While the car is on its way, the thread serves its mission. -/
def Follows (state : WorkerState α) (errand : Errand α) : Prop :=
  errand.state.isOnRoute = true →
    ∃ mission route, errand.mission = some mission ∧ worker.Serves state mission route

/-- A tick ends with one command handed to the supervisor and a thread that serves the mission,
unless it raises. -/
def EndsWell : Option (Ticked α) → TickView α → Prop
  | none, _ => True
  | some ticked, view => view.applied = 1 ∧ worker.Follows ticked.toWorkerState view.errand

variable {worker} {state : WorkerState α}

theorem Follows.changes {before after : Errand α} (follows : worker.Follows state before)
    (changes : before.Changes after) : worker.Follows state after := by
  intro onRoute
  have same : after = before := changes.eq_of_isOnRoute onRoute
  rw [same] at onRoute ⊢
  exact follows onRoute

/-- What the others do does not undo the end of a tick. -/
theorem EndsWell.relied (result : Option (Ticked α)) {view view' : TickView α}
    (relies : view.Relies view') (ends : worker.EndsWell result view) :
    worker.EndsWell result view' := by
  cases result with
  | none => exact trivial
  | some ticked => exact ⟨relies.2.2.trans ends.1, ends.2.changes relies.2.1⟩

omit [Scalar α] in
theorem relies_trans {first second third : TickView α} (before : first.Relies second)
    (after : second.Relies third) : first.Relies third :=
  ⟨after.1, before.2.1.trans after.2.1, after.2.2.trans before.2.2⟩

/-! ### A tick meets the contract -/

/-- The result of a tick before exceptions are caught. -/
def TicksWell (worker : DrivingWorker α) : Except PyError (Ticked α) → TickView α → Prop
  | .error _, _ => True
  | .ok ticked, view => view.applied = 1 ∧ worker.Follows ticked.toWorkerState view.errand

/-- The result of planning. -/
def PlansWell (worker : DrivingWorker α) : Except PyError (WorkerState α) → TickView α → Prop
  | .error _, _ => True
  | .ok state, view => view.applied = 0 ∧ worker.Follows state view.errand

section Meets

variable {Result : Type} {post : Result → TickView α → Prop} {view : TickView α}

omit [Scalar α] in
/-- One step of an output. -/
theorem output_meets {op : OutputOp α} {next : op.Answer → WorkerProgram α Result}
    (onward : ∀ answer after, view.errand.Changes after.errand →
      after.applied = view.applied + op.applies → (next answer).Meets (tickContract α) post after) :
    (Program.call (.output op) next : WorkerProgram α Result).Meets (tickContract α) post view := by
  rintro view' ⟨valid, changes, applied⟩
  refine ⟨trivial, ?_⟩
  rintro answer _ rfl
  exact onward answer _ changes (congrArg (· + op.applies) applied)

/-- Handing a command to the supervisor counts once. -/
theorem apply_meets (supervisor : SafetySupervisor α) (command : ControlCommand α)
    {continuation : ControlCommand α → WorkerProgram α Result}
    (onward : ∀ applied after, view.errand.Changes after.errand →
      after.applied = view.applied + 1 → (continuation applied).Meets (tickContract α) post after) :
    ((outputOf (supervisor.apply command)).bind continuation).Meets (tickContract α) post view := by
  refine output_meets fun gate _ gateChanges gateCount => ?_
  refine output_meets fun _ _ throttleChanges throttleCount => ?_
  refine output_meets fun _ _ angleChanges angleCount => ?_
  refine output_meets fun _ _ storeChanges storeCount => ?_
  refine onward _ _ (gateChanges.trans (throttleChanges.trans (angleChanges.trans storeChanges))) ?_
  rw [storeCount, angleCount, throttleCount, gateCount]
  rfl

/-- Latching the stop ends the thread. -/
theorem latchStop_meets (worker : DrivingWorker α) : ((latchStop : WorkerProgram α Unit).bind
    fun _ => .done none).Meets (tickContract α) worker.EndsWell view := by
  intro view' relies
  refine ⟨trivial, fun _ after _ => ?_⟩
  refine output_meets fun _ _ _ _ => ?_
  refine output_meets fun _ _ _ _ => ?_
  exact output_meets fun _ _ _ _ => trivial

end Meets

variable {view : TickView α}

/-- Stopping at the end of a tick. -/
theorem stop_meets (ready : view.applied = 0) (follows : worker.Follows state view.errand) :
    ((outputOf (worker.supervisor.apply stopCommand)).bind fun _ =>
      .done (.ok ⟨state, none⟩)).Meets (tickContract α) worker.TicksWell view :=
  apply_meets worker.supervisor stopCommand fun _ after changes applied =>
    ⟨by rw [applied, ready], follows.changes changes⟩

/-- An update of the arrival check keeps its stop. -/
theorem update_stop (checker : ArrivalChecker α) (update : ArrivalChecker.Update α)
    (arrival : ArrivalState α) : (checker.update update arrival).2.stop = arrival.stop := by
  unfold ArrivalChecker.update
  split
  · rfl
  · split
    · rfl
    · split
      · rfl
      · rfl

/-- Another state of the arrival check with the same stop serves the mission too. -/
theorem Follows.of_stop {errand : Errand α} (follows : worker.Follows state errand)
    {arrival : ArrivalState α} (same : arrival.stop = state.arrival.stop) :
    worker.Follows ⟨state.follower, arrival⟩ errand := by
  intro onRoute
  obtain ⟨mission, route, known, serves⟩ := follows onRoute
  exact ⟨mission, route, known, same.trans serves.stop, serves.planned, serves.onRoute⟩

/-- What is planned for a mission: the follower at the start of the route to its stop, and a new
arrival check of the stop. -/
theorem planned_eq {pose : LocalizationPose α} {mission : ActiveMission α} {next : WorkerState α}
    (planned : worker.planned pose mission = .ok (some next)) :
    ∃ found route folded,
      worker.routeTo found (worker.resolver.resolve (mission.destX, mission.destY)) = .ok route ∧
        LaneRoute.fromRoute route = .ok folded ∧
        next = ⟨.reset (some folded),
          ArrivalChecker.startMission (worker.resolver.resolve (mission.destX, mission.destY))⟩ := by
  obtain ⟨match?, -, planned⟩ := bind_eq_ok.mp planned
  cases match? with
  | none => cases planned
  | some found =>
    obtain ⟨route, routed, planned⟩ := bind_eq_ok.mp planned
    obtain ⟨follower, set, planned⟩ := bind_eq_ok.mp planned
    obtain ⟨folded, fold, set⟩ := bind_eq_ok.mp set
    obtain ⟨turns, -, set⟩ := bind_eq_ok.mp set
    cases set
    cases planned
    exact ⟨found, route, folded, routed, fold, rfl⟩

/-- What was planned for a mission serves it. -/
theorem planned_serves {pose : LocalizationPose α} {mission : ActiveMission α}
    {next : WorkerState α} (planned : worker.planned pose mission = .ok (some next)) :
    ∃ route, worker.Serves next mission route := by
  obtain ⟨found, route, folded, routed, fold, rfl⟩ := planned_eq planned
  exact ⟨folded, rfl, ⟨found, route, routed, fold⟩, .reset worker.follower folded⟩

/-- Planning: the car is put on its way when the route and the stop are those of the mission. -/
theorem plan_meets {snap : VehicleSnapshot α} (ready : view.applied = 0)
    (valid : view.errand.Valid) (planning : view.errand = ⟨.planning, snap.mission⟩) :
    (worker.plan snap state).Meets (tickContract α) worker.PlansWell view := by
  have stays : worker.Follows state view.errand := by
    intro onRoute
    rw [planning] at onRoute
    cases onRoute
  unfold plan
  cases isMission : snap.mission with
  | none =>
    have present := valid.mpr (.inl (by rw [planning]; rfl))
    rw [planning, isMission] at present
    cases present
  | some mission =>
    dsimp only
    split
    · exact ⟨ready, stays⟩
    · split
      · exact ⟨ready, stays⟩
      · split
        · exact trivial
        · exact ⟨ready, stays⟩
        next next planned =>
          rintro view' ⟨valid', changes, applied⟩
          have same : view'.errand = ⟨.planning, some mission⟩ := by
            rw [changes.eq_of_isDriving (by rw [planning]; rfl), planning, isMission]
          refine ⟨⟨DrivingState.noConfusion, DrivingState.noConfusion, ?_⟩, ?_⟩
          · rw [same]
            exact iff_of_true rfl (.inl rfl)
          · rintro _ _ rfl
            refine ⟨applied.trans ready, fun _ => ?_⟩
            obtain ⟨route, serves⟩ := planned_serves planned
            exact ⟨mission, route, by rw [same], serves⟩

/-- The arrival check at the end of a tick that drove. -/
theorem conclude_meets {input : TickInput α} {snap : VehicleSnapshot α}
    {pose : LocalizationPose α} {decision : Decision α} {applied : ControlCommand α}
    (counted : view.applied = 1) (follows : worker.Follows state view.errand) :
    (worker.conclude input snap pose decision state.follower state.arrival applied).Meets
      (tickContract α) worker.TicksWell view := by
  unfold conclude
  split
  · exact trivial
  next arrived arrival checked =>
    obtain ⟨found, -, checked⟩ := bind_eq_ok.mp checked
    have stop : arrival.stop = state.arrival.stop := by
      rw [← (Prod.mk.inj (Except.ok.inj checked)).2]
      exact update_stop worker.arrival _ state.arrival
    have later := follows.of_stop stop
    dsimp only
    split
    · rintro view' ⟨valid, changes, applied⟩
      refine ⟨trivial, ?_⟩
      rintro _ after (rfl | ⟨-, rfl⟩)
      · exact ⟨applied.trans counted, later.changes changes⟩
      · exact ⟨applied.trans counted, fun onRoute => (nomatch onRoute)⟩
    · exact ⟨counted, later⟩

/-- A call of the follower keeps its route. -/
theorem Follows.compute {errand : Errand α} (follows : worker.Follows state errand)
    {point : Point α} {headingDeg : α} {sensors : Sensors α} {driven : Driven α}
    (computed : worker.follower.compute point headingDeg sensors state.follower = .ok driven) :
    worker.Follows ⟨driven.state, state.arrival⟩ errand := by
  intro onRoute
  obtain ⟨mission, route, known, serves⟩ := follows onRoute
  have kept := LaneFollower.OnRoute.computeAt serves.onRoute
    (show worker.follower.computeAt ⟨point, headingDeg, sensors⟩ state.follower = .ok driven
      from computed)
  exact ⟨mission, route, known, serves.stop, serves.planned, kept.1⟩

/-- The output and the arrival check of a tick that drove. -/
theorem carryOut_meets {input : TickInput α} {snap : VehicleSnapshot α}
    {pose : LocalizationPose α} {driven : Driven α} (ready : view.applied = 0)
    (valid : view.errand.Valid) (onRoute : view.errand.state.isOnRoute = true)
    (follows : worker.Follows ⟨driven.state, state.arrival⟩ view.errand) :
    (worker.carryOut input snap pose state.arrival driven).Meets (tickContract α)
      worker.TicksWell view := by
  have concluded {view : TickView α} (ready : view.applied = 0)
      (follows : worker.Follows ⟨driven.state, state.arrival⟩ view.errand) :
      ((outputOf (worker.supervisor.apply (worker.decisionOf input driven).command)).bind
        (worker.conclude input snap pose (worker.decisionOf input driven) driven.state
          state.arrival)).Meets (tickContract α) worker.TicksWell view := by
    refine apply_meets worker.supervisor _ fun _ after changes applied => ?_
    exact conclude_meets (by rw [applied, ready]) (follows.changes changes)
  unfold carryOut announced
  dsimp only
  split
  · rintro view' ⟨valid', changes, applied⟩
    have same : view'.errand = view.errand :=
      changes.eq_of_isDriving (Errand.isDriving_of_isOnRoute onRoute)
    have present : view.errand.mission.isSome = true :=
      valid.mpr (.inl (Errand.isDriving_of_isOnRoute onRoute))
    refine ⟨⟨DrivingState.noConfusion, DrivingState.noConfusion, ?_⟩, ?_⟩
    · rw [same]
      exact iff_of_true present (.inl rfl)
    · rintro _ _ rfl
      refine concluded (applied.trans ready) fun _ => ?_
      dsimp only
      rw [same]
      exact follows onRoute
  · exact concluded ready follows

/-- Driving: the follower has a route, so the thread does not plan again. -/
theorem drive_meets {input : TickInput α} {snap : VehicleSnapshot α} (ready : view.applied = 0)
    (valid : view.errand.Valid) (onRoute : view.errand.state.isOnRoute = true)
    (follows : worker.Follows state view.errand) :
    (worker.drive input snap state).Meets (tickContract α) worker.TicksWell view := by
  unfold drive
  split
  · exact stop_meets ready follows
  next pose _ =>
    split
    · refine apply_meets worker.supervisor _ fun _ after changes applied => ?_
      exact ⟨by rw [applied, ready],
        (follows.changes changes).of_stop (update_stop worker.arrival _ state.arrival)⟩
    · split
      next noRoute =>
        obtain ⟨mission, route, -, serves⟩ := follows onRoute
        rw [serves.onRoute.routed] at noRoute
        cases noRoute
      · split
        · exact trivial
        next driven computed => exact carryOut_meets ready valid onRoute (follows.compute computed)

/-- A tick behind the reading of the snapshot. -/
theorem react_meets {input : TickInput α} {snap : VehicleSnapshot α} (ready : view.applied = 0)
    (valid : view.errand.Valid) (seen : snap.errand = view.errand)
    (follows : worker.Follows state view.errand) :
    (worker.react input state snap).Meets (tickContract α) worker.TicksWell view := by
  unfold react
  split
  next planning =>
    have errand : view.errand = ⟨.planning, snap.mission⟩ := by
      rw [← seen, VehicleSnapshot.errand, VehicleSnapshot.effectiveState, planning]
      rfl
    refine (plan_meets ready valid errand).bind fun result view' plans => ?_
    cases result with
    | error error => exact trivial
    | ok next => exact stop_meets plans.1 plans.2
  next following =>
    refine drive_meets ready valid ?_ follows
    rw [← seen, VehicleSnapshot.errand, VehicleSnapshot.effectiveState, following]
    rfl
  next approaching =>
    refine drive_meets ready valid ?_ follows
    rw [← seen, VehicleSnapshot.errand, VehicleSnapshot.effectiveState, approaching]
    rfl
  · refine stop_meets ready fun onRoute => ?_
    have present : snap.mission.isSome = true := by
      rw [show snap.mission = view.errand.mission from congrArg Errand.mission seen]
      exact valid.mpr (.inl (Errand.isDriving_of_isOnRoute onRoute))
    have kept : cleared snap state = state := by
      unfold cleared
      rw [Option.isNone_eq_false_iff.mpr present]
      rfl
    rw [kept]
    exact follows onRoute

/-- A round from a state that serves the mission, if the car is on its way, meets the contract. -/
theorem round_meets (input : TickInput α) (ready : view.applied = 0)
    (follows : worker.Follows state view.errand) :
    (worker.round input state).Meets (tickContract α) worker.EndsWell view := by
  have ticks : (worker.tick input state).Meets (tickContract α) worker.TicksWell view := by
    rintro view' ⟨valid, changes, applied⟩
    refine ⟨trivial, ?_⟩
    rintro snap _ ⟨seen, rfl⟩
    exact react_meets (applied.trans ready) valid seen (follows.changes changes)
  refine ticks.bind fun result view' well => ?_
  cases result with
  | error error => exact latchStop_meets worker
  | ok ticked => exact well

end DrivingWorker

/-! ### Runs -/

/-- Whether a call is the one of `apply` that is counted. -/
def WorkerOp.applies {α : Type} : WorkerOp α → ℕ
  | .output op => op.applies
  | _ => 0

/-- The runtime with the commands handed to the supervisor in the tick so far, and in every tick
that returned. -/
structure CountedRuntime (α : Type) extends Runtime α where
  applied : ℕ
  perTick : List ℕ

/-- The commands of the tick behind a step: none at its beginning. -/
def ThreadLabel.count {α : Type} (label : ThreadLabel α) (thread : ControlThread α)
    (applied : ℕ) : ℕ :=
  match label, thread with
  | .beginTick _, .idle _ => 0
  | .stepTick, .running (.call op _) => applied + op.applies
  | _, _ => applied

/-- Whether a tick returns with a step. -/
def ThreadLabel.returns {α : Type} (label : ThreadLabel α) (before after : ControlThread α) : Bool :=
  match label, before, after with
  | .stepTick, .running _, .idle _ => true
  | _, _, _ => false

namespace CountedRuntime

def start : CountedRuntime α := ⟨Runtime.start, 0, []⟩

variable (worker : DrivingWorker α) (policy : CommandPolicy α)

/-- One atomic step. -/
def step (counted : CountedRuntime α) (label : ThreadLabel α) : CountedRuntime α :=
  let next := Runtime.step worker policy counted.toRuntime label.toRuntime
  let count := label.count counted.thread counted.applied
  ⟨next, count,
    if label.returns counted.thread next.thread then counted.perTick ++ [count]
    else counted.perTick⟩

/-- Between two ticks the thread serves the mission, if the car is on its way; in a tick the rest of
it meets the contract. -/
def Serving (errand : Errand α) (applied : ℕ) : ControlThread α → Prop
  | .idle state => worker.Follows state errand
  | .running program => program.Meets (tickContract α) worker.EndsWell ⟨errand, applied⟩
  | .ended => True

/-- What holds in every state of a run. -/
structure Invariant (counted : CountedRuntime α) : Prop where
  sound : counted.Sound
  serving : Serving worker counted.store.errand counted.applied counted.thread
  counts : ∀ count ∈ counted.perTick, count = 1

variable {worker} {policy} {counted : CountedRuntime α}

/-- What other threads do leaves the thread as it should be. -/
theorem Serving.changes {before after : Errand α} {applied : ℕ} {thread : ControlThread α}
    (serving : Serving worker before applied thread) (changes : before.Changes after)
    (valid : after.Valid) : Serving worker after applied thread := by
  cases thread with
  | idle state => exact DrivingWorker.Follows.changes serving changes
  | running program =>
    exact Program.Meets.relied DrivingWorker.relies_trans
      (fun result _ _ relies ends => DrivingWorker.EndsWell.relied result relies ends) serving
      ⟨valid, changes, rfl⟩
  | ended => exact trivial

/-- The thread behind a part of a tick that meets the contract. -/
theorem Serving.behind {errand : Errand α} {applied : ℕ}
    {program : WorkerProgram α (Option (Ticked α))}
    (meets : program.Meets (tickContract α) worker.EndsWell ⟨errand, applied⟩) :
    Serving worker errand applied (.behind program) := by
  cases program with
  | done result => cases result with
    | none => exact trivial
    | some ticked => exact meets.2
  | call op next => exact meets

/-- The stack answers the calls as the contract says. -/
theorem handle_answers {stack : Stack α} (sound : stack.Sound) (op : WorkerOp α) (applied : ℕ)
    (allowed : TickView.Allows op ⟨stack.store.errand, applied⟩) :
    TickView.Answers op ⟨stack.store.errand, applied⟩ (op.handle stack).1
      ⟨(op.handle stack).2.store.errand, applied + op.applies⟩ ∧ (op.handle stack).2.Sound := by
  cases op with
  | readSnapshot => exact ⟨⟨rfl, rfl⟩, sound⟩
  | setDrivingState state =>
    obtain ⟨-, notError, valid⟩ := allowed
    have errand : (stack.store.setDrivingState state).errand = ⟨state, stack.store.mission⟩ := by
      rw [VehicleSnapshot.errand, VehicleSnapshot.effectiveState_setDrivingState notError]
      rfl
    refine ⟨congrArg (fun errand => (⟨errand, applied⟩ : TickView α)) errand,
      sound.remembers.setDrivingState state, ?_⟩
    exact errand.symm ▸ valid
  | output op =>
    cases op with
    | readGate | setThrottle | setAngleDeg | motorStop | centerSteering =>
      exact ⟨rfl, sound.remembers, sound.valid⟩
    | setControlCommand command =>
      exact ⟨rfl, ⟨sound.remembers.inError, sound.remembers.outside⟩, sound.valid⟩
  | notifyArrived now =>
    by_cases driving : stack.store.drivingState.isDriving = true
    · have state : stack.store.errand.state = stack.store.drivingState :=
        if_neg (isDriving_ne_error driving)
      have present : stack.store.mission.isSome = true :=
        sound.valid.mpr (.inl (by rw [state]; exact driving))
      have arrives : (stack.notifyArrived now).store =
          { (stack.store.setDrivingState .arrived) with controlCommand := stopCommand } := by
        rw [Stack.notifyArrived, if_pos driving]
        rfl
      have written := sound.remembers.setDrivingState .arrived
      refine ⟨.inr ⟨by rw [state]; exact driving, ?_⟩, ?_, ?_⟩
      · exact congrArg (fun store : VehicleSnapshot α => (⟨store.errand, applied⟩ : TickView α))
          arrives
      · exact arrives.symm ▸ ⟨written.inError, written.outside⟩
      · exact arrives.symm ▸ iff_of_true present (.inr rfl)
    · have same : stack.notifyArrived now = stack := notifyArrived_outside driving now
      refine ⟨.inl ?_, (congrArg Stack.Sound same).mpr sound⟩
      exact congrArg (fun stack : Stack α => (⟨stack.store.errand, applied⟩ : TickView α)) same
  | latch => exact ⟨rfl, sound.remembers, sound.valid⟩

/-- A step of another thread. -/
theorem Invariant.passes (invariant : counted.Invariant worker) {after : Stack α}
    (passes : Stack.Passes counted.toStack after) :
    Invariant worker ⟨⟨after, counted.thread⟩, counted.applied, counted.perTick⟩ where
  sound := passes.sound
  serving := invariant.serving.changes passes.changes passes.sound.valid
  counts := invariant.counts

/-- The step of a tick. -/
theorem Invariant.stepTick (invariant : counted.Invariant worker) :
    (step worker policy counted .stepTick).Invariant worker := by
  obtain ⟨⟨stack, thread⟩, applied, perTick⟩ := counted
  obtain ⟨sound, serving, counts⟩ := invariant
  cases thread with
  | idle state => exact ⟨sound, serving, counts⟩
  | ended => exact ⟨sound, serving, counts⟩
  | running program =>
    cases program with
    | done result => cases result with
      | none => exact ⟨sound, trivial, counts⟩
      | some ticked =>
        refine ⟨sound, serving.2, fun count member => ?_⟩
        rcases List.mem_append.mp member with earlier | last
        · exact counts count earlier
        · rw [List.mem_singleton.mp last]
          exact serving.1
    | call op next =>
      obtain ⟨allowed, answered⟩ := serving _ ⟨sound.valid, .refl _, rfl⟩
      obtain ⟨answers, sound'⟩ := handle_answers sound op applied allowed
      have meets := answered _ _ answers
      refine ⟨sound', Serving.behind meets, ?_⟩
      unfold step
      dsimp only [ThreadLabel.toRuntime, Runtime.step, Program.step, ThreadLabel.count]
      generalize next (op.handle stack).1 = rest at meets ⊢
      cases rest with
      | call op' next' => exact counts
      | done result => cases result with
        | none => exact counts
        | some ticked =>
          intro count member
          rcases List.mem_append.mp member with earlier | last
          · exact counts count earlier
          · rw [List.mem_singleton.mp last]
            exact meets.1

/-- Every atomic step keeps the invariant. -/
theorem Invariant.step (invariant : counted.Invariant worker) (label : ThreadLabel α) :
    (step worker policy counted label).Invariant worker := by
  cases label with
  | policy op => exact invariant.passes (outsideOp_passes policy invariant.sound op)
  | reportTick => exact invariant.passes (reportTick_passes invariant.sound)
  | pose op => exact invariant.passes (poseOp_passes invariant.sound op)
  | stepTick => exact invariant.stepTick
  | beginTick input =>
    obtain ⟨⟨stack, thread⟩, applied, perTick⟩ := counted
    obtain ⟨sound, serving, counts⟩ := invariant
    cases thread with
    | idle state => exact ⟨sound, .behind (DrivingWorker.round_meets input rfl serving), counts⟩
    | running program => exact ⟨sound, serving, counts⟩
    | ended => exact ⟨sound, serving, counts⟩

/-- The invariant holds behind the initialization. -/
theorem start_invariant : (start : CountedRuntime α).Invariant worker where
  sound := by
    refine ⟨⟨fun inError => (nomatch inError), fun _ => rfl⟩, ?_⟩
    exact iff_of_false Bool.false_ne_true (by rintro (driving | state) <;> contradiction)
  serving onRoute := (nomatch onRoute)
  counts count member := absurd member List.not_mem_nil

/-- **Driving follows the current mission.** In every interleaving of the steps of the control
thread with the operations of the others: while the car is on its way, between two ticks, there is a
mission and the route and the stop are built for it; the thread never plans again for want of a
route; and every tick hands exactly one command to the supervisor. -/
theorem drives_current_mission (worker : DrivingWorker α) (policy : CommandPolicy α)
    (labels : List (ThreadLabel α)) :
    let counted := Transition.run (CountedRuntime.step worker policy) start labels
    (∀ state, counted.thread = .idle state → counted.store.effectiveState.isOnRoute = true →
      ∃ mission route, counted.store.mission = some mission ∧
        worker.Serves state mission route) ∧
    (∀ next, counted.thread ≠ .running (.call (.setDrivingState .planning) next)) ∧
    ∀ count ∈ counted.perTick, count = 1 := by
  intro counted
  have kept (before : CountedRuntime α) (label : ThreadLabel α) (holds : before.Invariant worker) :
      (CountedRuntime.step worker policy before label).Invariant worker := Invariant.step holds label
  have invariant : counted.Invariant worker :=
    Transition.run_invariant kept start_invariant labels
  refine ⟨fun state idle onRoute => ?_, fun next running => ?_, invariant.counts⟩
  · have serving := invariant.serving
    rw [idle] at serving
    exact serving onRoute
  · have serving := invariant.serving
    rw [running] at serving
    exact (serving _ ⟨invariant.sound.valid, .refl _, rfl⟩).1.1 rfl

end CountedRuntime

end RcTaxi
