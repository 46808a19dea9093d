/-
This file shows that a worker whose cameras see nothing drives as one that was built without them.
Without a trigger a turn is started by the end of the lane alone, without a valid lane center the
heading is the measured one, and the correction is zero; so the two workers run the same program in
every tick, and go on from the same state.

That no trigger comes is asked of the triggers in the turn table only: marks may be seen that are
none of them. The state remembers a trigger and a resolved turn, so the run keeps that no trigger is
remembered and that the turn came from the table.
-/

import RcTaxi.SegInfluence

namespace RcTaxi

variable {α : Type} [Scalar α]

/-! ### Sightless sensors -/

/-- No turn of the table is triggered, and no lane center is valid. -/
structure Sensors.Sightless (sensors : Sensors α) (table : TurnTable α) : Prop where
  marks : ∀ leg turn spec, table.resolve turn = .ok spec →
    (sensors.marks leg).triggered spec.trigger = false
  seg : sensors.seg.valid = false

/-- The sensors are sightless, and no lane center is valid for the correction either. -/
structure TickInput.Sightless (input : TickInput α) (table : TurnTable α) : Prop where
  sensors : input.sensors.Sightless table
  segCorrection : input.segCorrection.valid = false

/-- No trigger is remembered, and a remembered turn came from the table. -/
def FollowerState.Unmarked (state : FollowerState α) (table : TurnTable α) : Prop :=
  state.firedAt = none ∧ ∀ spec, state.spec = some spec → ∃ turn, table.resolve turn = .ok spec

/-- A state that remembers neither. -/
theorem FollowerState.unmarked_of_none {state : FollowerState α} {table : TurnTable α}
    (firedAt : state.firedAt = none) (spec : state.spec = none) : state.Unmarked table :=
  ⟨firedAt, fun _ kept => absurd (spec.symm.trans kept) (Option.some_ne_none _).symm⟩

/-- The outcomes are the same and no trigger is remembered. -/
structure DrivenBlind (table : TurnTable α) (first second : Driven α) : Prop where
  same : second = first
  unmarked : first.state.Unmarked table

namespace LaneFollower

variable (follower : LaneFollower α)

/-- The follower built without adapters. -/
def withoutVision : LaneFollower α := { follower with marks := false, seg := false }

/-! ### Legs -/

/-- Without a valid lane center the heading does not need its adapter. -/
theorem pursueHeading_withoutVision (leg : LaneLeg α) (headingDeg : α) {obs : SegObservation α}
    (invalid : obs.valid = false) (state : FollowerState α) :
    follower.withoutVision.pursueHeading leg headingDeg obs state =
      follower.pursueHeading leg headingDeg obs state := by
  unfold pursueHeading
  rw [invalid, Bool.and_false, Bool.and_false]
  rfl

theorem steer_blind (leg : LaneLeg α) (target point : Point α) (headingDeg remaining : α)
    (isFinal : Bool) {obs : SegObservation α} (invalid : obs.valid = false)
    {state : FollowerState α} {table : TurnTable α} (unmarked : state.Unmarked table) :
    Alike (DrivenBlind table)
      (follower.steer leg target point headingDeg remaining isFinal obs state)
      (follower.withoutVision.steer leg target point headingDeg remaining isFinal obs state) := by
  have same : follower.withoutVision.steer leg target point headingDeg remaining isFinal obs state =
      follower.steer leg target point headingDeg remaining isFinal obs state := by
    unfold steer
    rw [follower.pursueHeading_withoutVision leg headingDeg invalid]
    rfl
  rw [same]
  unfold steer
  generalize chosen : follower.pursueHeading leg headingDeg obs state = result
  obtain ⟨on, guarded, headed⟩ := pursueHeading_state chosen
  obtain ⟨heading, pursuing⟩ := result
  dsimp only at headed ⊢
  subst headed
  refine Alike.same _ fun wheel => ?_
  generalize limited : follower.rateLimit _ _ = result
  obtain ⟨last, stated⟩ := rateLimit_state limited
  obtain ⟨angle, steered⟩ := result
  dsimp only at stated
  subst stated
  exact ⟨rfl, unmarked⟩

/-- Without a trigger a turn starts at the end of the lane. -/
theorem shouldStartTurn_blind (spec : ResolvedTurn α) (ahead : α) (point : Point α) (now : α)
    {obs : MarkObservation α} (unseen : obs.triggered spec.trigger = false)
    {state : FollowerState α} (unfired : state.firedAt = none) :
    follower.shouldStartTurn spec ahead point now obs state =
      (spec.fallbackAtLaneEnd && (PyFloat.finite ahead).le spec.fallbackLeadM, state) := by
  have fired : fire spec point now obs state = state := by
    unfold fire
    rw [unseen, Bool.and_false]
    rfl
  unfold shouldStartTurn
  dsimp only
  rw [fired, unfired]
  split
  · rfl
  · rfl

/-- The ways on are the same, and no trigger is remembered. -/
inductive JunctionBlind (table : TurnTable α) : Junction α → Junction α → Prop
  | stay {state : FollowerState α} (unmarked : state.Unmarked table) :
      JunctionBlind table (.stay state) (.stay state)
  | turn (spec : ResolvedTurn α) {state : FollowerState α} (unmarked : state.Unmarked table) :
      JunctionBlind table (.turn spec state) (.turn spec state)
  | pass {state : FollowerState α} (unmarked : state.Unmarked table) :
      JunctionBlind table (.pass state) (.pass state)

omit follower in
theorem arm_unmarked (leg : LaneLeg α) (spec : ResolvedTurn α) (ahead : α)
    {state : FollowerState α} {table : TurnTable α} (unmarked : state.Unmarked table) :
    (arm leg spec ahead state).Unmarked table := by
  unfold arm
  split
  · exact unmarked
  · exact unmarked

theorem onward_blind (leg : LaneLeg α) (turn : Turn α) (point : Point α) {sensors : Sensors α}
    {spec : ResolvedTurn α} {state : FollowerState α}
    (unseen : ∀ leg, (sensors.marks leg).triggered spec.trigger = false) {table : TurnTable α}
    (unmarked : state.Unmarked table) :
    JunctionBlind table (follower.onward leg turn point sensors spec state)
      (follower.withoutVision.onward leg turn point sensors spec state) := by
  have armed := arm_unmarked leg spec (leg.exitAhead point) unmarked
  unfold onward
  dsimp only
  generalize arm leg spec (leg.exitAhead point) state = next at armed
  rw [follower.shouldStartTurn_blind _ _ _ _ (unseen _) armed.1,
    follower.withoutVision.shouldStartTurn_blind _ _ _ _ (unseen _) armed.1]
  split
  · dsimp only
    split_ifs
    · exact .turn spec armed
    · exact .stay armed
    · exact .stay armed
  · split
    · change JunctionBlind table (.pass (follower.passStraight turn point state)) (.pass
        (follower.passStraight turn point state))
      refine .pass ?_
      unfold passStraight
      split
      · exact FollowerState.unmarked_of_none rfl rfl
      · exact FollowerState.unmarked_of_none rfl rfl
    · exact .stay unmarked

/-- The turn behind the leg comes from the table. -/
theorem specOf_resolved {turn : Turn α} {state : FollowerState α}
    (unmarked : state.Unmarked follower.table) {spec : ResolvedTurn α}
    (found : follower.specOf turn state = .ok spec) :
    ∃ turn, follower.table.resolve turn = .ok spec := by
  unfold specOf at found
  split at found
  · next kept =>
    cases found
    exact unmarked.2 spec kept
  · exact ⟨turn, found⟩

theorem junction_blind (leg : LaneLeg α) (turn : Turn α) (point : Point α) {sensors : Sensors α}
    (sightless : sensors.Sightless follower.table) {state : FollowerState α}
    (unmarked : state.Unmarked follower.table) :
    Alike (JunctionBlind follower.table) (follower.junction leg turn point sensors state)
      (follower.withoutVision.junction leg turn point sensors state) := by
  refine Alike.known (follower.specOf turn state) fun spec found => ?_
  obtain ⟨turn', resolved⟩ := follower.specOf_resolved unmarked found
  refine follower.onward_blind leg turn point (fun leg => sightless.marks leg turn' spec resolved)
    ⟨unmarked.1, fun other kept => ?_⟩
  cases kept
  exact ⟨turn', resolved⟩

/-! ### Driving -/

omit follower in
theorem iterate_advanceLeg_unmarked (state : FollowerState α) (span : ℕ+) (table : TurnTable α) :
    (FollowerState.advanceLeg^[(span : ℕ)] state).Unmarked table := by
  obtain ⟨before, positive⟩ := Nat.exists_eq_succ_of_ne_zero span.ne_zero
  rw [positive, Function.iterate_succ_apply']
  exact FollowerState.unmarked_of_none rfl rfl

theorem driveTurn_blind (route : LaneRoute α) (point : Point α) (headingDeg : α)
    {continued continued' : FollowerState α → Except PyError (Driven α)}
    (continuation : ∀ state : FollowerState α, state.Unmarked follower.table →
      Alike (DrivenBlind follower.table) (continued state) (continued' state))
    {state : FollowerState α} (unmarked : state.Unmarked follower.table) :
    Alike (DrivenBlind follower.table)
      (follower.driveTurn route point headingDeg continued state)
      (follower.withoutVision.driveTurn route point headingDeg continued' state) := by
  change Alike _ _ (follower.driveTurn route point headingDeg continued' state)
  unfold driveTurn
  split
  · exact rfl
  · refine Alike.same _ fun nextLeg => Alike.same _ fun lastTurn => ?_
    split
    · exact continuation _ (iterate_advanceLeg_unmarked _ state.fuseSpan _)
    · exact ⟨rfl, unmarked⟩

theorem straightGateTarget_unmarked (point : Point α) {state : FollowerState α}
    {table : TurnTable α} (unmarked : state.Unmarked table) :
    (follower.straightGateTarget point state).2.Unmarked table := by
  unfold straightGateTarget
  split
  · exact unmarked
  · split
    · exact unmarked
    · exact unmarked

omit follower in
theorem approached_unmarked (driven : Bool) (remaining : α) {state : FollowerState α}
    {table : TurnTable α} (unmarked : state.Unmarked table) :
    (approached driven remaining state).Unmarked table := by
  cases driven with
  | false => exact unmarked
  | true => exact unmarked

/-- The outlook is the same, and no trigger is remembered in it. -/
theorem outlook_blind (route : LaneRoute α) (leg : LaneLeg α) (point : Point α)
    {state : FollowerState α} {table : TurnTable α} (unmarked : state.Unmarked table) :
    Alike (fun view view' => view' = view ∧ view.state.Unmarked table)
      (follower.outlook route leg point state)
      (follower.withoutVision.outlook route leg point state) := by
  change Alike _ _ (follower.outlook route leg point state)
  unfold outlook
  refine Alike.same _ fun pointOfLeg => ?_
  have gated := follower.straightGateTarget_unmarked point
    (unmarked : { state with pt := follower.advancePt leg point state.pt }.Unmarked table)
  dsimp only at gated ⊢
  generalize follower.straightGateTarget point _ = result at gated
  exact Alike.same _ fun onLeg => ⟨rfl, approached_unmarked _ _ gated⟩

/-- A turn begins in the same way, and no trigger is remembered. -/
theorem beginTurn_blind (route : LaneRoute α) (spec : ResolvedTurn α) (point : Point α)
    {state : FollowerState α} {table : TurnTable α} (unmarked : state.Unmarked table) :
    Alike (fun begun begun' => begun' = begun ∧ begun.Unmarked table)
      (follower.beginTurn route spec point state)
      (follower.withoutVision.beginTurn route spec point state) :=
  Alike.same (follower.fusedSpan route spec state.leg) fun _ => ⟨rfl, unmarked⟩

theorem driveLeg_blind (route : LaneRoute α) (point : Point α) (headingDeg : α)
    {sensors : Sensors α} (sightless : sensors.Sightless follower.table) (legs : ℕ)
    {state : FollowerState α} (unmarked : state.Unmarked follower.table) :
    Alike (DrivenBlind follower.table)
      (follower.driveLeg route point headingDeg sensors legs state)
      (follower.withoutVision.driveLeg route point headingDeg sensors legs state) := by
  induction legs generalizing state with
  | zero => exact rfl
  | succ legs inductionHypothesis =>
    unfold driveLeg
    refine Alike.same _ fun leg => (follower.outlook_blind route leg point unmarked).bind ?_
    rintro view view' ⟨rfl, viewed⟩
    have steers {state : FollowerState α} (unmarked : state.Unmarked follower.table) :=
      follower.steer_blind leg view'.target point headingDeg view'.remaining view'.isFinal
        sightless.seg unmarked
    split
    · exact ⟨rfl, viewed⟩
    · dsimp only
      split
      · exact steers viewed
      · next turn _ =>
        refine (follower.junction_blind leg turn point sightless viewed).bind
          fun junction junction' ways => ?_
        cases ways with
        | stay unmarked => exact steers unmarked
        | pass unmarked => exact inductionHypothesis unmarked
        | turn spec unmarked =>
          refine (follower.beginTurn_blind route spec point unmarked).bind ?_
          rintro begun begun' ⟨rfl, started⟩
          exact follower.driveTurn_blind route point headingDeg
            (fun _ unmarked => inductionHypothesis unmarked) started

theorem driveOn_blind (route : LaneRoute α) (point : Point α) (headingDeg : α)
    {sensors : Sensors α} (sightless : sensors.Sightless follower.table)
    {state : FollowerState α} (unmarked : state.Unmarked follower.table) :
    Alike (DrivenBlind follower.table)
      (follower.driveOn route point headingDeg sensors state)
      (follower.withoutVision.driveOn route point headingDeg sensors state) := by
  have drives (state : FollowerState α) (unmarked : state.Unmarked follower.table) :=
    follower.driveLeg_blind route point headingDeg sightless route.legs.length unmarked
  unfold driveOn
  dsimp only
  split
  · exact follower.driveTurn_blind route point headingDeg drives unmarked
  · exact drives state unmarked

/-! ### compute -/

theorem accumulateTravel_unmarked (point : Point α) {state : FollowerState α} {table : TurnTable α}
    (unmarked : state.Unmarked table) : (follower.accumulateTravel point state).Unmarked table := by
  unfold accumulateTravel
  dsimp only
  split
  · exact unmarked
  · split
    · exact unmarked
    · exact unmarked

theorem finish_unmarked (point : Point α) {driven : Driven α} {table : TurnTable α}
    (unmarked : driven.state.Unmarked table) :
    (follower.finish point driven).state.Unmarked table := by
  unfold finish applyThrottleRules
  split
  · exact unmarked
  · dsimp only
    split
    · exact unmarked
    · split
      · exact unmarked
      · exact unmarked

/-- A call of `compute` is the same, and no trigger is remembered. -/
theorem compute_blind (point : Point α) (headingDeg : α) {sensors : Sensors α}
    (sightless : sensors.Sightless follower.table) {state : FollowerState α}
    (unmarked : state.Unmarked follower.table) :
    Alike (DrivenBlind follower.table) (follower.compute point headingDeg sensors state)
      (follower.withoutVision.compute point headingDeg sensors state) := by
  unfold compute
  split
  · exact ⟨rfl, unmarked⟩
  · next route _ =>
    have departed : (state.depart point).Unmarked follower.table := unmarked
    have travelled := follower.accumulateTravel_unmarked point departed
    refine (follower.driveOn_blind route point headingDeg sightless travelled).bind ?_
    rintro driven driven' ⟨rfl, driving⟩
    exact ⟨rfl, follower.finish_unmarked point driving⟩

end LaneFollower

/-! ### Ticks -/

/-- The ticks are the same and no trigger is remembered. -/
structure TickedBlind (table : TurnTable α) (first second : Ticked α) : Prop where
  same : second = first
  unmarked : first.follower.Unmarked table

namespace DrivingWorker

variable (worker : DrivingWorker α)

/-- The worker built without adapters. -/
def withoutVision : DrivingWorker α :=
  { worker with follower := worker.follower.withoutVision, seg := none }

/-- Without a valid lane center the wheel angle is not corrected. -/
theorem correct_blind {input : TickInput α} (invalid : input.segCorrection.valid = false)
    (segOk : Bool) (command : ControlCommand α) : worker.correct input segOk command = command := by
  unfold correct
  split
  · rfl
  · next adapter _ =>
    have none : adapter.correctionWheelDeg input.segCorrection = 0 := by
      unfold SegAdapter.correctionWheelDeg
      rw [invalid]
      rfl
    rw [none, add_zero]
    split
    · rfl
    · rfl

/-- What is carried out is the same program. -/
theorem carryOut_blind {input : TickInput α} (invalid : input.segCorrection.valid = false)
    (snap : VehicleSnapshot α) (pose : LocalizationPose α) (arrival : ArrivalState α)
    (driven : Driven α) :
    worker.withoutVision.carryOut input snap pose arrival driven =
      worker.carryOut input snap pose arrival driven := by
  have decision : worker.withoutVision.decisionOf input driven = worker.decisionOf input driven := by
    unfold decisionOf
    rw [worker.correct_blind invalid, worker.withoutVision.correct_blind invalid]
  unfold carryOut
  rw [decision]
  rfl

/-- A planned route is followed from its start. -/
theorem setRoute_unmarked {route : Route α} {state : FollowerState α} {table : TurnTable α}
    (planned : worker.follower.setRoute route = .ok state) : state.Unmarked table := by
  obtain ⟨folded, -, rest⟩ := bind_eq_ok.mp planned
  obtain ⟨resolved, -, same⟩ := bind_eq_ok.mp rest
  cases same
  exact FollowerState.unmarked_of_none rfl rfl

theorem planned_unmarked {pose : LocalizationPose α} {mission : ActiveMission α}
    {next : WorkerState α} {table : TurnTable α}
    (planned : worker.planned pose mission = .ok (some next)) : next.follower.Unmarked table := by
  obtain ⟨found, -, rest⟩ := bind_eq_ok.mp planned
  cases found with
  | none => cases rest
  | some found =>
    obtain ⟨route, -, rest⟩ := bind_eq_ok.mp rest
    obtain ⟨follower, routed, same⟩ := bind_eq_ok.mp rest
    cases same
    exact worker.setRoute_unmarked routed

section Tick

variable {scene : Scene α} {state : WorkerState α} {table : TurnTable α}

/-- The states are the same and no trigger is remembered. -/
structure WorkerBlind (table : TurnTable α) (first second : WorkerState α) : Prop where
  same : second = first
  unmarked : first.follower.Unmarked table

omit worker in
/-- Stopping the car leaves the state as it is. -/
theorem stop_blind (worker : DrivingWorker α) {next : WorkerState α}
    (unmarked : next.follower.Unmarked table) :
    Program.Similar scene.answer scene.answer Eq (Alike (TickedBlind table))
      ((outputOf (worker.supervisor.apply stopCommand)).bind fun _ => .done (.ok ⟨next, none⟩))
      ((outputOf (worker.supervisor.apply stopCommand)).bind fun _ => .done (.ok ⟨next, none⟩)) :=
  (Program.Similar.refl _).bind fun _ _ _ => .done ⟨rfl, unmarked⟩

theorem plan_blind (unmarked : state.follower.Unmarked table) :
    Program.Similar scene.answer scene.answer Eq (Alike (WorkerBlind table))
      (worker.plan scene.snap state) (worker.withoutVision.plan scene.snap state) := by
  change Program.Similar _ _ _ _ _ (worker.plan scene.snap state)
  unfold plan
  split
  · exact .call rfl (.done ⟨rfl, unmarked⟩)
  · split
    · exact .done ⟨rfl, unmarked⟩
    · split
      · exact .done ⟨rfl, unmarked⟩
      · split
        · exact .done rfl
        · exact .done ⟨rfl, unmarked⟩
        · next planned => exact .call rfl (.done ⟨rfl, worker.planned_unmarked planned⟩)

/-- What is carried out remembers no trigger. -/
theorem carryOut_unmarked (pose : LocalizationPose α) (arrival : ArrivalState α) {driven : Driven α}
    (unmarked : driven.state.Unmarked table) :
    Program.Similar scene.answer scene.answer Eq (Alike (TickedBlind table))
      (worker.carryOut scene.input scene.snap pose arrival driven)
      (worker.carryOut scene.input scene.snap pose arrival driven) := by
  have output : Program.Similar scene.answer scene.answer Eq (Alike (TickedBlind table))
      ((outputOf (worker.supervisor.apply (worker.decisionOf scene.input driven).command)).bind
        (worker.conclude scene.input scene.snap pose (worker.decisionOf scene.input driven)
          driven.state arrival))
      ((outputOf (worker.supervisor.apply (worker.decisionOf scene.input driven).command)).bind
        (worker.conclude scene.input scene.snap pose (worker.decisionOf scene.input driven)
          driven.state arrival)) := by
    refine (Program.Similar.refl _).bind ?_
    rintro applied applied' rfl
    unfold conclude
    split
    · exact .done rfl
    · dsimp only
      split
      · exact .call rfl (.done ⟨rfl, unmarked⟩)
      · exact .done ⟨rfl, unmarked⟩
  unfold carryOut announced
  split
  · exact .call rfl output
  · exact output

variable (sightless : scene.input.Sightless worker.follower.table)
  (unmarked : state.follower.Unmarked worker.follower.table)

include sightless unmarked

/-- The driving part of a tick is similar. -/
theorem drive_blind :
    Program.Similar scene.answer scene.answer Eq (Alike (TickedBlind worker.follower.table))
      (worker.drive scene.input scene.snap state)
      (worker.withoutVision.drive scene.input scene.snap state) := by
  unfold drive
  split
  · exact stop_blind worker unmarked
  · next pose _ =>
    split_ifs
    · exact (Program.Similar.refl _).bind fun _ _ _ => .done ⟨rfl, unmarked⟩
    · exact .call rfl (.done ⟨rfl, unmarked⟩)
    · have computed := worker.follower.compute_blind (pose.x, pose.y) pose.headingDeg
        sightless.sensors unmarked
      change Alike _ _ (worker.withoutVision.follower.compute _ _ _ _) at computed
      generalize worker.follower.compute _ _ _ _ = result at computed ⊢
      generalize worker.withoutVision.follower.compute _ _ _ _ = result' at computed ⊢
      cases result with
      | error error => cases result' with
        | error error' => exact .done computed
        | ok driven' => exact computed.elim
      | ok driven => cases result' with
        | error error' => exact computed.elim
        | ok driven' =>
          obtain ⟨rfl, driving⟩ := computed
          dsimp only
          rw [worker.carryOut_blind sightless.segCorrection]
          exact worker.carryOut_unmarked pose _ driving

/-- The two workers run similar programs in a tick. -/
theorem react_blind :
    Program.Similar scene.answer scene.answer Eq (Alike (TickedBlind worker.follower.table))
      (worker.react scene.input state scene.snap)
      (worker.withoutVision.react scene.input state scene.snap) := by
  unfold react
  split
  · refine (worker.plan_blind unmarked).bind fun planned planned' alike => ?_
    cases planned with
    | error error => cases planned' with
      | error error' => exact .done alike
      | ok next' => exact alike.elim
    | ok next => cases planned' with
      | error error' => exact alike.elim
      | ok next' =>
        obtain ⟨rfl, unmarked⟩ := alike
        exact stop_blind worker unmarked
  · exact worker.drive_blind sightless unmarked
  · exact worker.drive_blind sightless unmarked
  · refine stop_blind worker ?_
    unfold cleared
    split
    · exact FollowerState.unmarked_of_none rfl rfl
    · exact unmarked

/-- A tick of the two workers is the same, and no trigger is remembered behind it. -/
theorem seen_blind :
    worker.withoutVision.seen scene state = worker.seen scene state ∧
      ∀ ticked, (worker.seen scene state).1 = .ok ticked →
        ticked.follower.Unmarked worker.follower.table := by
  obtain ⟨result, calls⟩ := worker.react_blind sightless unmarked
  rw [List.forall₂_eq_eq_eq] at calls
  constructor
  · refine Prod.ext ?_ (congrArg (List.cons WorkerOp.readSnapshot) calls.symm)
    exact (result.eq fun _ _ blind => blind.same.symm).symm
  · intro ticked ran
    obtain ⟨ticked', -, blind⟩ := result.ok ran
    exact blind.unmarked

end Tick

end DrivingWorker

/-- **Vision loss degrades to GPS-only driving.** A worker whose adapters never give a trigger of
the turn table and never a valid lane center does tick by tick what the worker built without
adapters does: the same calls, and the same leg, phase, decision and remaining distance. -/
theorem vision_loss_is_gps_only (worker : DrivingWorker α) (scenes : List (Scene α))
    (sightless : ∀ scene ∈ scenes, scene.input.Sightless worker.follower.table)
    (route : Option (LaneRoute α)) :
    worker.withoutVision.watch scenes (DrivingWorker.start route) =
      worker.watch scenes (DrivingWorker.start route) := by
  have unmarked : (DrivingWorker.start route).follower.Unmarked worker.follower.table :=
    FollowerState.unmarked_of_none rfl rfl
  generalize DrivingWorker.start route = state at unmarked
  induction scenes generalizing state with
  | nil => rfl
  | cons scene scenes inductionHypothesis =>
    obtain ⟨same, kept⟩ := worker.seen_blind (sightless scene List.mem_cons_self) unmarked
    unfold DrivingWorker.watch
    rw [same]
    congr 1
    cases ran : (worker.seen scene state).1 with
    | error error => rfl
    | ok ticked =>
      exact inductionHypothesis (fun other among => sightless other (List.mem_cons_of_mem _ among))
        _ (kept ticked ran)

/-- A car with a mission on the ring. -/
def darkScene (state : DrivingState) : Scene ℚ where
  input := darkInput 1
  snap := { (VehicleSnapshot.initial : VehicleSnapshot ℚ) with
    drivingState := state
    pose := some ringPose
    poseStale := false
    mission := some ⟨7 / 4, 1, .pickup, 0⟩ }
  gate := (VehicleSnapshot.initial, false)

/-- A tick that plans the route and a tick that drives along it. -/
theorem vision_loss_is_gps_only_on_ring :
    ringWorker.withoutVision.watch [darkScene .planning, darkScene .followingRoute]
        (DrivingWorker.start none) =
      ringWorker.watch [darkScene .planning, darkScene .followingRoute]
        (DrivingWorker.start none) := by
  have dark (state : DrivingState) :
      (darkScene state).input.Sightless ringWorker.follower.table :=
    ⟨⟨fun _ _ _ _ => Bool.and_eq_false_imp.mpr fun _ => rfl, rfl⟩, rfl⟩
  exact vision_loss_is_gps_only ringWorker [darkScene .planning, darkScene .followingRoute]
    (List.forall_mem_cons.mpr ⟨dark _, List.forall_mem_singleton.mpr (dark _)⟩) none

end RcTaxi
