/-
This file puts the supervisor's atomic steps side by side: the control thread works through
calls of `apply`, and any number of other threads issue forced stops, either behind the latch
or behind the entry into `ERROR`. Nothing but the atomic steps orders the threads.

`apply` decides once and writes three times, so a decision taken before a stop can reach the
motor after it. The file shows such a run. A decision taken behind the latch or behind `ERROR` is a
stop, so the stop is kept in every run in which no older decision is written behind it and nothing
but the recovery leaves `ERROR`.
-/

import RcTaxi.SafetySupervisor

namespace RcTaxi

variable {α : Type} [Scalar α]

/-- What a forced stop is issued behind. It is in force until the latch is released, or until the
previous state is recovered. -/
inductive StopKind
  | latch
  | error
  deriving DecidableEq

/-- A forced stop under way in some thread, and whether it is still in force. -/
structure StopCall (α : Type) where
  kind : StopKind
  inForce : Bool
  program : OutputProgram α Unit

/-- A call of `apply` under way: whether it has read an open gate, and whether a forced stop came into
force behind that. -/
structure ApplyCall (α : Type) where
  program : OutputProgram α (ControlCommand α)
  readOpen : Bool
  outdated : Bool

/-- What the forced stops of a kind in force have done: one is issued, one has stopped the motor, one
has stored its command, and one has finished. -/
structure StopProgress where
  inForce : Bool
  motorStopped : Bool
  commandStored : Bool
  finished : Bool

/-- The car with the threads that write to it. -/
structure StopSystem (α : Type) where
  car : Car α
  control : Option (ApplyCall α)
  stops : ℕ → Option (StopCall α)
  progress : StopKind → StopProgress

inductive StopLabel (α : Type)
  | beginApply (command : ControlCommand α)
  | stepApply
  | latchStop (thread : ℕ)
  | enterError (thread : ℕ)
  | stepStop (thread : ℕ)
  | release
  | recover
  | otherStore (snap : VehicleSnapshot α)

/-- The next step of the call reads the gate. -/
def ApplyCall.readsGate {α : Type} (call : ApplyCall α) : Bool :=
  match call.program with
  | .call .readGate _ => true
  | _ => false

/-- The next step of the call writes the motor. -/
def ApplyCall.writesMotor {α : Type} (call : ApplyCall α) : Bool :=
  match call.program with
  | .call (.setThrottle _) _ => true
  | _ => false

/-- The next step of the call writes the store. -/
def ApplyCall.writesStore {α : Type} (call : ApplyCall α) : Bool :=
  match call.program with
  | .call (.setControlCommand _) _ => true
  | _ => false

/-- No forced stop is in force. -/
def StopProgress.idle : StopProgress := ⟨false, false, false, false⟩

namespace StopSystem

/-- No thread is inside a call, and no stop is in force. -/
def start (car : Car α) : StopSystem α := ⟨car, none, fun _ => none, fun _ => .idle⟩

/-- A program without its result once it is done. -/
def unfinished {Result : Type} : OutputProgram α Result → Option (OutputProgram α Result)
  | .done _ => none
  | program => some program

/-- The next atomic step of the control thread. -/
def stepApply (system : StopSystem α) : StopSystem α :=
  match system.control with
  | none => system
  | some call =>
    let (program, car) := call.program.step OutputOp.handle system.car
    let readOpen := call.readOpen ||
      (call.readsGate && !blocked system.car.store system.car.latched)
    { system with
      car := car
      control := (unfinished program).map fun program => ⟨program, readOpen, call.outdated⟩ }

/-- Issue a forced stop in an idle thread: it is in force from here on. -/
def issue (kind : StopKind) (thread : ℕ) (system : StopSystem α) : StopSystem α :=
  { system with
    control := system.control.map fun call =>
      { call with outdated := call.outdated || call.readOpen }
    stops := Function.update system.stops thread (some ⟨kind, true, SafetySupervisor.forceStop⟩)
    progress := Function.update system.progress kind
      { system.progress kind with inForce := true } }

/-- `latch_stop` up to the forced stop it issues. -/
def latchStop (thread : ℕ) (system : StopSystem α) : StopSystem α :=
  if (system.stops thread).isSome then system
  else issue .latch thread { system with car := { system.car with latched := true } }

/-- `_enter_error` up to the forced stop it issues: outside `ERROR` only. -/
def enterError (thread : ℕ) (system : StopSystem α) : StopSystem α :=
  if (system.stops thread).isSome ∨ system.car.store.drivingState = .error then system
  else issue .error thread { system with
    car := { system.car with store := system.car.store.setDrivingState .error } }

/-- What a step of a forced stop adds; `left` is what it leaves of the program. -/
def progressed (stop : StopCall α) (left : OutputProgram α Unit) (progress : StopProgress) :
    StopProgress where
  inForce := progress.inForce
  motorStopped := progress.motorStopped || match stop.program with
    | .call .motorStop _ => stop.inForce
    | _ => false
  commandStored := progress.commandStored || match stop.program with
    | .call (.setControlCommand _) _ => stop.inForce
    | _ => false
  finished := progress.finished || (stop.inForce && (unfinished left).isNone)

/-- The next atomic step of a forced stop. -/
def stepStop (thread : ℕ) (system : StopSystem α) : StopSystem α :=
  match system.stops thread with
  | none => system
  | some stop =>
    let (program, car) := stop.program.step OutputOp.handle system.car
    { system with
      car := car
      stops := Function.update system.stops thread
        ((unfinished program).map fun program => { stop with program := program })
      progress := Function.update system.progress stop.kind
        (progressed stop program (system.progress stop.kind)) }

/-- None of the forced stops of the kind is in force any more. -/
def lift (kind : StopKind) (system : StopSystem α) : StopSystem α :=
  { system with
    stops := fun thread => (system.stops thread).map fun stop =>
      { stop with inForce := stop.inForce && stop.kind ≠ kind }
    progress := Function.update system.progress kind .idle }

/-- One atomic step of some thread. Other store calls leave nothing but the stored command as it
is. -/
def step (supervisor : SafetySupervisor α) (system : StopSystem α) : StopLabel α → StopSystem α
  | .beginApply command =>
    if system.control.isSome then system
    else { system with control := some ⟨supervisor.apply command, false, false⟩ }
  | .stepApply => system.stepApply
  | .latchStop thread => system.latchStop thread
  | .enterError thread => system.enterError thread
  | .stepStop thread => system.stepStop thread
  | .release => lift .latch { system with car := { system.car with latched := false } }
  | .recover => lift .error { system with
      car := { system.car with store := system.car.store.recoverPreviousState } }
  | .otherStore snap => { system with
      car := { system.car with
        store := { snap with controlCommand := system.car.store.controlCommand } } }

/-- The claim about a car: whatever the threads do, once a forced stop in force has finished and
no `apply` is under way, the motor stands and the stop command is stored. -/
def StopsHold (supervisor : SafetySupervisor α) (car : Car α) : Prop :=
  ∀ labels, let system := Transition.run (step supervisor) (start car) labels
    (∃ kind, (system.progress kind).finished = true) → system.control = none →
      system.car.motorThrottle = 0 ∧ system.car.store.controlCommand = stopCommand

/-- A call of `apply` that read an open gate before a forced stop came into force writes neither the
motor behind a motor stop in force, nor the store behind a stop command in force. And while a stop
behind `ERROR` is in force, nothing but the recovery leaves `ERROR`. -/
def InOrder (system : StopSystem α) : StopLabel α → Prop
  | .stepApply => ∀ call ∈ system.control, call.outdated = true →
      (call.writesMotor = true → ∀ kind, (system.progress kind).motorStopped = false) ∧
        (call.writesStore = true → ∀ kind, (system.progress kind).commandStored = false)
  | .otherStore snap => (system.progress .error).inForce = true → snap.drivingState = .error
  | _ => True

/-! ### A stop that is undone -/

/-- A car under way on a fresh pose. -/
def movingCar : Car ℚ :=
  { store := { (VehicleSnapshot.initial : VehicleSnapshot ℚ) with
      drivingState := .followingRoute
      poseStale := false }
    latched := false
    motorThrottle := 1
    steeringDeg := 0 }

/-- `apply` reads the open gate, the latch is set and its forced stop runs to its end, and then
`apply` writes what it decided. -/
def overtakenRun : List (StopLabel ℚ) :=
  [.beginApply ⟨1, 0⟩, .stepApply, .latchStop 0, .stepStop 0, .stepStop 0, .stepStop 0,
    .stepApply, .stepApply, .stepApply]

theorem forced_stop_is_undone : ¬ StopsHold ⟨30, 1⟩ movingCar := by
  intro holds
  have stopped := holds overtakenRun ⟨.latch, by decide +kernel⟩ (by decide +kernel)
  have moving : (Transition.run (step ⟨30, 1⟩) (start movingCar) overtakenRun).car.motorThrottle =
      1 := by decide +kernel
  rw [moving] at stopped
  exact one_ne_zero stopped.1

/-! ### Calls of `apply` -/

/-- `apply` behind its first write. -/
def outputSteering (applied : ControlCommand α) : OutputProgram α (ControlCommand α) :=
  .call (.setAngleDeg applied.steeringWheelDeg) fun _ =>
    .call (.setControlCommand applied) fun _ => .done applied

/-- `apply` behind its second write. -/
def outputStore (applied : ControlCommand α) : OutputProgram α (ControlCommand α) :=
  .call (.setControlCommand applied) fun _ => .done applied

/-- How far a call of `apply` is: before its gate, or behind it with a decision. A call that read a
closed gate sends a stop, and so does one that read its gate while a forced stop was in force. -/
inductive ApplyStage (supervisor : SafetySupervisor α) (forced : Prop) (call : ApplyCall α) : Prop
  | begun (command : ControlCommand α) (program : call.program = supervisor.apply command)
    (unread : call.readOpen = false)
  | decided (applied : ControlCommand α)
    (program : call.program = SafetySupervisor.output applied ∨
      call.program = outputSteering applied ∨ call.program = outputStore applied)
    (closed : call.readOpen = false → applied = stopCommand)
    (recent : forced → call.outdated = false → applied = stopCommand)

/-- While forced stops are in force, the gate is closed. -/
def Closes {α : Type} (car : Car α) : StopKind → Prop
  | .latch => car.latched = true
  | .error => car.store.drivingState = .error

omit [Scalar α] in
theorem Closes.blocked {car : Car α} {kind : StopKind} (closes : Closes car kind) :
    blocked car.store car.latched = true := by
  unfold RcTaxi.blocked
  cases kind with
  | latch => rw [show car.latched = true from closes, Bool.true_or, Bool.true_or]
  | error =>
    rw [show car.store.drivingState = .error from closes]
    exact Bool.or_true _

/-! ### Stops that hold -/

/-- The forced stop behind its first write. -/
def stopSteering : OutputProgram α Unit :=
  .call .centerSteering fun _ => .call (.setControlCommand stopCommand) fun _ => .done ()

/-- The forced stop behind its second write. -/
def stopStore : OutputProgram α Unit := .call (.setControlCommand stopCommand) fun _ => .done ()

/-- How far a forced stop is: before the motor stop, or behind it with the motor stopped. -/
inductive StopStage (progress : StopProgress) (stop : StopCall α) : Prop
  | issued (program : stop.program = SafetySupervisor.forceStop)
    (held : stop.inForce = true → progress.inForce = true)
  | motorStopped (program : stop.program = stopSteering)
    (held : stop.inForce = true → progress.motorStopped = true)
  | centered (program : stop.program = stopStore)
    (held : stop.inForce = true → progress.motorStopped = true)

/-- What the progress of the stops of a kind says about the car. -/
structure ProgressHolds (car : Car α) (kind : StopKind) (progress : StopProgress) : Prop where
  motor : progress.motorStopped = true → progress.inForce = true ∧ car.motorThrottle = 0
  store : progress.commandStored = true →
    progress.inForce = true ∧ car.store.controlCommand = stopCommand
  finished : progress.finished = true →
    progress.motorStopped = true ∧ progress.commandStored = true
  closes : progress.inForce = true → Closes car kind

/-- Some forced stop is in force. -/
def Forced (system : StopSystem α) : Prop := ∃ kind, (system.progress kind).inForce = true

/-- What the atomic steps keep as long as they come in order. -/
structure Held (supervisor : SafetySupervisor α) (system : StopSystem α) : Prop where
  control : ∀ call ∈ system.control, ApplyStage supervisor system.Forced call
  stages : ∀ thread, ∀ stop ∈ system.stops thread, StopStage (system.progress stop.kind) stop
  progress : ∀ kind, ProgressHolds system.car kind (system.progress kind)

section Held

variable {supervisor : SafetySupervisor α} {system : StopSystem α}

theorem ProgressHolds.idle (car : Car α) (kind : StopKind) : ProgressHolds car kind .idle where
  motor stopped := absurd stopped Bool.false_ne_true
  store stored := absurd stored Bool.false_ne_true
  finished done := absurd done Bool.false_ne_true
  closes inForce := absurd inForce Bool.false_ne_true

theorem Held.start (supervisor : SafetySupervisor α) (car : Car α) :
    Held supervisor (StopSystem.start car) where
  control call found := absurd found (Option.not_mem_none call)
  stages _ stop found := absurd found (Option.not_mem_none stop)
  progress kind := ProgressHolds.idle car kind

/-- Behind a gate that is closed, or read while a stop is in force, `apply` sends a stop. -/
theorem ApplyStage.read (held : Held supervisor system) (command : ControlCommand α) (outdated : Bool)
    {program : OutputProgram α (ControlCommand α)}
    (decision : program = SafetySupervisor.output
      (supervisor.appliedCommand command (system.car.store, system.car.latched))) :
    ApplyStage supervisor system.Forced
      ⟨program, !blocked system.car.store system.car.latched, outdated⟩ := by
  have stops (isBlocked : blocked system.car.store system.car.latched = true) :
      supervisor.appliedCommand command (system.car.store, system.car.latched) = stopCommand :=
    if_pos isBlocked
  refine .decided _ (.inl decision) (fun closed => stops ?_) fun ⟨kind, inForce⟩ _ => stops ?_
  · exact (Bool.not_eq_false' ..).mp closed
  · exact ((held.progress kind).closes inForce).blocked

/-- The progress stays true of a car with the same motor, the same command and the same gate. -/
theorem ProgressHolds.withCar {car after : Car α} {kind : StopKind} {progress : StopProgress}
    (holds : ProgressHolds car kind progress) (motor : after.motorThrottle = car.motorThrottle)
    (command : after.store.controlCommand = car.store.controlCommand)
    (closes : progress.inForce = true → Closes after kind) : ProgressHolds after kind progress where
  motor stopped := (holds.motor stopped).imp_right motor.trans
  store stored := (holds.store stored).imp_right command.trans
  finished := holds.finished
  closes := closes

/-- What is called behind the gate in time is a stop, if a forced stop is in force. -/
theorem stops_of_recent {forced : Prop} {outdated : Bool} {applied : ControlCommand α}
    (recent : forced → outdated = false → applied = stopCommand) {done : StopKind → Bool}
    (inTime : outdated = true → ∀ kind, done kind = false) {kind : StopKind} (isDone : done kind = true)
    (isForced : forced) : applied = stopCommand :=
  recent isForced (Bool.eq_false_iff.mpr fun outdated =>
    Bool.false_ne_true ((inTime outdated kind).symm.trans isDone))

theorem stepApply_begun {command : ControlCommand α} {outdated : Bool}
    (running : system.control = some ⟨supervisor.apply command, false, outdated⟩) :
    system.stepApply = { system with
      control := some ⟨SafetySupervisor.output
          (supervisor.appliedCommand command (system.car.store, system.car.latched)),
        !blocked system.car.store system.car.latched, outdated⟩ } := by
  rw [StopSystem.stepApply, running]
  rfl

theorem stepApply_output {applied : ControlCommand α} {readOpen outdated : Bool}
    (running : system.control = some ⟨SafetySupervisor.output applied, readOpen, outdated⟩) :
    system.stepApply = { system with
      car := { system.car with motorThrottle := applied.throttle }
      control := some ⟨outputSteering applied, readOpen, outdated⟩ } := by
  rw [StopSystem.stepApply, running]
  simp only [SafetySupervisor.output, Program.step, unfinished, ApplyCall.readsGate, Bool.false_and,
    Bool.or_false, Option.map_some]
  rfl

theorem stepApply_steering {applied : ControlCommand α} {readOpen outdated : Bool}
    (running : system.control = some ⟨outputSteering applied, readOpen, outdated⟩) :
    system.stepApply = { system with
      car := { system.car with steeringDeg := applied.steeringWheelDeg }
      control := some ⟨outputStore applied, readOpen, outdated⟩ } := by
  rw [StopSystem.stepApply, running]
  simp only [outputSteering, Program.step, unfinished, ApplyCall.readsGate, Bool.false_and,
    Bool.or_false, Option.map_some]
  rfl

theorem stepApply_store {applied : ControlCommand α} {readOpen outdated : Bool}
    (running : system.control = some ⟨outputStore applied, readOpen, outdated⟩) :
    system.stepApply = { system with
      car := { system.car with store := system.car.store.setControlCommand applied }
      control := none } := by
  rw [StopSystem.stepApply, running]
  rfl

/-- A step of the control thread in order. -/
theorem Held.stepApply (held : Held supervisor system) (inOrder : InOrder system .stepApply) :
    Held supervisor system.stepApply := by
  rcases running : system.control with _ | ⟨program, readOpen, outdated⟩
  · rw [StopSystem.stepApply, running]
    exact held
  have inTime := inOrder _ running
  cases held.control _ running with
  | begun command begun unread =>
    cases begun
    cases unread
    rw [stepApply_begun running]
    refine ⟨fun call found => ?_, held.stages, held.progress⟩
    cases found
    exact .read held command outdated rfl
  | decided applied progress closed recent =>
    rcases progress with atMotor | atSteering | atStore
    · cases atMotor
      rw [stepApply_output running]
      refine ⟨fun call found => ?_, held.stages, fun kind => ?_⟩
      · cases found
        exact .decided applied (.inr (.inl rfl)) closed recent
      · have holds := held.progress kind
        refine ⟨fun stopped => ?_, holds.store, holds.finished, holds.closes⟩
        have inForce := (holds.motor stopped).1
        have stops := stops_of_recent recent (fun late => (inTime late).1 rfl) stopped ⟨kind, inForce⟩
        exact ⟨inForce, congrArg ControlCommand.throttle stops⟩
    · cases atSteering
      rw [stepApply_steering running]
      refine ⟨fun call found => ?_, held.stages, fun kind =>
        (held.progress kind).withCar rfl rfl (held.progress kind).closes⟩
      cases found
      exact .decided applied (.inr (.inr rfl)) closed recent
    · cases atStore
      rw [stepApply_store running]
      refine ⟨fun call found => absurd found (Option.not_mem_none call), held.stages, fun kind => ?_⟩
      have holds := held.progress kind
      refine ⟨holds.motor, fun stored => ?_, holds.finished, fun inForce => ?_⟩
      · have inForce := (holds.store stored).1
        exact ⟨inForce,
          stops_of_recent recent (fun late => (inTime late).2 rfl) stored ⟨kind, inForce⟩⟩
      · cases kind with
        | latch => exact holds.closes inForce
        | error => exact holds.closes inForce

/-- A forced stop comes into force where the gate is closed for it. -/
theorem Held.issue (held : Held supervisor system) {kind : StopKind}
    (closes : Closes system.car kind) (thread : ℕ) :
    Held supervisor (system.issue kind thread) := by
  constructor
  · intro call found
    obtain ⟨before, running, rfl⟩ := Option.map_eq_some_iff.mp found
    cases held.control before running with
    | begun command program unread => exact .begun command program unread
    | decided applied program closed recent =>
      refine .decided applied program closed fun _ current => closed ?_
      exact (Bool.or_eq_false_iff.mp current).2
  · intro other stop found
    by_cases same : other = thread
    · subst same
      cases (Function.update_self ..).symm.trans found
      refine .issued rfl fun _ => ?_
      show (Function.update system.progress kind _ kind).inForce = true
      rw [Function.update_self]
    · have stage := held.stages other stop ((Function.update_of_ne same ..).symm.trans found)
      show StopStage (Function.update system.progress kind _ stop.kind) stop
      by_cases ofKind : stop.kind = kind
      · rw [ofKind, Function.update_self]
        rw [ofKind] at stage
        cases stage with
        | issued program _ => exact .issued program fun _ => rfl
        | motorStopped program stopped => exact .motorStopped program stopped
        | centered program stopped => exact .centered program stopped
      · rw [Function.update_of_ne ofKind]
        exact stage
  · show ∀ other, ProgressHolds system.car other (Function.update system.progress kind _ other)
    refine (Function.forall_update_iff _ fun other progress =>
      ProgressHolds system.car other progress).mpr ⟨?_, fun other _ => held.progress other⟩
    have holds := held.progress kind
    exact ⟨fun stopped => ⟨rfl, (holds.motor stopped).2⟩, fun stored => ⟨rfl, (holds.store stored).2⟩,
      holds.finished, fun _ => closes⟩

/-- A forced stop goes on: the car and the progress of its kind change, and its thread. -/
theorem Held.advance (held : Held supervisor system) (car : Car α) {kind : StopKind}
    (progress : StopProgress) (inForce : progress.inForce = (system.progress kind).inForce)
    (more : (system.progress kind).motorStopped = true → progress.motorStopped = true)
    (holds : ProgressHolds car kind progress)
    (others : ∀ other ≠ kind, ProgressHolds car other (system.progress other)) (thread : ℕ)
    {next : Option (StopCall α)} (stage : ∀ stop ∈ next, stop.kind = kind ∧ StopStage progress stop) :
    Held supervisor { system with
      car := car
      stops := Function.update system.stops thread next
      progress := Function.update system.progress kind progress } := by
  have forced : (∃ other, (Function.update system.progress kind progress other).inForce = true) →
      system.Forced := by
    rintro ⟨other, isForced⟩
    by_cases same : other = kind
    · rw [same, Function.update_self, inForce] at isForced
      exact ⟨kind, isForced⟩
    · rw [Function.update_of_ne same] at isForced
      exact ⟨other, isForced⟩
  constructor
  · intro call running
    cases held.control call running with
    | begun command program unread => exact .begun command program unread
    | decided applied program closed recent =>
      exact .decided applied program closed fun isForced => recent (forced isForced)
  · intro other stop found
    show StopStage (Function.update system.progress kind progress stop.kind) stop
    by_cases same : other = thread
    · subst same
      have updated : next = some stop := (Function.update_self other next system.stops).symm.trans found
      obtain ⟨ofKind, staged⟩ := stage stop updated
      rw [ofKind, Function.update_self]
      exact staged
    · have staged := held.stages other stop ((Function.update_of_ne same ..).symm.trans found)
      by_cases ofKind : stop.kind = kind
      · rw [ofKind, Function.update_self]
        rw [ofKind] at staged
        cases staged with
        | issued program issued => exact .issued program fun lasts => inForce.trans (issued lasts)
        | motorStopped program stopped =>
          exact .motorStopped program fun lasts => more (stopped lasts)
        | centered program stopped => exact .centered program fun lasts => more (stopped lasts)
      · rw [Function.update_of_ne ofKind]
        exact staged
  · exact (Function.forall_update_iff _ fun other progress => ProgressHolds car other progress).mpr
      ⟨holds, others⟩

theorem stepStop_issued {thread : ℕ} {kind : StopKind} {inForce : Bool}
    (running : system.stops thread = some ⟨kind, inForce, SafetySupervisor.forceStop⟩) :
    system.stepStop thread = { system with
      car := { system.car with motorThrottle := 0 }
      stops := Function.update system.stops thread (some ⟨kind, inForce, stopSteering⟩)
      progress := Function.update system.progress kind { system.progress kind with
        motorStopped := (system.progress kind).motorStopped || inForce } } := by
  rw [StopSystem.stepStop, running]
  simp only [SafetySupervisor.forceStop, Program.step, progressed, unfinished, Option.map_some,
    Bool.or_false, Option.isNone_some, Bool.and_false]
  rfl

theorem stepStop_motorStopped {thread : ℕ} {kind : StopKind} {inForce : Bool}
    (running : system.stops thread = some ⟨kind, inForce, stopSteering⟩) :
    system.stepStop thread = { system with
      car := { system.car with steeringDeg := 0 }
      stops := Function.update system.stops thread (some ⟨kind, inForce, stopStore⟩)
      progress := Function.update system.progress kind (system.progress kind) } := by
  rw [StopSystem.stepStop, running]
  simp only [stopSteering, Program.step, progressed, unfinished, Option.map_some, Bool.or_false,
    Option.isNone_some, Bool.and_false]
  rfl

theorem stepStop_centered {thread : ℕ} {kind : StopKind} {inForce : Bool}
    (running : system.stops thread = some ⟨kind, inForce, stopStore⟩) :
    system.stepStop thread = { system with
      car := { system.car with store := system.car.store.setControlCommand stopCommand }
      stops := Function.update system.stops thread none
      progress := Function.update system.progress kind { system.progress kind with
        commandStored := (system.progress kind).commandStored || inForce
        finished := (system.progress kind).finished || inForce } } := by
  rw [StopSystem.stepStop, running]
  simp only [stopStore, Program.step, progressed, unfinished, Option.map_none, Bool.or_false,
    Option.isNone_none, Bool.and_true]
  rfl

/-- A step of a forced stop. -/
theorem Held.stepStop (held : Held supervisor system) (thread : ℕ) :
    Held supervisor (system.stepStop thread) := by
  rcases running : system.stops thread with _ | ⟨kind, inForce, program⟩
  · rw [StopSystem.stepStop, running]
    exact held
  have stage : StopStage (system.progress kind) ⟨kind, inForce, program⟩ :=
    held.stages thread _ running
  have holds := held.progress kind
  cases stage with
  | issued shape issued =>
    cases shape
    rw [stepStop_issued running]
    refine held.advance { system.car with motorThrottle := 0 } { system.progress kind with
        motorStopped := (system.progress kind).motorStopped || inForce } rfl
      (fun before => Bool.or_eq_true_iff.mpr (.inl before))
      ⟨fun stopped => ⟨?_, rfl⟩, holds.store, fun done => ?_, holds.closes⟩
      (fun other _ => ?_) thread fun stop found => ?_
    · rcases Bool.or_eq_true_iff.mp stopped with before | lasts
      · exact (holds.motor before).1
      · exact issued lasts
    · exact (holds.finished done).imp_left fun before => Bool.or_eq_true_iff.mpr (.inl before)
    · have others := held.progress other
      exact ⟨fun stopped => ⟨(others.motor stopped).1, rfl⟩, others.store, others.finished,
        others.closes⟩
    · cases found
      exact ⟨rfl, .motorStopped rfl fun lasts => Bool.or_eq_true_iff.mpr (.inr lasts)⟩
  | motorStopped shape stopped =>
    cases shape
    rw [stepStop_motorStopped running]
    refine held.advance { system.car with steeringDeg := 0 } (system.progress kind) rfl id
      (holds.withCar rfl rfl holds.closes)
      (fun other _ => (held.progress other).withCar rfl rfl (held.progress other).closes) thread
      fun stop found => ?_
    cases found
    exact ⟨rfl, .centered rfl stopped⟩
  | centered shape stopped =>
    cases shape
    rw [stepStop_centered running]
    have lasting (lasts : inForce = true) : (system.progress kind).inForce = true :=
      (holds.motor (stopped lasts)).1
    refine held.advance
      { system.car with store := system.car.store.setControlCommand stopCommand }
      { system.progress kind with
        commandStored := (system.progress kind).commandStored || inForce
        finished := (system.progress kind).finished || inForce } rfl id
      ⟨holds.motor, fun stored => ⟨?_, rfl⟩, fun done => ?_, fun isForced => ?_⟩
      (fun other _ => ?_) thread fun stop found => absurd found (Option.not_mem_none stop)
    · rcases Bool.or_eq_true_iff.mp stored with before | lasts
      · exact (holds.store before).1
      · exact lasting lasts
    · rcases Bool.or_eq_true_iff.mp done with before | lasts
      · exact (holds.finished before).imp_right fun stored => Bool.or_eq_true_iff.mpr (.inl stored)
      · exact ⟨stopped lasts, Bool.or_eq_true_iff.mpr (.inr lasts)⟩
    · cases kind with
      | latch => exact holds.closes isForced
      | error => exact holds.closes isForced
    · have others := held.progress other
      refine ⟨others.motor, fun stored => ⟨(others.store stored).1, rfl⟩, others.finished,
        fun isForced => ?_⟩
      cases other with
      | latch => exact others.closes isForced
      | error => exact others.closes isForced

/-- The stops of a kind are lifted, on a car where the gate stays closed for the others. -/
theorem Held.lift (held : Held supervisor system) (kind : StopKind) {car : Car α}
    (motor : car.motorThrottle = system.car.motorThrottle)
    (command : car.store.controlCommand = system.car.store.controlCommand)
    (closes : ∀ other ≠ kind, Closes system.car other → Closes car other) :
    Held supervisor (StopSystem.lift kind { system with car := car }) := by
  constructor
  · intro call running
    cases held.control call running with
    | begun command program unread => exact .begun command program unread
    | decided applied program closed recent =>
      refine .decided applied program closed fun ⟨other, isForced⟩ => recent ⟨other, ?_⟩
      by_cases same : other = kind
      · subst same
        exact absurd ((congrArg StopProgress.inForce (Function.update_self ..)).symm.trans isForced)
          Bool.false_ne_true
      · exact (congrArg StopProgress.inForce (Function.update_of_ne same ..)).symm.trans isForced
  · intro thread stop found
    obtain ⟨before, running, rfl⟩ := Option.map_eq_some_iff.mp found
    have staged := held.stages thread before running
    show StopStage (Function.update system.progress kind .idle before.kind) _
    by_cases ofKind : before.kind = kind
    · have lifted (lasts : (before.inForce && decide (before.kind ≠ kind)) = true) : False :=
        of_decide_eq_true (Bool.and_eq_true_iff.mp lasts).2 ofKind
      cases staged with
      | issued program _ => exact .issued program fun lasts => (lifted lasts).elim
      | motorStopped program _ => exact .motorStopped program fun lasts => (lifted lasts).elim
      | centered program _ => exact .centered program fun lasts => (lifted lasts).elim
    · rw [Function.update_of_ne ofKind]
      cases staged with
      | issued program issued =>
        exact .issued program fun lasts => issued (Bool.and_eq_true_iff.mp lasts).1
      | motorStopped program stopped =>
        exact .motorStopped program fun lasts => stopped (Bool.and_eq_true_iff.mp lasts).1
      | centered program stopped =>
        exact .centered program fun lasts => stopped (Bool.and_eq_true_iff.mp lasts).1
  · exact (Function.forall_update_iff _ fun other progress => ProgressHolds car other progress).mpr
      ⟨.idle car kind, fun other another => (held.progress other).withCar motor command fun isForced =>
        closes other another ((held.progress other).closes isForced)⟩

/-- Another car with the same motor and the same stored command, and the gate closed where it was. -/
theorem Held.withCar (held : Held supervisor system) {car : Car α}
    (motor : car.motorThrottle = system.car.motorThrottle)
    (command : car.store.controlCommand = system.car.store.controlCommand)
    (closes : ∀ kind, (system.progress kind).inForce = true → Closes car kind) :
    Held supervisor { system with car := car } :=
  ⟨held.control, held.stages, fun kind => (held.progress kind).withCar motor command (closes kind)⟩

end Held

/-- Every atomic step in order keeps the stops. -/
theorem Held.step (supervisor : SafetySupervisor α) (system : StopSystem α) (label : StopLabel α)
    (inOrder : InOrder system label) (held : Held supervisor system) :
    Held supervisor (StopSystem.step supervisor system label) := by
  have closed (kind : StopKind) (inForce : (system.progress kind).inForce = true) :=
    (held.progress kind).closes inForce
  cases label with
  | beginApply command =>
    rw [StopSystem.step]
    split
    · exact held
    · refine ⟨fun call found => ?_, held.stages, held.progress⟩
      cases found
      exact .begun command rfl rfl
  | stepApply => exact held.stepApply inOrder
  | latchStop thread =>
    rw [StopSystem.step, StopSystem.latchStop]
    split
    · exact held
    · have latched : Held supervisor { system with car := { system.car with latched := true } } := by
        refine held.withCar rfl rfl fun kind inForce => ?_
        cases kind with
        | latch => rfl
        | error => exact closed .error inForce
      exact latched.issue (show Closes _ StopKind.latch from rfl) thread
  | enterError thread =>
    rw [StopSystem.step, StopSystem.enterError]
    split
    · exact held
    · have entered : Held supervisor { system with
          car := { system.car with store := system.car.store.setDrivingState .error } } := by
        refine held.withCar rfl rfl fun kind inForce => ?_
        cases kind with
        | latch => exact closed .latch inForce
        | error => rfl
      exact entered.issue (show Closes _ StopKind.error from rfl) thread
  | stepStop thread => exact held.stepStop thread
  | release =>
    refine held.lift .latch rfl rfl fun other another closes => ?_
    cases other with
    | latch => exact absurd rfl another
    | error => exact closes
  | recover =>
    refine held.lift .error rfl rfl fun other another closes => ?_
    cases other with
    | latch => exact closes
    | error => exact absurd rfl another
  | otherStore snap =>
    refine held.withCar rfl rfl fun kind inForce => ?_
    cases kind with
    | latch => exact closed .latch inForce
    | error => exact inOrder inForce

/-- In every run in order, a finished forced stop keeps the motor standing and the stop command
stored, as long as it is in force. -/
theorem forced_stop_holds (supervisor : SafetySupervisor α) (car : Car α)
    (labels : List (StopLabel α))
    (inOrder : Transition.Along (step supervisor) InOrder (start car) labels) :
    let system := Transition.run (step supervisor) (start car) labels
    (∃ kind, (system.progress kind).finished = true) →
      system.car.motorThrottle = 0 ∧ system.car.store.controlCommand = stopCommand := by
  have held : Held supervisor (Transition.run (step supervisor) (start car) labels) :=
    Transition.run_invariant_along (Held.step supervisor) (Held.start supervisor car) inOrder
  intro system ⟨kind, finished⟩
  have holds := held.progress kind
  exact ⟨(holds.motor (holds.finished finished).1).2, (holds.store (holds.finished finished).2).2⟩

/-- A call of `apply` behind a finished stop writes the stop again. -/
theorem forced_stop_holds_in_order :
    let system := Transition.run (step ⟨30, 1⟩) (start movingCar)
      [.latchStop 0, .stepStop 0, .stepStop 0, .stepStop 0, .beginApply ⟨1, 0⟩, .stepApply,
        .stepApply, .stepApply, .stepApply]
    (∃ kind, (system.progress kind).finished = true) →
      system.car.motorThrottle = 0 ∧ system.car.store.controlCommand = stopCommand := by
  refine forced_stop_holds ⟨30, 1⟩ movingCar _
    ⟨trivial, trivial, trivial, trivial, trivial, ?_, ?_, ?_, ?_, trivial⟩
  all_goals
    intro call running outdated
    cases running
    cases outdated

end StopSystem

end RcTaxi
