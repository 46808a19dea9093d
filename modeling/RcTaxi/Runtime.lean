/-
This file puts the control thread beside the policy. The two share the store: the policy changes the
driving state on the commands of the control server and on losses, under its lock, and the thread
changes it from inside a tick, without the lock and on a snapshot it took earlier. The store calls
of the localization thread are steps of their own.

There are two views of a run. In one the thread makes its atomic steps one by one, between the
operations of the others; in the other every tick is whole. A whole tick is a run of the first view.
-/

import RcTaxi.DrivingWorker

namespace RcTaxi

/-- The control thread: between two ticks, in a tick, or ended by an exception. -/
inductive ControlThread (α : Type)
  | idle (state : WorkerState α)
  | running (program : WorkerProgram α (Option (Ticked α)))
  | ended

/-- The policy's stack and the control thread. -/
structure Runtime (α : Type) extends Stack α where
  thread : ControlThread α

/-- The store calls of the localization thread. -/
inductive PoseOp (α : Type)
  | updatePose (pose : LocalizationPose α)
  | markPoseStale
  | setEstimatedSpeed (mps : α)

/-- The atomic steps of the threads; the operations of the policy and the ticks of the report
manager are atomic. -/
inductive RuntimeLabel (α : Type)
  | policy (label : PolicyLabel α)
  | reportTick
  | pose (op : PoseOp α)
  | beginTick (input : TickInput α)
  | stepTick

/-- The steps of a run in which every tick is whole. -/
inductive WholeLabel (α : Type)
  | policy (label : PolicyLabel α)
  | reportTick
  | pose (op : PoseOp α)
  | tick (input : TickInput α)

variable {α : Type} [Scalar α]

def PoseOp.apply : PoseOp α → VehicleSnapshot α → VehicleSnapshot α
  | .updatePose pose, snap => (snap.updatePose pose).2
  | .markPoseStale, snap => snap.markPoseStale
  | .setEstimatedSpeed mps, snap => snap.setEstimatedSpeed mps

/-- The localization thread changes the pose, its freshness and the speed. -/
theorem PoseOp.apply_eq (op : PoseOp α) (snap : VehicleSnapshot α) : ∃ pose stale speed,
    op.apply snap =
      { snap with pose := pose, poseStale := stale, estimatedSpeedMps := speed } := by
  cases op with
  | updatePose pose =>
    rw [PoseOp.apply, VehicleSnapshot.updatePose]
    split
    · split
      · exact ⟨_, _, _, rfl⟩
      · exact ⟨_, _, _, rfl⟩
    · exact ⟨_, _, _, rfl⟩
  | markPoseStale => exact ⟨_, _, _, rfl⟩
  | setEstimatedSpeed mps => exact ⟨_, _, _, rfl⟩

/-- The thread behind what is left of a tick. -/
def ControlThread.behind {α : Type} : WorkerProgram α (Option (Ticked α)) → ControlThread α
  | .done (some ticked) => .idle ticked.toWorkerState
  | .done none => .ended
  | .call op next => .running (.call op next)

namespace Runtime

/-- The runtime behind its initialization: the first state is `WAITING`. -/
def start : Runtime α where
  toStack := Stack.initial.onStore (.setDrivingState .waiting)
  thread := .idle (DrivingWorker.start none)

variable (worker : DrivingWorker α) (policy : CommandPolicy α)

/-- One atomic step. -/
def step (runtime : Runtime α) : RuntimeLabel α → Runtime α
  | .policy label => { runtime with toStack := policy.step runtime.toStack label }
  | .reportTick => { runtime with toStack := runtime.reportTick }
  | .pose op => { runtime with toStack := runtime.onStore op.apply }
  | .beginTick input =>
    match runtime.thread with
    | .idle state => { runtime with thread := .behind (worker.round input state) }
    | _ => runtime
  | .stepTick =>
    match runtime.thread with
    | .running program =>
      ⟨(program.step WorkerOp.handle runtime.toStack).2,
        .behind (program.step WorkerOp.handle runtime.toStack).1⟩
    | _ => runtime

/-- One step of a run of whole ticks. -/
def wholeStep (runtime : Runtime α) : WholeLabel α → Runtime α
  | .policy label => { runtime with toStack := policy.step runtime.toStack label }
  | .reportTick => { runtime with toStack := runtime.reportTick }
  | .pose op => { runtime with toStack := runtime.onStore op.apply }
  | .tick input =>
    match runtime.thread with
    | .idle state =>
      ⟨((worker.round input state).run WorkerOp.handle runtime.toStack).2,
        .behind (.done ((worker.round input state).run WorkerOp.handle runtime.toStack).1)⟩
    | _ => runtime

/-! ### Whole ticks -/

/-- What is left of a tick runs to its end in single steps. -/
theorem exists_steps (program : WorkerProgram α (Option (Ticked α))) (stack : Stack α) :
    ∃ count, Transition.run (step worker policy) ⟨stack, .behind program⟩
        (List.replicate count .stepTick) =
      ⟨(program.run WorkerOp.handle stack).2,
        .behind (.done (program.run WorkerOp.handle stack).1)⟩ := by
  induction program generalizing stack with
  | done result => exact ⟨0, rfl⟩
  | call op next inductionHypothesis =>
    obtain ⟨count, ran⟩ := inductionHypothesis (op.handle stack).1 (op.handle stack).2
    exact ⟨count + 1, ran⟩

/-- A step of a run of whole ticks is a run of atomic steps. -/
theorem wholeStep_run (runtime : Runtime α) (label : WholeLabel α) :
    ∃ labels, Transition.run (step worker policy) runtime labels =
      wholeStep worker policy runtime label := by
  cases label with
  | policy label => exact ⟨[.policy label], rfl⟩
  | reportTick => exact ⟨[.reportTick], rfl⟩
  | pose op => exact ⟨[.pose op], rfl⟩
  | tick input =>
    obtain ⟨stack, thread⟩ := runtime
    cases thread with
    | idle state =>
      obtain ⟨count, ran⟩ := exists_steps worker policy (worker.round input state) stack
      exact ⟨.beginTick input :: List.replicate count .stepTick, ran⟩
    | running program => exact ⟨[], rfl⟩
    | ended => exact ⟨[], rfl⟩

/-- What a run of whole ticks reaches, a run of atomic steps reaches. -/
theorem reachable_of_whole {runtime : Runtime α}
    (reachable : Transition.Reachable (wholeStep worker policy) start runtime) :
    Transition.Reachable (step worker policy) start runtime := by
  refine reachable.invariant (fun state label reached => ?_) (Transition.Reachable.refl start)
  obtain ⟨labels, rfl⟩ := reached
  obtain ⟨more, ran⟩ := wholeStep_run worker policy
    (Transition.run (step worker policy) start labels) label
  exact ⟨labels ++ more, (Transition.run_append _ _ _ _).trans ran⟩

end Runtime

/-! ### Messages on the ring -/

/-- A message with a command. -/
def ringMessage (command : String) (fields : List (String × PyValue ℚ)) : PyValue ℚ :=
  .dict ([("protocol_version", .str "2.0"), ("header", .str "command"), ("command", .str command)]
    ++ fields)

/-- A move to a place ahead on the lane. -/
def ringMove : PyValue ℚ :=
  ringMessage "move" [("loc", .dict [("x", .float (.finite (7 / 4))), ("y", .int 1)])]

def ringResume : PyValue ℚ := ringMessage "resume" []

end RcTaxi
