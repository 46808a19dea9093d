/-
This file asks whether an outstanding error reason always means `ERROR`. The policy keeps it so: it
is meant to be the single place of the driving state. But the control thread writes the driving
state too, from inside a tick, on a snapshot taken before the loss and without looking at the
reasons. The file shows such a run: the car is said to follow its route while the control server is
lost.

Nothing else breaks it. In every run an outstanding reason means `ERROR` in every state exactly if no
reason that was added behind the snapshot of a tick is outstanding still when that tick writes the
driving state.
-/

import RcTaxi.Runtime

namespace RcTaxi

variable {α : Type} [Scalar α]

/-- An outstanding reason means `ERROR`. -/
def Stack.Guarded {α : Type} (stack : Stack α) : Prop :=
  stack.reasons.Nonempty → stack.store.drivingState = .error

/-- The thread is about to read the snapshot of a tick. -/
def ControlThread.readsSnapshot {α : Type} : ControlThread α → Bool
  | .running (.call .readSnapshot _) => true
  | _ => false

/-- The thread is about to write the driving state. -/
def ControlThread.writesState {α : Type} : ControlThread α → Bool
  | .running (.call (.setDrivingState _) _) => true
  | _ => false

/-- The runtime, and the outstanding reasons that were added behind the last snapshot of a tick. -/
structure WatchedRuntime (α : Type) extends Runtime α where
  added : Finset Reason

namespace WatchedRuntime

def start : WatchedRuntime α := ⟨Runtime.start, ∅⟩

/-- The reasons added behind a snapshot that are outstanding behind one more step. -/
def stillAdded (added before after : Finset Reason) : Finset Reason :=
  (added ∪ (after \ before)) ∩ after

/-- A step of the runtime; with a snapshot the count of the added reasons begins anew. -/
def step (worker : DrivingWorker α) (policy : CommandPolicy α) (runtime : WatchedRuntime α)
    (label : RuntimeLabel α) : WatchedRuntime α :=
  let after := Runtime.step worker policy runtime.toRuntime label
  { toRuntime := after
    added := match label with
      | .stepTick => if runtime.thread.readsSnapshot then ∅ else runtime.added
      | _ => stillAdded runtime.added runtime.reasons after.reasons }

/-- No reason was added between the snapshot of the tick and its write of the driving state, and is
outstanding still. -/
def InTime (runtime : WatchedRuntime α) : RuntimeLabel α → Prop
  | .stepTick => runtime.thread.writesState = true → runtime.added = ∅
  | _ => True

instance (runtime : WatchedRuntime α) (label : RuntimeLabel α) : Decidable (runtime.InTime label) :=
  match label with
  | .stepTick => inferInstanceAs (Decidable (_ = true → _ = ∅))
  | .policy _ | .reportTick | .pose _ | .beginTick _ => isTrue trivial

end WatchedRuntime

/-! ### A state that is overwritten -/

/-- The car accepts a move on a fresh pose, and a tick reads the snapshot in `PLANNING`. -/
def planningRun : List (RuntimeLabel ℚ) :=
  [.pose (.updatePose ringPose), .policy (.rawMessage (some ringMove) fun _ => 1),
    .beginTick (darkInput 2), .stepTick]

/-- The control server is lost behind the snapshot of the tick, and before its write. -/
theorem error_is_overwritten :
    ¬ (Transition.run (Runtime.step ringWorker ⟨5, 3⟩) Runtime.start
      (planningRun ++ [.policy .controlDisconnected, .stepTick])).Guarded := by
  unfold Stack.Guarded
  decide +kernel

/-! ### What keeps the state -/

section Guarded

variable {stack : Stack α}

omit [Scalar α] in
/-- The same reasons and the same state. -/
theorem Stack.Guarded.same {after : Stack α} (guarded : stack.Guarded)
    (reasons : after.reasons = stack.reasons)
    (state : after.store.drivingState = stack.store.drivingState) : after.Guarded :=
  fun outstanding => state.trans (guarded (reasons ▸ outstanding))

omit [Scalar α] in
/-- A state other than `ERROR` is left only where no reason is outstanding, so it may change. -/
theorem Stack.Guarded.outside {after : Stack α} (guarded : stack.Guarded)
    (outside : stack.store.drivingState ≠ .error) (reasons : after.reasons = stack.reasons) :
    after.Guarded :=
  fun outstanding => absurd (guarded (reasons ▸ outstanding)) outside

omit [Scalar α] in
theorem Stack.Guarded.clearReason (guarded : stack.Guarded) (reason : Reason) :
    (stack.clearReason reason).Guarded := by
  intro left
  rw [Stack.clearReason_reasons] at left
  rw [Stack.clearReason_store, if_neg fun both => Finset.nonempty_iff_ne_empty.mp left both.2]
  exact guarded (left.mono (Finset.erase_subset _ _))

theorem Stack.Guarded.enterError (reason : Reason) : (stack.enterError reason).Guarded :=
  fun _ => Stack.enterError_drivingState reason

omit [Scalar α] in
theorem Stack.Guarded.onCommand (guarded : stack.Guarded) (command : Command α) (clock : ℕ → α) :
    (stack.onCommand command clock).Guarded := by
  cases command with
  | move x y =>
    rw [Stack.onCommand, Stack.onMove]
    split
    · exact guarded
    · next isWaiting =>
      refine guarded.outside (fun inError => ?_) rfl
      rw [not_not.mp isWaiting] at inError
      cases inError
  | stop =>
    rw [Stack.onCommand, Stack.onStop]
    split
    · exact guarded
    · next hasArrived =>
      refine guarded.outside (fun inError => ?_) rfl
      rw [not_not.mp hasArrived] at inError
      cases inError
  | resume =>
    rw [Stack.onCommand, Stack.onResume]
    have accepted : (stack.emit .resumeAccepted).Guarded := guarded.same rfl rfl
    split
    · exact guarded
    · exact accepted.clearReason _

theorem Stack.Guarded.notifyArrived (guarded : stack.Guarded) (now : α) :
    (stack.notifyArrived now).Guarded := by
  unfold Stack.notifyArrived
  split
  · next driving =>
    refine guarded.outside (fun inError => ?_) rfl
    rw [inError] at driving
    cases driving
  · exact guarded

/-- Every operation of the policy keeps it. -/
theorem Stack.Guarded.policyStep (guarded : stack.Guarded) (policy : CommandPolicy α)
    (label : PolicyLabel α) : (policy.step stack label).Guarded := by
  cases label with
  | rawMessage message clock =>
    rw [CommandPolicy.step, CommandPolicy.onRawMessage]
    split
    · exact guarded
    · exact guarded.onCommand _ clock
  | controlDisconnected => exact Stack.Guarded.enterError _
  | controlConnected now =>
    rw [CommandPolicy.step, Stack.onControlConnected]
    split
    · exact guarded.same rfl rfl
    · exact guarded
  | gpsLost now =>
    have entered : (stack.enterError .gpsLost).Guarded := Stack.Guarded.enterError _
    rw [CommandPolicy.step, Stack.onGpsLost]
    split
    · exact entered
    · exact entered.same rfl rfl
  | gpsRecovered now =>
    rw [CommandPolicy.step, Stack.onGpsRecovered]
    have reported : (stack.sendRecovered now).Guarded := guarded.same rfl rfl
    split
    · exact reported.clearReason _
    · exact guarded
  | notifyArrived now => exact guarded.notifyArrived now

omit [Scalar α] in
theorem Stack.Guarded.reportTick (guarded : stack.Guarded) : stack.reportTick.Guarded := by
  have complete : stack.resendComplete.Guarded := by
    unfold Stack.resendComplete
    split
    · split
      · exact guarded.same rfl rfl
      · exact guarded
    · exact guarded
  rw [Stack.reportTick, Stack.resendError]
  split
  · split
    · exact complete.same rfl rfl
    · exact complete
  · exact complete

end Guarded

/-! ### What a tick writes -/

/-- What a tick may do behind its snapshot: it reads no other, and it writes the driving state only
where it may, and never `ERROR`. -/
def stateWrites (α : Type) (mayWrite : Prop) : Contract (WorkerOp α) WorkerOp.Answer Unit where
  rely _ _ := True
  allowed op _ := match op with
    | .readSnapshot => False
    | .setDrivingState state => mayWrite ∧ state ≠ .error
    | .output _ | .notifyArrived _ | .latch => True
  answers _ _ _ _ := True

/-- The program of the control thread keeps to it. -/
abbrev WritesState {α : Type} (mayWrite : Prop) {Result : Type} (program : WorkerProgram α Result) :
    Prop :=
  program.Meets (stateWrites α mayWrite) (fun _ _ => True) ()

section WritesState

variable {mayWrite : Prop} {Result Next : Type}

omit [Scalar α] in
theorem WritesState.call {op : WorkerOp α} {next : op.Answer → WorkerProgram α Result}
    (allowed : (stateWrites α mayWrite).allowed op ())
    (onward : ∀ answer, WritesState mayWrite (next answer)) :
    WritesState mayWrite (.call op next) :=
  fun _ _ => ⟨allowed, fun answer _ _ => onward answer⟩

omit [Scalar α] in
theorem WritesState.bind {program : WorkerProgram α Result}
    {continuation : Result → WorkerProgram α Next} (first : WritesState mayWrite program)
    (onward : ∀ result, WritesState mayWrite (continuation result)) :
    WritesState mayWrite (program.bind continuation) :=
  Program.Meets.bind first fun result _ _ => onward result

omit [Scalar α] in
/-- The output writes no driving state. -/
theorem outputOf_writesState (program : OutputProgram α Result) :
    WritesState mayWrite (outputOf program) := by
  induction program with
  | done result => exact trivial
  | call op next inductionHypothesis => exact .call trivial inductionHypothesis

end WritesState

namespace DrivingWorker

variable (worker : DrivingWorker α)

theorem plan_writesState (snap : VehicleSnapshot α) (state : WorkerState α) :
    WritesState True (worker.plan snap state) := by
  have write (next : DrivingState) (other : next ≠ .error)
      (result : Except PyError (WorkerState α)) :
      WritesState True (.call (.setDrivingState next) fun _ => .done result : WorkerProgram α _) :=
    .call ⟨trivial, other⟩ fun _ => trivial
  unfold plan
  split
  · exact write .waiting (by decide) _
  · split
    · exact trivial
    · split
      · exact trivial
      · split
        · exact trivial
        · exact trivial
        · exact write .followingRoute (by decide) _

theorem carryOut_writesState (input : TickInput α) (snap : VehicleSnapshot α)
    (pose : LocalizationPose α) (arrival : ArrivalState α) (driven : Driven α) :
    WritesState True (worker.carryOut input snap pose arrival driven) := by
  have output : WritesState True
      ((outputOf (worker.supervisor.apply (worker.decisionOf input driven).command)).bind
        (worker.conclude input snap pose (worker.decisionOf input driven) driven.state arrival)) := by
    refine (outputOf_writesState _).bind fun applied => ?_
    unfold conclude
    split
    · exact trivial
    · dsimp only
      split
      · exact .call trivial fun _ => trivial
      · exact trivial
  unfold carryOut announced
  dsimp only
  split
  · exact .call ⟨trivial, by decide⟩ fun _ => output
  · exact output

theorem drive_writesState (input : TickInput α) (snap : VehicleSnapshot α) (state : WorkerState α) :
    WritesState True (worker.drive input snap state) := by
  unfold drive
  split
  · exact (outputOf_writesState _).bind fun _ => trivial
  · split
    · exact (outputOf_writesState _).bind fun _ => trivial
    · split
      · exact .call ⟨trivial, by decide⟩ fun _ => trivial
      · split
        · exact trivial
        · exact worker.carryOut_writesState input snap _ _ _

/-- Behind a snapshot in `ERROR` a tick does not write the driving state. -/
theorem react_writesState (input : TickInput α) (state : WorkerState α) (snap : VehicleSnapshot α) :
    WritesState (snap.drivingState ≠ .error) (worker.react input state snap) := by
  have may (driving : snap.drivingState ≠ .error) : (snap.drivingState ≠ .error) = True :=
    eq_true driving
  unfold react
  split
  next planning =>
    rw [may (by rw [planning]; decide)]
    refine (worker.plan_writesState snap state).bind fun planned => ?_
    split
    · exact trivial
    · exact (outputOf_writesState _).bind fun _ => trivial
  next following =>
    rw [may (by rw [following]; decide)]
    exact worker.drive_writesState input snap state
  next approaching =>
    rw [may (by rw [approaching]; decide)]
    exact worker.drive_writesState input snap state
  next => exact (outputOf_writesState _).bind fun _ => trivial

/-- What is left of a round behind its snapshot. -/
def afterSnapshot (input : TickInput α) (state : WorkerState α) (snap : VehicleSnapshot α) :
    WorkerProgram α (Option (Ticked α)) :=
  (worker.react input state snap).bind fun result =>
    match result with
    | .ok ticked => .done (some ticked)
    | .error _ => latchStop.bind fun _ => .done none

theorem round_eq (input : TickInput α) (state : WorkerState α) :
    worker.round input state = .call .readSnapshot (worker.afterSnapshot input state) := rfl

theorem afterSnapshot_writesState (input : TickInput α) (state : WorkerState α)
    (snap : VehicleSnapshot α) :
    WritesState (snap.drivingState ≠ .error) (worker.afterSnapshot input state snap) := by
  refine (worker.react_writesState input state snap).bind fun result => ?_
  split
  · exact trivial
  · have latched : WritesState (snap.drivingState ≠ .error) (latchStop : WorkerProgram α Unit) :=
      .call trivial fun _ => outputOf_writesState _
    exact latched.bind fun _ => trivial

end DrivingWorker

/-! ### The thread and the reasons -/

namespace WatchedRuntime

variable (worker : DrivingWorker α) (policy : CommandPolicy α)

/-- The thread is before its snapshot, or where it may still write the driving state all outstanding
reasons were added behind the snapshot. -/
def Fits (thread : ControlThread α) (reasons added : Finset Reason) : Prop :=
  match thread with
  | .running program => (∃ input state, program = worker.round input state) ∨
      ∃ mayWrite : Prop, (mayWrite → reasons ⊆ added) ∧ WritesState mayWrite program
  | .idle _ | .ended => True

/-- What the thread and the added reasons keep to. -/
structure Consistent (runtime : WatchedRuntime α) : Prop where
  added : runtime.added ⊆ runtime.reasons
  thread : Fits worker runtime.thread runtime.reasons runtime.added

theorem Consistent.start : Consistent worker start := ⟨Finset.empty_subset _, trivial⟩

theorem Fits.behind {reasons added : Finset Reason} {mayWrite : Prop}
    {program : WorkerProgram α (Option (Ticked α))} (upToDate : mayWrite → reasons ⊆ added)
    (writes : WritesState mayWrite program) : Fits worker (.behind program) reasons added := by
  cases program with
  | done result => cases result <;> exact trivial
  | call op next => exact .inr ⟨mayWrite, upToDate, writes⟩

/-- Steps beside the thread. -/
theorem Fits.beside {thread : ControlThread α} {reasons added after : Finset Reason}
    (fits : Fits worker thread reasons added) :
    Fits worker thread after (stillAdded added reasons after) := by
  cases thread with
  | idle state => exact trivial
  | ended => exact trivial
  | running program =>
    refine fits.imp_right fun ⟨mayWrite, upToDate, writes⟩ =>
      ⟨mayWrite, fun may reason outstanding => ?_, writes⟩
    refine Finset.mem_inter.mpr ⟨Finset.mem_union.mpr ?_, outstanding⟩
    by_cases before : reason ∈ reasons
    · exact .inl (upToDate may before)
    · exact .inr (Finset.mem_sdiff.mpr ⟨outstanding, before⟩)

/-- The steps of the thread change no reason. -/
theorem handle_reasons (op : WorkerOp α) (stack : Stack α) :
    (op.handle stack).2.reasons = stack.reasons := by
  cases op with
  | notifyArrived wall =>
    show (stack.notifyArrived wall).reasons = _
    unfold Stack.notifyArrived
    split
    · rfl
    · rfl
  | readSnapshot | setDrivingState state | output op | latch => rfl

/-- A step of the thread in a tick that fits. -/
theorem Consistent.stepTick {stack : Stack α} {program : WorkerProgram α (Option (Ticked α))}
    {added : Finset Reason} (guarded : stack.Guarded)
    (consistent : Consistent worker ⟨⟨stack, .running program⟩, added⟩) :
    Consistent worker (step worker policy ⟨⟨stack, .running program⟩, added⟩ .stepTick) := by
  rcases consistent.thread with ⟨input, state, rfl⟩ | ⟨mayWrite, upToDate, writes⟩
  · refine ⟨Finset.empty_subset _, ?_⟩
    refine Fits.behind worker (fun driving reason outstanding => absurd ?_ driving)
      (worker.afterSnapshot_writesState input state stack.store)
    exact guarded ⟨reason, outstanding⟩
  · cases program with
    | done result => exact ⟨consistent.added, Fits.behind worker upToDate writes⟩
    | call op next =>
      obtain ⟨allowed, onward⟩ := writes () trivial
      have reads : (ControlThread.running (.call op next)).readsSnapshot = false := by
        cases op with
        | readSnapshot => exact allowed.elim
        | setDrivingState state | output op | notifyArrived wall | latch => rfl
      have same := handle_reasons op stack
      have counted : (step worker policy ⟨⟨stack, .running (.call op next)⟩, added⟩
          .stepTick).added = added := if_neg (ne_true_of_eq_false reads)
      constructor
      · rw [counted]
        exact consistent.added.trans same.symm.subset
      · rw [counted]
        exact Fits.behind worker (fun may => same.subset.trans (upToDate may)) (onward _ _ trivial)

/-- Every step behind a guarded state keeps the thread and the reasons consistent. -/
theorem consistent_step (runtime : WatchedRuntime α) (label : RuntimeLabel α)
    (consistent : Consistent worker runtime) (guarded : runtime.Guarded) :
    Consistent worker (step worker policy runtime label) := by
  obtain ⟨⟨stack, thread⟩, added⟩ := runtime
  cases label with
  | policy label => exact ⟨Finset.inter_subset_right, consistent.thread.beside worker⟩
  | reportTick => exact ⟨Finset.inter_subset_right, consistent.thread.beside worker⟩
  | pose op => exact ⟨Finset.inter_subset_right, consistent.thread.beside worker⟩
  | beginTick input =>
    refine ⟨Finset.inter_subset_right, ?_⟩
    cases thread with
    | idle state => exact .inl ⟨input, state, rfl⟩
    | running program => exact consistent.thread.beside worker
    | ended => exact trivial
  | stepTick =>
    cases thread with
    | idle state => exact consistent
    | ended => exact consistent
    | running program => exact consistent.stepTick worker policy guarded

/-- A step keeps an outstanding reason in `ERROR` exactly if it is no late write. -/
theorem guarded_step_iff (runtime : WatchedRuntime α) (label : RuntimeLabel α)
    (consistent : Consistent worker runtime) (guarded : runtime.Guarded) :
    (step worker policy runtime label).Guarded ↔ runtime.InTime label := by
  obtain ⟨⟨stack, thread⟩, added⟩ := runtime
  cases label with
  | policy label => exact iff_of_true (guarded.policyStep policy label) trivial
  | reportTick => exact iff_of_true guarded.reportTick trivial
  | pose op =>
    obtain ⟨pose, stale, speed, applied⟩ := op.apply_eq stack.store
    have state : (op.apply stack.store).drivingState = stack.store.drivingState := by rw [applied]
    exact iff_of_true (guarded.same rfl state) trivial
  | beginTick input =>
    cases thread with
    | idle state => exact iff_of_true guarded trivial
    | running program => exact iff_of_true guarded trivial
    | ended => exact iff_of_true guarded trivial
  | stepTick =>
    cases thread with
    | idle state => exact iff_of_true guarded fun write => absurd write Bool.false_ne_true
    | ended => exact iff_of_true guarded fun write => absurd write Bool.false_ne_true
    | running program =>
      cases program with
      | done result => exact iff_of_true guarded fun write => absurd write Bool.false_ne_true
      | call op next =>
        cases op with
        | setDrivingState state =>
          rcases consistent.thread with ⟨input, before, other⟩ | ⟨mayWrite, upToDate, writes⟩
          · rw [DrivingWorker.round_eq] at other
            cases other
          obtain ⟨⟨may, driving⟩, -⟩ := writes () trivial
          constructor
          · intro after _
            refine Finset.subset_empty.mp fun reason found => ?_
            exact absurd (after ⟨reason, consistent.added found⟩) driving
          · intro inTime ⟨reason, outstanding⟩
            have found := upToDate may outstanding
            rw [show added = ∅ from inTime rfl] at found
            exact absurd found (Finset.notMem_empty reason)
        | readSnapshot => exact iff_of_true guarded fun write => absurd write Bool.false_ne_true
        | output op =>
          refine iff_of_true ?_ fun write => absurd write Bool.false_ne_true
          cases op <;> exact guarded.same rfl rfl
        | notifyArrived wall =>
          exact iff_of_true (guarded.notifyArrived wall) fun write => absurd write Bool.false_ne_true
        | latch =>
          exact iff_of_true (guarded.same rfl rfl) fun write => absurd write Bool.false_ne_true

/-- What the count of the added reasons watches is a run of the runtime. -/
theorem run_toRuntime (labels : List (RuntimeLabel α)) :
    (Transition.run (step worker policy) start labels).toRuntime =
      Transition.run (Runtime.step worker policy) Runtime.start labels := by
  induction labels using List.reverseRecOn with
  | nil => rfl
  | append_singleton labels label inductionHypothesis =>
    rw [Transition.run_concat, Transition.run_concat, ← inductionHypothesis]
    rfl

end WatchedRuntime

/-- In a run an outstanding reason means `ERROR` in every state exactly if every write of the driving
state by a tick comes in time: no reason that was added behind the snapshot of the tick is
outstanding still. -/
theorem error_reasons_mean_error_iff (worker : DrivingWorker α) (policy : CommandPolicy α)
    (labels : List (RuntimeLabel α)) :
    (∀ earlier later, labels = earlier ++ later →
        (Transition.run (Runtime.step worker policy) Runtime.start earlier).Guarded) ↔
      Transition.Along (WatchedRuntime.step worker policy) WatchedRuntime.InTime
        WatchedRuntime.start labels := by
  rw [← Transition.always_iff_along_of_kept (WatchedRuntime.consistent_step worker policy)
    (WatchedRuntime.guarded_step_iff worker policy) (WatchedRuntime.Consistent.start worker)
    (fun outstanding => absurd rfl outstanding.ne_empty) labels]
  exact forall₃_congr fun earlier later split => by rw [WatchedRuntime.run_toRuntime]

-- The control server is lost behind the write of the tick.
example : Transition.Along (WatchedRuntime.step ringWorker ⟨5, 3⟩) WatchedRuntime.InTime
    WatchedRuntime.start (planningRun ++ [.stepTick, .policy .controlDisconnected]) := by
  decide +kernel

end RcTaxi
