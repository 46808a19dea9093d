/-
This file says once what a step of the runtime can do when every tick is whole. The driving state is
kept in the store, what it returns to beside it, the reasons in the policy, and the timestamps in
the report manager; the control thread writes some of it from a tick. Whatever the step, the effect
is one of eight: nothing of the service changes, an error is entered or a reason cleared, a move or
a stop is accepted, the car arrives, the thread goes on to another driving state, or it gives up on
a mission that is not there.

Everything that is said about runs of whole steps is read off these effects.
-/

import RcTaxi.Runtime

namespace RcTaxi

variable {α : Type}

/-! ### Ticks -/

/-- What the policy, the report manager and the service are about. -/
structure Ledger (α : Type) where
  drivingState : DrivingState
  prevStateForRecovery : Option DrivingState
  serviceKind : Option ServiceKind
  mission : Option (ActiveMission α)
  reasons : Finset Reason
  completeTs : Option α
  errorResendTs : Option α
  events : List (Event α)

def Stack.ledger (stack : Stack α) : Ledger α where
  drivingState := stack.store.drivingState
  prevStateForRecovery := stack.store.prevStateForRecovery
  serviceKind := stack.store.serviceKind
  mission := stack.store.mission
  reasons := stack.reasons
  completeTs := stack.completeTs
  errorResendTs := stack.errorResendTs
  events := stack.events

namespace Ledger

/-- A state other than `ERROR` is written. -/
def enter (state : DrivingState) (ledger : Ledger α) : Ledger α :=
  { ledger with drivingState := state, prevStateForRecovery := none }

/-- The arrival, under the kept time or a new one. -/
def arrive (now : α) (ledger : Ledger α) : Ledger α :=
  { ledger with
    drivingState := .arrived
    prevStateForRecovery := none
    completeTs := some (ledger.completeTs.getD now)
    events := ledger.events ++ [.report .markComplete (ledger.completeTs.getD now)] }

end Ledger

/-- What a tick of the control thread does. -/
inductive TickEffect (ledger : Ledger α) : Ledger α → Prop
  | keeps : TickEffect ledger ledger
  | abandons (planning : ledger.drivingState = .planning) (noMission : ledger.mission = none) :
      TickEffect ledger (ledger.enter .waiting)
  | drives (driving : ledger.drivingState.isDriving = true) {state : DrivingState}
      (onward : state.isDriving = true) : TickEffect ledger (ledger.enter state)
  | arrives (driving : ledger.drivingState.isDriving = true) (now : α) :
      TickEffect ledger (ledger.arrive now)

/-- A tick leaves the reasons alone. -/
theorem TickEffect.reasons {before after : Ledger α} (effect : TickEffect before after) :
    after.reasons = before.reasons := by
  cases effect with
  | keeps | abandons | drives | arrives => rfl

variable [Scalar α]

theorem handle_output_ledger (op : OutputOp α) (stack : Stack α) :
    ((WorkerOp.output op).handle stack).2.ledger = stack.ledger := by
  cases op <;> rfl

/-- A program of the supervisor leaves the ledger alone. -/
theorem outputOf_ledger {Result : Type} (program : OutputProgram α Result) (stack : Stack α) :
    ((outputOf program).run WorkerOp.handle stack).2.ledger = stack.ledger := by
  induction program generalizing stack with
  | done result => rfl
  | call op next inductionHypothesis =>
    exact (inductionHypothesis _ _).trans (handle_output_ledger op stack)

theorem notifyArrived_driving {stack : Stack α}
    (driving : stack.store.drivingState.isDriving = true) (now : α) :
    (stack.notifyArrived now).ledger = stack.ledger.arrive now := by
  rw [Stack.notifyArrived, if_pos driving]
  rfl

theorem notifyArrived_outside {stack : Stack α}
    (outside : ¬ stack.store.drivingState.isDriving = true) (now : α) :
    stack.notifyArrived now = stack :=
  if_neg outside

namespace DrivingWorker

variable (worker : DrivingWorker α)

/-- Stopping the car at the end of a tick. -/
theorem stop_ledger {Result : Type} (result : Result) (stack : Stack α) :
    (((outputOf (worker.supervisor.apply stopCommand)).bind fun _ =>
      .done result).run WorkerOp.handle stack).2.ledger = stack.ledger := by
  rw [Program.run_bind, Program.run_done]
  exact outputOf_ledger _ stack

/-- The output and the arrival check of a tick that drove. -/
theorem concluded_ledger (input : TickInput α) (snap : VehicleSnapshot α)
    (pose : LocalizationPose α) (decision : Decision α) (follower : FollowerState α)
    (arrival : ArrivalState α) {stack : Stack α}
    (driving : stack.store.drivingState.isDriving = true) :
    let program := (outputOf (worker.supervisor.apply decision.command)).bind
      (worker.conclude input snap pose decision follower arrival)
    (program.run WorkerOp.handle stack).2.ledger = stack.ledger ∨
      ∃ now, (program.run WorkerOp.handle stack).2.ledger = stack.ledger.arrive now := by
  intro program
  have output := outputOf_ledger (worker.supervisor.apply decision.command) stack
  rw [show program.run WorkerOp.handle stack = _ from Program.run_bind _ _ _]
  generalize (outputOf (worker.supervisor.apply decision.command)).run WorkerOp.handle stack =
    result at output ⊢
  obtain ⟨applied, sent⟩ := result
  have stillDriving : sent.store.drivingState.isDriving = true :=
    (congrArg (fun ledger => ledger.drivingState.isDriving) output).trans driving
  dsimp only at output ⊢
  rw [← output]
  unfold conclude
  split
  · exact .inl rfl
  · dsimp only
    split
    · exact .inr ⟨input.wall, notifyArrived_driving stillDriving _⟩
    · exact .inl rfl

theorem carryOut_effect (input : TickInput α) (pose : LocalizationPose α)
    (arrival : ArrivalState α) (driven : Driven α) {stack : Stack α}
    (driving : stack.store.drivingState.isDriving = true) :
    TickEffect stack.ledger
      ((worker.carryOut input stack.store pose arrival driven).run WorkerOp.handle stack).2.ledger := by
  unfold carryOut announced
  split
  · have approaching : (stack.onStore (.setDrivingState
        .approachingDestination)).store.drivingState.isDriving = true := rfl
    rw [Program.run_call]
    rcases worker.concluded_ledger input stack.store pose (worker.decisionOf input driven)
      driven.state arrival approaching with kept | ⟨now, arrived⟩
    · exact kept ▸ .drives driving rfl
    · exact arrived ▸ .arrives driving now
  · rcases worker.concluded_ledger input stack.store pose (worker.decisionOf input driven)
      driven.state arrival driving with kept | ⟨now, arrived⟩
    · exact kept ▸ .keeps
    · exact arrived ▸ .arrives driving now

theorem drive_effect (input : TickInput α) (state : WorkerState α) {stack : Stack α}
    (driving : stack.store.drivingState.isDriving = true) :
    TickEffect stack.ledger
      ((worker.drive input stack.store state).run WorkerOp.handle stack).2.ledger := by
  unfold drive
  split
  · rw [worker.stop_ledger]
    exact .keeps
  · next pose _ =>
    dsimp only
    split_ifs
    · rw [worker.stop_ledger]
      exact .keeps
    · exact .drives driving rfl
    · split
      · exact .keeps
      · exact worker.carryOut_effect input pose _ _ driving

theorem plan_effect (state : WorkerState α) {stack : Stack α}
    (planning : stack.store.drivingState = .planning) :
    TickEffect stack.ledger ((worker.plan stack.store state).run WorkerOp.handle stack).2.ledger := by
  have driving : stack.store.drivingState.isDriving = true := by
    rw [planning]
    rfl
  unfold plan
  split
  · next noMission => exact .abandons planning noMission
  · split
    · exact .keeps
    · split_ifs
      · exact .keeps
      · split
        · exact .keeps
        · exact .keeps
        · exact .drives driving rfl

/-- A tick behind the reading of the snapshot. -/
theorem react_effect (input : TickInput α) (state : WorkerState α) (stack : Stack α) :
    TickEffect stack.ledger
      ((worker.react input state stack.store).run WorkerOp.handle stack).2.ledger := by
  unfold react
  split
  · next planning =>
    have effect := worker.plan_effect state planning
    rw [Program.run_bind]
    split
    · exact effect
    · rw [worker.stop_ledger]
      exact effect
  · next following => exact worker.drive_effect input state (by rw [following]; rfl)
  · next approaching => exact worker.drive_effect input state (by rw [approaching]; rfl)
  · rw [worker.stop_ledger]
    exact .keeps

theorem latchStop_ledger (stack : Stack α) :
    ((latchStop : WorkerProgram α Unit).run WorkerOp.handle stack).2.ledger = stack.ledger :=
  rfl

/-- A whole tick, also if it ends in an exception. -/
theorem round_effect (input : TickInput α) (state : WorkerState α) (stack : Stack α) :
    TickEffect stack.ledger ((worker.round input state).run WorkerOp.handle stack).2.ledger := by
  have effect := worker.react_effect input state stack
  unfold round tick
  rw [Program.run_bind, Program.run_call]
  split
  · exact effect
  · rw [Program.run_bind, Program.run_done, latchStop_ledger]
    exact effect

end DrivingWorker

/-! ### Effects -/

/-- The kind of the next accepted move: a ride behind a pick-up, otherwise a pick-up. -/
def nextKind (kind : Option ServiceKind) : ServiceKind :=
  if kind = some .pickup then .carry else .pickup

/-- Reports of an error and of its end, and the resume that is accepted for it. -/
def Event.ofError {α : Type} : Event α → Bool
  | .report .sendRecovered _ | .report .sendErrorOnce _ | .report .startErrorResend _
  | .report .tickError _ | .resumeAccepted => true
  | _ => false

/-- The complete report of a tick. -/
def Event.repeatsArrival {α : Type} : Event α → Bool
  | .report .tickComplete _ => true
  | _ => false

/-- What a step does to the service and to the reasons, and the events it adds. -/
inductive Effect {α : Type} (before after : Stack α) : List (Event α) → Prop
  | keeps {added : List (Event α)} (service : after.service = before.service)
      (reasons : after.reasons = before.reasons)
      (events : ∀ event ∈ added, event.ofError = true ∨
        before.store.drivingState = .arrived ∧ event.repeatsArrival = true) :
      Effect before after added
  | enters {added : List (Event α)} (reason : Reason) (service : after.service = before.service)
      (reasons : after.reasons = insert reason before.reasons)
      (events : ∀ event ∈ added, event.ofError = true) : Effect before after added
  | clears {added : List (Event α)} (reason : Reason) (service : after.service = before.service)
      (reasons : after.reasons = before.reasons.erase reason)
      (events : ∀ event ∈ added, event.ofError = true) : Effect before after added
  | moves (waiting : before.store.drivingState = .waiting) (mission : ActiveMission α)
      (timestamp : α) (kind : mission.kind = nextKind before.store.serviceKind)
      (service : after.service = ⟨.planning, some mission.kind, some mission, before.completeTs⟩)
      (reasons : after.reasons = before.reasons) :
      Effect before after [.report .sendAccept timestamp, .moveAccepted mission.kind]
  | stops (arrived : before.store.drivingState = .arrived)
      (service : after.service = ⟨.waiting,
        if before.store.serviceKind = some .pickup then some .pickup else none, none, none⟩)
      (reasons : after.reasons = before.reasons) : Effect before after [.stopAccepted]
  | arrives (driving : before.store.drivingState.isDriving = true) (timestamp : α)
      (service : after.service =
        ⟨.arrived, before.store.serviceKind, before.store.mission, some timestamp⟩)
      (reasons : after.reasons = before.reasons) :
      Effect before after [.report .markComplete timestamp]
  | drives (driving : before.store.drivingState.isDriving = true) {state : DrivingState}
      (onward : state.isDriving = true)
      (service : after.service =
        ⟨state, before.store.serviceKind, before.store.mission, before.completeTs⟩)
      (reasons : after.reasons = before.reasons) : Effect before after []
  | abandons (planning : before.store.drivingState = .planning)
      (noMission : before.store.mission = none)
      (service : after.service =
        ⟨.waiting, before.store.serviceKind, none, before.completeTs⟩)
      (reasons : after.reasons = before.reasons) : Effect before after []

/-- A step has an effect, and leaves the driving state and the reasons consistent. -/
structure Outcome {α : Type} (before after : Stack α) : Prop where
  consistent : after.Consistent
  effect : ∃ added, after.events = before.events ++ added ∧ Effect before after added

section Policy

omit [Scalar α]

/-- Further events, and nothing else. -/
def Stack.adds {α : Type} (added : List (Event α)) (stack : Stack α) : Stack α :=
  { stack with events := stack.events ++ added }

theorem resendComplete_adds (stack : Stack α) : ∃ added, stack.resendComplete = stack.adds added ∧
    ∀ event ∈ added, stack.store.drivingState = .arrived ∧ event.repeatsArrival = true := by
  have nothing : stack = stack.adds [] := by
    unfold Stack.adds
    rw [List.append_nil]
  unfold Stack.resendComplete
  split
  · next timestamp _ =>
    split
    · next arrived =>
      refine ⟨[.report .tickComplete timestamp], rfl, fun event added => ⟨arrived, ?_⟩⟩
      rw [List.mem_singleton.mp added]
      rfl
    · exact ⟨[], nothing, fun _ added => absurd added List.not_mem_nil⟩
  · exact ⟨[], nothing, fun _ added => absurd added List.not_mem_nil⟩

theorem resendError_adds (stack : Stack α) : ∃ added, stack.resendError = stack.adds added ∧
    ∀ event ∈ added, event.ofError = true := by
  have nothing : stack = stack.adds [] := by
    unfold Stack.adds
    rw [List.append_nil]
  unfold Stack.resendError
  split
  · next timestamp _ =>
    split
    · refine ⟨[.report .tickError timestamp], rfl, fun event added => ?_⟩
      rw [List.mem_singleton.mp added]
      rfl
    · exact ⟨[], nothing, fun _ added => absurd added List.not_mem_nil⟩
  · exact ⟨[], nothing, fun _ added => absurd added List.not_mem_nil⟩

/-- A tick of the report manager repeats a complete report in `ARRIVED` and an error report in
`ERROR`. -/
theorem reportTick_adds (stack : Stack α) : ∃ added, stack.reportTick = stack.adds added ∧
    ∀ event ∈ added, event.ofError = true ∨
      stack.store.drivingState = .arrived ∧ event.repeatsArrival = true := by
  obtain ⟨first, complete, arrivals⟩ := resendComplete_adds stack
  obtain ⟨second, error, errors⟩ := resendError_adds stack.resendComplete
  refine ⟨first ++ second, ?_, fun event among => ?_⟩
  · rw [Stack.reportTick, error, complete, Stack.adds, Stack.adds, Stack.adds, List.append_assoc]
  · rcases List.mem_append.mp among with early | late
    · exact .inr (arrivals event early)
    · exact .inl (errors event late)

variable {stack : Stack α} (consistent : stack.Consistent)

include consistent

/-- Nothing happens. -/
theorem outcome_refl : Outcome stack stack :=
  ⟨consistent, [], (List.append_nil _).symm, .keeps rfl rfl fun _ added =>
    absurd added List.not_mem_nil⟩

/-- Outside an error, another state is written. -/
theorem consistent_write (outside : stack.store.drivingState ≠ .error) {after : Stack α}
    (state : DrivingState) (notError : state ≠ .error)
    (entered : after.store.drivingState = state)
    (forgotten : after.store.prevStateForRecovery = none)
    (reasons : after.reasons = stack.reasons) : after.Consistent := by
  have notIn : after.store.drivingState ≠ .error := entered ▸ notError
  refine ⟨⟨fun inError => absurd inError notIn, fun _ => forgotten⟩,
    fun inError => absurd inError notIn, fun outstanding => ?_⟩
  rw [reasons] at outstanding
  exact absurd (consistent.inError.mpr outstanding) outside

theorem onMove_outcome (x y : α) (clock : ℕ → α) : Outcome stack (stack.onMove x y clock) := by
  unfold Stack.onMove
  split
  · exact outcome_refl consistent
  · next isWaiting =>
    have waiting := not_not.mp isWaiting
    have outside : stack.store.drivingState ≠ .error := by
      rw [waiting]
      exact DrivingState.noConfusion
    exact ⟨consistent_write consistent outside .planning DrivingState.noConfusion rfl rfl rfl, _,
      List.append_assoc .., .moves waiting ⟨x, y, _, clock 0⟩ _ rfl rfl rfl⟩

theorem onStop_outcome : Outcome stack stack.onStop := by
  unfold Stack.onStop
  split
  · exact outcome_refl consistent
  · next hasArrived =>
    have arrived := not_not.mp hasArrived
    have outside : stack.store.drivingState ≠ .error := by
      rw [arrived]
      exact DrivingState.noConfusion
    exact ⟨consistent_write consistent outside .waiting DrivingState.noConfusion rfl rfl rfl, _,
      rfl, .stops arrived rfl rfl⟩

/-- Behind an event of the error, a reason is cleared. -/
theorem clearReason_outcome {event : Event α} (ofError : event.ofError = true) (reason : Reason) :
    Outcome stack ((stack.emit event).clearReason reason) := by
  have emitted : (stack.emit event).Consistent := ⟨consistent.remembers, consistent.inError⟩
  refine ⟨Stack.clearReason_consistent emitted, [event], Stack.clearReason_events reason,
    .clears reason (Stack.clearReason_service emitted.remembers reason)
      (Stack.clearReason_reasons reason) fun other added => ?_⟩
  rw [List.mem_singleton.mp added]
  exact ofError

theorem onResume_outcome : Outcome stack stack.onResume := by
  unfold Stack.onResume
  split
  · exact outcome_refl consistent
  · exact clearReason_outcome consistent rfl _

theorem onGpsRecovered_outcome (now : α) : Outcome stack (stack.onGpsRecovered now) := by
  unfold Stack.onGpsRecovered
  split
  · exact clearReason_outcome consistent rfl _
  · exact outcome_refl consistent

/-- An event of the error is reported. -/
theorem emit_outcome {event : Event α} (ofError : event.ofError = true) {after : Stack α}
    (events : after.events = stack.events ++ [event]) (store : after.store = stack.store)
    (reasons : after.reasons = stack.reasons) (complete : after.completeTs = stack.completeTs) :
    Outcome stack after := by
  refine ⟨⟨store ▸ consistent.remembers, ?_⟩, [event], events, .keeps ?_ reasons fun other added => ?_⟩
  · rw [store, reasons]
    exact consistent.inError
  · rw [Stack.service, Stack.service, store, complete]
  · rw [List.mem_singleton.mp added]
    exact .inl ofError

theorem onControlConnected_outcome (now : α) : Outcome stack (stack.onControlConnected now) := by
  unfold Stack.onControlConnected
  split
  · exact emit_outcome consistent rfl rfl rfl rfl rfl
  · exact outcome_refl consistent

theorem reportTick_outcome : Outcome stack stack.reportTick := by
  obtain ⟨added, ticked, events⟩ := reportTick_adds stack
  rw [ticked]
  exact ⟨⟨consistent.remembers, consistent.inError⟩, added, rfl, .keeps rfl rfl events⟩

end Policy

theorem enterError_outcome {stack : Stack α} (consistent : stack.Consistent) (reason : Reason) :
    Outcome stack (stack.enterError reason) :=
  ⟨Stack.enterError_consistent consistent reason, [],
    (Stack.enterError_events reason).trans (List.append_nil _).symm,
    .enters reason (Stack.enterError_service reason) (Stack.enterError_reasons reason)
      fun _ added => absurd added List.not_mem_nil⟩

theorem onGpsLost_outcome {stack : Stack α} (consistent : stack.Consistent) (now : α) :
    Outcome stack (stack.onGpsLost now) := by
  have entered := Stack.enterError_consistent consistent .gpsLost
  unfold Stack.onGpsLost
  split
  · exact enterError_outcome consistent _
  · have service : (stack.enterError .gpsLost).service = stack.service :=
      Stack.enterError_service .gpsLost
    refine ⟨⟨entered.remembers, entered.inError⟩, [.report .sendErrorOnce now],
      congrArg (· ++ _) (Stack.enterError_events _),
      .enters .gpsLost service (Stack.enterError_reasons .gpsLost) ?_⟩
    intro event added
    rw [List.mem_singleton.mp added]
    rfl

theorem notifyArrived_outcome {stack : Stack α} (consistent : stack.Consistent) (now : α) :
    Outcome stack (stack.notifyArrived now) := by
  unfold Stack.notifyArrived
  split
  · next driving =>
    have outside : stack.store.drivingState ≠ .error := by
      intro inError
      rw [inError] at driving
      cases driving
    exact ⟨consistent_write consistent outside .arrived DrivingState.noConfusion rfl rfl rfl, _,
      rfl, .arrives driving _ rfl rfl⟩
  · exact outcome_refl consistent

/-! ### Whole steps -/

/-- Every operation of the policy has an effect. -/
theorem policyStep_outcome (policy : CommandPolicy α) {stack : Stack α}
    (consistent : stack.Consistent) (label : PolicyLabel α) :
    Outcome stack (policy.step stack label) := by
  cases label with
  | rawMessage message clock =>
    rw [CommandPolicy.step, CommandPolicy.onRawMessage]
    split
    · exact outcome_refl consistent
    · next command _ =>
      cases command with
      | move x y => exact onMove_outcome consistent x y clock
      | stop => exact onStop_outcome consistent
      | resume => exact onResume_outcome consistent
  | controlDisconnected => exact enterError_outcome consistent _
  | controlConnected now => exact onControlConnected_outcome consistent now
  | gpsLost now => exact onGpsLost_outcome consistent now
  | gpsRecovered now => exact onGpsRecovered_outcome consistent now
  | notifyArrived now => exact notifyArrived_outcome consistent now

section Ledger

omit [Scalar α]

/-- What a ledger says of the service. -/
def Ledger.service {α : Type} (ledger : Ledger α) : Service α where
  state := if ledger.drivingState = .error then ledger.prevStateForRecovery.getD .waiting
    else ledger.drivingState
  kind := ledger.serviceKind
  mission := ledger.mission
  completeTs := ledger.completeTs

theorem Ledger.enter_service (ledger : Ledger α) {state : DrivingState} (notError : state ≠ .error) :
    (ledger.enter state).service =
      ⟨state, ledger.serviceKind, ledger.mission, ledger.completeTs⟩ := by
  unfold Ledger.service Ledger.enter
  rw [if_neg notError]

theorem isDriving_ne_error {state : DrivingState} (driving : state.isDriving = true) :
    state ≠ .error := by
  rintro rfl
  cases driving

variable {stack after : Stack α}

/-- The same ledger, the same service, reasons and states. -/
theorem consistent_of_ledger (consistent : stack.Consistent) (same : after.ledger = stack.ledger) :
    after.Consistent := by
  have state : after.store.drivingState = stack.store.drivingState :=
    congrArg Ledger.drivingState same
  have previous : after.store.prevStateForRecovery = stack.store.prevStateForRecovery :=
    congrArg Ledger.prevStateForRecovery same
  have reasons : after.reasons = stack.reasons := congrArg Ledger.reasons same
  refine ⟨⟨?_, ?_⟩, ?_⟩
  · rw [state, previous]
    exact consistent.remembers.inError
  · rw [state, previous]
    exact consistent.remembers.outside
  · rw [state, reasons]
    exact consistent.inError

/-- A tick has an effect. -/
theorem tick_outcome (consistent : stack.Consistent)
    (tick : TickEffect stack.ledger after.ledger) : Outcome stack after := by
  generalize same : after.ledger = ledger at tick
  have service : after.service = ledger.service := congrArg Ledger.service same
  have state : after.store.drivingState = ledger.drivingState := congrArg Ledger.drivingState same
  have previous : after.store.prevStateForRecovery = ledger.prevStateForRecovery :=
    congrArg Ledger.prevStateForRecovery same
  have reasons : after.reasons = ledger.reasons := congrArg Ledger.reasons same
  have events : after.events = ledger.events := congrArg Ledger.events same
  have kept : stack.events = stack.events ++ [] := (List.append_nil _).symm
  cases tick with
  | keeps =>
    exact ⟨consistent_of_ledger consistent same, [], events.trans kept,
      .keeps service reasons fun _ added => absurd added List.not_mem_nil⟩
  | abandons planning noMission =>
    have outside : stack.store.drivingState ≠ .error := by
      rw [show stack.store.drivingState = .planning from planning]
      exact DrivingState.noConfusion
    have left : stack.store.mission = none := noMission
    refine ⟨consistent_write consistent outside .waiting DrivingState.noConfusion state previous
      reasons, [], events.trans kept, .abandons planning left (service.trans ?_) reasons⟩
    rw [Ledger.enter_service _ DrivingState.noConfusion, ← left]
    rfl
  | drives driving onward =>
    refine ⟨consistent_write consistent (isDriving_ne_error driving) _ (isDriving_ne_error onward)
      state previous reasons, [], events.trans kept, .drives driving onward (service.trans ?_)
      reasons⟩
    exact Ledger.enter_service _ (isDriving_ne_error onward)
  | arrives driving now =>
    exact ⟨consistent_write consistent (isDriving_ne_error driving) .arrived
      DrivingState.noConfusion state previous reasons, _, events, .arrives driving _ service reasons⟩

end Ledger

namespace Runtime

variable (worker : DrivingWorker α) (policy : CommandPolicy α)

/-- Every whole step has an effect. -/
theorem wholeStep_outcome {runtime : Runtime α} (consistent : runtime.Consistent)
    (label : WholeLabel α) :
    Outcome runtime.toStack (wholeStep worker policy runtime label).toStack := by
  obtain ⟨stack, thread⟩ := runtime
  cases label with
  | policy label => exact policyStep_outcome policy consistent label
  | reportTick => exact reportTick_outcome consistent
  | pose op =>
    obtain ⟨pose, stale, speed, applied⟩ := op.apply_eq stack.store
    have same : (stack.onStore op.apply).ledger = stack.ledger := by
      rw [Stack.onStore, applied]
      rfl
    exact tick_outcome consistent (same ▸ .keeps)
  | tick input =>
    cases thread with
    | idle state => exact tick_outcome consistent (worker.round_effect input state stack)
    | running program => exact outcome_refl consistent
    | ended => exact outcome_refl consistent

theorem start_consistent : (start : Runtime α).Consistent :=
  ⟨⟨fun inError => (nomatch inError), fun _ => rfl⟩, fun inError => (nomatch inError), fun outstanding =>
    absurd rfl outstanding.ne_empty⟩

/-- Between whole steps the driving state and the reasons are consistent. -/
theorem reachable_consistent {runtime : Runtime α}
    (reachable : Transition.Reachable (wholeStep worker policy) start runtime) :
    runtime.Consistent := by
  have kept (state : Runtime α) (label : WholeLabel α) (consistent : state.Consistent) :
      (wholeStep worker policy state label).Consistent :=
    (wholeStep_outcome worker policy consistent label).consistent
  exact reachable.invariant kept start_consistent

end Runtime

end RcTaxi
