/-
This file shows that an error episode is transparent. Between the loss that begins it and the moment
the last reason is gone, the losses may overlap in any order, commands may be refused and ticks go
on; the service stands behind the error all the while, and comes back as it was.
-/

import RcTaxi.Effects

namespace RcTaxi

variable {α : Type} [Scalar α]

namespace Runtime

variable (worker : DrivingWorker α) (policy : CommandPolicy α)

/-! ### Episodes -/

/-- The steps begin by adding a reason and end at the first moment without one. -/
structure Episode (runtime : Runtime α) (first : WholeLabel α) (rest : List (WholeLabel α)) :
    Prop where
  before : runtime.reasons = ∅
  begins : (wholeStep worker policy runtime first).reasons.Nonempty
  lasts : Transition.Along (wholeStep worker policy) (fun state _ => state.reasons.Nonempty)
    (wholeStep worker policy runtime first) rest
  ends : (Transition.run (wholeStep worker policy) (wholeStep worker policy runtime first)
    rest).reasons = ∅

/-- What resolves a reason: a resume the lost control server, a recovery the lost position. -/
def Resolves : Reason → WholeLabel α → Prop
  | .controlLost, label => ∃ message clock, label = .policy (.rawMessage message clock) ∧
      parseCommand policy.mapXMax policy.mapYMax message = some .resume
  | .gpsLost, label => ∃ now, label = .policy (.gpsRecovered now)

/-- A reason is removed by what resolves it only. -/
def Resolved (runtime : Runtime α) (label : WholeLabel α) : Prop :=
  ∀ reason ∈ runtime.reasons, reason ∉ (wholeStep worker policy runtime label).reasons →
    Resolves policy reason label

/-- The error left no trace: the service is what it was, the car stood in `ERROR`, no report of the
service was sent, and every reason was removed by what resolves it. -/
structure Transparent (runtime : Runtime α) (first : WholeLabel α) (rest : List (WholeLabel α)) :
    Prop where
  drivingState : (Transition.run (wholeStep worker policy) runtime
    (first :: rest)).store.drivingState = runtime.store.drivingState
  mission : (Transition.run (wholeStep worker policy) runtime (first :: rest)).store.mission =
    runtime.store.mission
  serviceKind : (Transition.run (wholeStep worker policy) runtime
    (first :: rest)).store.serviceKind = runtime.store.serviceKind
  completeTs : (Transition.run (wholeStep worker policy) runtime (first :: rest)).completeTs =
    runtime.completeTs
  inError : Transition.Along (wholeStep worker policy)
    (fun state _ => state.store.drivingState = .error)
    (wholeStep worker policy runtime first) rest
  reports : ∃ added, (Transition.run (wholeStep worker policy) runtime (first :: rest)).events =
    runtime.events ++ added ∧ ∀ origin timestamp, .report origin timestamp ∈ added →
      origin.kind ≠ .accept ∧ origin.kind ≠ .complete
  resolved : Transition.Along (wholeStep worker policy) (Resolved worker policy) runtime
    (first :: rest)

/-! ### One step -/

omit [Scalar α] in
/-- An event of the error is no report of the service. -/
theorem kind_of_ofError {origin : ReportOrigin} {timestamp : α}
    (ofError : (Event.report origin timestamp).ofError = true) :
    origin.kind ≠ .accept ∧ origin.kind ≠ .complete := by
  cases origin with
  | sendAccept | markComplete | tickComplete => cases ofError
  | sendRecovered | sendErrorOnce | startErrorResend | tickError => decide

/-- What a step inside an error does. -/
structure Behind {α : Type} (before after : Stack α) : Prop where
  service : after.service = before.service
  events : ∃ added, after.events = before.events ++ added ∧ ∀ event ∈ added, event.ofError = true

omit [Scalar α] in
/-- In `ERROR` no step touches the service. -/
theorem behind_of_inError {before after : Stack α} (inError : before.store.drivingState = .error)
    (outcome : Outcome before after) : Behind before after := by
  obtain ⟨added, appended, effect⟩ := outcome.effect
  cases effect with
  | keeps service reasons events =>
    refine ⟨service, added, appended, fun event among => (events event among).elim id ?_⟩
    rintro ⟨arrived, -⟩
    rw [inError] at arrived
    cases arrived
  | enters reason service reasons events => exact ⟨service, added, appended, events⟩
  | clears reason service reasons events => exact ⟨service, added, appended, events⟩
  | moves waiting =>
    rw [inError] at waiting
    cases waiting
  | stops arrived =>
    rw [inError] at arrived
    cases arrived
  | arrives driving =>
    rw [inError] at driving
    cases driving
  | drives driving =>
    rw [inError] at driving
    cases driving
  | abandons planning =>
    rw [inError] at planning
    cases planning

omit [Scalar α] in
/-- A step that adds the first reason does not touch the service. -/
theorem behind_of_begins {before after : Stack α} (noReason : before.reasons = ∅)
    (begins : after.reasons.Nonempty) (outcome : Outcome before after) : Behind before after := by
  obtain ⟨added, appended, effect⟩ := outcome.effect
  have changes (reasons : after.reasons = before.reasons) : False :=
    begins.ne_empty (reasons.trans noReason)
  cases effect with
  | enters reason service reasons events => exact ⟨service, added, appended, events⟩
  | clears reason service reasons events => exact ⟨service, added, appended, events⟩
  | keeps service reasons => exact (changes reasons).elim
  | moves waiting mission timestamp kind service reasons => exact (changes reasons).elim
  | stops arrived service reasons => exact (changes reasons).elim
  | arrives driving timestamp service reasons => exact (changes reasons).elim
  | drives driving onward service reasons => exact (changes reasons).elim
  | abandons planning noMission service reasons => exact (changes reasons).elim

omit [Scalar α] in
theorem Behind.trans {first second third : Stack α} (left : Behind first second)
    (right : Behind second third) : Behind first third := by
  obtain ⟨early, appended, earlyError⟩ := left.events
  obtain ⟨late, appendedLate, lateError⟩ := right.events
  refine ⟨right.service.trans left.service, early ++ late, ?_, fun event among => ?_⟩
  · rw [appendedLate, appended, List.append_assoc]
  · exact (List.mem_append.mp among).elim (earlyError event) (lateError event)

omit [Scalar α] in
theorem Behind.refl (stack : Stack α) : Behind stack stack :=
  ⟨rfl, [], (List.append_nil _).symm, fun _ among => absurd among List.not_mem_nil⟩

/-! ### Reasons -/

section Reasons

variable {stack : Stack α} {reason : Reason} (outstanding : reason ∈ stack.reasons)

include outstanding

theorem mem_enterError (other : Reason) : reason ∈ (stack.enterError other).reasons := by
  rw [Stack.enterError_reasons]
  exact Finset.mem_insert_of_mem outstanding

omit [Scalar α] in
theorem mem_clearReason {other : Reason} (different : reason ≠ other) :
    reason ∈ (stack.clearReason other).reasons := by
  rw [Stack.clearReason_reasons]
  exact Finset.mem_erase.mpr ⟨different, outstanding⟩

omit [Scalar α] in
/-- A command other than a resume removes no reason, and a resume the lost control server only. -/
theorem mem_onCommand {command : Command α} (clock : ℕ → α)
    (different : command = .resume → reason ≠ .controlLost) :
    reason ∈ (stack.onCommand command clock).reasons := by
  cases command with
  | move x y =>
    rw [Stack.onCommand, Stack.onMove]
    split
    · exact outstanding
    · exact outstanding
  | stop =>
    rw [Stack.onCommand, Stack.onStop]
    split
    · exact outstanding
    · exact outstanding
  | resume =>
    have accepted : reason ∈ (stack.emit .resumeAccepted).reasons := outstanding
    rw [Stack.onCommand, Stack.onResume]
    split
    · exact outstanding
    · exact mem_clearReason accepted (different rfl)

/-- An operation removes a reason only if it resolves it. -/
theorem policyStep_resolves (label : PolicyLabel α)
    (removed : reason ∉ (policy.step stack label).reasons) :
    Resolves policy reason (.policy label) := by
  cases label with
  | rawMessage message clock =>
    rw [CommandPolicy.step, CommandPolicy.onRawMessage] at removed
    split at removed
    · exact absurd outstanding removed
    · next command parsed =>
      by_contra unresolved
      refine removed (mem_onCommand outstanding clock ?_)
      rintro rfl rfl
      exact unresolved ⟨message, clock, rfl, parsed⟩
  | controlDisconnected => exact absurd (mem_enterError outstanding _) removed
  | controlConnected now =>
    rw [CommandPolicy.step, Stack.onControlConnected] at removed
    split at removed
    · exact absurd outstanding removed
    · exact absurd outstanding removed
  | gpsLost now =>
    rw [CommandPolicy.step, Stack.onGpsLost] at removed
    split at removed
    · exact absurd (mem_enterError outstanding _) removed
    · exact absurd (mem_enterError outstanding .gpsLost) removed
  | gpsRecovered now =>
    by_contra unresolved
    have different : reason ≠ .gpsLost := by
      rintro rfl
      exact unresolved ⟨now, rfl⟩
    have reported : reason ∈ (stack.sendRecovered now).reasons := outstanding
    rw [CommandPolicy.step, Stack.onGpsRecovered] at removed
    split at removed
    · exact removed (mem_clearReason reported different)
    · exact removed outstanding
  | notifyArrived now =>
    rw [CommandPolicy.step, Stack.notifyArrived] at removed
    split at removed
    · exact absurd outstanding removed
    · exact absurd outstanding removed

end Reasons

theorem resolved (runtime : Runtime α) (label : WholeLabel α) :
    Resolved worker policy runtime label := by
  obtain ⟨stack, thread⟩ := runtime
  intro reason outstanding removed
  have kept (reasons : (wholeStep worker policy ⟨stack, thread⟩ label).reasons = stack.reasons) :
      Resolves policy reason label :=
    absurd (reasons ▸ outstanding) removed
  cases label with
  | policy label => exact policyStep_resolves policy outstanding label removed
  | reportTick =>
    obtain ⟨added, ticked, -⟩ := reportTick_adds stack
    have same : stack.reportTick.reasons = stack.reasons := by
      rw [ticked]
      rfl
    exact kept same
  | pose op => exact kept rfl
  | tick input =>
    cases thread with
    | idle state => exact kept (worker.round_effect input state stack).reasons
    | running program => exact kept rfl
    | ended => exact kept rfl

/-! ### The whole episode -/

/-- While a reason is outstanding, the car is in `ERROR` and the service stands behind it. -/
theorem behind_of_lasts {runtime : Runtime α} (consistent : runtime.Consistent)
    {labels : List (WholeLabel α)}
    (lasts : Transition.Along (wholeStep worker policy) (fun state _ => state.reasons.Nonempty)
      runtime labels) :
    Behind runtime.toStack (Transition.run (wholeStep worker policy) runtime labels).toStack ∧
      Transition.Along (wholeStep worker policy) (fun state _ => state.store.drivingState = .error)
        runtime labels ∧
      (Transition.run (wholeStep worker policy) runtime labels).Consistent := by
  induction labels generalizing runtime with
  | nil => exact ⟨Behind.refl _, trivial, consistent⟩
  | cons label labels inductionHypothesis =>
    have inError := consistent.inError.mpr lasts.1
    have outcome := wholeStep_outcome worker policy consistent label
    obtain ⟨behind, stays, last⟩ := inductionHypothesis outcome.consistent lasts.2
    exact ⟨(behind_of_inError inError outcome).trans behind, ⟨inError, stays⟩, last⟩

omit [Scalar α] in
/-- Without a reason the state of the service is the driving state. -/
theorem service_state {stack : Stack α} (consistent : stack.Consistent) (none : stack.reasons = ∅) :
    stack.service.state = stack.store.drivingState :=
  if_neg fun inError => (consistent.inError.mp inError).ne_empty none

/-- From every reachable state without a reason, an error episode is transparent. -/
theorem error_episode_is_transparent {runtime : Runtime α}
    (reachable : Transition.Reachable (wholeStep worker policy) start runtime)
    {first : WholeLabel α} {rest : List (WholeLabel α)}
    (episode : Episode worker policy runtime first rest) :
    Transparent worker policy runtime first rest := by
  have consistent := reachable_consistent worker policy reachable
  have outcome := wholeStep_outcome worker policy consistent first
  obtain ⟨lasting, inError, last⟩ := behind_of_lasts worker policy outcome.consistent episode.lasts
  have behind := (behind_of_begins episode.before episode.begins outcome).trans lasting
  obtain ⟨added, appended, ofError⟩ := behind.events
  have state := congrArg Service.state behind.service
  rw [service_state last episode.ends, service_state consistent episode.before] at state
  exact {
    drivingState := state
    mission := congrArg Service.mission behind.service
    serviceKind := congrArg Service.kind behind.service
    completeTs := congrArg Service.completeTs behind.service
    inError := inError
    reports := ⟨added, appended, fun origin timestamp among => kind_of_ofError (ofError _ among)⟩
    resolved := Transition.along_of_forall (resolved worker policy) _ _ }

/-- Both losses overlap on the way to a customer, and the control server's is resolved first. -/
theorem error_episode_is_transparent_on_the_way :
    let runtime := Transition.run (wholeStep ringWorker ⟨5, 3⟩) start
      [.pose (.updatePose ringPose), .policy (.rawMessage (some ringMove) fun _ => 1),
        .tick (darkInput 2)]
    Transparent ringWorker ⟨5, 3⟩ runtime (.policy .controlDisconnected)
      [.policy (.gpsLost 3), .tick (darkInput 4), .policy (.rawMessage (some ringResume) fun _ => 5),
        .policy (.gpsRecovered 6)] := by
  intro runtime
  have reachable : Transition.Reachable (wholeStep ringWorker ⟨5, 3⟩) start runtime := ⟨_, rfl⟩
  exact error_episode_is_transparent ringWorker ⟨5, 3⟩ reachable
    ⟨by decide +kernel, by decide +kernel, by decide +kernel, by decide +kernel⟩

end Runtime

end RcTaxi
