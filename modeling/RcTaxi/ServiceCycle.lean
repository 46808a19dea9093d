/-
This file shows that the runtime refines the cycle of the service: a customer calls, boards, rides
and leaves. The cycle is not stored anywhere. It is spread over the driving state, the kind of the
service and the mission, which are written by the policy and by the control thread in calls of their
own, and the next kind is inferred from the last.

The cycle is stated on its own first, with the moves it accepts. Then the service of a stack is read
as a phase of it, and every effect of a step is a step of the cycle.
-/

import RcTaxi.Effects

namespace RcTaxi

/-! ### The cycle -/

/-- The phases of the service. -/
inductive ServicePhase
  | idle
  | called
  | boarding
  | riding
  deriving DecidableEq, Repr

namespace ServicePhase

def next : ServicePhase → ServicePhase
  | .idle => .called
  | .called => .boarding
  | .boarding => .riding
  | .riding => .idle

/-- What the control server is told. -/
def label : ServicePhase → String
  | .idle => "대기 중"
  | .called => "호출 응답 이동 중"
  | .boarding => "탑승 대기 중"
  | .riding => "고객 탑승 이동 중"

/-- The kind of the last accepted move, where there was one. -/
def lastKind : ServicePhase → ServiceKind
  | .idle | .riding => .carry
  | .called | .boarding => .pickup

end ServicePhase

/-- A step of the cycle, with the kinds of the moves it accepts: a free car accepts a move, and a
car under way is stopped. -/
inductive CycleStep : ServicePhase → ServicePhase → List ServiceKind → Prop
  | stays (phase : ServicePhase) : CycleStep phase phase []
  | calls : CycleStep .idle .called [.pickup]
  | boards : CycleStep .called .boarding []
  | rides : CycleStep .boarding .riding [.carry]
  | leaves : CycleStep .riding .idle []

/-- The kinds alternate, beginning with a pick-up. -/
structure Alternates (kinds : List ServiceKind) : Prop where
  alternates : kinds.IsChain (· ≠ ·)
  begins : ∀ kind ∈ kinds.head?, kind = .pickup

/-- The kinds accepted on the way to a phase: they alternate, the phase knows the last one, and
without any the car is idle. -/
structure AcceptedUpTo (phase : ServicePhase) (kinds : List ServiceKind) : Prop
    extends Alternates kinds where
  last : ∀ kind ∈ kinds.getLast?, kind = phase.lastKind
  none : kinds = [] → phase = .idle

theorem acceptedUpTo_start : AcceptedUpTo .idle [] where
  alternates := .nil
  begins _ none := (nomatch none)
  last _ none := (nomatch none)
  none _ := rfl

/-- A move is accepted behind the others. -/
theorem AcceptedUpTo.accept {phase : ServicePhase} {kinds : List ServiceKind}
    (accepted : AcceptedUpTo phase kinds) {kind : ServiceKind} (different : phase.lastKind ≠ kind)
    (first : phase = .idle → kind = .pickup) {next : ServicePhase} (last : next.lastKind = kind) :
    AcceptedUpTo next (kinds ++ [kind]) := by
  refine ⟨⟨?_, ?_⟩, ?_, fun none => absurd none (List.concat_ne_nil _ _)⟩
  · refine List.isChain_append.mpr ⟨accepted.alternates, .singleton _, ?_⟩
    intro before isLast after isFirst
    cases isFirst
    rw [accepted.last before isLast]
    exact different
  · intro found isFirst
    cases kinds with
    | nil =>
      cases isFirst
      exact first (accepted.none rfl)
    | cons head tail => exact accepted.begins found isFirst
  · intro found isLast
    rw [List.getLast?_concat] at isLast
    cases isLast
    exact last.symm

/-- Every step of the cycle keeps the kinds alternating. -/
theorem CycleStep.acceptedUpTo {phase next : ServicePhase} {added : List ServiceKind}
    (step : CycleStep phase next added) {kinds : List ServiceKind}
    (accepted : AcceptedUpTo phase kinds) : AcceptedUpTo next (kinds ++ added) := by
  cases step with
  | stays =>
    rw [List.append_nil]
    exact accepted
  | calls => exact accepted.accept ServiceKind.noConfusion (fun _ => rfl) rfl
  | rides => exact accepted.accept ServiceKind.noConfusion (fun idle => (nomatch idle)) rfl
  | boards =>
    rw [List.append_nil]
    exact ⟨accepted.toAlternates, accepted.last, fun none => (nomatch accepted.none none)⟩
  | leaves =>
    rw [List.append_nil]
    exact ⟨accepted.toAlternates, accepted.last, fun _ => rfl⟩

/-! ### The phase of a stack -/

variable {α : Type}

/-- `PLANNING`, `FOLLOWING_ROUTE`, `APPROACHING_DESTINATION` or `ARRIVED`. -/
def DrivingState.underWay (state : DrivingState) : Bool := state.isDriving || decide (state = .arrived)

/-- The phase a service is in. -/
def Service.phase (service : Service α) : ServicePhase :=
  if service.state.underWay then if service.kind = some .carry then .riding else .called
  else if service.kind = some .pickup then .boarding
  else .idle

/-- The three fields fit together: a mission goes with being under way and has the kind of the
service, and a car that is not under way waits, and not behind a ride. -/
structure Service.Proper (service : Service α) : Prop where
  waits : service.state.underWay = false → service.state = .waiting ∧ service.kind ≠ some .carry
  mission : service.mission.isSome = service.state.underWay
  kind : ∀ mission, service.mission = some mission → service.kind = some mission.kind

/-- The kinds of the accepted moves among the events. -/
def acceptedKinds (events : List (Event α)) : List ServiceKind :=
  events.filterMap fun event => match event with
    | .moveAccepted kind => some kind
    | _ => none

/-- The timestamps of the accept reports among the events. -/
def acceptReports (events : List (Event α)) : List α :=
  events.filterMap fun event => match event with
    | .report .sendAccept timestamp => some timestamp
    | _ => none

/-- Events that accept nothing. -/
theorem accepts_nothing {added : List (Event α)}
    (events : ∀ event ∈ added, event.ofError = true ∨ event.repeatsArrival = true) :
    acceptedKinds added = [] ∧ acceptReports added = [] := by
  unfold acceptedKinds acceptReports
  rw [List.filterMap_eq_nil_iff, List.filterMap_eq_nil_iff]
  constructor
  · intro event among
    cases event with
    | moveAccepted kind => rcases events _ among with impossible | impossible <;> cases impossible
    | report | stopAccepted | resumeAccepted => rfl
  · intro event among
    cases event with
    | report origin timestamp =>
      cases origin with
      | sendAccept => rcases events _ among with impossible | impossible <;> cases impossible
      | sendRecovered | sendErrorOnce | markComplete | startErrorResend | tickComplete
      | tickError => rfl
    | moveAccepted | stopAccepted | resumeAccepted => rfl

section Proper

variable {service : Service α} (proper : service.Proper)

include proper

/-- Under way the service has a kind. -/
theorem Service.Proper.exists_kind (underWay : service.state.underWay = true) :
    ∃ kind, service.kind = some kind := by
  obtain ⟨mission, present⟩ := Option.isSome_iff_exists.mp (proper.mission.trans underWay)
  exact ⟨mission.kind, proper.kind mission present⟩

/-- What the server is told outside an error is the phase. -/
theorem Service.Proper.label (outside : service.state ≠ .error) :
    toServiceState service.state service.kind = service.phase.label := by
  unfold toServiceState Service.phase
  rw [if_neg outside]
  cases underWay : service.state.underWay with
  | true =>
    obtain ⟨kind, found⟩ := proper.exists_kind underWay
    have moving : service.state.isDriving = true ∨ service.state = .arrived := by
      rw [DrivingState.underWay, Bool.or_eq_true, decide_eq_true_eq] at underWay
      exact underWay
    rw [if_pos moving, if_pos rfl, found]
    cases kind with
    | pickup => rfl
    | carry => rfl
  | false =>
    obtain ⟨waiting, -⟩ := proper.waits underWay
    rw [waiting]
    by_cases pickup : service.kind = some .pickup
    · rw [pickup]
      rfl
    · rw [if_neg pickup, if_neg Bool.false_ne_true, if_neg pickup]
      rfl

end Proper

/-- What a step of the runtime is to the cycle: its service stays proper, it is a step of the cycle
with one accept report for every move, and into, in and out of an error the phase stays. -/
structure RefinesCycle (before after : Stack α) (added : List (Event α)) : Prop where
  proper : after.service.Proper
  step : CycleStep before.service.phase after.service.phase (acceptedKinds added)
  reports : (acceptReports added).length = (acceptedKinds added).length
  excursion : before.store.drivingState = .error ∨ after.store.drivingState = .error →
    after.service.phase = before.service.phase

/-- The service stays as it is, and nothing is accepted. -/
theorem refines_of_same {before after : Stack α} {added : List (Event α)}
    (proper : before.service.Proper) (service : after.service = before.service)
    (events : ∀ event ∈ added, event.ofError = true ∨ event.repeatsArrival = true) :
    RefinesCycle before after added := by
  obtain ⟨noKinds, noReports⟩ := accepts_nothing events
  refine ⟨service ▸ proper, ?_, ?_, fun _ => congrArg Service.phase service⟩
  · rw [service, noKinds]
    exact .stays _
  · rw [noKinds, noReports]
    rfl

/-- Outside an error and with the reasons as they are, there is no excursion. -/
theorem no_excursion {before after : Stack α} (consistent : before.Consistent)
    (kept : after.Consistent) (outside : before.store.drivingState ≠ .error)
    (reasons : after.reasons = before.reasons) :
    ¬ (before.store.drivingState = .error ∨ after.store.drivingState = .error) := by
  rintro (inError | inError)
  · exact outside inError
  · exact outside (consistent.inError.mpr (reasons ▸ kept.inError.mp inError))

section Effects

variable {before after : Stack α} (proper : before.service.Proper)

/-- Outside an error the state of the service is the driving state. -/
theorem service_state_of {state : DrivingState} (driving : before.store.drivingState = state)
    (notError : state ≠ .error) : before.service.state = state :=
  (if_neg (driving ▸ notError)).trans driving

/-- An accepted move is a step of the cycle. -/
theorem moves_step (waiting : before.store.drivingState = .waiting) {mission : ActiveMission α}
    (kind : mission.kind = nextKind before.store.serviceKind)
    (service : after.service = ⟨.planning, some mission.kind, some mission, before.completeTs⟩) :
    after.service.Proper ∧
      CycleStep before.service.phase after.service.phase [mission.kind] := by
  have state := service_state_of waiting DrivingState.noConfusion
  have phase : before.service.phase =
      if before.store.serviceKind = some .pickup then .boarding else .idle := by
    rw [Service.phase, state]
    rfl
  rw [service, phase, kind]
  refine ⟨⟨fun still => (nomatch still), rfl, fun found same => ?_⟩, ?_⟩
  · cases same
    exact congrArg some kind.symm
  · unfold nextKind
    split
    · exact .rides
    · exact .calls

include proper

/-- An accepted stop is a step of the cycle. -/
theorem stops_step (arrived : before.store.drivingState = .arrived)
    (service : after.service = ⟨.waiting,
      if before.store.serviceKind = some .pickup then some .pickup else none, none, none⟩) :
    after.service.Proper ∧ CycleStep before.service.phase after.service.phase [] := by
  have state := service_state_of arrived DrivingState.noConfusion
  obtain ⟨kind, found⟩ := proper.exists_kind (by rw [state]; rfl)
  have carried : before.store.serviceKind = some kind := found
  have phase : before.service.phase = if some kind = some .carry then .riding else .called := by
    rw [Service.phase, state, found]
    rfl
  rw [service, phase, carried]
  cases kind with
  | pickup =>
    rw [if_pos rfl]
    exact ⟨⟨fun _ => ⟨rfl, fun same => (nomatch same)⟩, rfl, fun _ none => (nomatch none)⟩, .boards⟩
  | carry =>
    rw [if_neg fun same => (nomatch same)]
    exact ⟨⟨fun _ => ⟨rfl, fun same => (nomatch same)⟩, rfl, fun _ none => (nomatch none)⟩, .leaves⟩

/-- Going on to another state under way is no step of the cycle. -/
theorem underWay_step (driving : before.store.drivingState.isDriving = true)
    {state : DrivingState} (underWay : state.underWay = true) {completeTs : Option α}
    (service : after.service = ⟨state, before.store.serviceKind, before.store.mission, completeTs⟩) :
    after.service.Proper ∧ CycleStep before.service.phase after.service.phase [] := by
  have same := service_state_of rfl (isDriving_ne_error driving)
  have wasUnderWay : before.service.state.underWay = true := by
    rw [same, DrivingState.underWay, driving]
    rfl
  have phase : after.service.phase = before.service.phase := by
    rw [service, Service.phase, Service.phase, if_pos wasUnderWay, if_pos underWay]
    rfl
  rw [phase]
  refine ⟨?_, .stays _⟩
  rw [service]
  refine ⟨fun waits => ?_, ?_, proper.kind⟩
  · rw [underWay] at waits
    cases waits
  · exact (proper.mission.trans wasUnderWay).trans underWay.symm

/-- **Refinement, one step.** Every effect is a step of the cycle. -/
theorem effect_refines (consistent : before.Consistent) (kept : after.Consistent)
    {added : List (Event α)} (effect : Effect before after added) :
    RefinesCycle before after added := by
  have inside {state : DrivingState} (driving : before.store.drivingState = state)
      (notError : state ≠ .error) (reasons : after.reasons = before.reasons) :=
    no_excursion consistent kept (driving ▸ notError) reasons
  cases effect with
  | keeps service reasons events =>
    exact refines_of_same proper service fun event among => (events event among).imp id And.right
  | enters reason service reasons events =>
    exact refines_of_same proper service fun event among => .inl (events event among)
  | clears reason service reasons events =>
    exact refines_of_same proper service fun event among => .inl (events event among)
  | moves waiting mission timestamp kind service reasons =>
    obtain ⟨proper', step⟩ := moves_step waiting kind service
    exact ⟨proper', step, rfl, fun error =>
      absurd error (inside waiting DrivingState.noConfusion reasons)⟩
  | stops arrived service reasons =>
    obtain ⟨proper', step⟩ := stops_step proper arrived service
    exact ⟨proper', step, rfl, fun error =>
      absurd error (inside arrived DrivingState.noConfusion reasons)⟩
  | arrives driving timestamp service reasons =>
    obtain ⟨proper', step⟩ := underWay_step proper driving rfl service
    exact ⟨proper', step, rfl, fun error =>
      absurd error (inside rfl (isDriving_ne_error driving) reasons)⟩
  | drives driving onward service reasons =>
    obtain ⟨proper', step⟩ := underWay_step proper driving
      (Bool.or_eq_true_iff.mpr (.inl onward)) service
    exact ⟨proper', step, rfl, fun error =>
      absurd error (inside rfl (isDriving_ne_error driving) reasons)⟩
  | abandons planning noMission service reasons =>
    have state := service_state_of planning DrivingState.noConfusion
    have present := proper.mission
    rw [state, show before.service.mission = none from noMission] at present
    cases present

end Effects

namespace Runtime

variable [Scalar α] (worker : DrivingWorker α) (policy : CommandPolicy α)

/-- A waiting car without a customer, and without anything left of an error. -/
structure AtRest {α : Type} (stack : Stack α) : Prop where
  waiting : stack.store.drivingState = .waiting
  forgotten : stack.store.prevStateForRecovery = none
  serviceKind : stack.store.serviceKind = none
  mission : stack.store.mission = none
  reasons : stack.reasons = ∅

/-- What holds in every state of a run that began at rest with the given events. -/
structure InCycle {α : Type} (earlier : List (Event α)) (stack : Stack α) : Prop where
  consistent : stack.Consistent
  proper : stack.service.Proper
  accepted : ∃ added, stack.events = earlier ++ added ∧
    AcceptedUpTo stack.service.phase (acceptedKinds added)

omit [Scalar α] in
theorem AtRest.inCycle {stack : Stack α} (rest : AtRest stack) : InCycle stack.events stack := by
  have outside : stack.store.drivingState ≠ .error := by
    rw [rest.waiting]
    exact DrivingState.noConfusion
  have state := service_state_of rest.waiting DrivingState.noConfusion
  have kind : stack.service.kind = none := rest.serviceKind
  have mission : stack.service.mission = none := rest.mission
  have idle : stack.service.phase = .idle := by
    rw [Service.phase, state, kind]
    rfl
  refine ⟨⟨⟨fun inError => absurd inError outside, fun _ => rest.forgotten⟩, ?_⟩, ⟨?_, ?_, ?_⟩, [],
    (List.append_nil _).symm, idle ▸ acceptedUpTo_start⟩
  · rw [rest.reasons]
    exact ⟨fun inError => absurd inError outside, fun outstanding =>
      absurd rfl outstanding.ne_empty⟩
  · intro _
    rw [state, kind]
    exact ⟨rfl, Option.some_ne_none _ |>.symm⟩
  · rw [state, mission]
    rfl
  · intro found present
    rw [mission] at present
    cases present

/-- Every whole step keeps the cycle. -/
theorem InCycle.wholeStep {earlier : List (Event α)} (runtime : Runtime α) (label : WholeLabel α)
    (inCycle : InCycle earlier runtime.toStack) :
    InCycle earlier (wholeStep worker policy runtime label).toStack := by
  obtain ⟨kept, added, appended, effect⟩ :=
    wholeStep_outcome worker policy inCycle.consistent label
  have refines := effect_refines inCycle.proper inCycle.consistent kept effect
  obtain ⟨before, since, accepted⟩ := inCycle.accepted
  refine ⟨kept, refines.proper, before ++ added, ?_, ?_⟩
  · rw [appended, since, List.append_assoc]
  · rw [acceptedKinds, List.filterMap_append]
    exact refines.step.acceptedUpTo accepted

/-- A whole step is a step of the cycle. -/
theorem InCycle.refines {earlier : List (Event α)} {runtime : Runtime α}
    (inCycle : InCycle earlier runtime.toStack) (label : WholeLabel α) :
    ∃ added, (Runtime.wholeStep worker policy runtime label).events = runtime.events ++ added ∧
      RefinesCycle runtime.toStack (Runtime.wholeStep worker policy runtime label).toStack added := by
  obtain ⟨kept, added, appended, effect⟩ :=
    wholeStep_outcome worker policy inCycle.consistent label
  exact ⟨added, appended, effect_refines inCycle.proper inCycle.consistent kept effect⟩

/-- While the car is in `ERROR` the phase stays. -/
theorem InCycle.phase_inError {earlier : List (Event α)} {runtime : Runtime α}
    (inCycle : InCycle earlier runtime.toStack) {labels : List (WholeLabel α)}
    (inError : Transition.Along (Runtime.wholeStep worker policy)
      (fun state _ => state.store.drivingState = .error) runtime labels) :
    (Transition.run (Runtime.wholeStep worker policy) runtime labels).service.phase =
      runtime.service.phase := by
  induction labels generalizing runtime with
  | nil => rfl
  | cons label labels inductionHypothesis =>
    obtain ⟨_, -, refines⟩ := inCycle.refines worker policy label
    exact (inductionHypothesis (inCycle.wholeStep worker policy runtime label) inError.2).trans
      (refines.excursion (.inl inError.1))

/-- What a state of a run says of the cycle: the server is told the phase or an error, the mission
goes with the phase and has its kind, the accepted kinds alternate, every further step is one of the
cycle, and an error leads back to the phase it was entered from. -/
structure FollowsCycle (earlier : List (Event α)) (runtime : Runtime α) : Prop where
  reported : toServiceState runtime.store.drivingState runtime.store.serviceKind =
    if runtime.store.drivingState = .error then "오류 정지" else runtime.service.phase.label
  mission : runtime.store.mission.isSome = true ↔ runtime.store.effectiveState.underWay = true
  kind : ∀ mission, runtime.store.mission = some mission →
    runtime.store.serviceKind = some mission.kind
  accepted : ∃ added, runtime.events = earlier ++ added ∧ Alternates (acceptedKinds added)
  steps : ∀ label, ∃ added,
    (wholeStep worker policy runtime label).events = runtime.events ++ added ∧
      RefinesCycle runtime.toStack (wholeStep worker policy runtime label).toStack added
  returns : ∀ first label labels,
    Transition.Along (wholeStep worker policy) (fun state _ => state.store.drivingState = .error)
        (wholeStep worker policy runtime first) (label :: labels) →
      (Transition.run (wholeStep worker policy) runtime
        (first :: label :: labels)).service.phase = runtime.service.phase

/-- **Refinement.** Every run that begins at rest follows the cycle of the service. -/
theorem runtime_refines_service_cycle {runtime : Runtime α} (rest : AtRest runtime.toStack)
    (labels : List (WholeLabel α)) :
    FollowsCycle worker policy runtime.events
      (Transition.run (wholeStep worker policy) runtime labels) := by
  have kept (state : Runtime α) (label : WholeLabel α) :
      InCycle runtime.events state.toStack →
        InCycle runtime.events (wholeStep worker policy state label).toStack :=
    InCycle.wholeStep worker policy state label
  have inCycle := Transition.run_invariant kept rest.inCycle labels
  generalize Transition.run (wholeStep worker policy) runtime labels = state at inCycle
  obtain ⟨added, appended, accepted⟩ := inCycle.accepted
  refine ⟨?_, ?_, inCycle.proper.kind, ⟨added, appended, accepted.toAlternates⟩,
    inCycle.refines worker policy, fun first label labels inError => ?_⟩
  · split
    · next inError =>
      rw [inError]
      rfl
    · next outside =>
      have driving : state.service.state = state.store.drivingState := if_neg outside
      have label := inCycle.proper.label (driving ▸ outside)
      rw [driving] at label
      exact label
  · exact Bool.eq_iff_iff.mp inCycle.proper.mission
  · obtain ⟨_, -, refines⟩ := inCycle.refines worker policy first
    exact ((inCycle.wholeStep worker policy state first).phase_inError worker policy inError).trans
      (refines.excursion (.inr inError.1))

/-- A pick-up that is interrupted by an error. -/
theorem runtime_refines_service_cycle_on_the_way :
    FollowsCycle ringWorker ⟨5, 3⟩ []
      (Transition.run (wholeStep ringWorker ⟨5, 3⟩) start
        [.pose (.updatePose ringPose), .policy (.rawMessage (some ringMove) fun _ => 1),
          .tick (darkInput 2), .policy .controlDisconnected,
          .policy (.rawMessage (some ringResume) fun _ => 3)]) := by
  have rest : AtRest (start : Runtime ℚ).toStack := ⟨rfl, rfl, rfl, rfl, rfl⟩
  exact runtime_refines_service_cycle ringWorker ⟨5, 3⟩ rest _

end Runtime

end RcTaxi
