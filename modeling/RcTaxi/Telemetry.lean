/-
This file models `network/telemetry.py` and `build_info` of `network/messages.py`: with every
period a thread reads the store and tells the control server where the car is, how it steers and
what it is doing. It reads the whole snapshot at once, but it sends what it read later, when the
car may have gone on and others may have sent reports.

So what the server is told is the car at moments of the run, one after the other, and the phases
it is told follow the cycle of the service.
-/

import RcTaxi.ControlLink
import RcTaxi.Drivers
import RcTaxi.LossCoupling
import RcTaxi.ServiceCycle
import RcTaxi.VisionPayload

namespace RcTaxi

/-- The constructor arguments that a tick uses: the servo angle of straight wheels, and how far the
wheels turn for a degree of the servo. -/
structure TelemetryWorker (α : Type) where
  servoCenter : α
  wheelRatio : α

/-- The thread: between two ticks, about to send, or ended by an exception. -/
inductive TelemetryThread (α : Type)
  | waiting
  | sending (info : PyValue α)
  | ended

/-- The thread, and the car with its client. -/
structure Telemetry (α : Type) where
  link : ControlLink α (PyValue α)
  thread : TelemetryThread α

/-- A step of the link that is not the sending of the thread. -/
def LinkLabel.ofOthers {α Info : Type} : LinkLabel α Info → Bool
  | .info _ _ => false
  | _ => true

/-- The steps of all others; the reading of the snapshot, and of the clock behind it; and the
sending, over the connection that is seen then. -/
inductive TelemetryLabel (α : Type)
  | link (label : LinkLabel α (PyValue α)) (others : label.ofOthers = true)
  | read (now : α)
  | send (seen : Option ℕ)

variable {α : Type} [Scalar α]

/-! ### Messages -/

def PyValue.number (value : α) : PyValue α := .float (.finite value)

/-- `build_info`. -/
def buildInfo (timestamp x y heading : α) (stale : Bool) (speed steer : α) (state : String) :
    PyValue α :=
  .dict [
    ("protocol_version", .str "2.3"),
    ("header", .str "info"),
    ("timestamp", .number timestamp),
    ("loc", .dict [
      ("x", .number (pyRound x 4)),
      ("y", .number (pyRound y 4)),
      ("heading", .number (pyRound heading 1)),
      ("stale", .bool stale)]),
    ("speed", .number (pyRound (max 0 speed) 4)),
    ("steer", .number (pyRound steer 1)),
    ("state", .str state)]

namespace TelemetryWorker

variable (telemetry : TelemetryWorker α)

/-- The servo angle of a wheel angle. -/
def steer (wheelDeg : α) : α := telemetry.servoCenter + wheelDeg / telemetry.wheelRatio

/-- `tick` up to the sending: nothing before the first pose. -/
def tick (snap : VehicleSnapshot α) (now : α) : Except PyError (Option (PyValue α)) :=
  match snap.pose with
  | none => .ok none
  | some pose =>
    if telemetry.wheelRatio = 0 then .error .zeroDivisionError
    else .ok (some (buildInfo now pose.x pose.y pose.headingDeg snap.poseStale
      snap.estimatedSpeedMps (telemetry.steer snap.controlCommand.steeringWheelDeg)
      (toServiceState snap.drivingState snap.serviceKind)))

theorem tick_eq_some {snap : VehicleSnapshot α} {now : α} {info : PyValue α}
    (ticked : telemetry.tick snap now = .ok (some info)) : ∃ pose, snap.pose = some pose ∧
      info = buildInfo now pose.x pose.y pose.headingDeg snap.poseStale snap.estimatedSpeedMps
        (telemetry.steer snap.controlCommand.steeringWheelDeg)
        (toServiceState snap.drivingState snap.serviceKind) := by
  unfold tick at ticked
  split at ticked
  · cases ticked
  · next pose present =>
    split at ticked
    · cases ticked
    · cases ticked
      exact ⟨pose, present, rfl⟩

/-- The thread behind the reading of the snapshot. -/
def behind (snap : VehicleSnapshot α) (now : α) : TelemetryThread α :=
  match telemetry.tick snap now with
  | .ok (some info) => .sending info
  | .ok none => .waiting
  | .error _ => .ended

end TelemetryWorker

namespace Telemetry

def start : Telemetry α := ⟨.start, .waiting⟩

variable (worker : DrivingWorker α) (policy : CommandPolicy α) (telemetry : TelemetryWorker α)

/-- One step. -/
def step (state : Telemetry α) : TelemetryLabel α → Telemetry α
  | .link label _ => { state with link := state.link.step worker policy label }
  | .read now =>
    match state.thread with
    | .waiting => { state with thread := telemetry.behind state.link.runtime.store now }
    | _ => state
  | .send seen =>
    match state.thread with
    | .sending info => ⟨state.link.step worker policy (.info info seen), .waiting⟩
    | _ => state

/-! ### What the server is told -/

omit [Scalar α] in
/-- The infos among what goes out. -/
def infoOf : Outgoing α (PyValue α) → Option (PyValue α)
  | .info info => some info
  | .report _ _ => none

/-- The infos that the server was sent. -/
def told (state : Telemetry α) : List (PyValue α) :=
  (state.link.client.delivered.map Prod.snd).filterMap infoOf

/-- The infos that the client was given. -/
def given (link : ControlLink α (PyValue α)) : List (PyValue α) :=
  (link.client.accepted.map Prod.snd).filterMap infoOf

/-- The info that the thread is about to send. -/
def underWay : TelemetryThread α → List (PyValue α)
  | .sending info => [info]
  | _ => []

/-- The thread read the info at the end of the run. -/
def Reads (labels : List (TelemetryLabel α)) (info : PyValue α) : Prop :=
  ∃ earlier now, labels = earlier ++ [.read now] ∧
    telemetry.tick (Transition.run (step worker policy telemetry) start earlier).link.runtime.store
      now = .ok (some info)

variable {worker policy telemetry}

omit [Scalar α] in
/-- Of the messages that are handed over the client takes some. -/
theorem given_handOver (seen : Option ℕ) (messages : List (Outgoing α (PyValue α)))
    (link : ControlLink α (PyValue α)) (runtime : Runtime α) :
    ∃ more, more.Sublist (messages.filterMap infoOf) ∧
      given ⟨ControlLink.handOver seen messages link.client, runtime⟩ = given link ++ more := by
  obtain ⟨-, -, more, accepted, among⟩ := ControlLink.handed seen messages link.client
  refine ⟨(more.map Prod.snd).filterMap infoOf, among.filterMap _, ?_⟩
  rw [given, accepted, List.map_append, List.filterMap_append]
  rfl

omit [Scalar α] in
theorem infos_newReports (before after : Runtime α) :
    (ControlLink.newReports before after : List (Outgoing α (PyValue α))).filterMap infoOf = [] := by
  rw [ControlLink.newReports, List.filterMap_filterMap]
  refine List.filterMap_eq_nil_iff.mpr fun event _ => ?_
  cases event <;> rfl

/-- The others hand over reports only. -/
theorem given_link (link : ControlLink α (PyValue α)) {label : LinkLabel α (PyValue α)}
    (others : label.ofOthers = true) : given (link.step worker policy label) = given link := by
  have reports (seen : Option ℕ) (before after : Runtime α)
      (client : WebSocketClient (Option (PyValue α)) (Outgoing α (PyValue α))) :
      given ⟨ControlLink.handOver seen (ControlLink.newReports before after) client, after⟩ =
        given ⟨client, after⟩ := by
    obtain ⟨more, among, taken⟩ := given_handOver seen (ControlLink.newReports before after)
      ⟨client, after⟩ after
    rw [infos_newReports] at among
    rw [taken, List.sublist_nil.mp among, List.append_nil]
  cases label with
  | info text seen => cases others
  | thread label own clock seen =>
    rw [ControlLink.step, reports, given, ControlLink.step_accepted own]
    rfl
  | other label apart seen =>
    rw [ControlLink.step, reports]
    rfl

/-- A step reads a further info, hands over the one that was read, or leaves both alone. -/
theorem sampled_step {labels : List (TelemetryLabel α)} {state : Telemetry α}
    (reached : Transition.run (step worker policy telemetry) start labels = state)
    (sampled : Transition.Sampled (Reads worker policy telemetry) labels
      (given state.link ++ underWay state.thread)) (label : TelemetryLabel α) :
    Transition.Sampled (Reads worker policy telemetry) (labels ++ [label])
      (given (step worker policy telemetry state label).link ++
        underWay (step worker policy telemetry state label).thread) := by
  obtain ⟨link, thread⟩ := state
  cases label with
  | link label others =>
    rw [step, given_link link others]
    exact sampled.onward _
  | read now =>
    cases thread with
    | waiting =>
      rw [step, TelemetryWorker.behind]
      dsimp only
      rcases ticked : telemetry.tick link.runtime.store now with error | _ | info
      · exact sampled.onward _
      · exact sampled.onward _
      · refine ((sampled.onward _).sublist ?_).observe ⟨labels, now, rfl, ?_⟩
        · exact List.sublist_append_left _ _
        · rw [reached]
          exact ticked
    | sending info => exact sampled.onward _
    | ended => exact sampled.onward _
  | send seen =>
    cases thread with
    | sending info =>
      obtain ⟨more, among, taken⟩ := given_handOver seen [.info info] link link.runtime
      refine (sampled.onward _).sublist ?_
      show (given _ ++ []).Sublist _
      rw [List.append_nil]
      exact taken ▸ List.Sublist.append (List.Sublist.refl _) among
    | waiting => exact sampled.onward _
    | ended => exact sampled.onward _

/-- What the client was given, and is about to be, was read one after the other. -/
theorem given_sampled (labels : List (TelemetryLabel α)) :
    let state := Transition.run (step worker policy telemetry) start labels
    Transition.Sampled (Reads worker policy telemetry) labels
      (given state.link ++ underWay state.thread) := by
  induction labels using List.reverseRecOn with
  | nil => exact .nil []
  | append_singleton labels label inductionHypothesis =>
    rw [Transition.run_concat]
    exact sampled_step rfl inductionHypothesis label

/-! ### Runs of the link -/

/-- A step of the link is a step of the runtime, or leaves it alone. -/
theorem runtime_step (link : ControlLink α (PyValue α)) (label : LinkLabel α (PyValue α)) :
    (link.step worker policy label).runtime = link.runtime ∨
      ∃ label', (link.step worker policy label).runtime =
        link.runtime.wholeStep worker policy label' := by
  cases label with
  | info text seen => exact .inl rfl
  | other label apart seen => exact .inr ⟨label, rfl⟩
  | thread label own clock seen =>
    rw [ControlLink.step]
    cases link.client.emits label with
    | none => exact .inl rfl
    | some event =>
      cases event with
      | opened | subscribed text => exact .inl rfl
      | connected => exact .inr ⟨.policy (.controlConnected (clock 0)), rfl⟩
      | message raw => exact .inr ⟨.policy (.rawMessage raw clock), rfl⟩
      | disconnected => exact .inr ⟨.policy .controlDisconnected, rfl⟩

/-- A step is one of the link, or leaves it alone. -/
theorem step_link (state : Telemetry α) (label : TelemetryLabel α) :
    (step worker policy telemetry state label).link = state.link ∨
      ∃ label', (step worker policy telemetry state label).link =
        state.link.step worker policy label' := by
  obtain ⟨link, thread⟩ := state
  cases label with
  | link label others => exact .inr ⟨label, rfl⟩
  | read now => cases thread <;> exact .inl rfl
  | send seen =>
    cases thread with
    | sending info => exact .inr ⟨.info info seen, rfl⟩
    | waiting | ended => exact .inl rfl

/-- A step is one of the runtime, or leaves it alone. -/
theorem step_runtime (state : Telemetry α) (label : TelemetryLabel α) :
    (step worker policy telemetry state label).link.runtime = state.link.runtime ∨
      ∃ label', (step worker policy telemetry state label).link.runtime =
        state.link.runtime.wholeStep worker policy label' := by
  rcases step_link state label with same | ⟨label', stepped⟩
  · exact .inl (congrArg ControlLink.runtime same)
  · rw [stepped]
    exact runtime_step state.link label'

variable (worker policy telemetry)

/-- What every step of the link keeps holds of it in every run. -/
theorem link_run {holds : ControlLink α (PyValue α) → Prop}
    (kept : ∀ link label, holds link → holds (link.step worker policy label))
    (initially : holds .start) (labels : List (TelemetryLabel α)) :
    holds (Transition.run (step worker policy telemetry) start labels).link := by
  have step_kept (state : Telemetry α) (label : TelemetryLabel α) (before : holds state.link) :
      holds (step worker policy telemetry state label).link := by
    rcases step_link state label with same | ⟨label', stepped⟩
    · exact same ▸ before
    · exact stepped ▸ kept _ _ before
  exact @Transition.run_invariant _ _ _ (fun state : Telemetry α => holds state.link) step_kept
    start initially labels

/-- What every whole step keeps holds of the runtime in every run. -/
theorem runtime_run {holds : Runtime α → Prop}
    (kept : ∀ runtime label, holds runtime → holds (runtime.wholeStep worker policy label))
    (initially : holds .start) (labels : List (TelemetryLabel α)) :
    holds (Transition.run (step worker policy telemetry) start labels).link.runtime := by
  have step_kept (state : Telemetry α) (label : TelemetryLabel α)
      (before : holds state.link.runtime) :
      holds (step worker policy telemetry state label).link.runtime := by
    rcases step_runtime state label with same | ⟨label', stepped⟩
    · exact same ▸ before
    · exact stepped ▸ kept _ _ before
  exact @Transition.run_invariant _ _ _ (fun state : Telemetry α => holds state.link.runtime)
    step_kept start initially labels

/-- The infos that the server was sent were read one after the other. -/
theorem told_sampled (labels : List (TelemetryLabel α)) :
    Transition.Sampled (Reads worker policy telemetry) labels
      (told (Transition.run (step worker policy telemetry) start labels)) := by
  have kept (link : ControlLink α (PyValue α)) (label : LinkLabel α (PyValue α))
      (invariant : link.Invariant policy) : (link.step worker policy label).Invariant policy :=
    invariant.step worker label
  obtain ⟨processed, accepted, delivered⟩ :=
    (link_run worker policy telemetry kept ControlLink.invariant_start labels).inOrder
  have among : (told (Transition.run (step worker policy telemetry) start labels)).Sublist
      (given (Transition.run (step worker policy telemetry) start labels).link) := by
    refine (List.Sublist.map Prod.snd ?_).filterMap infoOf
    rw [accepted]
    exact List.sublist_append_of_sublist_left delivered
  exact (given_sampled labels).sublist (List.sublist_append_of_sublist_left among)

/-! ### The cycle -/

/-- A run of the cycle, with the kinds of the moves it accepts. -/
inductive CycleRun : ServicePhase → ServicePhase → List ServiceKind → Prop
  | stays (phase : ServicePhase) : CycleRun phase phase []
  | onward {first middle last : ServicePhase} {kinds added : List ServiceKind}
      (earlier : CycleRun first middle kinds) (step : CycleStep middle last added) :
      CycleRun first last (kinds ++ added)

omit [Scalar α] in
/-- What was done between two states is a run of the cycle, with one accept report for every
move. -/
def Cycles (before after : Stack α) : Prop :=
  ∃ added, after.events = before.events ++ added ∧
    CycleRun before.service.phase after.service.phase (acceptedKinds added) ∧
    (acceptReports added).length = (acceptedKinds added).length

omit [Scalar α] in
theorem Cycles.refl (stack : Stack α) : Cycles stack stack :=
  ⟨[], (List.append_nil _).symm, .stays _, rfl⟩

variable {worker policy telemetry}

/-- A step goes on with the cycle. -/
theorem Cycles.wholeStep {before : Stack α} {runtime : Runtime α}
    (cycles : Cycles before runtime.toStack) {earlier : List (Event α)}
    (inCycle : Runtime.InCycle earlier runtime.toStack) (label : WholeLabel α) :
    Cycles before (runtime.wholeStep worker policy label).toStack := by
  obtain ⟨added, appended, onward, reports⟩ := cycles
  obtain ⟨more, further, refines⟩ := inCycle.refines worker policy label
  refine ⟨added ++ more, ?_, ?_, ?_⟩
  · rw [further, appended, List.append_assoc]
  · rw [acceptedKinds, List.filterMap_append]
    exact onward.onward refines.step
  · rw [acceptReports, acceptedKinds, List.filterMap_append, List.filterMap_append,
      List.length_append, List.length_append]
    exact congrArg₂ (· + ·) reports refines.reports

variable (worker policy telemetry)

/-- The car at the end of a run. -/
def stackAt (labels : List (TelemetryLabel α)) : Stack α :=
  (Transition.run (step worker policy telemetry) start labels).link.runtime.toStack

theorem inCycle_stackAt (labels : List (TelemetryLabel α)) :
    Runtime.InCycle [] (stackAt worker policy telemetry labels) := by
  have rest : Runtime.AtRest (Runtime.start : Runtime α).toStack := ⟨rfl, rfl, rfl, rfl, rfl⟩
  have kept (runtime : Runtime α) (label : WholeLabel α)
      (inCycle : Runtime.InCycle [] runtime.toStack) :
      Runtime.InCycle [] (runtime.wholeStep worker policy label).toStack :=
    inCycle.wholeStep worker policy runtime label
  exact @runtime_run _ _ worker policy telemetry
    (fun runtime => Runtime.InCycle [] runtime.toStack) kept rest.inCycle labels

/-- The rest of a run goes on with the cycle. -/
theorem cycles_onward (labels more : List (TelemetryLabel α)) :
    Cycles (stackAt worker policy telemetry labels)
      (stackAt worker policy telemetry (labels ++ more)) := by
  induction more using List.reverseRecOn with
  | nil =>
    rw [List.append_nil]
    exact .refl _
  | append_singleton more label inductionHypothesis =>
    have inCycle := inCycle_stackAt worker policy telemetry (labels ++ more)
    rw [← List.append_assoc, stackAt, stackAt, Transition.run_concat]
    rcases step_runtime (Transition.run (step worker policy telemetry) start (labels ++ more)) label
      with same | ⟨label', stepped⟩
    · exact same ▸ inductionHypothesis
    · exact stepped ▸ inductionHypothesis.wholeStep inCycle label'

/-- What is told of the car: the phase of its service, or an error. -/
def reported (stack : Stack α) : String :=
  if stack.store.drivingState = .error then "오류 정지" else stack.service.phase.label

omit [Scalar α] in
theorem toServiceState_eq {stack : Stack α} {earlier : List (Event α)}
    (inCycle : Runtime.InCycle earlier stack) :
    toServiceState stack.store.drivingState stack.store.serviceKind = reported stack := by
  unfold reported
  split
  · next inError =>
    rw [inError]
    rfl
  · next outside =>
    have driving : stack.service.state = stack.store.drivingState := if_neg outside
    have label := inCycle.proper.label (driving ▸ outside)
    rw [driving] at label
    exact label

/-- What the thread reads it tells as the phase of the service, or as an error. -/
def TellsPhase (moment : List (TelemetryLabel α)) (info : PyValue α) : Prop :=
  Reads worker policy telemetry moment info ∧
    info.get "state" = .str (reported (stackAt worker policy telemetry moment))

variable {worker policy telemetry}

/-- The thread does not change what it reads. -/
theorem Reads.store {moment : List (TelemetryLabel α)} {info : PyValue α}
    (reads : Reads worker policy telemetry moment info) : ∃ now,
    telemetry.tick (stackAt worker policy telemetry moment).store now = .ok (some info) := by
  obtain ⟨earlier, now, rfl, ticked⟩ := reads
  refine ⟨now, ?_⟩
  have same : stackAt worker policy telemetry (earlier ++ [.read now]) =
      stackAt worker policy telemetry earlier := by
    rw [stackAt, Transition.run_concat, stackAt]
    generalize Transition.run (step worker policy telemetry) start earlier = state
    obtain ⟨link, thread⟩ := state
    cases thread <;> rfl
  exact same ▸ ticked

theorem Reads.tellsPhase {moment : List (TelemetryLabel α)} {info : PyValue α}
    (reads : Reads worker policy telemetry moment info) :
    TellsPhase worker policy telemetry moment info := by
  refine ⟨reads, ?_⟩
  obtain ⟨now, ticked⟩ := reads.store
  obtain ⟨pose, -, rfl⟩ := telemetry.tick_eq_some ticked
  exact congrArg PyValue.str (toServiceState_eq (inCycle_stackAt worker policy telemetry moment))

variable (worker policy telemetry)

/-- In every run the infos that the control server is sent tell the car at moments of the run, one
after the other; and between each two of them the phases go on along the cycle of the service, with
one accept report for every move. -/
theorem infos_follow_the_cycle (labels : List (TelemetryLabel α)) :
    ∃ moments : List (List (TelemetryLabel α)),
      (moments.Pairwise fun earlier later => earlier <+: later ∧
        Cycles (stackAt worker policy telemetry earlier) (stackAt worker policy telemetry later)) ∧
      (∀ moment ∈ moments, moment <+: labels) ∧
      List.Forall₂ (TellsPhase worker policy telemetry) moments
        (told (Transition.run (step worker policy telemetry) start labels)) := by
  obtain ⟨moments, ordered, earlier, observed⟩ := told_sampled worker policy telemetry labels
  refine ⟨moments, ordered.imp fun before => ?_, earlier, observed.imp fun _ _ => Reads.tellsPhase⟩
  obtain ⟨more, rfl⟩ := before
  exact ⟨List.prefix_append _ _, cycles_onward worker policy telemetry _ more⟩

end Telemetry

end RcTaxi
