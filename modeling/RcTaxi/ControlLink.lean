/-
This file puts the client of the control server and the runtime together. The thread of the client
calls the policy from its callbacks, everything else goes on beside it, and the reports of all threads
go out over the client. A lost control server is then an error that outlasts its connection: it ends
with a resume, which comes over a later connection.
-/

import RcTaxi.ClientLoop
import RcTaxi.ErrorEpisode
import Mathlib.Data.List.DropRight

namespace RcTaxi

variable {α Info : Type}

/-! ### The link -/

/-- What goes out to the control server: the reports, and the state of the car with every period. -/
inductive Outgoing (α Info : Type)
  | report (origin : ReportOrigin) (timestamp : α)
  | info (text : Info)

/-- The client of the control server, and the runtime it belongs to. -/
structure ControlLink (α Info : Type) where
  client : WebSocketClient (Option (PyValue α)) (Outgoing α Info)
  runtime : Runtime α

/-- A step of the client's own thread, not the call of another one. -/
def ClientLabel.isOwn {Message Report : Type} : ClientLabel Message Report → Bool
  | .sendJson _ _ => false
  | _ => true

/-- A step that the control server's client makes the policy do. -/
def WholeLabel.ofControl : WholeLabel α → Bool
  | .policy (.rawMessage _ _) | .policy .controlDisconnected | .policy (.controlConnected _) => true
  | _ => false

/-- The steps of the client, with the times its callback reads; the reports of the state; and the steps
of all others. With each comes the connection that the sender of its reports saw. -/
inductive LinkLabel (α Info : Type)
  | thread (label : ClientLabel (Option (PyValue α)) (Outgoing α Info)) (own : label.isOwn = true)
      (clock : ℕ → α) (seen : Option ℕ)
  | info (text : Info) (seen : Option ℕ)
  | other (label : WholeLabel α) (apart : label.ofControl = false) (seen : Option ℕ)

/-- The reports among the events. -/
def reportOf : Event α → Option (Outgoing α Info)
  | .report origin timestamp => some (.report origin timestamp)
  | _ => none

/-- The reports among what is sent. -/
def isReport : Outgoing α Info → Bool
  | .report _ _ => true
  | .info _ => false

namespace ControlLink

def start [Scalar α] : ControlLink α Info := ⟨.new, .start⟩

/-- `send_json` for one after the other; without a connection they are dropped. -/
def handOver (seen : Option ℕ) (messages : List (Outgoing α Info))
    (client : WebSocketClient (Option (PyValue α)) (Outgoing α Info)) :
    WebSocketClient (Option (PyValue α)) (Outgoing α Info) :=
  match seen with
  | none => client
  | some number =>
    Transition.run (WebSocketClient.step []) client (messages.map (.sendJson number))

/-- The reports that were made between two states. -/
def newReports (before after : Runtime α) : List (Outgoing α Info) :=
  (after.events.drop before.events.length).filterMap reportOf

variable [Scalar α] (worker : DrivingWorker α) (policy : CommandPolicy α)

/-- The callbacks. -/
def callback (clock : ℕ → α) (runtime : Runtime α) :
    ClientEvent (Option (PyValue α)) → Runtime α
  | .opened | .subscribed _ => runtime
  | .connected => runtime.wholeStep worker policy (.policy (.controlConnected (clock 0)))
  | .message raw => runtime.wholeStep worker policy (.policy (.rawMessage raw clock))
  | .disconnected => runtime.wholeStep worker policy (.policy .controlDisconnected)

/-- The callback of an event, where there is one. -/
def answer (clock : ℕ → α) (runtime : Runtime α) :
    Option (ClientEvent (Option (PyValue α))) → Runtime α
  | some event => callback worker policy clock runtime event
  | none => runtime

/-- One step. -/
def step (link : ControlLink α Info) : LinkLabel α Info → ControlLink α Info
  | .thread label _ clock seen =>
    let runtime := answer worker policy clock link.runtime (link.client.emits label)
    ⟨handOver seen (newReports link.runtime runtime) (link.client.step [] label), runtime⟩
  | .info text seen => ⟨handOver seen [.info text] link.client, link.runtime⟩
  | .other label _ seen =>
    let runtime := link.runtime.wholeStep worker policy label
    ⟨handOver seen (newReports link.runtime runtime) link.client, runtime⟩

/-! ### The loss -/

/-- A message with a resume. -/
def resumes : ClientEvent (Option (PyValue α)) → Bool
  | .message raw => match parseCommand policy.mapXMax policy.mapYMax raw with
    | some .resume => true
    | _ => false
  | _ => false

/-- What the client did behind the last resume. -/
def sinceResume (events : List (ClientEvent (Option (PyValue α)))) :
    List (ClientEvent (Option (PyValue α))) :=
  events.rtakeWhile fun event => !resumes policy event

/-- The control server was lost, and there was no resume since. -/
def Lost (events : List (ClientEvent (Option (PyValue α)))) : Prop :=
  .disconnected ∈ sinceResume policy events

/-- The control server was lost and is back, but there was no resume since. -/
def Awaited (events : List (ClientEvent (Option (PyValue α)))) : Prop :=
  [.disconnected, .connected].Sublist (sinceResume policy events)

omit [Scalar α] in
theorem Awaited.lost [Scalar α] {policy : CommandPolicy α}
    {events : List (ClientEvent (Option (PyValue α)))} (awaited : Awaited policy events) :
    Lost policy events :=
  List.Sublist.subset awaited List.mem_cons_self

variable {policy}

theorem sinceResume_concat {events : List (ClientEvent (Option (PyValue α)))}
    {event : ClientEvent (Option (PyValue α))} (goes : resumes policy event = false) :
    sinceResume policy (events ++ [event]) = sinceResume policy events ++ [event] := by
  rw [sinceResume, List.rtakeWhile_concat, goes]
  rfl

/-- A loss is ended by a resume and begun by a disconnection. -/
theorem lost_concat {events : List (ClientEvent (Option (PyValue α)))}
    {event : ClientEvent (Option (PyValue α))} (goes : resumes policy event = false) :
    Lost policy (events ++ [event]) ↔ Lost policy events ∨ event = .disconnected := by
  rw [Lost, sinceResume_concat goes, List.mem_append, List.mem_singleton]
  exact or_congr Iff.rfl eq_comm

theorem awaited_concat {events : List (ClientEvent (Option (PyValue α)))}
    {event : ClientEvent (Option (PyValue α))} (goes : resumes policy event = false) :
    Awaited policy (events ++ [event]) ↔
      Awaited policy events ∨ Lost policy events ∧ event = .connected := by
  rw [Awaited, sinceResume_concat goes]
  constructor
  · intro among
    obtain ⟨first, second, parts, left, right⟩ := List.sublist_append_iff.mp among
    rcases List.sublist_singleton.mp right with rfl | rfl
    · rw [List.append_nil] at parts
      subst parts
      exact .inl left
    · have split : [ClientEvent.disconnected] ++ [.connected] = first ++ [event] := parts
      obtain ⟨rfl, last⟩ := List.append_inj' split rfl
      exact .inr ⟨List.singleton_sublist.mp left, (List.singleton_inj.mp last).symm⟩
  · rintro (awaited | ⟨lost, rfl⟩)
    · exact List.sublist_append_of_sublist_left awaited
    · exact (List.singleton_sublist.mpr lost).append (List.Sublist.refl [_])

theorem not_lost_concat {events : List (ClientEvent (Option (PyValue α)))}
    {event : ClientEvent (Option (PyValue α))} (ends : resumes policy event = true) :
    ¬Lost policy (events ++ [event]) := by
  rw [Lost, sinceResume, List.rtakeWhile_concat, ends]
  exact List.not_mem_nil

/-! ### What the policy keeps of it -/

/-- Two states that treat the loss of the control server alike. -/
structure SameLoss {α : Type} (before after : Stack α) : Prop where
  reasons : .controlLost ∈ after.reasons ↔ .controlLost ∈ before.reasons
  resends : after.errorResendTs = before.errorResendTs

omit [Scalar α] in
theorem SameLoss.refl (stack : Stack α) : SameLoss stack stack := ⟨Iff.rfl, rfl⟩

omit [Scalar α] in
theorem sameLoss_clearReason (stack : Stack α) : SameLoss stack (stack.clearReason .gpsLost) := by
  constructor
  · rw [Stack.clearReason_reasons, Finset.mem_erase]
    exact and_iff_right (by decide)
  · rw [Stack.clearReason_errorResendTs, if_neg (by decide)]

theorem sameLoss_enterError (stack : Stack α) : SameLoss stack (stack.enterError .gpsLost) := by
  constructor
  · rw [Stack.enterError_reasons, Finset.mem_insert]
    exact or_iff_right (by decide)
  · exact stack.enterError_errorResendTs _

omit [Scalar α] in
theorem resends_of_tick {before after : Ledger α} (effect : TickEffect before after) :
    after.errorResendTs = before.errorResendTs := by
  cases effect with
  | keeps | abandons | drives | arrives => rfl

/-- What the control server's client has no part in leaves its loss alone. -/
theorem sameLoss_other (runtime : Runtime α) {label : WholeLabel α}
    (apart : label.ofControl = false) :
    SameLoss runtime.toStack (runtime.wholeStep worker policy label).toStack := by
  obtain ⟨stack, thread⟩ := runtime
  cases label with
  | policy label =>
    cases label with
    | rawMessage message clock => cases apart
    | controlDisconnected => cases apart
    | controlConnected now => cases apart
    | gpsLost now =>
      rw [Runtime.wholeStep, CommandPolicy.step, Stack.onGpsLost]
      split
      · exact sameLoss_enterError stack
      · exact ⟨(sameLoss_enterError stack).reasons, (sameLoss_enterError stack).resends⟩
    | gpsRecovered now =>
      rw [Runtime.wholeStep, CommandPolicy.step, Stack.onGpsRecovered]
      split
      · exact ⟨(sameLoss_clearReason (stack.sendRecovered now)).reasons,
          (sameLoss_clearReason (stack.sendRecovered now)).resends⟩
      · exact SameLoss.refl stack
    | notifyArrived now =>
      rw [Runtime.wholeStep, CommandPolicy.step, Stack.notifyArrived]
      split
      · exact ⟨Iff.rfl, rfl⟩
      · exact ⟨Iff.rfl, rfl⟩
  | reportTick =>
    obtain ⟨added, ticked, -⟩ := reportTick_adds stack
    rw [Runtime.wholeStep, ticked]
    exact ⟨Iff.rfl, rfl⟩
  | pose op => exact ⟨Iff.rfl, rfl⟩
  | tick input =>
    cases thread with
    | idle state =>
      have effect := worker.round_effect input state stack
      exact ⟨iff_of_eq (congrArg (.controlLost ∈ ·) effect.reasons), resends_of_tick effect⟩
    | running program => exact ⟨Iff.rfl, rfl⟩
    | ended => exact ⟨Iff.rfl, rfl⟩

/-- A message without a resume leaves it alone, too. -/
theorem sameLoss_message (stack : Stack α) {raw : Option (PyValue α)} (clock : ℕ → α)
    (goes : resumes policy (.message raw) = false) :
    SameLoss stack (policy.onRawMessage raw clock stack) := by
  rw [resumes] at goes
  rw [CommandPolicy.onRawMessage]
  split
  · exact SameLoss.refl stack
  · next command parsed =>
    cases command with
    | move x y =>
      rw [Stack.onCommand, Stack.onMove]
      split
      · exact SameLoss.refl stack
      · exact ⟨Iff.rfl, rfl⟩
    | stop =>
      rw [Stack.onCommand, Stack.onStop]
      split
      · exact SameLoss.refl stack
      · exact ⟨Iff.rfl, rfl⟩
    | resume =>
      rw [parsed] at goes
      cases goes

/-- A resume ends the loss, in every state the car can be in. -/
theorem resume_ends {stack : Stack α} (consistent : stack.Consistent)
    (outstanding : stack.errorResendTs.isSome = true → .controlLost ∈ stack.reasons)
    {raw : Option (PyValue α)} (clock : ℕ → α) (ends : resumes policy (.message raw) = true) :
    .controlLost ∉ (policy.onRawMessage raw clock stack).reasons ∧
      (policy.onRawMessage raw clock stack).errorResendTs = none := by
  rw [resumes] at ends
  split at ends
  · next parsed =>
    have resumed : policy.onRawMessage raw clock stack = stack.onResume := by
      rw [CommandPolicy.onRawMessage, parsed]
      rfl
    rw [resumed, Stack.onResume]
    split
    · next refused =>
      have absent : .controlLost ∉ stack.reasons := fun lost =>
        refused.elim (absurd (consistent.inError.mpr ⟨_, lost⟩)) (absurd lost)
      exact ⟨absent, Option.not_isSome_iff_eq_none.mp fun resends => absent (outstanding resends)⟩
    · constructor
      · rw [Stack.clearReason_reasons]
        exact Finset.notMem_erase _ _
      · rw [Stack.clearReason_errorResendTs, if_pos rfl]
  · cases ends

/-! ### Every run -/

/-- The policy knows of a loss exactly what the client saw of it. -/
structure Tracks (policy : CommandPolicy α) (events : List (ClientEvent (Option (PyValue α))))
    (stack : Stack α) : Prop where
  consistent : stack.Consistent
  lost : .controlLost ∈ stack.reasons ↔ Lost policy events
  awaited : stack.errorResendTs.isSome = true ↔ Awaited policy events

theorem Tracks.outstanding {events : List (ClientEvent (Option (PyValue α)))} {stack : Stack α}
    (tracks : Tracks policy events stack) (resends : stack.errorResendTs.isSome = true) :
    .controlLost ∈ stack.reasons :=
  tracks.lost.mpr (tracks.awaited.mp resends).lost

/-- A step that leaves the loss alone, beside an event that does so. -/
theorem Tracks.quiet {events : List (ClientEvent (Option (PyValue α)))} {before after : Stack α}
    {event : ClientEvent (Option (PyValue α))} (tracks : Tracks policy events before)
    (consistent : after.Consistent) (same : SameLoss before after)
    (goes : resumes policy event = false) (up : event ≠ .connected) (down : event ≠ .disconnected) :
    Tracks policy (events ++ [event]) after := by
  refine ⟨consistent, ?_, ?_⟩
  · rw [same.reasons, tracks.lost, lost_concat goes, or_iff_left down]
  · rw [same.resends, tracks.awaited, awaited_concat goes, or_iff_left fun back => up back.2]

/-- An event and its callback. -/
theorem Tracks.callback {events : List (ClientEvent (Option (PyValue α)))} {runtime : Runtime α}
    (tracks : Tracks policy events runtime.toStack) (clock : ℕ → α)
    (event : ClientEvent (Option (PyValue α))) :
    Tracks policy (events ++ [event])
      (ControlLink.callback worker policy clock runtime event).toStack := by
  cases event with
  | opened =>
    exact tracks.quiet tracks.consistent (SameLoss.refl _) rfl (by rintro ⟨⟩) (by rintro ⟨⟩)
  | subscribed text =>
    exact tracks.quiet tracks.consistent (SameLoss.refl _) rfl (by rintro ⟨⟩) (by rintro ⟨⟩)
  | connected =>
    have outcome := Runtime.wholeStep_outcome worker policy tracks.consistent
      (.policy (.controlConnected (clock 0)))
    refine ⟨outcome.consistent, ?_, ?_⟩
    · rw [lost_concat rfl, or_iff_left (by rintro ⟨⟩), ← tracks.lost, ControlLink.callback,
        Runtime.wholeStep, CommandPolicy.step, Stack.onControlConnected]
      split
      · exact Iff.rfl
      · exact Iff.rfl
    · rw [awaited_concat rfl, and_iff_left rfl, ← tracks.lost, ← tracks.awaited,
        ControlLink.callback, Runtime.wholeStep, CommandPolicy.step, Stack.onControlConnected]
      split
      · next lost => exact iff_of_true rfl (.inr lost)
      · next present => exact (or_iff_left present).symm
  | message raw =>
    have outcome := Runtime.wholeStep_outcome worker policy tracks.consistent
      (.policy (.rawMessage raw clock))
    cases ends : resumes policy (.message raw) with
    | false =>
      exact tracks.quiet outcome.consistent (sameLoss_message _ clock ends) ends (by rintro ⟨⟩)
        (by rintro ⟨⟩)
    | true =>
      obtain ⟨absent, silent⟩ := resume_ends tracks.consistent tracks.outstanding clock ends
      have finished : ¬Lost policy (events ++ [.message raw]) := not_lost_concat ends
      refine ⟨outcome.consistent, iff_of_false absent finished, iff_of_false ?_ fun awaited => ?_⟩
      · exact Option.not_isSome_iff_eq_none.mpr silent
      · exact finished awaited.lost
  | disconnected =>
    have outcome := Runtime.wholeStep_outcome worker policy tracks.consistent
      (.policy .controlDisconnected)
    refine ⟨outcome.consistent, ?_, ?_⟩
    · have entered : .controlLost ∈ (runtime.toStack.enterError .controlLost).reasons := by
        rw [Stack.enterError_reasons]
        exact Finset.mem_insert_self _ _
      exact iff_of_true entered ((lost_concat rfl).mpr (.inr rfl))
    · rw [awaited_concat rfl, or_iff_left (fun back => by cases back.2), ← tracks.awaited]
      exact iff_of_eq (congrArg (·.isSome = true) (runtime.enterError_errorResendTs _))

/-- What handing over messages does to the client. -/
structure Handed {Message : Type} (messages : List (Outgoing α Info))
    (before after : WebSocketClient Message (Outgoing α Info)) : Prop where
  events : after.events = before.events
  phase : after.phase = before.phase
  accepted : ∃ more, after.accepted = before.accepted ++ more ∧
    (more.map Prod.snd).Sublist messages

omit [Scalar α] in
theorem handed_nil (client : WebSocketClient (Option (PyValue α)) (Outgoing α Info)) :
    Handed [] client client :=
  ⟨rfl, rfl, [], (List.append_nil _).symm, List.nil_sublist _⟩

omit [Scalar α] in
theorem handed_one (client : WebSocketClient (Option (PyValue α)) (Outgoing α Info))
    (number : ℕ) (message : Outgoing α Info) :
    Handed [message] client (client.step [] (.sendJson number message)) := by
  rw [WebSocketClient.step]
  split
  · exact ⟨rfl, rfl, [(number, message)], rfl, List.Sublist.refl _⟩
  · exact ⟨rfl, rfl, [], (List.append_nil _).symm, List.nil_sublist _⟩

omit [Scalar α] in
theorem Handed.trans {first second : List (Outgoing α Info)}
    {before between after : WebSocketClient (Option (PyValue α)) (Outgoing α Info)}
    (left : Handed first before between) (right : Handed second between after) :
    Handed (first ++ second) before after := by
  obtain ⟨early, accepted, among⟩ := left.accepted
  obtain ⟨late, acceptedLate, amongLate⟩ := right.accepted
  refine ⟨right.events.trans left.events, right.phase.trans left.phase, early ++ late, ?_, ?_⟩
  · rw [acceptedLate, accepted, List.append_assoc]
  · rw [List.map_append]
    exact among.append amongLate

omit [Scalar α] in
theorem handed (seen : Option ℕ) (messages : List (Outgoing α Info))
    (client : WebSocketClient (Option (PyValue α)) (Outgoing α Info)) :
    Handed messages client (handOver seen messages client) := by
  cases seen with
  | none =>
    exact ⟨rfl, rfl, [], (List.append_nil _).symm, List.nil_sublist _⟩
  | some number =>
    rw [handOver]
    induction messages generalizing client with
    | nil => exact handed_nil client
    | cons message messages inductionHypothesis =>
      exact (handed_one client number message).trans (inductionHypothesis _)

omit [Scalar α] in
/-- What a call of `send_json` keeps, handing over messages keeps. -/
theorem handOver_kept {holds : WebSocketClient (Option (PyValue α)) (Outgoing α Info) → Prop}
    (kept : ∀ client label, holds client → holds (client.step [] label)) (seen : Option ℕ)
    (messages : List (Outgoing α Info))
    {client : WebSocketClient (Option (PyValue α)) (Outgoing α Info)} (initially : holds client) :
    holds (handOver seen messages client) := by
  cases seen with
  | none => exact initially
  | some number => exact Transition.run_invariant kept initially _

omit [Scalar α] in
theorem handOver_inOrder {client : WebSocketClient (Option (PyValue α)) (Outgoing α Info)}
    (inOrder : client.InOrder) (seen : Option ℕ) (messages : List (Outgoing α Info)) :
    (handOver seen messages client).InOrder := by
  have kept (client : WebSocketClient (Option (PyValue α)) (Outgoing α Info))
      (label : ClientLabel (Option (PyValue α)) (Outgoing α Info)) (inOrder : client.InOrder) :
      (client.step [] label).InOrder := inOrder.step label
  exact handOver_kept kept seen messages inOrder

/-- The sessions of the client, what the policy knows of them, and the reports on their way. -/
structure Invariant (policy : CommandPolicy α) (link : ControlLink α Info) : Prop where
  inTurn : link.client.InTurn []
  inOrder : link.client.InOrder
  tracks : Tracks policy link.client.events link.runtime.toStack
  reports : ((link.client.accepted.map Prod.snd).filter isReport).Sublist
    (link.runtime.events.filterMap reportOf)

/-- The reports that a step made are handed over. -/
theorem Invariant.report {link : ControlLink α Info} (invariant : Invariant policy link)
    {client : WebSocketClient (Option (PyValue α)) (Outgoing α Info)} {runtime : Runtime α}
    (inTurn : client.InTurn []) (inOrder : client.InOrder)
    (accepted : client.accepted = link.client.accepted)
    (tracks : Tracks policy client.events runtime.toStack) (seen : Option ℕ)
    {added : List (Event α)} (appended : runtime.events = link.runtime.events ++ added) :
    Invariant policy ⟨handOver seen (newReports link.runtime runtime) client, runtime⟩ := by
  have made : (newReports link.runtime runtime : List (Outgoing α Info)) =
      added.filterMap reportOf := by
    rw [newReports, appended, List.drop_left]
  obtain ⟨events, phase, more, handed, among⟩ :=
    ControlLink.handed seen (newReports link.runtime runtime) client
  refine ⟨handOver_kept (fun _ label inTurn => inTurn.step label) seen _ inTurn,
    handOver_inOrder inOrder seen _, ?_, ?_⟩
  · rw [events]
    exact tracks
  · rw [handed, accepted, List.map_append, List.filter_append, appended, List.filterMap_append]
    refine invariant.reports.append (List.filter_sublist.trans ?_)
    rw [← made]
    exact among

/-- What the runtime does in a step, further events at the end. -/
theorem exists_appended {runtime : Runtime α} (consistent : runtime.Consistent)
    (label : WholeLabel α) :
    ∃ added, (runtime.wholeStep worker policy label).events = runtime.events ++ added :=
  have ⟨added, appended, _⟩ := (Runtime.wholeStep_outcome worker policy consistent label).effect
  ⟨added, appended⟩

theorem answer_appended {runtime : Runtime α} (consistent : runtime.Consistent) (clock : ℕ → α)
    (event : Option (ClientEvent (Option (PyValue α)))) :
    ∃ added, (answer worker policy clock runtime event).events = runtime.events ++ added := by
  have nothing : ∃ added, runtime.events = runtime.events ++ added := ⟨[], (List.append_nil _).symm⟩
  cases event with
  | none => exact nothing
  | some event =>
    cases event with
    | opened | subscribed text => exact nothing
    | connected | message raw | disconnected => exact exists_appended worker consistent _

theorem Tracks.answer {client : WebSocketClient (Option (PyValue α)) (Outgoing α Info)}
    {runtime : Runtime α} (tracks : Tracks policy client.events runtime.toStack) (clock : ℕ → α)
    (label : ClientLabel (Option (PyValue α)) (Outgoing α Info)) :
    Tracks policy (client.step [] label).events
      (ControlLink.answer worker policy clock runtime (client.emits label)).toStack := by
  rw [WebSocketClient.step_events]
  cases client.emits label with
  | none => exact tracks
  | some event => exact tracks.callback worker clock event

omit [Scalar α] in
/-- What the client is given by others it keeps. -/
theorem step_accepted {client : WebSocketClient (Option (PyValue α)) (Outgoing α Info)}
    {label : ClientLabel (Option (PyValue α)) (Outgoing α Info)} (own : label.isOwn = true) :
    (client.step [] label).accepted = client.accepted := by
  cases label with
  | sendJson seen report => cases own
  | transmit succeeds =>
    rw [WebSocketClient.step]
    split
    · rw [WebSocketClient.send]
      split
      · rfl
      · rfl
    · rfl
  | _ => rfl

theorem Invariant.step {link : ControlLink α Info} (invariant : Invariant policy link)
    (label : LinkLabel α Info) : Invariant policy (step worker policy link label) := by
  cases label with
  | thread label own clock seen =>
    obtain ⟨added, appended⟩ := answer_appended worker invariant.tracks.consistent clock
      (link.client.emits label)
    exact invariant.report (invariant.inTurn.step label) (invariant.inOrder.step label)
      (step_accepted own) (invariant.tracks.answer worker clock label) seen appended
  | info text seen =>
    obtain ⟨events, phase, more, handed, among⟩ :=
      ControlLink.handed seen [.info text] link.client
    refine ⟨handOver_kept (fun _ label inTurn => inTurn.step label) seen _ invariant.inTurn,
      handOver_inOrder invariant.inOrder seen _, ?_, ?_⟩
    · rw [ControlLink.step, events]
      exact invariant.tracks
    · have none : (more.map Prod.snd).filter isReport = [] :=
        List.sublist_nil.mp (among.filter isReport)
      rw [ControlLink.step, handed, List.map_append, List.filter_append, none, List.append_nil]
      exact invariant.reports
  | other label apart seen =>
    obtain ⟨added, appended⟩ := exists_appended worker invariant.tracks.consistent label
    have same : SameLoss link.runtime.toStack (link.runtime.wholeStep worker policy label).toStack :=
      sameLoss_other worker link.runtime apart
    have tracks : Tracks policy link.client.events
        (link.runtime.wholeStep worker policy label).toStack :=
      ⟨(Runtime.wholeStep_outcome worker policy invariant.tracks.consistent label).consistent,
        same.reasons.trans invariant.tracks.lost, by
          rw [same.resends]
          exact invariant.tracks.awaited⟩
    exact invariant.report invariant.inTurn invariant.inOrder rfl tracks seen appended

theorem invariant_start : Invariant policy (start : ControlLink α Info) := by
  have none (events : List (ClientEvent (Option (PyValue α)))) (empty : events = []) :
      ¬Lost policy events := by
    rw [Lost, sinceResume, empty, List.rtakeWhile_nil]
    exact List.not_mem_nil
  refine ⟨WebSocketClient.inTurn_new [], ⟨[], rfl, List.Sublist.refl _⟩, ?_, List.Sublist.refl _⟩
  refine ⟨Runtime.start_consistent, iff_of_false ?_ (none _ rfl), iff_of_false nofun fun awaited => ?_⟩
  · exact Finset.notMem_empty _
  · exact none _ rfl awaited.lost

theorem invariant_run (labels : List (LinkLabel α Info)) :
    Invariant policy (Transition.run (step worker policy) start labels) := by
  have kept (link : ControlLink α Info) (label : LinkLabel α Info)
      (invariant : Invariant policy link) : Invariant policy (link.step worker policy label) :=
    invariant.step worker label
  exact Transition.run_invariant kept invariant_start labels

variable (policy)

/-- In every run the policy holds the control server for lost exactly if it was, and sent no resume
since; it repeats the error exactly if the server is back besides; and between two connections the car
is in `ERROR`. -/
theorem loss_outlasts_connection (labels : List (LinkLabel α Info)) :
    let link := Transition.run (step worker policy) start labels
    (.controlLost ∈ link.runtime.reasons ↔ Lost policy link.client.events) ∧
      (link.runtime.errorResendTs.isSome = true ↔ Awaited policy link.client.events) ∧
      (link.client.phase.isBetween = true → link.client.events ≠ [] →
        .controlLost ∈ link.runtime.reasons ∧ link.runtime.store.drivingState = .error) := by
  intro link
  have invariant : Invariant policy link := invariant_run worker labels
  refine ⟨invariant.tracks.lost, invariant.tracks.awaited, fun between connected => ?_⟩
  obtain ⟨earlier, events⟩ := invariant.inTurn.between between connected
  have lost : .controlLost ∈ link.runtime.reasons := by
    rw [invariant.tracks.lost, events]
    exact (lost_concat rfl).mpr (.inr rfl)
  exact ⟨lost, invariant.tracks.consistent.inError.mpr ⟨_, lost⟩⟩

/-- In every run the reports that the control server is sent are, in their order, some of those that
were made. -/
theorem delivered_in_order (labels : List (LinkLabel α Info)) :
    let link := Transition.run (step worker policy) start labels
    ((link.client.delivered.map Prod.snd).filter isReport).Sublist
      (link.runtime.events.filterMap reportOf) := by
  intro link
  have invariant : Invariant policy link := invariant_run worker labels
  obtain ⟨processed, accepted, delivered⟩ := invariant.inOrder
  have among : link.client.delivered.Sublist link.client.accepted := by
    rw [accepted]
    exact List.sublist_append_of_sublist_left delivered
  exact ((among.map Prod.snd).filter isReport).trans invariant.reports

end ControlLink

end RcTaxi
