/-
This file models the loop of `network/control_client.py` and `network/localization_client.py`: a
thread of its own connects, subscribes, hands what it receives to a callback, and connects again when
the connection is lost. The client of the control server has nothing to subscribe to; that of the
localization server subscribes after every connect, before it receives.

Any thread may hand a report to the client for the connection it saw. The event loop sends the reports
in the order it was given them, as long as their connection lasts. What the callbacks do is not part
of this file; an exception in one is caught. The log and the codes a server closes with are left out.
-/

import RcTaxi.Transition

namespace RcTaxi

variable {Message Report : Type}

/-! ### The loop -/

/-- What the client does with a connection: it opens it, subscribes, and calls its three
callbacks. -/
inductive ClientEvent (Message : Type)
  | opened
  | subscribed (text : Message)
  | connected
  | message (raw : Message)
  | disconnected

/-- Where the thread is in `_main`; behind an attempt it keeps whether there was a connection. -/
inductive ClientPhase (Message : Type)
  | created
  | checking
  | connecting
  | subscribing (rest : List Message)
  | receiving
  | leaving (wasConnected : Bool)
  | left (wasConnected : Bool)
  | waiting
  | ended

/-- A client. The connections are numbered, and a report is kept with the one it was handed over for;
the program keeps neither those it accepted and sent nor what it did. -/
structure WebSocketClient (Message Report : Type) where
  phase : ClientPhase Message
  stopping : Bool
  ws : Option ℕ
  connections : ℕ
  queue : List (ℕ × Report)
  accepted : List (ℕ × Report)
  delivered : List (ℕ × Report)
  events : List (ClientEvent Message)

/-- What happens next: steps of the thread, with the answers of the network, and calls of other
threads. -/
inductive ClientLabel (Message Report : Type)
  | run
  | check
  | connect (succeeds : Bool)
  | subscribe (succeeds : Bool)
  | announce
  | receive (raw : Message)
  | close
  | leave
  | settle
  | wake
  | transmit (succeeds : Bool)
  | sendJson (seen : ℕ) (report : Report)
  | stop

/-- The event loop runs until `_main` returns. -/
def ClientPhase.isRunning : ClientPhase Message → Bool
  | .created | .ended => false
  | _ => true

/-- The thread has no connection, and has called `on_disconnected` if it had one before. -/
def ClientPhase.isBetween : ClientPhase Message → Bool
  | .checking | .connecting | .leaving false | .left false | .waiting => true
  | _ => false

namespace WebSocketClient

/-- `__init__`. -/
def new : WebSocketClient Message Report := ⟨.created, false, none, 0, [], [], [], []⟩

/-- What the client does with its connection in a step. -/
def emits (client : WebSocketClient Message Report) :
    ClientLabel Message Report → Option (ClientEvent Message)
  | .connect true => match client.phase with
    | .connecting => some .opened
    | _ => none
  | .subscribe true => match client.phase with
    | .subscribing (text :: _) => some (.subscribed text)
    | _ => none
  | .announce => match client.phase with
    | .subscribing [] => some .connected
    | _ => none
  | .receive raw => match client.phase with
    | .receiving => some (.message raw)
    | _ => none
  | .settle => match client.phase with
    | .left true => if client.stopping then none else some .disconnected
    | _ => none
  | _ => none

/-- Where the thread is next. -/
def advance (subscribes : List Message) (client : WebSocketClient Message Report) :
    ClientLabel Message Report → ClientPhase Message
  | .run => match client.phase with
    | .created => .checking
    | phase => phase
  | .check => match client.phase with
    | .checking => if client.stopping then .ended else .connecting
    | phase => phase
  | .connect succeeds => match client.phase with
    | .connecting => if succeeds then .subscribing subscribes else .leaving false
    | phase => phase
  | .subscribe succeeds => match client.phase with
    | .subscribing (_ :: rest) => if succeeds then .subscribing rest else .leaving true
    | phase => phase
  | .announce => match client.phase with
    | .subscribing [] => .receiving
    | phase => phase
  | .close => match client.phase with
    | .receiving => .leaving true
    | phase => phase
  | .leave => match client.phase with
    | .leaving wasConnected => .left wasConnected
    | phase => phase
  | .settle => match client.phase with
    | .left _ => if client.stopping then .ended else .waiting
    | phase => phase
  | .wake => match client.phase with
    | .waiting => .checking
    | phase => phase
  | .receive _ | .transmit _ | .sendJson _ _ | .stop => client.phase

/-- What `_ws` holds, which is set behind the connect and cleared under `finally`, and how many
connections there were. -/
def connection (client : WebSocketClient Message Report) :
    ClientLabel Message Report → Option ℕ × ℕ
  | .connect true => match client.phase with
    | .connecting => (some client.connections, client.connections + 1)
    | _ => (client.ws, client.connections)
  | .leave => match client.phase with
    | .leaving _ => (none, client.connections)
    | _ => (client.ws, client.connections)
  | _ => (client.ws, client.connections)

/-- What the client did, and what it does now. -/
def recorded (events : List (ClientEvent Message)) :
    Option (ClientEvent Message) → List (ClientEvent Message)
  | none => events
  | some event => events ++ [event]

/-- `_send`: the report at the head of the event loop is sent on its connection, or lost. -/
def send (succeeds : Bool) (client : WebSocketClient Message Report) :
    WebSocketClient Message Report :=
  match client.queue with
  | [] => client
  | (seen, report) :: rest =>
    { client with
      queue := rest
      delivered := client.delivered ++
        if succeeds ∧ client.ws = some seen then [(seen, report)] else [] }

/-- `send_json`, for a thread that saw the connection. -/
def sendJson (seen : ℕ) (report : Report) (client : WebSocketClient Message Report) :
    WebSocketClient Message Report :=
  { client with
    queue := client.queue ++ [(seen, report)]
    accepted := client.accepted ++ [(seen, report)] }

/-- A step of the thread. -/
def moved (subscribes : List Message) (client : WebSocketClient Message Report)
    (label : ClientLabel Message Report) : WebSocketClient Message Report :=
  { client with
    phase := client.advance subscribes label
    ws := (client.connection label).1
    connections := (client.connection label).2
    events := recorded client.events (client.emits label) }

/-- One step. -/
def step (subscribes : List Message) (client : WebSocketClient Message Report)
    (label : ClientLabel Message Report) : WebSocketClient Message Report :=
  match label with
  | .transmit succeeds => if client.phase.isRunning then client.send succeeds else client
  | .sendJson seen report =>
    if client.phase.isRunning ∧ seen < client.connections then client.sendJson seen report
    else client
  | .stop => { client with stopping := true }
  | label => client.moved subscribes label

variable (subscribes : List Message)

/-! ### Sessions -/

/-- A connection over which everything was subscribed, and what came over it. -/
def openSession (messages : List Message) : List (ClientEvent Message) :=
  .opened :: subscribes.map .subscribed ++ .connected :: messages.map .message

/-- What the client did with a connection that is over: it was lost before everything was subscribed,
or else it was announced, and the messages came after that. -/
def IsSession (session : List (ClientEvent Message)) : Prop :=
  (∃ sent rest, rest ≠ [] ∧ sent ++ rest = subscribes ∧ session = .opened :: sent.map .subscribed) ∨
    ∃ messages, session = openSession subscribes messages

/-- What the client has done with the present connection. -/
def Current (client : WebSocketClient Message Report) (last : List (ClientEvent Message)) : Prop :=
  match client.phase with
  | .subscribing rest =>
    ∃ sent, sent ++ rest = subscribes ∧ last = .opened :: sent.map .subscribed
  | .receiving => ∃ messages, last = openSession subscribes messages
  | .leaving true | .left true => IsSession subscribes last
  | .ended => client.stopping = true ∧ (last = [] ∨ IsSession subscribes last)
  | _ => last = []

/-- The connections that are over, `on_disconnected` called behind each. -/
def finished (sessions : List (List (ClientEvent Message))) : List (ClientEvent Message) :=
  sessions.flatMap fun session => session ++ [.disconnected]

/-- The client used one connection after the other. -/
def InTurn (client : WebSocketClient Message Report) : Prop :=
  ∃ sessions last, (∀ session ∈ sessions, IsSession subscribes session) ∧
    client.events = finished sessions ++ last ∧ client.Current subscribes last

variable {subscribes}

/-- The next event belongs to the present connection. -/
theorem InTurn.emit {client after : WebSocketClient Message Report} {event : ClientEvent Message}
    (inTurn : client.InTurn subscribes) (events : after.events = client.events ++ [event])
    (current : ∀ last, client.Current subscribes last →
      after.Current subscribes (last ++ [event])) : after.InTurn subscribes := by
  obtain ⟨sessions, last, each, split, present⟩ := inTurn
  refine ⟨sessions, last ++ [event], each, ?_, current last present⟩
  rw [events, split, List.append_assoc]

/-- Nothing is done with the present connection. -/
theorem InTurn.keep {client after : WebSocketClient Message Report}
    (inTurn : client.InTurn subscribes) (events : after.events = client.events)
    (current : ∀ last, client.Current subscribes last → after.Current subscribes last) :
    after.InTurn subscribes := by
  obtain ⟨sessions, last, each, split, present⟩ := inTurn
  exact ⟨sessions, last, each, events.trans split, current last present⟩

/-- The present connection is over. -/
theorem InTurn.close {client after : WebSocketClient Message Report}
    (inTurn : client.InTurn subscribes) (events : after.events = client.events ++ [.disconnected])
    (whole : ∀ last, client.Current subscribes last → IsSession subscribes last)
    (current : after.Current subscribes []) : after.InTurn subscribes := by
  obtain ⟨sessions, last, each, split, present⟩ := inTurn
  refine ⟨sessions ++ [last], [], fun session among => ?_, ?_, current⟩
  · rcases List.mem_append.mp among with earlier | present'
    · exact each session earlier
    · rw [List.mem_singleton.mp present']
      exact whole last present
  · rw [events, split, finished, finished, List.flatMap_append, List.flatMap_singleton,
      List.append_nil, List.append_assoc]

/-- A step of the thread. -/
theorem InTurn.moved {client : WebSocketClient Message Report} (inTurn : client.InTurn subscribes)
    (label : ClientLabel Message Report) : (client.moved subscribes label).InTurn subscribes := by
  obtain ⟨phase, stopping, ws, connections, queue, accepted, delivered, events⟩ := client
  cases label with
  | run =>
    cases phase with
    | created => exact inTurn.keep rfl fun _ current => current
    | _ => exact inTurn
  | check =>
    cases phase with
    | checking =>
      cases stopping with
      | true => exact inTurn.keep rfl fun _ current => ⟨rfl, .inl current⟩
      | false => exact inTurn.keep rfl fun _ current => current
    | _ => exact inTurn
  | connect succeeds =>
    cases succeeds with
    | false =>
      cases phase with
      | connecting => exact inTurn.keep rfl fun _ current => current
      | _ => exact inTurn
    | true =>
      cases phase with
      | connecting =>
        refine inTurn.emit rfl fun last current => ⟨[], rfl, ?_⟩
        rw [show last = [] from current]
        rfl
      | _ => exact inTurn
  | subscribe succeeds =>
    cases phase with
    | subscribing rest =>
      cases rest with
      | nil =>
        cases succeeds with
        | true => exact inTurn
        | false => exact inTurn
      | cons text rest =>
        cases succeeds with
        | true =>
          refine inTurn.emit rfl fun last ⟨sent, parts, begun⟩ => ⟨sent ++ [text], ?_, ?_⟩
          · rw [List.append_assoc]
            exact parts
          · rw [begun, List.map_append]
            rfl
        | false =>
          refine inTurn.keep rfl fun last ⟨sent, parts, begun⟩ => .inl ⟨sent, text :: rest, ?_⟩
          exact ⟨List.cons_ne_nil _ _, parts, begun⟩
    | _ =>
      cases succeeds with
      | true => exact inTurn
      | false => exact inTurn
  | announce =>
    cases phase with
    | subscribing rest =>
      cases rest with
      | nil =>
        refine inTurn.emit rfl fun last ⟨sent, parts, begun⟩ => ⟨[], ?_⟩
        rw [begun, openSession, ← parts, List.append_nil]
        rfl
      | cons text rest => exact inTurn
    | _ => exact inTurn
  | receive raw =>
    cases phase with
    | receiving =>
      refine inTurn.emit rfl fun last ⟨messages, session⟩ => ⟨messages ++ [raw], ?_⟩
      rw [session, openSession, openSession, List.map_append, List.append_assoc]
      rfl
    | _ => exact inTurn
  | close =>
    cases phase with
    | receiving => exact inTurn.keep rfl fun _ current => .inr current
    | _ => exact inTurn
  | leave =>
    cases phase with
    | leaving wasConnected =>
      cases wasConnected with
      | true => exact inTurn.keep rfl fun _ current => current
      | false => exact inTurn.keep rfl fun _ current => current
    | _ => exact inTurn
  | settle =>
    cases phase with
    | left wasConnected =>
      cases wasConnected with
      | true =>
        cases stopping with
        | true => exact inTurn.keep rfl fun _ current => ⟨rfl, .inr current⟩
        | false => exact inTurn.close rfl (fun _ current => current) rfl
      | false =>
        cases stopping with
        | true => exact inTurn.keep rfl fun _ current => ⟨rfl, .inl current⟩
        | false => exact inTurn.keep rfl fun _ current => current
    | _ => exact inTurn
  | wake =>
    cases phase with
    | waiting => exact inTurn.keep rfl fun _ current => current
    | _ => exact inTurn
  | transmit succeeds => exact inTurn
  | sendJson seen report => exact inTurn
  | stop => exact inTurn

theorem InTurn.step {client : WebSocketClient Message Report} (inTurn : client.InTurn subscribes)
    (label : ClientLabel Message Report) : (client.step subscribes label).InTurn subscribes := by
  cases label with
  | transmit succeeds =>
    rw [WebSocketClient.step]
    split
    · rw [send]
      split
      · exact inTurn
      · exact inTurn
    · exact inTurn
  | sendJson seen report =>
    rw [WebSocketClient.step]
    split
    · exact inTurn
    · exact inTurn
  | stop =>
    obtain ⟨phase, stopping, ws, connections, queue, accepted, delivered, events⟩ := client
    cases phase with
    | ended => exact inTurn.keep rfl fun _ current => ⟨rfl, current.2⟩
    | leaving wasConnected =>
      cases wasConnected with
      | true => exact inTurn
      | false => exact inTurn
    | left wasConnected =>
      cases wasConnected with
      | true => exact inTurn
      | false => exact inTurn
    | _ => exact inTurn
  | _ => exact inTurn.moved _

/-- Between two connections the last call was that of `on_disconnected`. -/
theorem InTurn.between {client : WebSocketClient Message Report} (inTurn : client.InTurn subscribes)
    (between : client.phase.isBetween = true) (connected : client.events ≠ []) :
    ∃ earlier, client.events = earlier ++ [.disconnected] := by
  obtain ⟨sessions, last, -, split, present⟩ := inTurn
  have ended : last = [] := by
    obtain ⟨phase, stopping, ws, connections, queue, accepted, delivered, events⟩ := client
    cases phase with
    | checking | connecting | waiting => exact present
    | leaving wasConnected | left wasConnected =>
      cases wasConnected with
      | true => cases between
      | false => exact present
    | created | subscribing rest | receiving | ended => cases between
  rw [ended, List.append_nil] at split
  rcases List.eq_nil_or_concat' sessions with rfl | ⟨first, session, rfl⟩
  · exact absurd split connected
  · refine ⟨finished first ++ session, split.trans ?_⟩
    rw [finished, finished, List.flatMap_append, List.flatMap_singleton, List.append_assoc]

/-- A step adds its event. -/
theorem step_events (client : WebSocketClient Message Report)
    (label : ClientLabel Message Report) :
    (client.step subscribes label).events = recorded client.events (client.emits label) := by
  cases label with
  | transmit succeeds =>
    rw [step]
    split
    · rw [send]
      split
      · rfl
      · rfl
    · rfl
  | sendJson seen report =>
    rw [step]
    split
    · rfl
    · rfl
  | _ => rfl

theorem inTurn_new (subscribes : List Message) :
    (new : WebSocketClient Message Report).InTurn subscribes :=
  ⟨[], [], fun _ among => absurd among List.not_mem_nil, rfl, rfl⟩

/-- However the network answers and whenever the client is stopped, it uses one connection after the
other: on each it subscribes to everything before it announces the connection, hands over messages only
after that, and calls `on_disconnected` once behind it, before it opens the next. -/
theorem sessions_in_turn (subscribes : List Message) (labels : List (ClientLabel Message Report)) :
    (Transition.run (step subscribes) new labels).InTurn subscribes :=
  Transition.run_invariant (fun _ label inTurn => inTurn.step label) (inTurn_new subscribes) labels

/-! ### Reports -/

/-- The reports are sent in the order they were accepted, each once at most. -/
def InOrder (client : WebSocketClient Message Report) : Prop :=
  ∃ processed, client.accepted = processed ++ client.queue ∧ client.delivered.Sublist processed

/-- What was sent since a state went over the connection of that state or over a later one. -/
structure Since (client after : WebSocketClient Message Report) : Prop where
  sent : ∃ more, after.delivered = client.delivered ++ more ∧
    ∀ report ∈ more, client.ws = some report.1 ∨ client.connections ≤ report.1
  connection : ∀ number ∈ after.ws, client.ws = some number ∨ client.connections ≤ number
  onward : client.connections ≤ after.connections

theorem InOrder.step {client : WebSocketClient Message Report} (inOrder : client.InOrder)
    (label : ClientLabel Message Report) : (client.step subscribes label).InOrder := by
  obtain ⟨processed, accepted, delivered⟩ := inOrder
  cases label with
  | transmit succeeds =>
    rw [WebSocketClient.step]
    split
    · rw [send]
      split
      · exact ⟨processed, accepted, delivered⟩
      · next seen report rest queue =>
        refine ⟨processed ++ [(seen, report)], ?_, ?_⟩
        · rw [accepted, queue, List.append_assoc]
          rfl
        · split
          · exact delivered.append (List.Sublist.refl _)
          · exact delivered.append (List.nil_sublist _)
    · exact ⟨processed, accepted, delivered⟩
  | sendJson seen report =>
    rw [WebSocketClient.step]
    split
    · refine ⟨processed, ?_, delivered⟩
      rw [sendJson, accepted, List.append_assoc]
    · exact ⟨processed, accepted, delivered⟩
  | _ => exact ⟨processed, accepted, delivered⟩

/-- A connection is kept, opened as the next one, or cleared. -/
theorem connection_cases (client : WebSocketClient Message Report)
    (label : ClientLabel Message Report) :
    client.connection label = (client.ws, client.connections) ∨
      client.connection label = (some client.connections, client.connections + 1) ∨
      client.connection label = (none, client.connections) := by
  unfold connection
  split
  · split
    · exact .inr (.inl rfl)
    · exact .inl rfl
  · split
    · exact .inr (.inr rfl)
    · exact .inl rfl
  · exact .inl rfl

theorem Since.moved {client after : WebSocketClient Message Report} (since : Since client after)
    (label : ClientLabel Message Report) : Since client (after.moved subscribes label) := by
  rcases after.connection_cases label with same | opened | cleared
  · refine ⟨since.sent, ?_, ?_⟩
    · rw [WebSocketClient.moved, same]
      exact since.connection
    · rw [WebSocketClient.moved, same]
      exact since.onward
  · refine ⟨since.sent, ?_, ?_⟩
    · rw [WebSocketClient.moved, opened]
      rintro number ⟨⟩
      exact .inr since.onward
    · rw [WebSocketClient.moved, opened]
      exact Nat.le_succ_of_le since.onward
  · refine ⟨since.sent, ?_, ?_⟩
    · rw [WebSocketClient.moved, cleared]
      nofun
    · rw [WebSocketClient.moved, cleared]
      exact since.onward

theorem Since.step {client after : WebSocketClient Message Report} (since : Since client after)
    (label : ClientLabel Message Report) : Since client (after.step subscribes label) := by
  cases label with
  | transmit succeeds =>
    rw [WebSocketClient.step]
    split
    · rw [send]
      split
      · exact since
      · next seen report rest queue =>
        obtain ⟨more, sent, went⟩ := since.sent
        refine ⟨?_, since.connection, since.onward⟩
        split
        · next goes =>
          refine ⟨more ++ [(seen, report)], ?_, fun entry among => ?_⟩
          · rw [sent, List.append_assoc]
          · rcases List.mem_append.mp among with earlier | present
            · exact went entry earlier
            · rw [List.mem_singleton.mp present]
              exact since.connection seen goes.2
        · exact ⟨more, (List.append_nil _).trans sent, went⟩
    · exact since
  | sendJson seen report =>
    rw [WebSocketClient.step]
    split
    · exact ⟨since.sent, since.connection, since.onward⟩
    · exact since
  | stop => exact ⟨since.sent, since.connection, since.onward⟩
  | _ => exact since.moved _

/-- Whatever threads hand over reports, and for whichever connection they saw, the reports are sent in
the order they were accepted, each once at most; and none is sent over another connection than that it
was handed over for, so that none of a connection that is over is sent any more. -/
theorem reports_in_order (subscribes : List Message)
    (earlier later : List (ClientLabel Message Report)) :
    let client := Transition.run (step subscribes) new earlier
    let after := Transition.run (step subscribes) client later
    after.InOrder ∧ Since client after := by
  intro client after
  have fresh : (new : WebSocketClient Message Report).InOrder := ⟨[], rfl, List.Sublist.refl _⟩
  have present : Since client client :=
    { sent := ⟨[], (List.append_nil _).symm, fun _ among => absurd among List.not_mem_nil⟩
      connection := fun _ => .inl
      onward := Nat.le_refl _ }
  constructor
  · have kept (state : WebSocketClient Message Report) (label : ClientLabel Message Report)
        (inOrder : state.InOrder) : (state.step subscribes label).InOrder := InOrder.step inOrder label
    have inOrder := Transition.run_invariant kept fresh (earlier ++ later)
    rwa [Transition.run_append] at inOrder
  · have kept (state : WebSocketClient Message Report) (label : ClientLabel Message Report)
        (since : Since client state) : Since client (state.step subscribes label) := since.step label
    exact Transition.run_invariant kept present later

end WebSocketClient

end RcTaxi
