/-
This file asks whether the threads that log ever wait for the console. The docstring of
`core/safe_logging.py` promises that they do not: before it, a thread wrote to the console under the
lock of the console's handler, so a console that froze held every thread that logged.

The threads and the listener take and give back the lock of the handler and the mutex of the queue,
in any order of their steps. The console takes what is written to it in steps of its own, so a frozen
console is one that takes none. What is left of the old danger is a record that cannot be formatted:
`handleError` writes to the console, and it does so under the lock of the handler.
-/

import RcTaxi.SafeLogging
import Mathlib.Logic.Function.Basic
import Mathlib.Tactic.ByContra

namespace RcTaxi

/-! ### The threads -/

/-- Where a thread is in `Handler.handle`: before the lock of the handler, with it before `prepare`,
before the mutex of the queue, with both, in `handleError`, or before giving the lock back. -/
inductive LogPhase (Record : Type)
  | idle
  | waiting (record : Record)
  | preparing (record : Record)
  | queueing (record : Record)
  | putting (record : Record)
  | reporting (record : Record)
  | leaving

namespace LogPhase

variable {Record : Type}

/-- Between taking the lock and giving it back. -/
def inside : LogPhase Record → Bool
  | .idle | .waiting _ => false
  | _ => true

/-- With the mutex of the queue. -/
def holdsMutex : LogPhase Record → Bool
  | .putting _ => true
  | _ => false

/-- The call does not come to `handleError`. -/
def formats (can : Record → Bool) : LogPhase Record → Bool
  | .waiting record | .preparing record => can record
  | .reporting _ => false
  | _ => true

/-- The record the call has not put yet. -/
def toPut : LogPhase Record → List Record
  | .waiting record | .preparing record | .queueing record | .putting record => [record]
  | _ => []

/-- The steps a call that can be formatted has left. -/
def stepsLeft : LogPhase Record → ℕ
  | .idle => 0
  | .waiting _ => 5
  | .preparing _ => 4
  | .queueing _ => 3
  | .putting _ => 2
  | .reporting _ | .leaving => 1

theorem inside_of_holdsMutex {phase : LogPhase Record} (holds : phase.holdsMutex = true) :
    phase.inside = true := by
  cases phase <;> simp_all [LogPhase.holdsMutex, LogPhase.inside]

theorem stepsLeft_eq_zero {phase : LogPhase Record} : phase.stepsLeft = 0 ↔ phase = .idle := by
  cases phase <;> simp [stepsLeft]

theorem stepsLeft_le (phase : LogPhase Record) : phase.stepsLeft ≤ 5 := by
  cases phase <;> simp [stepsLeft]

/-- Inside there are one to four steps left. -/
theorem inside_iff {phase : LogPhase Record} :
    phase.inside = true ↔ 0 < phase.stepsLeft ∧ phase.stepsLeft ≤ 4 := by
  cases phase <;> simp [stepsLeft, LogPhase.inside]

end LogPhase

/-- Where the listener is in its loop: before the mutex of the queue, with it in `get`, at the
handlers of its record, before the mutex again, or with it in `task_done`. -/
inductive ListenerPhase
  | asking
  | taking
  | handling
  | finishing
  | counting

/-- With the mutex of the queue. -/
def ListenerPhase.holdsMutex : ListenerPhase → Bool
  | .taking | .counting => true
  | _ => false

/-- Who has the mutex of the queue. -/
inductive QueueUser (Thread : Type)
  | thread (thread : Thread)
  | listener

/-- The lock of the handler, the mutex of the queue, the threads and the listener. -/
structure Logging (Thread Handler Record : Type) where
  lock : Option Thread
  mutex : Option (QueueUser Thread)
  phase : Thread → LogPhase Record
  listener : ListenerPhase
  books : LogBooks Handler Record

/-- A thread calls the logger, a call goes on, the console takes what `handleError` writes, the
listener goes on, or the console takes what the listener writes. -/
inductive LoggingStep (Thread Record : Type)
  | log (thread : Thread) (record : Record)
  | go (thread : Thread)
  | report (thread : Thread)
  | listen
  | write

/-- A step of the console. -/
def LoggingStep.byConsole {Thread Record : Type} : LoggingStep Thread Record → Bool
  | .report _ | .write => true
  | _ => false

namespace Logging

variable {Thread Handler Record : Type} [DecidableEq Thread] (setup : LogSetup Handler Record)

omit [DecidableEq Thread] in
def start : Logging Thread Handler Record := ⟨none, none, fun _ => .idle, .asking, LogBooks.start⟩

def enter (logging : Logging Thread Handler Record) (thread : Thread) (phase : LogPhase Record) :
    Logging Thread Handler Record :=
  { logging with phase := Function.update logging.phase thread phase }

/-- A call of the logger, by a thread that is not in one. -/
def call (logging : Logging Thread Handler Record) (thread : Thread) (record : Record) :
    Logging Thread Handler Record :=
  match logging.phase thread with
  | .idle => logging.enter thread (.waiting record)
  | _ => logging

/-- The next step of a call, up to the writing of `handleError`. -/
def go (logging : Logging Thread Handler Record) (thread : Thread) :
    Logging Thread Handler Record :=
  match logging.phase thread with
  | .idle | .reporting _ => logging
  | .waiting record =>
    if logging.lock.isSome then logging
    else { logging.enter thread (.preparing record) with lock := some thread }
  | .preparing record =>
    logging.enter thread (if setup.formats record then .queueing record else .reporting record)
  | .queueing record =>
    if logging.mutex.isSome then logging
    else { logging.enter thread (.putting record) with mutex := some (.thread thread) }
  | .putting record =>
    { logging.enter thread .leaving with
      mutex := none
      books := logging.books.step setup (.put record) }
  | .leaving => { logging.enter thread .idle with lock := none }

/-- The console takes the error that `handleError` writes. -/
def report (logging : Logging Thread Handler Record) (thread : Thread) :
    Logging Thread Handler Record :=
  match logging.phase thread with
  | .reporting _ => logging.enter thread .leaving
  | _ => logging

/-- The next step of the listener, up to a handler that accepts its record. An empty queue gives the
mutex back until the listener looks again. -/
def listen (logging : Logging Thread Handler Record) : Logging Thread Handler Record :=
  match logging.listener with
  | .asking =>
    if logging.mutex.isSome then logging
    else { logging with mutex := some .listener, listener := .taking }
  | .taking =>
    if logging.books.queue.isEmpty then { logging with mutex := none, listener := .asking }
    else { logging with
      mutex := none
      listener := .handling
      books := logging.books.step setup .take }
  | .handling =>
    match logging.books.inHand with
    | some (record, handler :: _) =>
      if setup.accepts handler record then logging
      else { logging with books := logging.books.step setup .write }
    | _ => { logging with listener := .finishing, books := logging.books.step setup .write }
  | .finishing =>
    if logging.mutex.isSome then logging
    else { logging with mutex := some .listener, listener := .counting }
  | .counting => { logging with mutex := none, listener := .asking }

/-- The console takes what the listener writes. -/
def write (logging : Logging Thread Handler Record) : Logging Thread Handler Record :=
  match logging.listener, logging.books.inHand with
  | .handling, some (record, handler :: _) =>
    if setup.accepts handler record then
      { logging with books := logging.books.step setup .write }
    else logging
  | _, _ => logging

def step (logging : Logging Thread Handler Record) :
    LoggingStep Thread Record → Logging Thread Handler Record
  | .log thread record => logging.call thread record
  | .go thread => logging.go setup thread
  | .report thread => logging.report thread
  | .listen => logging.listen setup
  | .write => logging.write setup

variable {setup} {logging : Logging Thread Handler Record}

theorem phase_enter (thread other : Thread) (phase : LogPhase Record) :
    (logging.enter thread phase).phase other =
      if other = thread then phase else logging.phase other :=
  Function.update_apply ..

/-- What the listener and the console do to the books is a step of the queue, or none. -/
theorem balanced_step (balanced : LogBooks.Balanced setup logging.books)
    (label : LoggingStep Thread Record) :
    LogBooks.Balanced setup (logging.step setup label).books := by
  cases label with
  | log thread record =>
    show LogBooks.Balanced setup (logging.call thread record).books
    unfold call
    split <;> exact balanced
  | go thread =>
    show LogBooks.Balanced setup (logging.go setup thread).books
    unfold go
    split
    next => exact balanced
    next => exact balanced
    next => split <;> exact balanced
    next => exact balanced
    next => split <;> exact balanced
    next record _ => exact balanced.put record
    next => exact balanced
  | report thread =>
    show LogBooks.Balanced setup (logging.report thread).books
    unfold report
    split <;> exact balanced
  | listen =>
    show LogBooks.Balanced setup (logging.listen setup).books
    unfold listen
    split
    next => split <;> exact balanced
    next =>
      split
      · exact balanced
      · exact balanced.take
    next =>
      split
      · split
        · exact balanced
        · exact balanced.write
      · exact balanced.write
    next => split <;> exact balanced
    next => exact balanced
  | write =>
    show LogBooks.Balanced setup (logging.write setup).books
    unfold write
    split
    next =>
      split
      · exact balanced.write
      · exact balanced
    next => exact balanced

/-! ### Lock and mutex -/

/-- The lock is held by the thread that is inside, the mutex by the thread or the listener that is in
the queue, and neither by another. -/
structure Exclusive (logging : Logging Thread Handler Record) : Prop where
  lock : ∀ thread, logging.lock = some thread ↔ (logging.phase thread).inside = true
  mutex : ∀ thread,
    logging.mutex = some (.thread thread) ↔ (logging.phase thread).holdsMutex = true
  listener : logging.mutex = some .listener ↔ logging.listener.holdsMutex = true

omit [DecidableEq Thread] in
theorem Exclusive.start : (start : Logging Thread Handler Record).Exclusive where
  lock _ := iff_of_false (Option.some_ne_none _).symm Bool.false_ne_true
  mutex _ := iff_of_false (Option.some_ne_none _).symm Bool.false_ne_true
  listener := iff_of_false (Option.some_ne_none _).symm Bool.false_ne_true

/-- A thread goes on, and takes or gives back no more than what its new place says. -/
theorem Exclusive.moved (exclusive : logging.Exclusive) {after : Logging Thread Handler Record}
    {thread : Thread} {phase : LogPhase Record}
    (phases : after.phase = Function.update logging.phase thread phase)
    (lockHere : after.lock = some thread ↔ phase.inside = true)
    (lockElsewhere : ∀ other, other ≠ thread →
      (after.lock = some other ↔ logging.lock = some other))
    (mutexHere : after.mutex = some (.thread thread) ↔ phase.holdsMutex = true)
    (mutexElsewhere : ∀ user, user ≠ .thread thread →
      (after.mutex = some user ↔ logging.mutex = some user))
    (listener : after.listener = logging.listener) : after.Exclusive where
  lock other := by
    rw [phases, Function.update_apply]
    split
    next here => exact here ▸ lockHere
    next elsewhere => exact (lockElsewhere other elsewhere).trans (exclusive.lock other)
  mutex other := by
    rw [phases, Function.update_apply]
    split
    next here => exact here ▸ mutexHere
    next elsewhere =>
      have user : QueueUser.thread other ≠ .thread thread :=
        fun same => elsewhere (QueueUser.thread.inj same)
      exact (mutexElsewhere _ user).trans (exclusive.mutex other)
  listener := by
    rw [listener]
    have user : QueueUser.listener ≠ .thread thread := fun same => by cases same
    exact (mutexElsewhere _ user).trans exclusive.listener

/-- A step of a thread that neither takes nor gives back anything. -/
theorem Exclusive.enter (exclusive : logging.Exclusive) {thread : Thread} {phase : LogPhase Record}
    (sameLock : (logging.phase thread).inside = phase.inside)
    (sameMutex : (logging.phase thread).holdsMutex = phase.holdsMutex) :
    (logging.enter thread phase).Exclusive := by
  refine exclusive.moved rfl ?_ (fun _ _ => Iff.rfl) ?_ (fun _ _ => Iff.rfl) rfl
  · exact sameLock ▸ exclusive.lock thread
  · exact sameMutex ▸ exclusive.mutex thread

theorem Exclusive.call (exclusive : logging.Exclusive) (thread : Thread) (record : Record) :
    (logging.call thread record).Exclusive := by
  unfold Logging.call
  split
  next found =>
    exact exclusive.enter ((congrArg LogPhase.inside found).trans rfl)
      ((congrArg LogPhase.holdsMutex found).trans rfl)
  next => exact exclusive

theorem Exclusive.report (exclusive : logging.Exclusive) (thread : Thread) :
    (logging.report thread).Exclusive := by
  unfold Logging.report
  split
  next found =>
    exact exclusive.enter ((congrArg LogPhase.inside found).trans rfl)
      ((congrArg LogPhase.holdsMutex found).trans rfl)
  next => exact exclusive

theorem Exclusive.go (exclusive : logging.Exclusive) (thread : Thread) :
    (logging.go setup thread).Exclusive := by
  have locked := exclusive.lock thread
  have owned := exclusive.mutex thread
  unfold Logging.go
  split
  next => exact exclusive
  next => exact exclusive
  next record found =>
    split
    next => exact exclusive
    next unlocked =>
      rw [Option.not_isSome_iff_eq_none] at unlocked
      refine exclusive.moved rfl (iff_of_true rfl rfl) (fun other elsewhere => ?_) ?_
        (fun _ _ => Iff.rfl) rfl
      · rw [unlocked]
        exact iff_of_false (fun same => elsewhere (Option.some.inj same).symm)
          (Option.some_ne_none other).symm
      · rw [found] at owned
        exact owned
  next record found =>
    rw [found] at locked owned
    refine exclusive.moved rfl ?_ (fun _ _ => Iff.rfl) ?_ (fun _ _ => Iff.rfl) rfl
    · split <;> exact locked
    · split <;> exact owned
  next record found =>
    split
    next => exact exclusive
    next free =>
      rw [Option.not_isSome_iff_eq_none] at free
      rw [found] at locked
      refine exclusive.moved rfl locked (fun _ _ => Iff.rfl) (iff_of_true rfl rfl)
        (fun user elsewhere => ?_) rfl
      rw [free]
      exact iff_of_false (fun same => elsewhere (Option.some.inj same).symm)
        (Option.some_ne_none user).symm
  next record found =>
    rw [found] at locked owned
    have mine := owned.mpr rfl
    refine exclusive.moved rfl locked (fun _ _ => Iff.rfl)
      (iff_of_false (Option.some_ne_none _).symm Bool.false_ne_true) (fun user elsewhere => ?_) rfl
    rw [mine]
    exact iff_of_false (Option.some_ne_none user).symm
      (fun same => elsewhere (Option.some.inj same).symm)
  next found =>
    rw [found] at locked owned
    have mine := locked.mpr rfl
    refine exclusive.moved rfl (iff_of_false (Option.some_ne_none _).symm Bool.false_ne_true)
      (fun other elsewhere => ?_) owned (fun _ _ => Iff.rfl) rfl
    rw [mine]
    exact iff_of_false (Option.some_ne_none other).symm
      (fun same => elsewhere (Option.some.inj same).symm)

omit [DecidableEq Thread] in
/-- The listener goes on, and takes or gives back no more than what its new place says. -/
theorem Exclusive.listened (exclusive : logging.Exclusive) {after : Logging Thread Handler Record}
    (phases : after.phase = logging.phase) (lock : after.lock = logging.lock)
    (threads : ∀ thread, after.mutex = some (.thread thread) ↔
      logging.mutex = some (.thread thread))
    (listener : after.mutex = some .listener ↔ after.listener.holdsMutex = true) :
    after.Exclusive where
  lock thread := by
    rw [phases, lock]
    exact exclusive.lock thread
  mutex thread := by
    rw [phases]
    exact (threads thread).trans (exclusive.mutex thread)
  listener := listener

omit [DecidableEq Thread] in
theorem Exclusive.listen (exclusive : logging.Exclusive) : (logging.listen setup).Exclusive := by
  have owned := exclusive.listener
  have given : ∀ thread, logging.mutex = some .listener →
      ((none : Option (QueueUser Thread)) = some (.thread thread) ↔
        logging.mutex = some (.thread thread)) := by
    intro thread mine
    rw [mine]
    exact iff_of_false (Option.some_ne_none _).symm (fun same => by cases same)
  have taken : ∀ thread, logging.mutex.isSome = false →
      (some QueueUser.listener = some (.thread thread) ↔
        logging.mutex = some (.thread thread)) := by
    intro thread free
    rw [Option.isSome_eq_false_iff, Option.isNone_iff_eq_none] at free
    rw [free]
    exact iff_of_false (fun same => by cases same) (Option.some_ne_none _).symm
  have gone : (none : Option (QueueUser Thread)) = some .listener ↔ false = true :=
    iff_of_false (Option.some_ne_none _).symm Bool.false_ne_true
  unfold Logging.listen
  split
  next found =>
    split
    next => exact exclusive
    next free =>
      exact exclusive.listened rfl rfl (taken · (Bool.eq_false_iff.mpr free)) (iff_of_true rfl rfl)
  next found =>
    rw [found] at owned
    have mine := owned.mpr rfl
    split
    · exact exclusive.listened rfl rfl (given · mine) gone
    · exact exclusive.listened rfl rfl (given · mine) gone
  next found =>
    rw [found] at owned
    split
    · split
      · exact exclusive
      · exact exclusive.listened rfl rfl (fun _ => Iff.rfl) (found ▸ owned)
    · exact exclusive.listened rfl rfl (fun _ => Iff.rfl) owned
  next found =>
    split
    next => exact exclusive
    next free =>
      exact exclusive.listened rfl rfl (taken · (Bool.eq_false_iff.mpr free)) (iff_of_true rfl rfl)
  next found =>
    rw [found] at owned
    exact exclusive.listened rfl rfl (given · (owned.mpr rfl)) gone

omit [DecidableEq Thread] in
theorem write_eq (setup : LogSetup Handler Record) (logging : Logging Thread Handler Record) :
    (logging.write setup).phase = logging.phase ∧
    (logging.write setup).lock = logging.lock ∧ (logging.write setup).mutex = logging.mutex ∧
    (logging.write setup).listener = logging.listener := by
  unfold write
  split
  · split <;> exact ⟨rfl, rfl, rfl, rfl⟩
  · exact ⟨rfl, rfl, rfl, rfl⟩

theorem Exclusive.step (exclusive : logging.Exclusive) (label : LoggingStep Thread Record) :
    (logging.step setup label).Exclusive := by
  cases label with
  | log thread record => exact exclusive.call thread record
  | go thread => exact exclusive.go thread
  | report thread => exact exclusive.report thread
  | listen => exact exclusive.listen
  | write =>
    obtain ⟨phases, lock, mutex, listener⟩ := write_eq setup logging
    exact exclusive.listened phases lock (fun _ => mutex ▸ Iff.rfl)
      (by rw [show (logging.step setup .write) = logging.write setup from rfl, mutex, listener]
          exact exclusive.listener)

/-! ### What a thread waits for -/

omit [DecidableEq Thread] in
/-- The listener leaves the threads where they are. -/
theorem listen_eq (setup : LogSetup Handler Record) (logging : Logging Thread Handler Record) :
    (logging.listen setup).phase = logging.phase ∧ (logging.listen setup).lock = logging.lock := by
  unfold listen
  split
  · split <;> exact ⟨rfl, rfl⟩
  · split <;> exact ⟨rfl, rfl⟩
  · split
    · split <;> exact ⟨rfl, rfl⟩
    · exact ⟨rfl, rfl⟩
  · split <;> exact ⟨rfl, rfl⟩
  · exact ⟨rfl, rfl⟩

/-- The step of a call leaves the other threads where they are. -/
theorem phase_go_of_ne {thread other : Thread} (different : other ≠ thread) :
    (logging.go setup thread).phase other = logging.phase other := by
  have entered (phase : LogPhase Record) :
      (logging.enter thread phase).phase other = logging.phase other :=
    (phase_enter ..).trans (if_neg different)
  unfold go
  split
  next => rfl
  next => rfl
  next =>
    split
    next => rfl
    next => exact entered _
  next => exact entered _
  next =>
    split
    next => rfl
    next => exact entered _
  next => exact entered _
  next => exact entered _

/-- Where the step of a call leads from a place. -/
def nextPhase (setup : LogSetup Handler Record) (logging : Logging Thread Handler Record) :
    LogPhase Record → LogPhase Record
  | .idle => .idle
  | .waiting record => if logging.lock.isSome then .waiting record else .preparing record
  | .preparing record => if setup.formats record then .queueing record else .reporting record
  | .queueing record => if logging.mutex.isSome then .queueing record else .putting record
  | .putting _ => .leaving
  | .reporting record => .reporting record
  | .leaving => .idle

theorem phase_go (thread : Thread) :
    (logging.go setup thread).phase thread = logging.nextPhase setup (logging.phase thread) := by
  have entered (phase : LogPhase Record) : (logging.enter thread phase).phase thread = phase :=
    (phase_enter ..).trans (if_pos rfl)
  unfold go
  cases found : logging.phase thread with
  | idle | reporting record => exact found
  | waiting record =>
    dsimp only [nextPhase]
    split
    · exact found
    · exact entered _
  | queueing record =>
    dsimp only [nextPhase]
    split
    · exact found
    · exact entered _
  | preparing record | putting record | leaving => exact entered _

/-- What a step does to the place of a thread. -/
inductive Moves (setup : LogSetup Handler Record) (logging : Logging Thread Handler Record)
    (thread : Thread) (label : LoggingStep Thread Record) : LogPhase Record → Prop
  | stays : Moves setup logging thread label (logging.phase thread)
  | called (record : Record) (isLog : label = .log thread record)
    (idle : logging.phase thread = .idle) : Moves setup logging thread label (.waiting record)
  | goes (isGo : label = .go thread) :
    Moves setup logging thread label (logging.nextPhase setup (logging.phase thread))
  | reported (record : Record) (isReport : label = .report thread)
    (found : logging.phase thread = .reporting record) : Moves setup logging thread label .leaving

theorem moves_step (setup : LogSetup Handler Record) (logging : Logging Thread Handler Record)
    (label : LoggingStep Thread Record) (thread : Thread) :
    logging.Moves setup thread label ((logging.step setup label).phase thread) := by
  cases label with
  | log caller record =>
    show logging.Moves setup thread _ ((logging.call caller record).phase thread)
    unfold call
    split
    next found =>
      rw [phase_enter]
      split
      next here => exact .called record (by rw [here]) (here ▸ found)
      next => exact .stays
    next => exact .stays
  | go caller =>
    show logging.Moves setup thread _ ((logging.go setup caller).phase thread)
    by_cases here : thread = caller
    · rw [here, phase_go]
      exact .goes rfl
    · rw [phase_go_of_ne here]
      exact .stays
  | report caller =>
    show logging.Moves setup thread _ ((logging.report caller).phase thread)
    unfold report
    split
    next record found =>
      rw [phase_enter]
      split
      next here => exact .reported record (by rw [here]) (here ▸ found)
      next => exact .stays
    next => exact .stays
  | listen =>
    show logging.Moves setup thread _ ((logging.listen setup).phase thread)
    rw [(listen_eq setup logging).1]
    exact .stays
  | write =>
    show logging.Moves setup thread _ ((logging.write setup).phase thread)
    rw [(write_eq setup logging).1]
    exact .stays

omit [DecidableEq Thread] in
/-- A step of a call changes nothing about whether its record can be formatted. -/
theorem formats_nextPhase (phase : LogPhase Record) :
    (logging.nextPhase setup phase).formats setup.formats = phase.formats setup.formats := by
  cases phase with
  | waiting record =>
    dsimp only [nextPhase]
    split <;> rfl
  | preparing record =>
    show (if setup.formats record then LogPhase.queueing record else
      LogPhase.reporting record).formats setup.formats = setup.formats record
    cases setup.formats record <;> rfl
  | queueing record =>
    dsimp only [nextPhase]
    split <;> rfl
  | idle | putting record | reporting record | leaving => rfl

omit [DecidableEq Thread] in
/-- Only the last step of a call gives the lock back. -/
theorem inside_nextPhase {phase : LogPhase Record} (inside : phase.inside = true)
    (more : phase ≠ .leaving) : (logging.nextPhase setup phase).inside = true := by
  cases phase with
  | preparing record | queueing record =>
    dsimp only [nextPhase]
    split <;> rfl
  | putting record | reporting record => rfl
  | leaving => exact absurd rfl more
  | idle | waiting record => cases inside

/-- A thread is held up by a record that cannot be formatted, its own or the one of the thread that
has the lock. -/
def HeldBy (setup : LogSetup Handler Record) (logging : Logging Thread Handler Record)
    (thread other : Thread) : Prop :=
  (other = thread ∨ (logging.phase other).inside = true) ∧
    (logging.phase other).formats setup.formats = false

/-- A record that cannot be formatted stays in its call until the console takes the error. -/
theorem unformatted_step {other : Thread}
    (unformatted : (logging.phase other).formats setup.formats = false)
    {label : LoggingStep Thread Record} (silent : label.byConsole = false) :
    ((logging.step setup label).phase other).formats setup.formats = false ∧
      ((logging.phase other).inside = true →
        ((logging.step setup label).phase other).inside = true) := by
  have moves := moves_step setup logging label other
  generalize (logging.step setup label).phase other = after at moves ⊢
  cases moves with
  | stays => exact ⟨unformatted, id⟩
  | called record isLog idle =>
    rw [idle] at unformatted
    cases unformatted
  | goes isGo =>
    refine ⟨(formats_nextPhase _).trans unformatted, fun inside => inside_nextPhase inside ?_⟩
    intro leaving
    rw [leaving] at unformatted
    cases unformatted
  | reported record isReport found =>
    rw [isReport] at silent
    cases silent

/-- A thread that is held up stays in its call until the console takes the error. -/
theorem held_step (exclusive : logging.Exclusive) {thread other : Thread}
    (busy : logging.phase thread ≠ .idle) (held : logging.HeldBy setup thread other)
    {label : LoggingStep Thread Record} (silent : label.byConsole = false) :
    (logging.step setup label).phase thread ≠ .idle ∧
      (logging.step setup label).HeldBy setup thread other := by
  obtain ⟨place, unformatted⟩ := held
  obtain ⟨unformattedNext, stays⟩ := unformatted_step unformatted silent
  refine ⟨?_, place.imp_right stays, unformattedNext⟩
  by_cases same : other = thread
  · subst same
    intro idle
    rw [idle] at unformattedNext
    cases unformattedNext
  -- The thread waits for the lock, which the other one has.
  have locked : logging.lock = some other :=
    (exclusive.lock other).mpr (place.resolve_left same)
  have outside : ¬ (logging.phase thread).inside = true := by
    intro own
    rw [(exclusive.lock thread).mpr own] at locked
    exact same (Option.some.inj locked).symm
  have moves := moves_step setup logging label thread
  generalize (logging.step setup label).phase thread = after at moves ⊢
  cases moves with
  | stays => exact busy
  | called record isLog idle => exact absurd idle busy
  | reported record isReport found => exact absurd (by rw [found]; rfl) outside
  | goes isGo =>
    cases found : logging.phase thread with
    | idle => exact absurd found busy
    | waiting record =>
      dsimp only [nextPhase]
      rw [if_pos (by rw [locked]; rfl)]
      exact fun idle => by cases idle
    | preparing record | queueing record | putting record | reporting record | leaving =>
      exact absurd (by rw [found]; rfl) outside

/-! ### Returning -/

/-- A thread that can format its record has nothing to wait for: the lock is free or its own, and the
listener is not in the queue. -/
structure Unhindered (setup : LogSetup Handler Record) (logging : Logging Thread Handler Record)
    (thread : Thread) : Prop where
  exclusive : logging.Exclusive
  formats : (logging.phase thread).formats setup.formats = true
  lock : logging.lock = none ∨ (logging.phase thread).inside = true
  mutex : logging.mutex ≠ some .listener

omit [DecidableEq Thread] in
/-- Only the thread that has the lock, and the listener, can have the mutex. -/
theorem Exclusive.mutex_free (exclusive : logging.Exclusive) {thread : Thread}
    (own : logging.lock = some thread) (outside : (logging.phase thread).holdsMutex = false)
    (quiet : logging.mutex ≠ some .listener) : ¬ logging.mutex.isSome = true := by
  intro taken
  obtain ⟨user, held⟩ := Option.isSome_iff_exists.mp taken
  cases user with
  | listener => exact quiet held
  | thread other =>
    have putting := (exclusive.mutex other).mp held
    rw [(exclusive.lock other).mpr (LogPhase.inside_of_holdsMutex putting)] at own
    cases Option.some.inj own
    rw [putting] at outside
    cases outside

/-- Where the next step of a call leads, with the steps that are left and the record that is put. -/
structure Onward (setup : LogSetup Handler Record) (logging after : Logging Thread Handler Record)
    (thread : Thread) : Prop where
  unhindered : after.Unhindered setup thread
  steps : (after.phase thread).stepsLeft = (logging.phase thread).stepsLeft - 1
  put : after.books.puts.map Prod.fst ++ (after.phase thread).toPut =
    logging.books.puts.map Prod.fst ++ (logging.phase thread).toPut

/-- A step to another place. -/
theorem Onward.moved {thread : Thread} {after : Logging Thread Handler Record}
    {before phase : LogPhase Record} (found : logging.phase thread = before)
    (phases : after.phase = Function.update logging.phase thread phase)
    (exclusive : after.Exclusive) (formats : phase.formats setup.formats = true)
    (lock : after.lock = none ∨ phase.inside = true) (mutex : after.mutex ≠ some .listener)
    (steps : phase.stepsLeft = before.stepsLeft - 1)
    (put : after.books.puts.map Prod.fst ++ phase.toPut =
      logging.books.puts.map Prod.fst ++ before.toPut) : Onward setup logging after thread := by
  have here : after.phase thread = phase := by
    rw [phases]
    exact Function.update_self ..
  exact ⟨⟨exclusive, by rw [here]; exact formats, by rw [here]; exact lock, mutex⟩,
    by rw [here, found]; exact steps, by rw [here, found]; exact put⟩

/-- The next step of a thread that nothing hinders takes it on, and the record it puts is its own. -/
theorem Unhindered.go {thread : Thread} (unhindered : logging.Unhindered setup thread) :
    Onward setup logging (logging.go setup thread) thread := by
  have after : (logging.go setup thread).Exclusive := unhindered.exclusive.go thread
  obtain ⟨exclusive, formats, lock, mutex⟩ := unhindered
  unfold Logging.go at after ⊢
  cases found : logging.phase thread with
  | idle =>
    have still : Function.update logging.phase thread .idle = logging.phase := by
      rw [← found]
      exact Function.update_eq_self ..
    rw [found] at after lock
    exact .moved found still.symm after rfl lock mutex rfl rfl
  | waiting record =>
    rw [found] at after lock formats
    have free : logging.lock = none := lock.resolve_right Bool.false_ne_true
    have unlocked : ¬ logging.lock.isSome = true := by
      rw [free]
      exact Bool.false_ne_true
    dsimp only at after ⊢
    rw [if_neg unlocked] at after ⊢
    exact .moved found rfl after formats (.inr rfl) mutex rfl rfl
  | preparing record =>
    rw [found] at after formats
    have fine : setup.formats record = true := formats
    dsimp only at after ⊢
    rw [if_pos fine] at after ⊢
    exact .moved found rfl after rfl (.inr rfl) mutex rfl rfl
  | queueing record =>
    have own : logging.lock = some thread := (exclusive.lock thread).mpr (by rw [found]; rfl)
    have free : ¬ logging.mutex.isSome = true :=
      exclusive.mutex_free own (by rw [found]; rfl) mutex
    rw [found] at after
    dsimp only at after ⊢
    rw [if_neg free] at after ⊢
    exact .moved found rfl after rfl (.inr rfl) (fun same => by cases same) rfl rfl
  | putting record =>
    rw [found] at after
    have put : (logging.books.puts ++ [(record, logging.books.queue.length)]).map Prod.fst ++ [] =
        logging.books.puts.map Prod.fst ++ [record] := (List.append_nil _).trans List.map_append
    exact .moved found rfl after rfl (.inr rfl) (fun same => by cases same) rfl put
  | leaving =>
    rw [found] at after
    exact .moved found rfl after rfl (.inl rfl) mutex rfl rfl
  | reporting record =>
    rw [found] at formats
    cases formats

/-- It returns by itself, and has put its record then. -/
theorem Unhindered.returns {thread : Thread} (unhindered : logging.Unhindered setup thread) :
    let after := Transition.run (step setup) logging
      (List.replicate (logging.phase thread).stepsLeft (.go thread))
    after.Unhindered setup thread ∧ after.phase thread = .idle ∧
      after.books.puts.map Prod.fst =
        logging.books.puts.map Prod.fst ++ (logging.phase thread).toPut := by
  generalize left : (logging.phase thread).stepsLeft = count
  induction count generalizing logging with
  | zero =>
    have idle := LogPhase.stepsLeft_eq_zero.mp left
    refine ⟨unhindered, idle, ?_⟩
    rw [idle]
    exact (List.append_nil _).symm
  | succ count inductionHypothesis =>
    obtain ⟨onward, steps, put⟩ := unhindered.go
    rw [left, Nat.add_sub_cancel] at steps
    rw [List.replicate_succ, Transition.run_cons, ← put]
    exact inductionHypothesis onward steps

theorem phase_run_go_of_ne {thread other : Thread} (different : other ≠ thread) (count : ℕ) :
    (Transition.run (step setup) logging (List.replicate count (.go thread))).phase other =
      logging.phase other := by
  induction count generalizing logging with
  | zero => rfl
  | succ count inductionHypothesis =>
    rw [List.replicate_succ, Transition.run_cons, inductionHypothesis]
    exact phase_go_of_ne different

/-- The listener gives the mutex back with its next step, whatever the console does. -/
theorem exists_quiet (setup : LogSetup Handler Record) (exclusive : logging.Exclusive) :
    ∃ labels : List (LoggingStep Thread Record), labels.length ≤ 1 ∧
      (∀ label ∈ labels, label.byConsole = false) ∧
      let after := Transition.run (step setup) logging labels
      after.Exclusive ∧ after.phase = logging.phase ∧ after.lock = logging.lock ∧
        after.mutex ≠ some .listener := by
  by_cases quiet : logging.mutex ≠ some .listener
  · exact ⟨[], Nat.zero_le _, List.forall_mem_nil _, exclusive, rfl, rfl, quiet⟩
  rw [not_not] at quiet
  obtain ⟨phases, lock⟩ := listen_eq setup logging
  have after : (logging.listen setup).Exclusive := exclusive.listen
  refine ⟨[.listen], le_refl _, fun label only => ?_, after, phases, lock, ?_⟩
  · rw [List.mem_singleton.mp only]
    rfl
  have inside := exclusive.listener.mp quiet
  have given : (logging.listen setup).mutex = none := by
    unfold listen
    cases place : logging.listener with
    | taking =>
      dsimp only
      split <;> rfl
    | counting => rfl
    | asking | handling | finishing =>
      rw [place] at inside
      cases inside
  show (logging.listen setup).mutex ≠ _
  rw [given]
  exact (Option.some_ne_none _).symm

/-- The thread can return, its record put, within ten steps and none of the console. -/
def CanReturn (setup : LogSetup Handler Record) (logging : Logging Thread Handler Record)
    (thread : Thread) : Prop :=
  ∃ labels : List (LoggingStep Thread Record), labels.length ≤ 10 ∧
    (∀ label ∈ labels, label.byConsole = false) ∧
    (Transition.run (step setup) logging labels).phase thread = .idle ∧
    (logging.phase thread).toPut <:+
      (Transition.run (step setup) logging labels).books.puts.map Prod.fst

/-! ### Leaving -/

/-- A step of the thread while the listener is not in the queue. -/
def grant (logging : Logging Thread Handler Record) (thread : Thread) :
    LoggingStep Thread Record → ℕ
  | .go other => if other = thread ∧ logging.listener.holdsMutex = false then 1 else 0
  | _ => 0

/-- How many such steps a run has. -/
def granted (setup : LogSetup Handler Record) (thread : Thread) :
    Logging Thread Handler Record → List (LoggingStep Thread Record) → ℕ
  | _, [] => 0
  | logging, label :: labels =>
    logging.grant thread label + granted setup thread (logging.step setup label) labels

omit [DecidableEq Thread] in
theorem stepsLeft_nextPhase_le {phase : LogPhase Record} (inside : phase.inside = true)
    (formats : phase.formats setup.formats = true) :
    (logging.nextPhase setup phase).stepsLeft ≤ phase.stepsLeft := by
  cases phase with
  | preparing record =>
    have fine : setup.formats record = true := formats
    dsimp only [nextPhase]
    rw [if_pos fine]
    exact Nat.le_succ _
  | queueing record =>
    dsimp only [nextPhase]
    split
    · exact le_refl _
    · exact Nat.le_succ _
  | putting record | leaving => exact Nat.le_succ _
  | idle | waiting record => cases inside
  | reporting record => cases formats

/-- Whoever takes a step, a thread that has the lock comes no step further from leaving, and with its
own it comes nearer. -/
theorem inside_step (exclusive : logging.Exclusive) {thread : Thread}
    (inside : (logging.phase thread).inside = true)
    (formats : (logging.phase thread).formats setup.formats = true)
    (label : LoggingStep Thread Record) :
    ((logging.step setup label).phase thread).formats setup.formats = true ∧
      logging.grant thread label + ((logging.step setup label).phase thread).stepsLeft ≤
        (logging.phase thread).stepsLeft := by
  by_cases granted : label = .go thread ∧ logging.listener.holdsMutex = false
  · obtain ⟨rfl, quiet⟩ := granted
    have mutex : logging.mutex ≠ some .listener := by
      intro held
      rw [exclusive.listener.mp held] at quiet
      cases quiet
    have unhindered : logging.Unhindered setup thread := ⟨exclusive, formats, .inr inside, mutex⟩
    obtain ⟨onward, steps, -⟩ := unhindered.go
    have busy := (LogPhase.inside_iff.mp inside).1
    rw [show logging.grant thread (.go thread : LoggingStep Thread Record) = 1 from
      if_pos ⟨rfl, quiet⟩]
    refine ⟨onward.formats, ?_⟩
    show 1 + ((logging.go setup thread).phase thread).stepsLeft ≤ _
    omega
  · have still : logging.grant thread label = 0 := by
      unfold grant
      split
      next other => exact if_neg fun both => granted ⟨by rw [both.1], both.2⟩
      next => rfl
    rw [still, Nat.zero_add]
    have moves := moves_step setup logging label thread
    generalize (logging.step setup label).phase thread = after at moves ⊢
    cases moves with
    | stays => exact ⟨formats, le_refl _⟩
    | called record isLog idle =>
      rw [idle] at inside
      cases inside
    | goes isGo =>
      exact ⟨(formats_nextPhase _).trans formats, stepsLeft_nextPhase_le inside formats⟩
    | reported record isReport found =>
      rw [found] at formats
      cases formats

/-- A thread that has the lock leaves with its next steps, at most four, that do not find the listener
in the queue, whatever the others and the console do. -/
theorem leaves (exclusive : logging.Exclusive) {thread : Thread}
    (inside : (logging.phase thread).inside = true)
    (formats : (logging.phase thread).formats setup.formats = true)
    {labels : List (LoggingStep Thread Record)}
    (enough : (logging.phase thread).stepsLeft ≤ granted setup thread logging labels) :
    ∃ done, done <+: labels ∧
      (Transition.run (step setup) logging done).phase thread = .idle := by
  induction labels generalizing logging with
  | nil =>
    have busy := (LogPhase.inside_iff.mp inside).1
    exact absurd enough (Nat.not_le_of_lt busy)
  | cons label labels inductionHypothesis =>
    obtain ⟨formatsNext, nearer⟩ := inside_step exclusive inside formats label
    by_cases idle : ((logging.step setup label).phase thread).stepsLeft = 0
    · refine ⟨[label], List.cons_prefix_cons.mpr ⟨rfl, List.nil_prefix⟩, ?_⟩
      exact LogPhase.stepsLeft_eq_zero.mp idle
    · have few := (LogPhase.inside_iff.mp inside).2
      have insideNext : ((logging.step setup label).phase thread).inside = true :=
        LogPhase.inside_iff.mpr (by omega)
      have enoughNext : ((logging.step setup label).phase thread).stepsLeft ≤
          granted setup thread (logging.step setup label) labels := by
        rw [granted] at enough
        omega
      obtain ⟨done, isPrefix, returned⟩ :=
        inductionHypothesis (exclusive.step label) insideNext formatsNext enoughNext
      exact ⟨label :: done, List.cons_prefix_cons.mpr ⟨rfl, isPrefix⟩, returned⟩

/-! ### Returning past the others -/

omit [DecidableEq Thread] in
theorem silent_replicate (thread : Thread) (count : ℕ) :
    ∀ label ∈ List.replicate count (.go thread : LoggingStep Thread Record),
      label.byConsole = false := by
  intro label member
  rw [List.eq_of_mem_replicate member]
  rfl

/-- A thread that nothing hinders behind a few steps of others can return. -/
theorem Unhindered.canReturn {thread : Thread} {labels : List (LoggingStep Thread Record)}
    (unhindered : (Transition.run (step setup) logging labels).Unhindered setup thread)
    (same : (Transition.run (step setup) logging labels).phase thread = logging.phase thread)
    (short : labels.length ≤ 5) (silent : ∀ label ∈ labels, label.byConsole = false) :
    logging.CanReturn setup thread := by
  obtain ⟨-, idle, put⟩ := unhindered.returns
  have atMost := LogPhase.stepsLeft_le
    ((Transition.run (step setup) logging labels).phase thread)
  rw [← Transition.run_append] at idle put
  refine ⟨_, ?_, ?_, idle, ?_⟩
  · rw [List.length_append, List.length_replicate]
    omega
  · exact List.forall_mem_append.mpr ⟨silent, silent_replicate _ _⟩
  · rw [put, same]
    exact List.suffix_append _ _

/-- First the listener gives the mutex back, then the thread that has the lock leaves, then the
thread that waits for it follows. -/
theorem can_return (exclusive : logging.Exclusive) {thread : Thread}
    (free : ∀ other, ¬ logging.HeldBy setup thread other) : logging.CanReturn setup thread := by
  have formats : ∀ other, other = thread ∨ (logging.phase other).inside = true →
      (logging.phase other).formats setup.formats = true := by
    intro other place
    by_contra unformatted
    exact free other ⟨place, Bool.eq_false_iff.mpr unformatted⟩
  obtain ⟨first, short, silent, quietly, phases, lock, quiet⟩ :=
    exists_quiet setup exclusive
  by_cases own : logging.lock = none ∨ (logging.phase thread).inside = true
  · have unhindered : (Transition.run (step setup) logging first).Unhindered setup thread :=
      ⟨quietly, phases ▸ formats thread (.inl rfl), phases ▸ lock ▸ own, quiet⟩
    exact unhindered.canReturn (congrFun phases thread) (by omega) silent
  · rw [not_or] at own
    obtain ⟨holder, held⟩ := Option.ne_none_iff_exists'.mp own.1
    have inside := (exclusive.lock holder).mp held
    have different : thread ≠ holder := fun same => own.2 (same ▸ inside)
    have unhindered : (Transition.run (step setup) logging first).Unhindered setup holder :=
      ⟨quietly, phases ▸ formats holder (.inr inside), .inr (phases ▸ inside), quiet⟩
    obtain ⟨left, idle, -⟩ := unhindered.returns
    obtain ⟨-, few⟩ := LogPhase.inside_iff.mp (phases ▸ inside :
      ((Transition.run (step setup) logging first).phase holder).inside = true)
    have waits : (Transition.run (step setup) (Transition.run (step setup) logging first)
        (List.replicate ((Transition.run (step setup) logging first).phase holder).stepsLeft
          (.go holder))).phase thread = logging.phase thread :=
      (phase_run_go_of_ne different _).trans (congrFun phases thread)
    have unlocked := left.lock.resolve_right (by rw [idle]; exact Bool.false_ne_true)
    rw [← Transition.run_append] at left waits unlocked
    have next : (Transition.run (step setup) logging (first ++ _)).Unhindered setup thread :=
      ⟨left.exclusive, waits ▸ formats thread (.inl rfl), .inl unlocked, left.mutex⟩
    refine next.canReturn waits ?_ (List.forall_mem_append.mpr ⟨silent, silent_replicate _ _⟩)
    rw [List.length_append, List.length_replicate]
    omega

/-- A step keeps records that can be formatted. -/
theorem formats_step {label : LoggingStep Thread Record}
    (known : ∀ thread record, label = .log thread record → setup.formats record = true)
    (formats : ∀ thread, (logging.phase thread).formats setup.formats = true) (thread : Thread) :
    ((logging.step setup label).phase thread).formats setup.formats = true := by
  have moves := moves_step setup logging label thread
  generalize (logging.step setup label).phase thread = after at moves ⊢
  cases moves with
  | stays => exact formats thread
  | called record isLog idle => exact known thread record isLog
  | goes isGo => exact (formats_nextPhase _).trans (formats thread)
  | reported record isReport found => rfl

theorem exclusive_run (setup : LogSetup Handler Record)
    (labels : List (LoggingStep Thread Record)) :
    (Transition.run (step setup) start labels).Exclusive := by
  have kept (state : Logging Thread Handler Record) (label : LoggingStep Thread Record)
      (exclusive : state.Exclusive) : (state.step setup label).Exclusive := exclusive.step label
  exact Transition.run_invariant kept Exclusive.start labels

/-- As long as all records that are logged can be formatted, so can those in a call. -/
theorem formats_run {labels : List (LoggingStep Thread Record)}
    (known : ∀ thread record, .log thread record ∈ labels → setup.formats record = true)
    (thread : Thread) :
    ((Transition.run (step setup) start labels).phase thread).formats setup.formats = true := by
  have kept (state : Logging Thread Handler Record) (label : LoggingStep Thread Record)
      (known : ∀ thread record, label = .log thread record → setup.formats record = true)
      (formats : ∀ thread, (state.phase thread).formats setup.formats = true) :
      ∀ thread, ((state.step setup label).phase thread).formats setup.formats = true :=
    formats_step known formats
  have along : Transition.Along (step setup) (fun _ label => ∀ thread record,
      label = .log thread record → setup.formats record = true) start labels := by
    rw [Transition.along_iff_forall]
    intro earlier label later split caller record called
    exact known caller record (by rw [split, ← called]; exact List.mem_append_cons_self)
  exact Transition.run_invariant_along kept (fun _ => rfl) along thread

/-- A thread that is held up stays so while the console takes nothing. -/
theorem held_run (exclusive : logging.Exclusive) {thread other : Thread}
    (busy : logging.phase thread ≠ .idle) (held : logging.HeldBy setup thread other)
    {labels : List (LoggingStep Thread Record)}
    (silent : ∀ label ∈ labels, label.byConsole = false) :
    (Transition.run (step setup) logging labels).phase thread ≠ .idle := by
  have kept (state : Logging Thread Handler Record) (label : LoggingStep Thread Record)
      (silent : label.byConsole = false)
      (holds : state.Exclusive ∧ state.phase thread ≠ .idle ∧ state.HeldBy setup thread other) :
      (state.step setup label).Exclusive ∧ (state.step setup label).phase thread ≠ .idle ∧
        (state.step setup label).HeldBy setup thread other :=
    ⟨holds.1.step label, held_step holds.1 holds.2.1 holds.2.2 silent⟩
  have along : Transition.Along (step setup) (fun _ label => label.byConsole = false) logging
      labels := by
    rw [Transition.along_iff_forall]
    intro earlier label later split
    exact silent label (by rw [split]; exact List.mem_append_cons_self)
  exact (Transition.run_invariant_along kept ⟨exclusive, busy, held⟩ along).2.1

/-- In every run the books of the queue balance, and no thread is held up as long as all records that
are logged can be formatted. A thread in a call that is not held up can return, its record put,
without a step of the console; and once it has the lock it does return with its next four steps that
do not find the listener in the queue, whatever else happens. A thread that is held up does not return
before the console takes what it is given. -/
theorem logging_waits_for_the_console_iff (setup : LogSetup Handler Record)
    (labels : List (LoggingStep Thread Record)) :
    let logging := Transition.run (step setup) start labels
    LogBooks.Balanced setup logging.books ∧
    ((∀ thread record, .log thread record ∈ labels → setup.formats record = true) →
      ∀ thread other, ¬ logging.HeldBy setup thread other) ∧
    ∀ thread, logging.phase thread ≠ .idle →
      ((∀ other, ¬ logging.HeldBy setup thread other) →
        logging.CanReturn setup thread ∧
        ((logging.phase thread).inside = true → ∀ later : List (LoggingStep Thread Record),
          4 ≤ granted setup thread logging later → ∃ done, done <+: later ∧
            (Transition.run (step setup) logging done).phase thread = .idle)) ∧
      ∀ other, logging.HeldBy setup thread other → ∀ later : List (LoggingStep Thread Record),
        (∀ label ∈ later, label.byConsole = false) →
          (Transition.run (step setup) logging later).phase thread ≠ .idle := by
  intro logging
  have balanced (state : Logging Thread Handler Record) (label : LoggingStep Thread Record)
      (kept : LogBooks.Balanced setup state.books) :
      LogBooks.Balanced setup (state.step setup label).books := balanced_step kept label
  have exclusive : logging.Exclusive := exclusive_run setup labels
  refine ⟨Transition.run_invariant balanced LogBooks.Balanced.start labels, ?_, ?_⟩
  · intro known thread other held
    have formats := formats_run known other
    rw [held.2] at formats
    cases formats
  · intro thread busy
    refine ⟨fun free => ⟨can_return exclusive free, fun inside later enough => ?_⟩,
      fun other held later silent => held_run exclusive busy held silent⟩
    have formats : (logging.phase thread).formats setup.formats = true := by
      by_contra unformatted
      exact free thread ⟨.inl rfl, Bool.eq_false_iff.mpr unformatted⟩
    exact leaves exclusive inside formats ((LogPhase.inside_iff.mp inside).2.trans enough)

end Logging

end RcTaxi
