/-
This file models `safety/watchdog.py` and the thread of `workers/periodic_worker.py` that it
watches. A worker records the moment its last tick began once the tick has returned, and the
watchdog latches the stop when that moment is too long ago. A record of zero means that there is
none yet, and such a worker is passed over.

So a worker that hangs behind a recorded tick is noticed, and one that hangs in its first tick, or
before it, is not. The moments at which threads were started and at which their ticks began are kept
beside the record, to compare it with.
-/

import RcTaxi.ArrivalReport
import RcTaxi.ForcedStop

namespace RcTaxi

/-! ### A watched thread -/

/-- Where the thread of a worker is: a wait has a moment when it is over, a tick one when it
began. -/
inductive ThreadPhase (α : Type)
  | created
  | settingUp
  | waiting (due : α)
  | ticking (started : α)
  | ticked (started : α)
  | ended

/-- A `PeriodicWorker`, and whether its `on_error` latches the stop. The program does not keep when
the thread was started and when the ticks began that have returned. -/
structure PeriodicWorker (α : Type) where
  intervalSec : α
  onError : Bool
  lastTickMonotonic : α
  phase : ThreadPhase α
  startedAt : Option α
  completed : List α

/-- What a thread does next. -/
inductive ThreadStep
  | start
  | setUp
  | loop
  | returns
  | record
  | raises

variable {α : Type} [Scalar α]

namespace PeriodicWorker

/-- `__init__`. -/
def new (intervalSec : α) (onError : Bool) : PeriodicWorker α :=
  ⟨intervalSec, onError, 0, .created, none, []⟩

/-- A step of `start` and `_run`; a thread that is elsewhere does not take it. -/
def advance (now : α) (stopEvent : Bool) (worker : PeriodicWorker α) :
    ThreadStep → PeriodicWorker α
  | .start => match worker.phase with
    | .created => { worker with phase := .settingUp, startedAt := some now }
    | _ => worker
  | .setUp => match worker.phase with
    | .settingUp => { worker with phase := .waiting now }
    | _ => worker
  | .loop => match worker.phase with
    | .waiting due =>
      if stopEvent then { worker with phase := .ended }
      else if due ≤ now then { worker with phase := .ticking now }
      else worker
    | _ => worker
  | .returns => match worker.phase with
    | .ticking started =>
      { worker with phase := .ticked started, completed := started :: worker.completed }
    | _ => worker
  | .record => match worker.phase with
    | .ticked started =>
      { worker with
        phase := .waiting (now + max 0 (worker.intervalSec - (now - started)))
        lastTickMonotonic := started }
    | _ => worker
  | .raises => match worker.phase with
    | .settingUp | .ticking _ => { worker with phase := .ended }
    | _ => worker

/-- The thread is where an exception of the worker is caught. -/
def canRaise (worker : PeriodicWorker α) : Bool :=
  match worker.phase with
  | .settingUp | .ticking _ => true
  | _ => false

/-- How long a worker may be silent: `STALL_FACTOR` intervals, and at least `MIN_STALL_SEC`. -/
def limit (worker : PeriodicWorker α) : α := max (worker.intervalSec * 5) 1

/-- The recorded moment is too long ago. -/
def Stalled (now : α) (worker : PeriodicWorker α) : Prop :=
  worker.lastTickMonotonic ≠ 0 ∧ worker.limit < now - worker.lastTickMonotonic

/-- The thread was started longer than the limit ago, and no tick that began since has returned. -/
structure Silent (now : α) (worker : PeriodicWorker α) : Prop where
  started : ∃ since, worker.startedAt = some since ∧ worker.limit < now - since
  nothing : ∀ began ∈ worker.completed, worker.limit < now - began

end PeriodicWorker

/-! ### The watchdog -/

/-- `latch_stop` where drivers may raise: whether it returns, and what it leaves behind. -/
def latchStopUnder (fault : DriverFault) (car : Car α) : Bool × Car α :=
  let attempted := SafetySupervisor.forceStop.attempt fault.raises OutputOp.handle
    { car with latched := true }
  (attempted.1.isSome, attempted.2)

/-- The loop of `SafetyWatchdog.tick`: whether it returns, and the car. -/
def watch (fault : DriverFault) (now : α) : List (PeriodicWorker α) → Car α → Bool × Car α
  | [], car => (true, car)
  | worker :: rest, car =>
    if worker.lastTickMonotonic = 0 then watch fault now rest car
    else if worker.limit < now - worker.lastTickMonotonic then
      let (returns, car) := latchStopUnder fault car
      if returns then watch fault now rest car else (false, car)
    else watch fault now rest car

/-- The threads beside each other, the clock, and the heartbeat file of the watchdog. -/
structure WatchedSystem (α : Type) where
  now : α
  stopEvent : Bool
  car : Car α
  workers : ℕ → PeriodicWorker α
  watchdogRuns : Bool
  heartbeat : Option α

/-- What happens next. Between the steps of the workers and the watchdog time passes, and other
threads latch and release the stop and change what the car does besides. -/
inductive WatchLabel (α : Type)
  | pass (duration : α)
  | thread (index : ℕ) (step : ThreadStep) (fault : DriverFault)
  | watchdogTick (written : Bool) (fault : DriverFault)
  | endWatchdog
  | setStopEvent
  | latchStop (fault : DriverFault)
  | release
  | otherCar (car : Car α)

namespace WatchedSystem

/-- No thread has been started. -/
def start (now : α) (car : Car α) (workers : ℕ → α × Bool) : WatchedSystem α where
  now := now
  stopEvent := false
  car := car
  workers index := .new (workers index).1 (workers index).2
  watchdogRuns := true
  heartbeat := none

/-- A step of a worker; an exception is reported to its `on_error`. -/
def stepThread (index : ℕ) (step : ThreadStep) (fault : DriverFault) (system : WatchedSystem α) :
    WatchedSystem α :=
  let worker := system.workers index
  { system with
    workers := Function.update system.workers index
      (worker.advance system.now system.stopEvent step)
    car := match step with
      | .raises =>
        if worker.canRaise && worker.onError then (latchStopUnder fault system.car).2
        else system.car
      | _ => system.car }

/-- `SafetyWatchdog.tick`. An exception ends the watchdog, which has no `on_error`. -/
def tickWatchdog (watched : List ℕ) (written : Bool) (fault : DriverFault)
    (system : WatchedSystem α) : WatchedSystem α :=
  let (returns, car) := watch fault system.now (watched.map system.workers) system.car
  { system with
    car := car
    watchdogRuns := returns
    heartbeat := if written then some system.now else system.heartbeat }

def step (watched : List ℕ) (system : WatchedSystem α) : WatchLabel α → WatchedSystem α
  | .pass duration => if 0 ≤ duration then { system with now := system.now + duration } else system
  | .thread index step fault => system.stepThread index step fault
  | .watchdogTick written fault =>
    if system.watchdogRuns then system.tickWatchdog watched written fault else system
  | .endWatchdog => if system.stopEvent then { system with watchdogRuns := false } else system
  | .setStopEvent => { system with stopEvent := true }
  | .latchStop fault => { system with car := (latchStopUnder fault system.car).2 }
  | .release => { system with car := { system.car with latched := false } }
  | .otherCar car => { system with car := { car with latched := system.car.latched } }

end WatchedSystem

/-! ### What the watchdog does -/

theorem latchStopUnder_latched (fault : DriverFault) (car : Car α) :
    (latchStopUnder fault car).2.latched = true := by
  have kept : ∀ (op : OutputOp α) (car : Car α), car.latched = true →
      (op.handle car).2.latched = true := by
    intro op car latched
    cases op <;> exact latched
  exact Program.attempt_invariant kept SafetySupervisor.forceStop { car with latched := true } rfl

/-- After the loop the stop is latched if it was before, or if a watched worker has stalled. -/
theorem watch_latched (fault : DriverFault) (now : α) (workers : List (PeriodicWorker α))
    (car : Car α) :
    (watch fault now workers car).2.latched = true ↔
      car.latched = true ∨ ∃ worker ∈ workers, worker.Stalled now := by
  induction workers generalizing car with
  | nil => simp only [watch, List.not_mem_nil, false_and, exists_false, or_false]
  | cons worker rest inductionHypothesis =>
    have skipped (live : ¬worker.Stalled now) :
        (watch fault now rest car).2.latched = true ↔
          car.latched = true ∨ ∃ other ∈ worker :: rest, other.Stalled now := by
      rw [inductionHypothesis, List.exists_mem_cons_iff, or_iff_right live]
    rw [watch]
    split
    next unrecorded => exact skipped fun stalled => stalled.1 unrecorded
    next recorded =>
      split
      next late =>
        have stalled : ∃ other ∈ worker :: rest, other.Stalled now :=
          ⟨worker, List.mem_cons_self, recorded, late⟩
        have latched := latchStopUnder_latched fault car
        refine iff_of_true ?_ (Or.inr stalled)
        dsimp only
        split
        · exact (inductionHypothesis _).mpr (Or.inl latched)
        · exact latched
      next live => exact skipped fun stalled => live stalled.2

/-! ### What is recorded -/

namespace PeriodicWorker

/-- What a step of the thread does: it waits or runs on, a tick returns, or its moment is
recorded. -/
inductive Advanced (now : α) (worker : PeriodicWorker α) : PeriodicWorker α → Prop
  | stays : Advanced now worker worker
  | moves (phase : ThreadPhase α) (startedAt : Option α)
      (before : ∀ started, worker.phase ≠ .ticked started)
      (after : ∀ started, phase ≠ .ticked started)
      (began : ∀ started, phase = .ticking started → started = now) :
      Advanced now worker { worker with phase := phase, startedAt := startedAt }
  | returns (started : α) (before : worker.phase = .ticking started) :
      Advanced now worker
        { worker with phase := .ticked started, completed := started :: worker.completed }
  | records (started due : α) (before : worker.phase = .ticked started) :
      Advanced now worker { worker with phase := .waiting due, lastTickMonotonic := started }

theorem advance_advanced (now : α) (stopEvent : Bool) (worker : PeriodicWorker α)
    (step : ThreadStep) : Advanced now worker (worker.advance now stopEvent step) := by
  obtain ⟨intervalSec, onError, lastTickMonotonic, phase, startedAt, completed⟩ := worker
  cases step with
  | start =>
    cases phase with
    | created => exact .moves .settingUp (some now) nofun nofun nofun
    | _ => exact .stays
  | setUp =>
    cases phase with
    | settingUp => exact .moves (.waiting now) startedAt nofun nofun nofun
    | _ => exact .stays
  | loop =>
    cases phase with
    | waiting due =>
      simp only [advance]
      split
      · exact .moves .ended startedAt nofun nofun nofun
      · split
        · exact .moves (.ticking now) startedAt nofun nofun fun _ same =>
            (ThreadPhase.ticking.inj same).symm
        · exact .stays
    | _ => exact .stays
  | returns =>
    cases phase with
    | ticking started => exact .returns started rfl
    | _ => exact .stays
  | record =>
    cases phase with
    | ticked started => exact .records started _ rfl
    | _ => exact .stays
  | raises =>
    cases phase with
    | settingUp | ticking started => exact .moves .ended startedAt nofun nofun nofun
    | _ => exact .stays

/-- A recorded moment is one at which a tick began that has returned. -/
structure Recorded (worker : PeriodicWorker α) : Prop where
  mark : worker.lastTickMonotonic ≠ 0 → worker.lastTickMonotonic ∈ worker.completed
  ticked : ∀ started, worker.phase = .ticked started → started ∈ worker.completed

theorem recorded_new (intervalSec : α) (onError : Bool) : (new intervalSec onError).Recorded :=
  ⟨fun marked => absurd rfl marked, nofun⟩

variable {worker next : PeriodicWorker α} {now : α}

theorem Recorded.advanced (recorded : worker.Recorded) (advanced : Advanced now worker next) :
    next.Recorded := by
  cases advanced with
  | stays => exact recorded
  | moves phase startedAt before after began =>
    exact ⟨recorded.mark, fun started same => absurd same (after started)⟩
  | returns started before =>
    refine ⟨fun marked => List.mem_cons_of_mem _ (recorded.mark marked), fun other same => ?_⟩
    rw [ThreadPhase.ticked.inj same]
    exact List.mem_cons_self
  | records started due before =>
    exact ⟨fun _ => recorded.ticked started before, nofun⟩

/-- A silent worker with a record has stalled. -/
theorem Recorded.stalled (recorded : worker.Recorded) (silent : worker.Silent now)
    (marked : worker.lastTickMonotonic ≠ 0) : worker.Stalled now :=
  ⟨marked, silent.nothing _ (recorded.mark marked)⟩

/-- Ticks begin after the moment zero, and once one has returned there is a record, or it is the
next thing the thread writes. -/
structure Timed (worker : PeriodicWorker α) : Prop where
  ticking : ∀ started, worker.phase = .ticking started → 0 < started
  ticked : ∀ started, worker.phase = .ticked started → 0 < started
  marked : worker.completed ≠ [] →
    worker.lastTickMonotonic ≠ 0 ∨ ∃ started, worker.phase = .ticked started

theorem timed_new (intervalSec : α) (onError : Bool) : (new intervalSec onError).Timed :=
  ⟨nofun, nofun, fun returned => absurd rfl returned⟩

theorem Timed.advanced (timed : worker.Timed) (positive : 0 < now)
    (advanced : Advanced now worker next) : next.Timed := by
  cases advanced with
  | stays => exact timed
  | moves phase startedAt before after began =>
    refine ⟨fun started same => ?_, fun started same => absurd same (after started), ?_⟩
    · rw [began started same]
      exact positive
    · intro returned
      exact Or.inl ((timed.marked returned).resolve_right fun ⟨started, same⟩ =>
        before started same)
  | returns started before =>
    refine ⟨nofun, fun other same => ?_, fun _ => ?_⟩
    · rw [← ThreadPhase.ticked.inj same]
      exact timed.ticking started before
    · exact Or.inr ⟨started, rfl⟩
  | records started due before =>
    exact ⟨nofun, nofun, fun _ => Or.inl (timed.ticked started before).ne'⟩

end PeriodicWorker

/-! ### Runs -/

namespace WatchedSystem

/-- After a tick of the watchdog the stop is latched if a watched worker is silent. -/
def Caught (watched : List ℕ) (system : WatchedSystem α) : WatchLabel α → Prop
  | .watchdogTick written fault => system.watchdogRuns = true →
    ∀ index ∈ watched, (system.workers index).Silent system.now →
      (system.step watched (.watchdogTick written fault)).car.latched = true
  | _ => True

/-- At a tick of the watchdog there is a record of a silent worker, or the stop is latched already,
or another worker has stalled. -/
def Noticed (watched : List ℕ) (system : WatchedSystem α) : WatchLabel α → Prop
  | .watchdogTick _ _ => system.watchdogRuns = true →
    ∀ index ∈ watched, (system.workers index).Silent system.now →
      (system.workers index).lastTickMonotonic ≠ 0 ∨ system.car.latched = true ∨
        ∃ other ∈ watched, (system.workers other).Stalled system.now
  | _ => True

variable {watched : List ℕ} {system : WatchedSystem α}

/-- A tick of the watchdog latches the stop exactly if a watched worker has stalled. -/
theorem tick_latched (running : system.watchdogRuns = true) (written : Bool) (fault : DriverFault) :
    (system.step watched (.watchdogTick written fault)).car.latched = true ↔
      system.car.latched = true ∨ ∃ index ∈ watched, (system.workers index).Stalled system.now := by
  rw [step, if_pos running]
  refine (watch_latched fault system.now (watched.map system.workers) system.car).trans ?_
  simp only [List.mem_map, exists_exists_and_eq_and]

/-- A step of the system leaves a worker alone or is a step of its thread. -/
theorem step_advanced (watched : List ℕ) (system : WatchedSystem α) (label : WatchLabel α)
    (index : ℕ) :
    PeriodicWorker.Advanced system.now (system.workers index)
      ((system.step watched label).workers index) := by
  cases label with
  | thread other step fault =>
    simp only [WatchedSystem.step, stepThread, Function.update_apply]
    split
    next same =>
      rw [same]
      exact PeriodicWorker.advance_advanced _ _ _ _
    next => exact .stays
  | pass | watchdogTick | endWatchdog =>
    rw [step]
    split
    · exact .stays
    · exact .stays
  | setStopEvent | latchStop | release | otherCar => exact .stays

theorem recorded_step (watched : List ℕ) (system : WatchedSystem α) (label : WatchLabel α)
    (recorded : ∀ index, (system.workers index).Recorded) (index : ℕ) :
    ((system.step watched label).workers index).Recorded :=
  (recorded index).advanced (step_advanced watched system label index)

/-- The clock stays above zero. -/
theorem now_step_pos (watched : List ℕ) (label : WatchLabel α) (positive : 0 < system.now) :
    0 < (system.step watched label).now := by
  cases label with
  | pass duration =>
    rw [step]
    split
    next forward => exact add_pos_of_pos_of_nonneg positive forward
    next => exact positive
  | watchdogTick | endWatchdog =>
    rw [step]
    split
    · exact positive
    · exact positive
  | thread | setStopEvent | latchStop | release | otherCar => exact positive

theorem timed_step (watched : List ℕ) (system : WatchedSystem α) (label : WatchLabel α)
    (timed : 0 < system.now ∧ ∀ index, (system.workers index).Timed) :
    0 < (system.step watched label).now ∧
      ∀ index, ((system.step watched label).workers index).Timed :=
  ⟨now_step_pos watched label timed.1, fun index =>
    (timed.2 index).advanced timed.1 (step_advanced watched system label index)⟩

/-- While the records are what they are meant to be, a tick of the watchdog catches the silent
workers exactly if they are noticed. -/
theorem caught_iff_noticed (recorded : ∀ index, (system.workers index).Recorded)
    (label : WatchLabel α) : system.Caught watched label ↔ system.Noticed watched label := by
  cases label with
  | watchdogTick written fault =>
    refine forall_congr' fun running => forall_congr' fun index => forall_congr' fun member =>
      forall_congr' fun silent => (tick_latched running written fault).trans ?_
    constructor
    · exact Or.inr
    · rintro (marked | latched)
      · exact Or.inr ⟨index, member, (recorded index).stalled silent marked⟩
      · exact latched
  | _ => exact Iff.rfl

/-- In every run the watchdog catches all hangs exactly if at its ticks there is a record of every
silent worker, or the stop is latched besides. -/
theorem catches_hangs_iff (watched : List ℕ) (now : α) (car : Car α) (workers : ℕ → α × Bool)
    (labels : List (WatchLabel α)) :
    Transition.Along (step watched) (Caught watched) (start now car workers) labels ↔
      Transition.Along (step watched) (Noticed watched) (start now car workers) labels :=
  Transition.along_congr_of_kept (recorded_step watched)
    (fun _ label recorded => caught_iff_noticed recorded label)
    (fun index => PeriodicWorker.recorded_new (workers index).1 (workers index).2) labels

/-- The first tick of a thread does not return, and the watchdog passes the thread over. -/
theorem not_caught_firstTick :
    ¬Transition.Along (step [0]) (Caught [0])
      (start (10 : ℚ) StopSystem.movingCar fun _ => (1 / 50, true))
      [.thread 0 .start .none, .thread 0 .setUp .none, .thread 0 .loop .none, .pass 100,
        .watchdogTick true .none] := by
  rintro ⟨-, -, -, -, caught, -⟩
  have latched := caught rfl 0 List.mem_cons_self
    ⟨⟨10, rfl, by decide +kernel⟩, fun _ => nofun⟩
  exact absurd latched (by decide +kernel)

/-- With a clock above zero a hang is caught once a tick of the thread has returned and its moment
is recorded. -/
theorem later_hang_latched {now : α} (positive : 0 < now) (car : Car α) (workers : ℕ → α × Bool)
    (labels : List (WatchLabel α)) (written : Bool) (fault : DriverFault) {index : ℕ}
    (member : index ∈ watched)
    (reached : Transition.run (step watched) (start now car workers) labels = system)
    (running : system.watchdogRuns = true) (silent : (system.workers index).Silent system.now)
    (returned : (system.workers index).completed ≠ [])
    (noted : ∀ started, (system.workers index).phase ≠ .ticked started) :
    (system.step watched (.watchdogTick written fault)).car.latched = true := by
  have recorded : ∀ index, (system.workers index).Recorded := by
    rw [← reached]
    exact Transition.run_invariant (recorded_step watched)
      (fun index => PeriodicWorker.recorded_new (workers index).1 (workers index).2) labels
  have timed : 0 < system.now ∧ ∀ index, (system.workers index).Timed := by
    rw [← reached]
    exact Transition.run_invariant (timed_step watched)
      ⟨positive, fun index => PeriodicWorker.timed_new (workers index).1 (workers index).2⟩ labels
  have marked : (system.workers index).lastTickMonotonic ≠ 0 :=
    ((timed.2 index).marked returned).resolve_right fun ⟨started, same⟩ => noted started same
  exact (tick_latched running written fault).mpr
    (Or.inr ⟨index, member, (recorded index).stalled silent marked⟩)

end WatchedSystem

end RcTaxi
