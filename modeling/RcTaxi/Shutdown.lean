/-
This file models `initialize`, `start` and `shutdown` of `app/runtime.py`, as far as they build and
end what drives the car. `main.py` calls `shutdown` however the other two ended, so it meets a runtime
of which a part was built. It stops the motor first, and last removes the heartbeat, by which the
guard tells an ended car from a frozen one.

To join a thread that was never started raises, and an exception leaves out the rest of the shutdown.
The first stop does not hold: the control thread may be inside a tick and drive again. So the file
asks when a shutdown comes to its end, and what the motor does then. The drivers are those of
`OutputOp`; the clean-up of the real motor driver stops the motor.
-/

import RcTaxi.ForcedStop

namespace RcTaxi

/-! ### Building -/

/-- The steps of `initialize` and `start` that leave something behind for the shutdown. -/
inductive SetupStep
  | createMotor
  | createSteering
  | createSupervisor
  | createLocalizationClient
  | createControlClient
  | createSegAdapter
  | createWorkers
  | startLocalizationClient
  | startControlClient
  | startWorker (index : ℕ)
  deriving DecidableEq

/-- A `Runtime`: what it has, and which of its threads were started. -/
structure RuntimeParts where
  motor : Bool
  steering : Bool
  supervisor : Bool
  localizationClient : Option Bool
  controlClient : Option Bool
  segAdapter : Bool
  workers : List Bool
  deriving DecidableEq

namespace RuntimeParts

/-- `__init__`. -/
def new : RuntimeParts := ⟨false, false, false, none, none, false, []⟩

/-- One step, where so many workers are made. -/
def perform (count : ℕ) (runtime : RuntimeParts) : SetupStep → RuntimeParts
  | .createMotor => { runtime with motor := true }
  | .createSteering => { runtime with steering := true }
  | .createSupervisor => { runtime with supervisor := true }
  | .createLocalizationClient => { runtime with localizationClient := some false }
  | .createControlClient => { runtime with controlClient := some false }
  | .createSegAdapter => { runtime with segAdapter := true }
  | .createWorkers => { runtime with workers := List.replicate count false }
  | .startLocalizationClient => { runtime with localizationClient := some true }
  | .startControlClient => { runtime with controlClient := some true }
  | .startWorker index => { runtime with workers := runtime.workers.set index true }

/-- The steps up to the workers; the vision is read unless `seg_mode` is `off`. -/
def setupHead : Bool → List SetupStep
  | true => [.createMotor, .createSteering, .createSupervisor, .createLocalizationClient,
    .createControlClient, .createSegAdapter, .createWorkers, .startLocalizationClient,
    .startControlClient]
  | false => [.createMotor, .createSteering, .createSupervisor, .createLocalizationClient,
    .createControlClient, .createWorkers, .startLocalizationClient, .startControlClient]

/-- All steps in order. -/
def setup (vision : Bool) (count : ℕ) : List SetupStep :=
  setupHead vision ++ (List.range count).map .startWorker

/-- The runtime where an exception ended the setup behind so many steps, or none did. -/
def built (vision : Bool) (count taken : ℕ) : RuntimeParts :=
  ((setup vision count).take taken).foldl (perform count) new

end RuntimeParts

/-! ### Ending -/

/-- The steps of `shutdown`. -/
inductive ShutdownStep
  | motorStop
  | centerSteering
  | setControlCommand
  | setStopEvent
  | join (index : ℕ)
  | stopControlClient
  | stopLocalizationClient
  | closeSegAdapter
  | cleanupMotor
  | cleanupSteering
  | clearHeartbeat
  deriving DecidableEq

namespace RuntimeParts

variable (runtime : RuntimeParts)

/-- The steps under `try`. -/
def stopSteps : List ShutdownStep :=
  if runtime.supervisor then [.motorStop, .centerSteering, .setControlCommand] else []

/-- A step that is made where there is something to end. -/
def optional (there : Bool) (step : ShutdownStep) : List ShutdownStep :=
  if there then [step] else []

/-- The steps under `finally` before the drivers are cleaned up. -/
def beforeCleanup : List ShutdownStep :=
  .setStopEvent :: (List.range runtime.workers.length).map .join ++
    optional runtime.controlClient.isSome .stopControlClient ++
    optional runtime.localizationClient.isSome .stopLocalizationClient ++
    optional runtime.segAdapter .closeSegAdapter

/-- The steps under `finally` up to the last. -/
def beforeClear : List ShutdownStep :=
  runtime.beforeCleanup ++ optional runtime.motor .cleanupMotor ++
    optional runtime.steering .cleanupSteering

/-- The steps under `finally`. -/
def finalSteps : List ShutdownStep := runtime.beforeClear ++ [.clearHeartbeat]

/-- To join a thread that was not started raises. -/
def joinsUnstarted : ShutdownStep → Bool
  | .join index => runtime.workers[index]? = some false
  | .stopControlClient => runtime.controlClient = some false
  | .stopLocalizationClient => runtime.localizationClient = some false
  | _ => false

/-- The steps that return: those under `finally` are made even if one under `try` raises. -/
def shutdown (raises : ShutdownStep → Bool) : List ShutdownStep :=
  runtime.stopSteps.takeWhile (!raises ·) ++ runtime.finalSteps.takeWhile (!raises ·)

/-- Every thread that was made was started. -/
def AllStarted : Prop :=
  (∀ started ∈ runtime.workers, started = true) ∧ runtime.controlClient ≠ some false ∧
    runtime.localizationClient ≠ some false

/-! ### When a shutdown ends -/

/-- The last of some steps is made if and only if none of them raises. -/
theorem last_mem_takeWhile {Step : Type} {makes : Step → Bool} {front : List Step} {last : Step}
    (absent : last ∉ front) :
    last ∈ (front ++ [last]).takeWhile makes ↔ ∀ step ∈ front ++ [last], makes step = true := by
  induction front with
  | nil =>
    rw [List.nil_append, List.forall_mem_singleton, List.takeWhile_cons,
      List.takeWhile_nil]
    split
    next makesLast => exact iff_of_true (List.mem_singleton_self _) makesLast
    next raisesLast => exact iff_of_false List.not_mem_nil raisesLast
  | cons step front inductionHypothesis =>
    obtain ⟨different, absent⟩ := not_or.mp (List.mem_cons.not.mp absent)
    rw [List.cons_append, List.takeWhile_cons, List.forall_mem_cons, ← inductionHypothesis absent]
    split
    next makesStep =>
      rw [List.mem_cons, or_iff_right different, and_iff_right makesStep]
    next raisesStep => exact iff_of_false List.not_mem_nil fun all => raisesStep all.1

theorem mem_optional {there : Bool} {step made : ShutdownStep} :
    step ∈ optional there made ↔ there = true ∧ step = made := by
  cases there with
  | true => exact List.mem_singleton.trans (and_iff_right rfl).symm
  | false => exact iff_of_false List.not_mem_nil fun made => Bool.false_ne_true made.1

theorem mem_beforeCleanup {step : ShutdownStep} : step ∈ runtime.beforeCleanup ↔
    step = .setStopEvent ∨ (∃ index < runtime.workers.length, step = .join index) ∨
      (runtime.controlClient.isSome ∧ step = .stopControlClient) ∨
      (runtime.localizationClient.isSome ∧ step = .stopLocalizationClient) ∨
      (runtime.segAdapter ∧ step = .closeSegAdapter) := by
  simp only [beforeCleanup, List.mem_append, List.mem_cons, List.mem_map, List.mem_range,
    mem_optional, or_assoc, @eq_comm ShutdownStep]

theorem mem_beforeClear {step : ShutdownStep} : step ∈ runtime.beforeClear ↔
    step = .setStopEvent ∨ (∃ index < runtime.workers.length, step = .join index) ∨
      (runtime.controlClient.isSome ∧ step = .stopControlClient) ∨
      (runtime.localizationClient.isSome ∧ step = .stopLocalizationClient) ∨
      (runtime.segAdapter ∧ step = .closeSegAdapter) ∨ (runtime.motor ∧ step = .cleanupMotor) ∨
      (runtime.steering ∧ step = .cleanupSteering) := by
  rw [beforeClear, List.mem_append, List.mem_append, mem_beforeCleanup, mem_optional, mem_optional]
  simp only [or_assoc]

theorem clear_not_mem_beforeClear : ShutdownStep.clearHeartbeat ∉ runtime.beforeClear := by
  rw [mem_beforeClear]
  simp only [reduceCtorEq, and_false, exists_false, or_self, not_false_eq_true]

/-- What is removed last is removed if and only if nothing under `finally` raises. -/
theorem clear_mem_shutdown (raises : ShutdownStep → Bool) :
    .clearHeartbeat ∈ runtime.shutdown raises ↔ ∀ step ∈ runtime.finalSteps, raises step = false := by
  have unstopped : ShutdownStep.clearHeartbeat ∉ runtime.stopSteps.takeWhile (!raises ·) := by
    intro member
    have made := (List.takeWhile_sublist _).subset member
    unfold stopSteps at made
    split at made
    · exact absurd made (by decide)
    · exact absurd made List.not_mem_nil
  rw [shutdown, List.mem_append, or_iff_right unstopped, finalSteps,
    last_mem_takeWhile runtime.clear_not_mem_beforeClear]
  simp only [Bool.not_eq_true']

/-- Of the steps under `finally` none joins an unstarted thread, if and only if all were started. -/
theorem allStarted_iff :
    runtime.AllStarted ↔ ∀ step ∈ runtime.finalSteps, runtime.joinsUnstarted step = false := by
  have made (step : ShutdownStep) : step ∈ runtime.finalSteps ↔
      step ∈ runtime.beforeClear ∨ step = .clearHeartbeat :=
    List.mem_append.trans (or_congr_right List.mem_singleton)
  constructor
  · rintro ⟨workers, control, localization⟩ step member
    rcases (made step).mp member with member | rfl
    · rcases runtime.mem_beforeClear.mp member with rfl | ⟨index, within, rfl⟩ | ⟨-, rfl⟩ | ⟨-, rfl⟩ |
        ⟨-, rfl⟩ | ⟨-, rfl⟩ | ⟨-, rfl⟩
      · rfl
      · refine decide_eq_false fun unstarted => ?_
        exact Bool.false_ne_true (workers false (List.mem_of_getElem? unstarted))
      · exact decide_eq_false control
      · exact decide_eq_false localization
      · rfl
      · rfl
      · rfl
    · rfl
  · intro none
    refine ⟨fun started member => ?_, fun control => ?_, fun localization => ?_⟩
    · obtain ⟨index, within, found⟩ := List.getElem_of_mem member
      have joined := none (.join index)
        ((made _).mpr (.inl (runtime.mem_beforeClear.mpr (.inr (.inl ⟨index, within, rfl⟩)))))
      cases started with
      | true => rfl
      | false =>
        exact absurd ((List.getElem?_eq_getElem within).trans (congrArg some found))
          (of_decide_eq_false joined)
    · refine absurd control (of_decide_eq_false (none .stopControlClient ((made _).mpr (.inl
        (runtime.mem_beforeClear.mpr (.inr (.inr (.inl ⟨?_, rfl⟩))))))))
      rw [control]
      rfl
    · refine absurd localization (of_decide_eq_false (none .stopLocalizationClient ((made _).mpr (.inl
        (runtime.mem_beforeClear.mpr (.inr (.inr (.inr (.inl ⟨?_, rfl⟩)))))))))
      rw [localization]
      rfl

/-- The workers are joined before the motor is cleaned up. -/
theorem finalSteps_split (motor : runtime.motor = true) :
    ∃ front back, runtime.finalSteps = front ++ .cleanupMotor :: back ∧
      .cleanupMotor ∉ front ∧ ∀ index < runtime.workers.length, .join index ∈ front := by
  refine ⟨runtime.beforeCleanup, optional runtime.steering .cleanupSteering ++ [.clearHeartbeat], ?_,
    ?_, fun index within => runtime.mem_beforeCleanup.mpr (.inr (.inl ⟨index, within, rfl⟩))⟩
  · rw [finalSteps, beforeClear, motor, optional, if_pos rfl, List.append_assoc, List.append_assoc,
      List.singleton_append]
  · rw [mem_beforeCleanup]
    simp only [reduceCtorEq, and_false, exists_false, or_self, not_false_eq_true]

/-! ### Where the setup may end -/

/-- The runtime before any worker is started. -/
def headBuilt (vision : Bool) (count : ℕ) : RuntimeParts :=
  ⟨true, true, true, some true, some true, vision, List.replicate count false⟩

theorem perform_startWorkers (count : ℕ) (runtime : RuntimeParts) (indices : List ℕ) :
    (indices.map SetupStep.startWorker).foldl (perform count) runtime =
      { runtime with
        workers := indices.foldl (fun workers index => workers.set index true) runtime.workers } := by
  induction indices generalizing runtime with
  | nil => rfl
  | cons index indices inductionHypothesis =>
    rw [List.map_cons, List.foldl_cons, inductionHypothesis]
    rfl

/-- The workers are started from the first on. -/
theorem set_range (count started : ℕ) (within : started ≤ count) :
    (List.range started).foldl (fun workers index => workers.set index true)
        (List.replicate count false) =
      List.replicate started true ++ List.replicate (count - started) false := by
  induction started with
  | zero => rfl
  | succ started inductionHypothesis =>
    rw [List.range_succ, List.foldl_append, inductionHypothesis (Nat.le_of_succ_le within),
      List.foldl_cons, List.foldl_nil]
    obtain ⟨rest, split⟩ : ∃ rest, count - started = rest + 1 :=
      ⟨count - started - 1, (Nat.sub_add_cancel (Nat.sub_pos_of_lt within)).symm⟩
    have left : count - (started + 1) = rest := by omega
    rw [split, left, List.set_append_right _ _ (List.length_replicate ▸ le_refl _),
      List.length_replicate, Nat.sub_self, List.replicate_succ, List.set_cons_zero,
      List.replicate_succ', List.append_assoc]
    rfl

theorem length_setup (vision : Bool) (count : ℕ) :
    (setup vision count).length = (setupHead vision).length + count := by
  rw [setup, List.length_append, List.length_map, List.length_range]

/-- Where the setup ended before the workers. -/
theorem built_of_le {vision : Bool} {count taken : ℕ} (early : taken ≤ (setupHead vision).length) :
    built vision count taken = ((setupHead vision).take taken).foldl (perform count) new := by
  rw [built, setup, List.take_append_of_le_length early]

/-- Where the setup ended behind so many workers. -/
theorem built_of_ge (vision : Bool) (count started : ℕ) (within : started ≤ count) :
    built vision count ((setupHead vision).length + started) =
      { headBuilt vision count with
        workers := List.replicate started true ++ List.replicate (count - started) false } := by
  have head : (setupHead vision).foldl (perform count) new = headBuilt vision count := by
    cases vision with
    | false | true => rfl
  rw [built, setup, List.take_length_add_append, List.foldl_append, head, ← List.map_take,
    List.take_range, Nat.min_eq_left within, perform_startWorkers]
  rw [← set_range count started within]
  rfl

theorem built_of_length_le {vision : Bool} {count taken : ℕ}
    (late : (setup vision count).length ≤ taken) :
    built vision count taken = built vision count (setup vision count).length := by
  rw [built, built, List.take_of_length_le late, List.take_length]

/-- Where the setup ended within the clients, one of them was made and not started. -/
theorem not_allStarted_within {vision : Bool} {count taken : ℕ} (after : 3 < taken)
    (before : taken < (setupHead vision).length) : ¬(built vision count taken).AllStarted := by
  rw [built_of_le before.le]
  rintro ⟨-, control, localization⟩
  cases vision with
  | false =>
    have bound : taken < 8 := before
    interval_cases taken
    all_goals first
      | exact localization rfl
      | exact control rfl
  | true =>
    have bound : taken < 9 := before
    interval_cases taken
    all_goals first
      | exact localization rfl
      | exact control rfl

/-- Every thread that was made was started exactly where the setup ended before the first of them was
made, or did not end early. -/
theorem allStarted_built_iff (vision : Bool) (count taken : ℕ) :
    (built vision count taken).AllStarted ↔
      taken ≤ 3 ∨ (setup vision count).length ≤ taken := by
  have head : 3 < (setupHead vision).length := by cases vision <;> decide
  rcases Nat.lt_or_ge 3 taken with after | few
  · rw [or_iff_right after.not_ge]
    rcases Nat.lt_or_ge taken (setupHead vision).length with before | behind
    · refine iff_of_false (not_allStarted_within after before) (Nat.not_le.mpr ?_)
      rw [length_setup]
      exact before.trans_le (Nat.le_add_right _ _)
    · rcases Nat.lt_or_ge taken (setup vision count).length with within | late
      · rw [length_setup] at within ⊢
        obtain ⟨started, rfl⟩ := Nat.exists_eq_add_of_le behind
        have fewer : started < count := Nat.lt_of_add_lt_add_left within
        rw [built_of_ge vision count started fewer.le]
        refine iff_of_false (fun all => ?_) within.not_ge
        refine Bool.false_ne_true (all.1 false (List.mem_append_right _ ?_))
        exact List.mem_replicate.mpr ⟨(Nat.sub_pos_of_lt fewer).ne', rfl⟩
      · rw [built_of_length_le late, length_setup, built_of_ge vision count count (le_refl _)]
        refine iff_of_true ⟨fun started member => ?_, nofun, nofun⟩ (length_setup vision count ▸ late)
        rw [Nat.sub_self, List.replicate_zero, List.append_nil] at member
        exact List.eq_of_mem_replicate member
  · refine iff_of_true ?_ (.inl few)
    rw [built_of_le (few.trans head.le)]
    cases vision with
    | false | true =>
      interval_cases taken
      all_goals exact ⟨nofun, nofun, nofun⟩

/-- However the setup ended, and whichever other steps raise, the heartbeat is removed exactly if the
setup ended before the first client was made or did not end early, and no step under `finally` raises
by itself; the stop event is set in any case. -/
theorem clears_heartbeat_iff (vision : Bool) (count taken : ℕ) (raises : ShutdownStep → Bool)
    (sets : raises .setStopEvent = false) :
    let runtime := built vision count taken
    let made := runtime.shutdown fun step => runtime.joinsUnstarted step || raises step
    (.clearHeartbeat ∈ made ↔ (taken ≤ 3 ∨ (setup vision count).length ≤ taken) ∧
      ∀ step ∈ runtime.finalSteps, raises step = false) ∧
      .setStopEvent ∈ made := by
  intro runtime made
  constructor
  · rw [clear_mem_shutdown, ← allStarted_built_iff, allStarted_iff, ← forall₂_and]
    refine forall₂_congr fun step _ => ?_
    rw [Bool.or_eq_false_iff]
  · refine List.mem_append_right _ ?_
    have first : runtime.finalSteps = .setStopEvent :: runtime.finalSteps.tail := rfl
    have goes : (runtime.joinsUnstarted .setStopEvent || raises .setStopEvent) = false := sets
    rw [first, List.takeWhile_cons, if_pos ((Bool.not_eq_true' _).mpr goes)]
    exact List.mem_cons_self

/-- The vision does not run, so the setup ends where it waits for it: nothing is cleaned up. -/
theorem clears_heartbeat_iff_withoutVision :
    let runtime := built true 7 6
    let made := runtime.shutdown fun step => runtime.joinsUnstarted step || false
    .clearHeartbeat ∉ made ∧ .cleanupMotor ∉ made ∧ .setStopEvent ∈ made := by
  refine ⟨fun cleared => ?_, by decide, (clears_heartbeat_iff true 7 6 (fun _ => false) rfl).2⟩
  obtain ⟨ended, -⟩ := (clears_heartbeat_iff true 7 6 (fun _ => false) rfl).1.mp cleared
  exact absurd ended (by decide)

end RuntimeParts

/-! ### The threads of a shutdown -/

variable {α : Type} [Scalar α]

/-- Where the control thread is: at the check of its loop, inside a tick, or inside `apply`. -/
inductive ControlPhase (α : Type)
  | waiting
  | ticking
  | applying (program : OutputProgram α (ControlCommand α))
  | ended

/-- Where the main thread is: before the shutdown, under `try`, or under `finally`. -/
inductive MainPhase
  | running
  | stopping (rest : List ShutdownStep)
  | finishing (rest : List ShutdownStep)

/-- The car, the control thread and the main thread, whether an exception left out the rest of the
shutdown, and whether the heartbeat was removed. -/
structure EndingCar (α : Type) where
  car : Car α
  stopEvent : Bool
  control : ControlPhase α
  main : MainPhase
  abandoned : Bool
  cleared : Bool

/-- What the control thread does next; its worker error latches the stop. -/
inductive ControlStep (α : Type)
  | check
  | apply (command : ControlCommand α)
  | stepApply
  | endTick
  | raiseTick (stops : Bool)

/-- What happens next. Other threads stop the car, and change its store and its latch. -/
inductive EndingLabel (α : Type)
  | control (next : ControlStep α)
  | forceStop
  | other (store : VehicleSnapshot α) (latched : Bool)
  | beginShutdown
  | stepShutdown (raises timedOut : Bool)

/-- What the shutdown goes through, the supervisor, and which of the workers is the control
thread. -/
structure Ending (α : Type) where
  runtime : RuntimeParts
  supervisor : SafetySupervisor α
  controlWorker : ℕ

namespace Ending

variable (ending : Ending α)

/-- The car drives, and nobody has asked for an end. -/
def start (car : Car α) : EndingCar α := ⟨car, false, .waiting, .running, false, false⟩

/-- A step of the shutdown that returns. -/
def effect (state : EndingCar α) : ShutdownStep → EndingCar α
  | .motorStop | .cleanupMotor => { state with car := (OutputOp.motorStop.handle state.car).2 }
  | .centerSteering | .cleanupSteering =>
    { state with car := (OutputOp.centerSteering.handle state.car).2 }
  | .setControlCommand =>
    { state with car := ((OutputOp.setControlCommand stopCommand).handle state.car).2 }
  | .setStopEvent => { state with stopEvent := true }
  | .clearHeartbeat => { state with cleared := true }
  | .join _ | .stopControlClient | .stopLocalizationClient | .closeSegAdapter => state

/-- The thread has ended. -/
def HasEnded : ControlPhase α → Bool
  | .ended => true
  | _ => false

/-- The main thread waits for the control thread. -/
def Waits (state : EndingCar α) (timedOut : Bool) (step : ShutdownStep) : Prop :=
  step = .join ending.controlWorker ∧ timedOut = false ∧ HasEnded state.control = false

instance decidableWaits (state : EndingCar α) (timedOut : Bool) (step : ShutdownStep) :
    Decidable (ending.Waits state timedOut step) :=
  inferInstanceAs (Decidable (_ ∧ _ ∧ _))

/-- A step of the main thread. -/
def stepMain (raises timedOut : Bool) (state : EndingCar α) : EndingCar α :=
  match state.main with
  | .running => state
  | .stopping [] => { state with main := .finishing ending.runtime.finalSteps }
  | .stopping (step :: rest) =>
    if raises then { state with main := .finishing ending.runtime.finalSteps }
    else { effect state step with main := .stopping rest }
  | .finishing [] => state
  | .finishing (step :: rest) =>
    if raises then { state with main := .finishing [], abandoned := true }
    else if ending.Waits state timedOut step then state
    else { effect state step with main := .finishing rest }

/-- A step of the control thread. -/
def stepControl (state : EndingCar α) : ControlStep α → EndingCar α
  | .check => match state.control with
    | .waiting => { state with control := if state.stopEvent then .ended else .ticking }
    | _ => state
  | .apply command => match state.control with
    | .ticking => { state with control := .applying (ending.supervisor.apply command) }
    | _ => state
  | .stepApply => match state.control with
    | .applying program => { state with
        car := (program.step OutputOp.handle state.car).2
        control := match StopSystem.unfinished (program.step OutputOp.handle state.car).1 with
          | some program => .applying program
          | none => .ticking }
    | _ => state
  | .endTick => match state.control with
    | .ticking => { state with control := .waiting }
    | _ => state
  | .raiseTick stops => match state.control with
    | .ticking | .applying _ => { state with
        car := if stops then (OutputOp.motorStop.handle { state.car with latched := true }).2
          else { state.car with latched := true }
        control := .ended }
    | _ => state

/-- A step of a thread. -/
def step (state : EndingCar α) : EndingLabel α → EndingCar α
  | .control next => ending.stepControl state next
  | .forceStop => { state with car := (OutputOp.motorStop.handle state.car).2 }
  | .other store latched => { state with car := { state.car with store := store, latched := latched } }
  | .beginShutdown => match state.main with
    | .running => { state with main := .stopping ending.runtime.stopSteps }
    | _ => state
  | .stepShutdown raises timedOut => ending.stepMain raises timedOut state

/-! ### What the shutdown leaves -/

/-- The control thread has ended, and the motor is off. -/
def Off (state : EndingCar α) : Prop := state.control = .ended ∧ state.car.motorThrottle = 0

/-- How far the shutdown is, unless an exception left out the rest: behind the join the control
thread has ended, and behind the clean-up of the motor the motor is off. -/
structure Behind (state : EndingCar α) (done : List ShutdownStep) : Prop where
  joined : .join ending.controlWorker ∈ done → state.control = .ended
  off : .cleanupMotor ∈ done → Off state

/-- What holds in every run in which the join does not time out. -/
structure Orderly (state : EndingCar α) : Prop where
  stops : ∀ rest, state.main = .stopping rest → .clearHeartbeat ∉ rest
  behind : ∀ rest, state.main = .finishing rest → state.abandoned = false →
    ∃ done, ending.runtime.finalSteps = done ++ rest ∧ ending.Behind state done
  cleared : state.cleared = true → Off state
  ends : state.main = .finishing [] → state.cleared = true ∨ state.abandoned = true
  last : state.cleared = true → state.main = .finishing [] ∧ state.abandoned = false
  leaves : state.abandoned = true → state.main = .finishing []

/-- A step that is found nowhere before comes behind all that is before it. -/
theorem prefix_of_split {Step : Type} {front back done rest : List Step} {step : Step}
    (first : step ∉ front) (same : front ++ step :: back = done ++ step :: rest) :
    front <+: done := by
  induction front generalizing done with
  | nil => exact List.nil_prefix
  | cons head front inductionHypothesis =>
    obtain ⟨different, absent⟩ := not_or.mp (List.mem_cons.not.mp first)
    cases done with
    | nil =>
      injection same with same
      exact absurd same.symm different
    | cons other done =>
      injection same with head rest
      rw [head]
      exact List.prefix_cons_inj other |>.mpr (inductionHypothesis absent rest)

theorem stepControl_ended {state : EndingCar α} (ended : state.control = .ended)
    (next : ControlStep α) : ending.stepControl state next = state := by
  cases next with
  | check | apply command | stepApply | endTick | raiseTick stops => rw [stepControl, ended]

theorem effect_control (state : EndingCar α) (step : ShutdownStep) :
    (effect state step).control = state.control := by
  cases step with
  | _ => rfl

theorem effect_abandoned (state : EndingCar α) (step : ShutdownStep) :
    (effect state step).abandoned = state.abandoned := by
  cases step with
  | _ => rfl

theorem effect_cleared_of_ne (state : EndingCar α) {step : ShutdownStep}
    (other : step ≠ .clearHeartbeat) : (effect state step).cleared = state.cleared := by
  cases step with
  | clearHeartbeat => exact absurd rfl other
  | _ => rfl

theorem effect_off {state : EndingCar α} (off : Off state) (step : ShutdownStep) :
    Off (effect state step) := by
  cases step with
  | motorStop | cleanupMotor => exact ⟨off.1, rfl⟩
  | _ => exact off

/-- A step of the main thread changes the car by one step of the shutdown, or not at all. -/
theorem stepMain_effect (raises timedOut : Bool) (state : EndingCar α) :
    (∃ main abandoned, ending.stepMain raises timedOut state =
        { state with main := main, abandoned := abandoned }) ∨
      ∃ step main, ending.stepMain raises timedOut state =
        { effect state step with main := main } := by
  unfold stepMain
  split
  · exact .inl ⟨state.main, state.abandoned, rfl⟩
  · exact .inl ⟨.finishing ending.runtime.finalSteps, state.abandoned, rfl⟩
  next step rest _ =>
    split
    · exact .inl ⟨.finishing ending.runtime.finalSteps, state.abandoned, rfl⟩
    · exact .inr ⟨step, .stopping rest, rfl⟩
  · exact .inl ⟨state.main, state.abandoned, rfl⟩
  next step rest _ =>
    split
    · exact .inl ⟨.finishing [], true, rfl⟩
    · split
      · exact .inl ⟨state.main, state.abandoned, rfl⟩
      · exact .inr ⟨step, .finishing rest, rfl⟩

/-- An ended control thread does not start again. -/
theorem ended_step {state : EndingCar α} (ended : state.control = .ended) (label : EndingLabel α) :
    (ending.step state label).control = .ended := by
  cases label with
  | control next =>
    rw [step, ending.stepControl_ended ended]
    exact ended
  | forceStop | other store latched => exact ended
  | beginShutdown =>
    rw [step]
    split
    · exact ended
    · exact ended
  | stepShutdown raises timedOut =>
    rw [step]
    rcases ending.stepMain_effect raises timedOut state with ⟨main, abandoned, same⟩ |
      ⟨made, main, same⟩
    · rw [same]
      exact ended
    · rw [same]
      exact (effect_control state made).trans ended

/-- Nothing starts the motor without the control thread. -/
theorem off_step {state : EndingCar α} (off : Off state) (label : EndingLabel α) :
    Off (ending.step state label) := by
  refine ⟨ending.ended_step off.1 label, ?_⟩
  cases label with
  | control next =>
    rw [step, ending.stepControl_ended off.1]
    exact off.2
  | forceStop => rfl
  | other store latched => exact off.2
  | beginShutdown =>
    rw [step]
    split
    · exact off.2
    · exact off.2
  | stepShutdown raises timedOut =>
    rw [step]
    rcases ending.stepMain_effect raises timedOut state with ⟨main, abandoned, same⟩ |
      ⟨made, main, same⟩
    · rw [same]
      exact off.2
    · rw [same]
      exact (effect_off off made).2

theorem Behind.step {ending : Ending α} {state : EndingCar α} {done : List ShutdownStep}
    (behind : ending.Behind state done) (label : EndingLabel α) :
    ending.Behind (ending.step state label) done :=
  ⟨fun made => ending.ended_step (behind.joined made) label,
    fun made => ending.off_step (behind.off made) label⟩

theorem stepControl_main (state : EndingCar α) (next : ControlStep α) :
    (ending.stepControl state next).main = state.main ∧
      (ending.stepControl state next).abandoned = state.abandoned ∧
      (ending.stepControl state next).cleared = state.cleared := by
  cases next with
  | check | apply command | stepApply | endTick | raiseTick stops =>
    rw [stepControl]
    split
    all_goals exact ⟨rfl, rfl, rfl⟩

/-- Where the main thread stays, the shutdown stays in order. -/
theorem Orderly.stays {ending : Ending α} {state : EndingCar α} (orderly : ending.Orderly state)
    (label : EndingLabel α) (main : (ending.step state label).main = state.main)
    (abandoned : (ending.step state label).abandoned = state.abandoned)
    (cleared : (ending.step state label).cleared = state.cleared) :
    ending.Orderly (ending.step state label) where
  stops rest stopping := orderly.stops rest (main.symm.trans stopping)
  behind rest finishing going := by
    obtain ⟨done, steps, behind⟩ :=
      orderly.behind rest (main.symm.trans finishing) (abandoned.symm.trans going)
    exact ⟨done, steps, behind.step label⟩
  cleared isCleared := ending.off_step (orderly.cleared (cleared.symm.trans isCleared)) label
  ends finished := by
    rw [abandoned, cleared]
    exact orderly.ends (main.symm.trans finished)
  last isCleared := by
    rw [main, abandoned]
    exact orderly.last (cleared.symm.trans isCleared)
  leaves isAbandoned := main.trans (orderly.leaves (abandoned.symm.trans isAbandoned))

/-- Before the end nothing is removed, so the shutdown is in order as long as it has not begun its
last part. -/
theorem Orderly.early {ending : Ending α} {state : EndingCar α} (orderly : ending.Orderly state)
    (before : ∀ rest, state.main ≠ .finishing rest) {after : EndingCar α}
    (cleared : after.cleared = state.cleared) (abandoned : after.abandoned = state.abandoned)
    (main : (∃ rest, after.main = .stopping rest ∧ .clearHeartbeat ∉ rest) ∨
      after.main = .finishing ending.runtime.finalSteps) : ending.Orderly after := by
  have kept : ¬after.cleared = true := by
    rw [cleared]
    exact fun isCleared => before [] (orderly.last isCleared).1
  have full : ending.runtime.finalSteps ≠ [] := List.concat_ne_nil _ _
  refine ⟨fun rest stopping => ?_, fun rest finishing _ => ?_, fun isCleared => absurd isCleared kept,
    fun finished => ?_, fun isCleared => absurd isCleared kept,
    fun isAbandoned => absurd (orderly.leaves (abandoned.symm.trans isAbandoned)) (before [])⟩
  · rcases main with ⟨rest', same, absent⟩ | begun
    · cases same.symm.trans stopping
      exact absent
    · cases begun.symm.trans stopping
  · rcases main with ⟨rest', same, -⟩ | begun
    · cases same.symm.trans finishing
    · have same : ending.runtime.finalSteps = rest :=
        MainPhase.finishing.inj (begun.symm.trans finishing)
      exact ⟨[], same, nofun, nofun⟩
  · rcases main with ⟨rest', same, -⟩ | begun
    · cases same.symm.trans finished
    · exact absurd (MainPhase.finishing.inj (begun.symm.trans finished)) full

/-- A step under `finally` that returns, if the join has not timed out. -/
theorem Orderly.finishes {ending : Ending α} {state : EndingCar α} (orderly : ending.Orderly state)
    (motor : ending.runtime.motor = true)
    (worker : ending.controlWorker < ending.runtime.workers.length) {made : ShutdownStep}
    {rest : List ShutdownStep} (finishing : state.main = .finishing (made :: rest))
    (proceeds : ¬ending.Waits state false made) :
    ending.Orderly { effect state made with main := .finishing rest } := by
  have going : state.abandoned = false := by
    rw [← Bool.not_eq_true]
    intro isAbandoned
    have same := finishing.symm.trans (orderly.leaves isAbandoned)
    cases same
  obtain ⟨done, steps, behind⟩ := orderly.behind _ finishing going
  obtain ⟨front, back, split, first, joins⟩ := ending.runtime.finalSteps_split motor
  have full : ending.runtime.finalSteps = (done ++ [made]) ++ rest := by
    rw [steps, List.append_assoc]
    rfl
  have joined : .join ending.controlWorker ∈ done ++ [made] → state.control = .ended := by
    intro member
    rcases List.mem_append.mp member with before | single
    · exact behind.joined before
    · by_contra running
      have goesOn : HasEnded state.control = false := by
        cases control : state.control with
        | ended => exact absurd control running
        | waiting | ticking | applying program => rfl
      exact proceeds ⟨(List.mem_singleton.mp single).symm, rfl, goesOn⟩
  have off : .cleanupMotor ∈ done ++ [made] → Off (effect state made) := by
    intro member
    rcases List.mem_append.mp member with before | single
    · exact effect_off (behind.off before) made
    · cases List.mem_singleton.mp single
      have before := prefix_of_split first (split.symm.trans steps)
      exact ⟨behind.joined (before.subset (joins _ worker)), rfl⟩
  have cleanedUp : made = .clearHeartbeat → rest = [] ∧ Off state := by
    rintro rfl
    have before : ending.runtime.beforeClear <+: done :=
      prefix_of_split ending.runtime.clear_not_mem_beforeClear steps
    refine ⟨?_, behind.off (before.subset ?_)⟩
    · have lengths := congrArg List.length steps
      have shorter := before.length_le
      rw [RuntimeParts.finalSteps, List.length_append, List.length_append, List.length_cons,
        List.length_cons, List.length_nil] at lengths
      exact List.length_eq_zero_iff.mp (by omega)
    · exact ending.runtime.mem_beforeClear.mpr
        (.inr (.inr (.inr (.inr (.inr (.inl ⟨motor, rfl⟩))))))
  have removed : (effect state made).cleared = true → made = .clearHeartbeat := by
    intro cleared
    by_contra other
    rw [effect_cleared_of_ne state other] at cleared
    have same := finishing.symm.trans (orderly.last cleared).1
    cases same
  refine ⟨nofun, fun rest' same _ => ?_, fun cleared => ?_, fun finished => ?_, fun cleared => ?_,
    fun isAbandoned => ?_⟩
  · cases same
    exact ⟨done ++ [made], full, fun member => (effect_control state made).trans (joined member),
      fun member => off member⟩
  · exact effect_off (cleanedUp (removed cleared)).2 made
  · cases finished
    rw [List.append_nil] at full
    obtain ⟨-, last⟩ := List.append_inj' full rfl
    cases last
    exact .inl rfl
  · rw [(cleanedUp (removed cleared)).1]
    exact ⟨rfl, (effect_abandoned state made).trans going⟩
  · exact absurd (going.symm.trans ((effect_abandoned state made).symm.trans isAbandoned))
      Bool.false_ne_true

/-- The join of the control thread does not time out. -/
def Joins (_ : EndingCar α) : EndingLabel α → Prop
  | .stepShutdown _ timedOut => timedOut = false
  | _ => True

instance decidableJoins (state : EndingCar α) : ∀ label, Decidable (Joins state label)
  | .stepShutdown _ timedOut => inferInstanceAs (Decidable (timedOut = false))
  | .control _ | .forceStop | .other _ _ | .beginShutdown => isTrue trivial

theorem orderly_step (motor : ending.runtime.motor = true)
    (worker : ending.controlWorker < ending.runtime.workers.length) (state : EndingCar α)
    (label : EndingLabel α) (joins : Joins state label) (orderly : ending.Orderly state) :
    ending.Orderly (ending.step state label) := by
  cases label with
  | control next =>
    obtain ⟨main, abandoned, cleared⟩ := ending.stepControl_main state next
    exact orderly.stays (.control next) main abandoned cleared
  | forceStop => exact orderly.stays .forceStop rfl rfl rfl
  | other store latched => exact orderly.stays (.other store latched) rfl rfl rfl
  | beginShutdown =>
    rw [step]
    split
    next running =>
      refine orderly.early (fun rest finishing => nomatch running.symm.trans finishing) rfl rfl
        (.inl ⟨_, rfl, ?_⟩)
      unfold RuntimeParts.stopSteps
      split
      · decide
      · exact List.not_mem_nil
    · exact orderly
  | stepShutdown raises timedOut =>
    cases (joins : timedOut = false)
    rw [step]
    unfold stepMain
    split
    · exact orderly
    next stopping =>
      exact orderly.early (fun rest finishing => nomatch stopping.symm.trans finishing) rfl rfl
        (.inr rfl)
    next made rest stopping =>
      have before (rest : List ShutdownStep) : state.main ≠ .finishing rest :=
        fun finishing => nomatch stopping.symm.trans finishing
      obtain ⟨other, absent⟩ := not_or.mp (List.mem_cons.not.mp (orderly.stops _ stopping))
      split
      · exact orderly.early before rfl rfl (.inr rfl)
      · refine orderly.early before ?_ (effect_abandoned state made) (.inl ⟨rest, rfl, absent⟩)
        exact effect_cleared_of_ne state (Ne.symm other)
    · exact orderly
    next made rest finishing =>
      have unremoved : ¬state.cleared = true := fun isCleared =>
        nomatch finishing.symm.trans (orderly.last isCleared).1
      split
      · exact
          { stops := nofun
            behind := fun _ _ => nofun
            cleared := fun isCleared => absurd isCleared unremoved
            ends := fun _ => .inr rfl
            last := fun isCleared => absurd isCleared unremoved
            leaves := fun _ => rfl }
      · split
        · exact orderly
        next proceeds => exact orderly.finishes motor worker finishing proceeds

theorem orderly_start (car : Car α) : ending.Orderly (start car) where
  stops _ stopping := nomatch (stopping : MainPhase.running = _)
  behind _ finishing := nomatch (finishing : MainPhase.running = _)
  cleared cleared := nomatch (cleared : false = true)
  ends finished := nomatch (finished : MainPhase.running = _)
  last cleared := nomatch (cleared : false = true)
  leaves abandoned := nomatch (abandoned : false = true)

/-- Whatever the threads do and whichever step raises, if the join of the control thread does not time
out: once the heartbeat is removed the motor is off and no thread drives it, and a shutdown that ends
otherwise leaves the heartbeat to the guard. -/
theorem off_or_guarded (motor : ending.runtime.motor = true)
    (worker : ending.controlWorker < ending.runtime.workers.length) (car : Car α)
    (labels : List (EndingLabel α)) (joins : Transition.Along ending.step Joins (start car) labels) :
    let state := Transition.run ending.step (start car) labels
    (state.cleared = true → state.control = .ended ∧ state.car.motorThrottle = 0) ∧
      (state.main = .finishing [] → state.cleared = true ∨ state.cleared = false ∧
        state.abandoned = true) := by
  intro state
  have orderly : ending.Orderly state :=
    Transition.run_invariant_along (ending.orderly_step motor worker) (ending.orderly_start car) joins
  refine ⟨orderly.cleared, fun finished => ?_⟩
  rcases orderly.ends finished with cleared | abandoned
  · exact .inl cleared
  · cases cleared : state.cleared with
    | true => exact .inl rfl
    | false => exact .inr ⟨rfl, abandoned⟩

/-- A runtime with one worker, which is the control thread. -/
def single : Ending ℚ := ⟨{ RuntimeParts.headBuilt false 1 with workers := [true] }, ⟨30, 1⟩, 0⟩

/-- The control thread is inside a tick when the shutdown stops the motor, and drives on. -/
def drivesOn : List (EndingLabel ℚ) :=
  [.control .check, .beginShutdown, .stepShutdown false false, .stepShutdown false false,
    .stepShutdown false false, .control (.apply ⟨1, 0⟩), .control .stepApply, .control .stepApply,
    .control .stepApply, .control .stepApply, .control .endTick, .stepShutdown false false,
    .stepShutdown false false, .control .check, .stepShutdown false false]

/-- The closing of a client raises. -/
def raised : List (EndingLabel ℚ) := drivesOn ++ [.stepShutdown true false]

/-- Nothing raises. -/
def completed : List (EndingLabel ℚ) :=
  drivesOn ++ List.replicate 5 (.stepShutdown false false)

/-- The forced stop of the shutdown does not hold. If the closing of a client raises, the motor stays
on, and the heartbeat is left; if the shutdown ends, the motor is off. -/
theorem off_or_guarded_drivesOn :
    ((Transition.run single.step (start StopSystem.movingCar) raised).car.motorThrottle = 1 ∧
      HasEnded (Transition.run single.step (start StopSystem.movingCar) raised).control = true ∧
      (Transition.run single.step (start StopSystem.movingCar) raised).cleared = false) ∧
    (Transition.run single.step (start StopSystem.movingCar) completed).car.motorThrottle = 0 :=
  ⟨⟨by decide +kernel, by decide +kernel, by decide +kernel⟩,
    ((single.off_or_guarded rfl Nat.one_pos StopSystem.movingCar completed (by decide +kernel)).1
      (by decide +kernel)).2⟩

end Ending

end RcTaxi
