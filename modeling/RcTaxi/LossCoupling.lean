/-
This file shows that the service and the policy agree about the loss of the position. Each keeps
a flag of its own, and the service calls the policy on four paths; whatever the interleaving, the
position counts as lost for the service exactly while it is a reason for `ERROR`, the two hooks
are called in turn, and no motor command passes while there is no trusted position.

The invariant is kept by every move a step is made of. It ties both flags to the log: what was
called last, and whether a pose was ever adopted.
-/

import RcTaxi.Localization

namespace RcTaxi

variable {α : Type} [Scalar α]

/-! ### What the operations of the policy leave alone -/

/-- The pose in the store and whether it is stale. -/
def VehicleSnapshot.position {α : Type} (snap : VehicleSnapshot α) : Option (LocalizationPose α) × Bool :=
  (snap.pose, snap.poseStale)

namespace Stack

variable (stack : Stack α)

theorem enterError_position (reason : Reason) :
    (stack.enterError reason).store.position = stack.store.position := by
  unfold enterError
  dsimp only
  split <;> rfl

omit [Scalar α] in
theorem clearReason_position (reason : Reason) :
    (stack.clearReason reason).store.position = stack.store.position := by
  rw [clearReason_store]
  split <;> rfl

theorem onGpsLost_position (now : α) :
    (stack.onGpsLost now).store.position = stack.store.position := by
  unfold onGpsLost
  split <;> exact enterError_position stack .gpsLost

omit [Scalar α] in
theorem onGpsRecovered_position (now : α) :
    (stack.onGpsRecovered now).store.position = stack.store.position := by
  unfold onGpsRecovered
  split
  · exact clearReason_position _ .gpsLost
  · rfl

theorem onGpsLost_reasons (now : α) :
    (stack.onGpsLost now).reasons = insert .gpsLost stack.reasons := by
  unfold onGpsLost
  split <;> exact enterError_reasons .gpsLost

omit [Scalar α] in
theorem onGpsRecovered_reasons (now : α) :
    (stack.onGpsRecovered now).reasons = stack.reasons.erase .gpsLost := by
  unfold onGpsRecovered
  split
  · exact clearReason_reasons .gpsLost
  next absent => exact (Finset.erase_eq_of_notMem absent).symm

omit [Scalar α] in
theorem onCommand_position (command : Command α) (clock : ℕ → α) :
    (stack.onCommand command clock).store.position = stack.store.position := by
  cases command with
  | move x y =>
    unfold onCommand onMove
    dsimp only
    split <;> rfl
  | stop =>
    unfold onCommand onStop
    dsimp only
    split <;> rfl
  | resume =>
    unfold onCommand onResume
    dsimp only
    split
    · rfl
    · exact clearReason_position _ .controlLost

omit [Scalar α] in
theorem onCommand_gpsLost (command : Command α) (clock : ℕ → α) :
    .gpsLost ∈ (stack.onCommand command clock).reasons ↔ .gpsLost ∈ stack.reasons := by
  cases command with
  | move x y =>
    unfold onCommand onMove
    dsimp only
    split <;> rfl
  | stop =>
    unfold onCommand onStop
    dsimp only
    split <;> rfl
  | resume =>
    unfold onCommand onResume
    dsimp only
    split
    · rfl
    · rw [clearReason_reasons, Finset.mem_erase]
      exact and_iff_right (nomatch ·)

end Stack

namespace LocalizationService

variable {policy : CommandPolicy α} {change : Stack α → Stack α}

theorem ControlOperation.position (operation : ControlOperation policy change) (stack : Stack α) :
    (change stack).store.position = stack.store.position := by
  cases operation with
  | rawMessage message clock =>
    unfold CommandPolicy.onRawMessage
    split
    · rfl
    · exact stack.onCommand_position _ _
  | disconnected => exact stack.enterError_position .controlLost
  | connected wall =>
    unfold Stack.onControlConnected
    split <;> rfl
  | notifyArrived wall =>
    unfold Stack.notifyArrived
    split <;> rfl

theorem ControlOperation.gpsLost (operation : ControlOperation policy change) (stack : Stack α) :
    .gpsLost ∈ (change stack).reasons ↔ .gpsLost ∈ stack.reasons := by
  cases operation with
  | rawMessage message clock =>
    unfold CommandPolicy.onRawMessage
    split
    · rfl
    · exact stack.onCommand_gpsLost _ _
  | disconnected =>
    rw [Stack.onControlDisconnected, Stack.enterError_reasons, Finset.mem_insert]
    exact or_iff_right (nomatch ·)
  | connected wall =>
    unfold Stack.onControlConnected
    split <;> rfl
  | notifyArrived wall =>
    unfold Stack.notifyArrived
    split <;> rfl

end LocalizationService

/-! ### The hooks in the log -/

/-- The calls of the service to the policy. -/
inductive Hook
  | onLost
  | onRecovered
  deriving DecidableEq

namespace LocalizationEvent

def hook? {α : Type} : LocalizationEvent α → Option Hook
  | .lost => some .onLost
  | .recovered => some .onRecovered
  | _ => none

def adopted? {α : Type} : LocalizationEvent α → Option (LocalizationPose α)
  | .adopted pose => some pose
  | _ => none

end LocalizationEvent

namespace LossCoupling

open LocalizationService

/-- The hooks called, behind an imagined first recovery. -/
def hooks {α : Type} (log : List (LocalizationEvent α)) : List Hook :=
  .onRecovered :: log.filterMap LocalizationEvent.hook?

/-- Two hooks in a row are never the same; with the imagined recovery in front, the first one is
`on_lost`. -/
def Alternate {α : Type} (log : List (LocalizationEvent α)) : Prop :=
  (hooks log).IsChain (· ≠ ·)

/-- A pose was adopted. -/
def Adopted {α : Type} (log : List (LocalizationEvent α)) : Prop :=
  ∃ pose, .adopted pose ∈ log

/-- Every hook was called behind an adopted pose. -/
def AfterAdopted {α : Type} (log : List (LocalizationEvent α)) : Prop :=
  EveryEvent (fun before event => event.hook?.isSome → Adopted before) log

/-- The hook a flag of the service stands for. -/
def hookOf (lost : Bool) : Hook := if lost then .onLost else .onRecovered

structure Invariant (state : Localization α) : Prop where
  coupled : state.lost = true ↔ .gpsLost ∈ state.reasons
  adopted : state.hadPose = true ↔ Adopted state.log
  had : state.lost = true → state.hadPose = true
  anchored : DeadReckoner.anchored state.reckoner = true →
    state.lost = false ∧ state.hadPose = true
  stale : state.lost = true ∨ state.hadPose = false → state.store.poseStale = true
  alternate : Alternate state.log
  last : (hooks state.log).getLast? = some (hookOf state.lost)
  afterAdopted : AfterAdopted state.log

/-! ### One more event -/

section Append

variable {log : List (LocalizationEvent α)} {event : LocalizationEvent α}

omit [Scalar α] in
theorem hooks_append : hooks (log ++ [event]) = hooks log ++ event.hook?.toList := by
  rw [hooks, List.filterMap_append]
  cases event <;> rfl

omit [Scalar α] in
theorem hooks_append_of_none (quiet : event.hook? = none) :
    hooks (log ++ [event]) = hooks log := by
  rw [hooks_append, quiet, Option.toList_none, List.append_nil]

omit [Scalar α] in
theorem alternate_append {lost : Bool} (alternate : Alternate log)
    (last : (hooks log).getLast? = some (hookOf lost)) (called : event.hook? = some (hookOf !lost)) :
    Alternate (log ++ [event]) := by
  rw [Alternate, hooks_append, called, Option.toList_some, List.isChain_append]
  refine ⟨alternate, .singleton _, fun first firstLast second secondHead => ?_⟩
  rw [last, Option.mem_def, Option.some.injEq] at firstLast
  cases secondHead
  rw [← firstLast]
  cases lost <;> exact (nomatch ·)

omit [Scalar α] in
theorem last_append (lost : Bool) (called : event.hook? = some (hookOf lost)) :
    (hooks (log ++ [event])).getLast? = some (hookOf lost) := by
  rw [hooks_append, called, Option.toList_some, List.getLast?_concat]

omit [Scalar α] in
theorem adopted_append (quiet : event.adopted? = none) :
    Adopted (log ++ [event]) ↔ Adopted log := by
  refine exists_congr fun pose => ?_
  rw [List.mem_append, List.mem_singleton]
  refine or_iff_left fun same => ?_
  rw [← same] at quiet
  cases quiet

end Append

/-! ### What the moves keep -/

variable {service : LocalizationService α} {policy : CommandPolicy α}
  {before after : Localization α}

omit [Scalar α] in
/-- An event that is neither a hook nor an adopted pose keeps the invariant, if nothing the
invariant is about changes with it. -/
theorem Invariant.quiet (invariant : Invariant before) {event : LocalizationEvent α}
    (log : after.log = before.log ++ [event]) (noHook : event.hook? = none)
    (noPose : event.adopted? = none) (lost : after.lost = before.lost)
    (hadPose : after.hadPose = before.hadPose) (reasons : after.reasons = before.reasons)
    (anchored : DeadReckoner.anchored after.reckoner = DeadReckoner.anchored before.reckoner)
    (stale : after.lost = true ∨ after.hadPose = false → after.store.poseStale = true) :
    Invariant after where
  coupled := by rw [lost, reasons, invariant.coupled]
  adopted := by rw [hadPose, log, adopted_append noPose, invariant.adopted]
  had := by rw [lost, hadPose]; exact invariant.had
  anchored := by rw [anchored, lost, hadPose]; exact invariant.anchored
  stale := stale
  alternate := by rw [Alternate, log, hooks_append_of_none noHook]; exact invariant.alternate
  last := by rw [log, hooks_append_of_none noHook, lost]; exact invariant.last
  afterAdopted := by
    rw [log]
    exact invariant.afterAdopted.append fun isHook => by rw [noHook] at isHook; cases isHook

theorem Invariant.adopt (invariant : Invariant before) {pose : LocalizationPose α}
    (stored : before.storePose service pose = (true, after)) (wall : α) :
    Invariant (recover wall (service.adopt pose after)) := by
  obtain ⟨speed, mps, rfl⟩ := storePose_taken stored
  have adopted : Adopted (before.log ++ [.adopted pose]) := ⟨pose, List.mem_concat_self⟩
  have sameHooks : hooks (before.log ++ [.adopted pose]) = hooks before.log :=
    hooks_append_of_none rfl
  have logged : AfterAdopted (before.log ++ [.adopted pose]) :=
    invariant.afterAdopted.append (nomatch ·)
  have last : (hooks (before.log ++ [.adopted pose])).getLast? = some (hookOf before.lost) := by
    rw [sameHooks, invariant.last]
  have alternate : Alternate (before.log ++ [.adopted pose]) := by
    rw [Alternate, sameHooks]
    exact invariant.alternate
  unfold LocalizationService.recover
  split
  next wasLost =>
    have wasLost : before.lost = true := wasLost
    rw [wasLost] at last
    refine ⟨⟨(nomatch ·), fun left => ?_⟩, ⟨fun _ => ?_, fun _ => rfl⟩, (nomatch ·),
      fun _ => ⟨rfl, rfl⟩, fun neither => ?_, ?_, ?_, ?_⟩
    · rw [Localization.onPolicy, Stack.onGpsRecovered_reasons] at left
      exact absurd left (Finset.notMem_erase _ _)
    · exact (adopted_append rfl).mpr adopted
    · rcases neither with neither | neither <;> cases neither
    · exact alternate_append alternate last rfl
    · exact last_append false rfl
    · exact logged.append fun _ => adopted
  next notLost =>
    have notLost : before.lost = false := Bool.not_eq_true _ ▸ notLost
    refine ⟨invariant.coupled, ⟨fun _ => adopted, fun _ => rfl⟩, fun _ => rfl,
      fun _ => ⟨notLost, rfl⟩, fun neither => ?_, alternate, last, logged⟩
    rcases neither with lost | neither
    · exact absurd lost (by rw [Bool.not_eq_true]; exact notLost)
    · cases neither

theorem Invariant.lose (invariant : Invariant before) (found : before.lost = false)
    (hadPose : before.hadPose = true) (wall : α) : Invariant (declareLost wall before) := by
  have adopted : Adopted before.log := invariant.adopted.mp hadPose
  have last := invariant.last
  rw [found] at last
  unfold declareLost
  rw [if_neg (by rw [found, hadPose]; exact Bool.false_ne_true)]
  refine ⟨⟨fun _ => ?_, fun _ => rfl⟩, ⟨fun _ => ?_, fun _ => hadPose⟩, fun _ => hadPose,
    (nomatch ·), fun _ => ?_, ?_, ?_, ?_⟩
  · rw [Localization.onPolicy, Stack.onGpsLost_reasons]
    exact Finset.mem_insert_self _ _
  · exact (adopted_append rfl).mpr adopted
  · rw [Localization.onPolicy]
    exact congrArg Prod.snd (Stack.onGpsLost_position _ wall)
  · exact alternate_append invariant.alternate last rfl
  · exact last_append true rfl
  · exact invariant.afterAdopted.append fun _ => adopted

/-- Every move keeps the invariant. -/
theorem Invariant.move (invariant : Invariant before) (move : Move service policy before after) :
    Invariant after := by
  cases move with
  | settle validator heading => exact ⟨invariant.coupled, invariant.adopted, invariant.had,
      invariant.anchored, invariant.stale, invariant.alternate, invariant.last,
      invariant.afterAdopted⟩
  | markStale => exact ⟨invariant.coupled, invariant.adopted, invariant.had, invariant.anchored,
      fun _ => rfl, invariant.alternate, invariant.last, invariant.afterAdopted⟩
  | propagate tunnel enabled now =>
    exact invariant.quiet rfl rfl rfl rfl rfl rfl (tunnel.reckoner.anchored_propagate _ now _)
      invariant.stale
  | adopt taken pose wall stored => exact invariant.adopt stored wall
  | feed taken tunnel now pose enabled driving predicted inZone budget stored =>
    obtain ⟨speed, mps, rfl⟩ := storePose_taken stored
    have anchored : DeadReckoner.anchored before.reckoner = true := by
      unfold DeadReckoner.predict at predicted
      obtain ⟨place, found, -⟩ := Option.map_eq_some_iff.mp predicted
      rw [DeadReckoner.anchored, found, Option.isSome_some]
    obtain ⟨found, hadPose⟩ := invariant.anchored anchored
    refine invariant.quiet rfl rfl rfl rfl rfl rfl rfl fun neither => ?_
    rcases neither with lost | noPose
    · exact absurd (found.symm.trans lost) Bool.false_ne_true
    · exact absurd (noPose.symm.trans hadPose) Bool.false_ne_true
  | lose wall found hadPose => exact invariant.lose found hadPose wall
  | control change operation =>
    refine ⟨invariant.coupled.trans (operation.gpsLost before.toStack).symm, invariant.adopted,
      invariant.had, invariant.anchored, fun neither => ?_, invariant.alternate, invariant.last,
      invariant.afterAdopted⟩
    rw [← invariant.stale neither]
    exact congrArg Prod.snd (operation.position before.toStack)
  | outside driving command => exact ⟨invariant.coupled, invariant.adopted, invariant.had,
      invariant.anchored, invariant.stale, invariant.alternate, invariant.last,
      invariant.afterAdopted⟩

theorem invariant_start : Invariant (Localization.start (Stack.initial : Stack α)) where
  coupled := ⟨(nomatch ·), fun left => absurd left (Finset.notMem_empty _)⟩
  adopted := ⟨(nomatch ·), fun ⟨_, member⟩ => absurd member List.not_mem_nil⟩
  had := (nomatch ·)
  anchored := (nomatch ·)
  stale _ := rfl
  alternate := .singleton _
  last := rfl
  afterAdopted := everyEvent_nil

theorem run_invariant (service : LocalizationService α) (policy : CommandPolicy α)
    (labels : List (LocalizationLabel α)) :
    Invariant (Transition.run (service.step policy) (Localization.start Stack.initial) labels) :=
  run_kept service policy (fun _ _ move invariant => invariant.move move) invariant_start labels

/-- In every state the service and the policy agree about the loss; the hooks are called in turn,
`on_lost` first, and not before a pose was adopted; and without a trusted position the supervisor
sends nothing but the stop command. -/
theorem loss_stays_coupled (service : LocalizationService α) (policy : CommandPolicy α)
    (labels : List (LocalizationLabel α)) :
    let state := Transition.run (service.step policy) (Localization.start Stack.initial) labels
    (state.lost = true ↔ .gpsLost ∈ state.reasons) ∧
      Alternate state.log ∧
      AfterAdopted state.log ∧
      (state.lost = true ∨ ¬ Adopted state.log →
        state.store.poseStale = true ∧
          ∀ (supervisor : SafetySupervisor α) (command : ControlCommand α) (driving : DrivingState),
            let car := { state.toCar with store := { state.store with drivingState := driving } }
            (supervisor.apply command).run OutputOp.handle car =
              (stopCommand, SafetySupervisor.sent stopCommand car)) := by
  intro state
  have invariant : Invariant state := run_invariant service policy labels
  refine ⟨invariant.coupled, invariant.alternate, invariant.afterAdopted, fun untrusted => ?_⟩
  have stale : state.store.poseStale = true := by
    refine invariant.stale (untrusted.imp_right fun none => ?_)
    rw [← invariant.adopted, Bool.not_eq_true] at none
    exact none
  refine ⟨stale, fun supervisor command driving => supervisor.apply_blocked command _ ?_⟩
  rw [blocked, stale, Bool.or_true, Bool.true_or]

end LossCoupling

end RcTaxi
