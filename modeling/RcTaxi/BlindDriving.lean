/-
This file shows that driving without a measured pose is bounded. The tunnel mode is the one
exception to the rule that the car stands without a fresh pose: every synthetic pose is written
while the car follows its route, inside a zone, and within the budget of distance and time that
the reckoner has used up since the last adopted pose.

The reckoner also advances when a received pose is suspected, and its state survives messages
that are lost or refused. The invariant reads its state off the log: an anchored reckoner is what
the blind motion behind the last adopted pose makes of the anchor.
-/

import RcTaxi.LossCoupling

namespace RcTaxi

variable {α : Type} [Scalar α]

namespace LocalizationEvent

/-- What an event does to the reckoner. -/
def replay (service : LocalizationService α) (reckoner : ReckonerState α) :
    LocalizationEvent α → ReckonerState α
  | .adopted pose => DeadReckoner.anchor pose reckoner
  | .propagated command now =>
    match service.tunnel with
    | some tunnel => tunnel.reckoner.propagate command now reckoner
    | none => reckoner
  | .lost => DeadReckoner.reset
  | .synthetic _ _ _ _ | .recovered => reckoner

/-- The event belongs to the blind time behind an adopted pose. -/
def isBlind {α : Type} : LocalizationEvent α → Bool
  | .adopted _ | .lost => false
  | _ => true

/-- The pose an event writes to the store. -/
def written? {α : Type} : LocalizationEvent α → Option (LocalizationPose α)
  | .adopted pose | .synthetic pose _ _ _ => some pose
  | _ => none

end LocalizationEvent

namespace BlindDriving

open LocalizationService

/-- The last real pose in the log. -/
def lastAdopted {α : Type} (log : List (LocalizationEvent α)) : Option (LocalizationPose α) :=
  (log.filterMap LocalizationEvent.adopted?).getLast?

/-- The last pose in the log, real or synthetic. -/
def lastWritten {α : Type} (log : List (LocalizationEvent α)) : Option (LocalizationPose α) :=
  (log.filterMap LocalizationEvent.written?).getLast?

/-- The reckoner is where the blind motion since the last adopted pose leads from its anchor, where
the blind distance and time are zero. -/
def SinceAdopted (service : LocalizationService α) (log : List (LocalizationEvent α))
    (reckoner : ReckonerState α) : Prop :=
  ∃ earlier real blind state, log = earlier ++ .adopted real :: blind ∧
    (∀ event ∈ blind, event.isBlind = true) ∧
    reckoner = blind.foldl (LocalizationEvent.replay service) (DeadReckoner.anchor real state)

/-- What is promised of a synthetic pose written behind a log. -/
def Permitted (service : LocalizationService α) (log : List (LocalizationEvent α))
    (pose : LocalizationPose α) (driving : DrivingState) (distanceM timeS : α) : Prop :=
  driving.inTunnelStates = true ∧
    ∃ tunnel, service.tunnel = some tunnel ∧
      tunnel.inZone (pose.x, pose.y) = true ∧
      distanceM ≤ tunnel.reckoner.maxBlindDistanceM ∧ timeS ≤ tunnel.reckoner.maxBlindTimeS ∧
      ∃ reckoner, SinceAdopted service log reckoner ∧
        reckoner.blindDistanceM = distanceM ∧ reckoner.blindTimeS = timeS

/-- Every synthetic pose of a log is permitted. -/
def AllPermitted (service : LocalizationService α) (log : List (LocalizationEvent α)) : Prop :=
  EveryEvent (fun before event => ∀ pose driving distanceM timeS,
    event = .synthetic pose driving distanceM timeS →
      Permitted service before pose driving distanceM timeS) log

structure Invariant (service : LocalizationService α) (state : Localization α) : Prop where
  since : DeadReckoner.anchored state.reckoner = true →
    service.tunnel.isSome ∧ SinceAdopted service state.log state.reckoner
  permitted : AllPermitted service state.log
  accepted : state.hadPose = true →
    ∃ pose, lastAdopted state.log = some pose ∧ state.lastAcceptS = pose.receivedMonotonicS
  written : state.store.pose = lastWritten state.log

/-! ### One more event -/

variable {service : LocalizationService α} {policy : CommandPolicy α}
  {log : List (LocalizationEvent α)} {event : LocalizationEvent α} {reckoner : ReckonerState α}

theorem SinceAdopted.append (since : SinceAdopted service log reckoner)
    (isBlind : event.isBlind = true) :
    SinceAdopted service (log ++ [event]) (event.replay service reckoner) := by
  obtain ⟨earlier, real, blind, state, rfl, allBlind, rfl⟩ := since
  refine ⟨earlier, real, blind ++ [event], state, ?_, ?_, ?_⟩
  · rw [List.append_assoc, List.cons_append]
  · intro member found
    rcases List.mem_append.mp found with inBlind | isLast
    · exact allBlind member inBlind
    · rw [List.mem_singleton.mp isLast]
      exact isBlind
  · rw [List.foldl_append]
    rfl

theorem SinceAdopted.adopted (pose : LocalizationPose α) :
    SinceAdopted service (log ++ [.adopted pose]) (DeadReckoner.anchor pose reckoner) :=
  ⟨log, pose, [], reckoner, rfl, fun _ member => absurd member List.not_mem_nil, rfl⟩

omit [Scalar α] in
theorem lastAdopted_append (log : List (LocalizationEvent α)) (event : LocalizationEvent α) :
    lastAdopted (log ++ [event]) = event.adopted?.or (lastAdopted log) := by
  rw [lastAdopted, List.filterMap_append]
  cases event <;>
    simp [lastAdopted, LocalizationEvent.adopted?]

omit [Scalar α] in
theorem lastWritten_append (log : List (LocalizationEvent α)) (event : LocalizationEvent α) :
    lastWritten (log ++ [event]) = event.written?.or (lastWritten log) := by
  rw [lastWritten, List.filterMap_append]
  cases event <;>
    simp [lastWritten, LocalizationEvent.written?]

/-! ### What the moves keep -/

variable {before after : Localization α}

/-- An event of the blind time keeps the invariant, if the log and the reckoner alone change with
it. -/
theorem Invariant.blind (invariant : Invariant service before)
    (log : after.log = before.log ++ [event]) (isBlind : event.isBlind = true)
    (notSynthetic : event.written? = none)
    (replayed : after.reckoner = event.replay service before.reckoner)
    (anchored : DeadReckoner.anchored after.reckoner = DeadReckoner.anchored before.reckoner)
    (hadPose : after.hadPose = before.hadPose) (lastAcceptS : after.lastAcceptS = before.lastAcceptS)
    (pose : after.store.pose = before.store.pose) : Invariant service after where
  since isAnchored := by
    rw [anchored] at isAnchored
    obtain ⟨enabled, since⟩ := invariant.since isAnchored
    rw [log, replayed]
    exact ⟨enabled, since.append isBlind⟩
  permitted := by
    rw [log]
    refine invariant.permitted.append fun pose driving distanceM timeS same => ?_
    rw [same] at notSynthetic
    cases notSynthetic
  accepted := by
    have noPose : event.adopted? = none := by cases event <;> first | rfl | cases isBlind
    rw [hadPose, log, lastAdopted_append, noPose, Option.none_or, lastAcceptS]
    exact invariant.accepted
  written := by
    rw [log, lastWritten_append, notSynthetic, Option.none_or, pose, invariant.written]

theorem Invariant.adopt (invariant : Invariant service before) {pose : LocalizationPose α}
    (stored : before.storePose service pose = (true, after)) (wall : α) :
    Invariant service (recover wall (service.adopt pose after)) := by
  obtain ⟨speed, mps, rfl⟩ := storePose_taken stored
  have adopted : Invariant service (service.adopt pose { before with
      store := { before.store with
        pose := some pose, poseStale := false, estimatedSpeedMps := mps }
      speed := speed }) := by
    refine ⟨fun isAnchored => ?_, ?_, fun _ => ⟨pose, ?_, rfl⟩, ?_⟩
    · by_cases enabled : service.tunnel.isSome
      · refine ⟨enabled, ?_⟩
        rw [LocalizationService.adopt, if_pos enabled]
        exact .adopted pose
      · rw [LocalizationService.adopt, if_neg enabled] at isAnchored
        exact absurd (invariant.since isAnchored).1 enabled
    · exact invariant.permitted.append fun _ _ _ _ same => (nomatch same)
    · exact lastAdopted_append before.log (.adopted pose)
    · exact (lastWritten_append before.log (.adopted pose)).symm
  unfold LocalizationService.recover
  split
  · exact adopted.blind rfl rfl rfl rfl rfl rfl rfl
      (congrArg Prod.fst (Stack.onGpsRecovered_position _ wall))
  · exact adopted

theorem Invariant.feed (invariant : Invariant service before) {tunnel : Tunnel α} {now : α}
    {pose : LocalizationPose α} (enabled : service.tunnel = some tunnel)
    (driving : before.store.drivingState.inTunnelStates = true)
    (predicted : DeadReckoner.predict now before.reckoner = some pose)
    (inZone : tunnel.inZone (pose.x, pose.y) = true)
    (budget : tunnel.reckoner.withinBudget before.reckoner = true)
    (stored : before.storePose service pose = (true, after)) :
    Invariant service (after.note (.synthetic pose after.store.drivingState
      after.reckoner.blindDistanceM after.reckoner.blindTimeS)) := by
  obtain ⟨speed, mps, rfl⟩ := storePose_taken stored
  have anchored : DeadReckoner.anchored before.reckoner = true := by
    obtain ⟨place, found, -⟩ := Option.map_eq_some_iff.mp predicted
    rw [DeadReckoner.anchored, found, Option.isSome_some]
  obtain ⟨isEnabled, since⟩ := invariant.since anchored
  refine ⟨fun _ => ⟨isEnabled, since.append rfl⟩, ?_, fun hadPose => ?_, ?_⟩
  · refine invariant.permitted.append fun pose' driving' distanceM timeS same => ?_
    cases same
    have within := of_decide_eq_true budget
    exact ⟨driving, tunnel, enabled, inZone, within.1, within.2, before.reckoner, since, rfl, rfl⟩
  · obtain ⟨real, last, received⟩ := invariant.accepted hadPose
    exact ⟨real, (lastAdopted_append before.log _).trans last, received⟩
  · exact (lastWritten_append before.log (.synthetic pose _ _ _)).symm

theorem Invariant.lose (invariant : Invariant service before) (found : before.lost = false)
    (hadPose : before.hadPose = true) (wall : α) :
    Invariant service (declareLost wall before) := by
  unfold declareLost
  rw [if_neg (by rw [found, hadPose]; exact Bool.false_ne_true)]
  refine ⟨(nomatch ·), ?_, fun _ => ?_, ?_⟩
  · exact invariant.permitted.append fun _ _ _ _ same => (nomatch same)
  · obtain ⟨real, last, received⟩ := invariant.accepted hadPose
    exact ⟨real, (lastAdopted_append before.log _).trans last, received⟩
  · exact (congrArg Prod.fst (Stack.onGpsLost_position _ wall)).trans
      (invariant.written.trans (lastWritten_append before.log .lost).symm)

/-- Every move keeps the invariant. -/
theorem Invariant.move (invariant : Invariant service before)
    (move : Move service policy before after) : Invariant service after := by
  cases move with
  | settle validator heading =>
    exact ⟨invariant.since, invariant.permitted, invariant.accepted, invariant.written⟩
  | markStale => exact ⟨invariant.since, invariant.permitted, invariant.accepted, invariant.written⟩
  | propagate tunnel enabled now =>
    refine invariant.blind rfl rfl rfl ?_ (tunnel.reckoner.anchored_propagate _ now _) rfl rfl rfl
    rw [LocalizationEvent.replay, enabled]
    rfl
  | adopt taken pose wall stored => exact invariant.adopt stored wall
  | feed taken tunnel now pose enabled driving predicted inZone budget stored =>
    exact invariant.feed enabled driving predicted inZone budget stored
  | lose wall found hadPose => exact invariant.lose found hadPose wall
  | control change operation =>
    refine ⟨invariant.since, invariant.permitted, invariant.accepted, ?_⟩
    exact (congrArg Prod.fst (operation.position before.toStack)).trans invariant.written
  | outside driving command =>
    exact ⟨invariant.since, invariant.permitted, invariant.accepted, invariant.written⟩

theorem invariant_start (service : LocalizationService α) :
    Invariant service (Localization.start (Stack.initial : Stack α)) :=
  ⟨(nomatch ·), everyEvent_nil, (nomatch ·), rfl⟩

/-! ### After a tick -/

/-- Declaring the position lost leaves no fresh pose behind. -/
theorem declareLost_stale (coupled : LossCoupling.Invariant before) (wall : α) :
    (declareLost wall before).store.poseStale = true := by
  unfold declareLost
  split
  next nothing =>
    rw [Bool.or_eq_true, Bool.not_eq_true'] at nothing
    exact coupled.stale nothing
  · exact congrArg Prod.snd (Stack.onGpsLost_position _ wall)

/-- Why the stored pose may be fresh after a tick at a time. -/
def FreshFor (service : LocalizationService α) (now : α) (state : Localization α) : Prop :=
  (∃ real, lastAdopted state.log = some real ∧
      now - real.receivedMonotonicS < service.timeoutS) ∨
    ∃ pose driving distanceM timeS, state.store.pose = some pose ∧
      .synthetic pose driving distanceM timeS ∈ state.log

/-- Without a synthetic pose, a tick leaves a fresh pose only within the timeout. -/
theorem unfed_fresh (coupled : LossCoupling.Invariant before) (invariant : Invariant service before)
    (hadPose : before.hadPose = true) (now wall : α)
    (fresh : (if service.timeoutS ≤ now - before.lastAcceptS then declareLost wall before
      else before).store.poseStale = false) :
    FreshFor service now (if service.timeoutS ≤ now - before.lastAcceptS then declareLost wall before
      else before) := by
  split at fresh
  · exact absurd ((declareLost_stale coupled wall).symm.trans fresh) (nomatch ·)
  next young =>
    obtain ⟨real, last, received⟩ := invariant.accepted hadPose
    rw [if_neg young]
    refine .inl ⟨real, last, ?_⟩
    rw [← received]
    exact not_le.mp young

theorem tick_fresh (coupled : LossCoupling.Invariant before) (invariant : Invariant service before)
    (now wall : α) (fresh : (service.tick now wall before).store.poseStale = false) :
    FreshFor service now (service.tick now wall before) := by
  unfold tick at fresh ⊢
  by_cases idle : (before.lost || !before.hadPose) = true
  · rw [if_pos idle] at fresh
    rw [Bool.or_eq_true, Bool.not_eq_true'] at idle
    exact absurd ((coupled.stale idle).symm.trans fresh) (nomatch ·)
  · have hadPose : before.hadPose = true := by
      rw [Bool.or_eq_true, not_or, Bool.not_eq_true', Bool.not_eq_false] at idle
      exact idle.2
    rw [if_neg idle] at fresh ⊢
    dsimp only at fresh ⊢
    split at fresh
    next due =>
      rw [if_pos due]
      have feed := tunnelFeed_feed service now before
      generalize service.tunnelFeed now before = outcome at feed fresh ⊢
      cases feed with
      | idle => exact unfed_fresh coupled invariant hadPose now wall fresh
      | blind tunnel enabled =>
        have move : Move service ⟨0, 0⟩ before (before.propagate tunnel now) :=
          .propagate before tunnel enabled now
        exact unfed_fresh (coupled.move move) (invariant.move move) hadPose now wall fresh
      | fed tunnel pose taken enabled driving predicted inZone budget stored =>
        obtain ⟨speed, mps, rfl⟩ := storePose_taken stored
        exact .inr ⟨pose, _, _, _, rfl, List.mem_concat_self⟩
    next notDue =>
      rw [if_neg notDue]
      rw [Bool.or_eq_true, not_or, decide_eq_true_eq] at notDue
      obtain ⟨real, last, received⟩ := invariant.accepted hadPose
      refine .inl ⟨real, last, ?_⟩
      rw [← received]
      exact not_le.mp notDue.2

/-- Blind driving is bounded: every synthetic pose is permitted, the stored pose is the last one
written, and after every tick a fresh pose in the store is explained by a young real pose or is
synthetic. -/
theorem blind_driving_is_bounded (service : LocalizationService α) (policy : CommandPolicy α)
    (labels : List (LocalizationLabel α)) :
    let state := Transition.run (service.step policy) (Localization.start Stack.initial) labels
    AllPermitted service state.log ∧
      state.store.pose = lastWritten state.log ∧
      ∀ now wall, (service.tick now wall state).store.poseStale = false →
        FreshFor service now (service.tick now wall state) := by
  intro state
  have coupled : LossCoupling.Invariant state := LossCoupling.run_invariant service policy labels
  have invariant : Invariant service state :=
    run_kept service policy (fun _ _ move invariant => invariant.move move)
      (invariant_start service) labels
  exact ⟨invariant.permitted, invariant.written, fun now wall =>
    tick_fresh coupled invariant now wall⟩

end BlindDriving

end RcTaxi
