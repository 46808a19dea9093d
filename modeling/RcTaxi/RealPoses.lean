/-
This file is about real and synthetic poses in the store, which takes a pose only if it is newer
than the one it holds. A synthetic pose is dated from the pose the dead reckoner was anchored at, on
by the time that passed on the local clock, and 50 ms back. So what the store holds is never newer
than some accepted pose, or than such a date behind some accepted pose and up to some step of the
run.

If the accepted poses become newer and newer, and none of them comes 50 ms later behind its own date
than another, then each is newer than all of that when it comes. It is stored and fresh, and the
dead reckoner is anchored at it, whatever was lost, made up or commanded before.
-/

import RcTaxi.PoseChain
import RcTaxi.PoseRefusal

namespace RcTaxi

variable {α : Type} [Scalar α]

/-! ### What propagating keeps -/

namespace DeadReckoner

variable (reckoner : DeadReckoner α)

/-- Propagating keeps the dates of the anchor. -/
theorem propagate_anchor (command : ControlCommand α) (now : α) (state : ReckonerState α) :
    (reckoner.propagate command now state).ts0 = state.ts0 ∧
      (reckoner.propagate command now state).t0 = state.t0 := by
  unfold propagate
  split
  · exact ⟨rfl, rfl⟩
  · have kept : ∀ targetV wheelCommandDeg dt later,
        later.ts0 = state.ts0 ∧ later.t0 = state.t0 →
          (reckoner.advance targetV wheelCommandDeg dt later).ts0 = state.ts0 ∧
            (reckoner.advance targetV wheelCommandDeg dt later).t0 = state.t0 :=
      fun _ _ _ _ same => same
    exact integrate_kept
      (fun later : ReckonerState α => later.ts0 = state.ts0 ∧ later.t0 = state.t0)
      (kept _ _) _ _ ⟨rfl, rfl⟩

/-- Propagating leads to the later of the two times. -/
theorem propagate_t (command : ControlCommand α) (now : α) (state : ReckonerState α) :
    (reckoner.propagate command now state).t = state.t ∨
      (reckoner.propagate command now state).t = now := by
  unfold propagate
  split
  · exact .inl rfl
  · exact .inr rfl

end DeadReckoner

/-! ### Adopting a pose -/

namespace LocalizationService

variable {service : LocalizationService α} {pose : LocalizationPose α} {state : Localization α}

omit [Scalar α] in
theorem recover_reckoner (wall : α) (state : Localization α) :
    (recover wall state).reckoner = state.reckoner := by
  unfold recover
  split <;> rfl

omit [Scalar α] in
theorem recover_position (wall : α) (state : Localization α) :
    (recover wall state).store.position = state.store.position := by
  unfold recover
  split
  · exact Stack.onGpsRecovered_position state.toStack wall
  · rfl

/-- The pose is in the store, up to its heading, and fresh, and the dead reckoner of the tunnel mode
is anchored at its place and dates. -/
structure TakenUp (service : LocalizationService α) (pose : LocalizationPose α)
    (after : Localization α) : Prop where
  stored : ∃ heading, after.store.pose = some { pose with headingDeg := heading }
  fresh : after.store.poseStale = false
  anchored : service.tunnel.isSome = true → after.reckoner.position = some (pose.x, pose.y) ∧
    after.reckoner.ts0 = pose.sourceTimestampS ∧ after.reckoner.t0 = pose.receivedMonotonicS ∧
    after.reckoner.t = pose.receivedMonotonicS

/-- A pose that is neither suspected nor refused is taken up; without a tunnel mode the reckoner
stays. -/
theorem accept_takesUp (trusted : (service.suspect pose state).1 = false)
    (newer : Newer state pose) (wall : α) :
    TakenUp service pose (service.accept pose wall state) ∧
      (service.tunnel = none → (service.accept pose wall state).reckoner = state.reckoner) := by
  have unmoved : service.tunnel = none → (service.suspect pose state).2 = state := by
    intro without
    unfold suspect
    rw [without]
  obtain ⟨heading, estimate, -, -, sameAge, accepted⟩ := accept_trusted trusted wall
  generalize (service.suspect pose state).2 = checked at *
  obtain ⟨taken, stored⟩ := storePose_newer service (sameAge.mpr newer)
  rw [accepted, stored, if_pos rfl]
  obtain ⟨speed, mps, rfl⟩ := storePose_taken stored
  have position := recover_position wall (service.adopt { pose with headingDeg := heading }
    { checked with
      heading := estimate
      store := { checked.store with
        pose := some { pose with headingDeg := heading }, poseStale := false,
        estimatedSpeedMps := mps }
      speed := speed })
  refine ⟨⟨⟨heading, congrArg Prod.fst position⟩, congrArg Prod.snd position, fun enabled => ?_⟩,
    fun without => ?_⟩
  · rw [recover_reckoner]
    unfold adopt
    dsimp only [Localization.note]
    rw [if_pos enabled]
    exact ⟨rfl, rfl, rfl, rfl⟩
  · rw [recover_reckoner]
    unfold adopt
    dsimp only [Localization.note]
    rw [without]
    exact congrArg Localization.reckoner (unmoved without)

/-! ### Dates behind accepted poses -/

/-- The accepted pose of a step, if it is a message with one. -/
def acceptedOf (service : LocalizationService α) (state : Localization α) :
    LocalizationLabel α → Option (LocalizationPose α)
  | .raw message now _ => (service.validator.judge state.validator (message, now)).1
  | _ => none

theorem acceptedOf_raw {message : Option (PyValue α)} {now wall : α} {validator : ValidatorState α}
    (validated : service.validator.validate state.validator message now =
      .ok (.accepted pose, validator)) :
    service.acceptedOf state (.raw message now wall) = some pose := by
  change (service.validator.judge state.validator (message, now)).1 = some pose
  unfold PoseValidator.judge
  dsimp only
  rw [validated]

/-- The accepted poses of a run, in the order of their arrival. -/
def acceptedPoses (service : LocalizationService α) (policy : CommandPolicy α) :
    Localization α → List (LocalizationLabel α) → List (LocalizationPose α)
  | _, [] => []
  | state, label :: labels => (service.acceptedOf state label).toList ++
    acceptedPoses service policy (service.step policy state label) labels

end LocalizationService

/-- The monotonic time of a step that reads it. -/
def LocalizationLabel.time? {α : Type} : LocalizationLabel α → Option α
  | .raw _ now _ => some now
  | .tick now _ => some now
  | _ => none

/-- How much later than its date a pose came. -/
def LocalizationPose.latency (pose : LocalizationPose α) : α :=
  pose.receivedMonotonicS - pose.sourceTimestampS

/-- A date that is not newer than an accepted pose, or than what is made up behind one by some
time. -/
def Dated (accepted : List (LocalizationPose α)) (times : List α) (date : α) : Prop :=
  ∃ real ∈ accepted, date ≤ real.sourceTimestampS ∨
    ∃ time ∈ times, date ≤ real.sourceTimestampS + (time - real.receivedMonotonicS) - 5 / 100

/-- What the store holds is dated, and the dead reckoner is anchored at an accepted pose. -/
structure Dating (accepted : List (LocalizationPose α)) (times : List α) (state : Localization α) :
    Prop where
  stored : ∀ pose, state.store.pose = some pose → Dated accepted times pose.sourceTimestampS
  anchored : DeadReckoner.anchored state.reckoner = true → ∃ real ∈ accepted, ∃ time ∈ times,
    state.reckoner.ts0 = real.sourceTimestampS ∧ state.reckoner.t0 = real.receivedMonotonicS ∧
      state.reckoner.t ≤ time

namespace Dating

open LocalizationService

variable {accepted accepted' : List (LocalizationPose α)} {times times' : List α}
  {before after : Localization α}

theorem mono (dating : Dating accepted times before) (more : accepted ⊆ accepted')
    (later : times ⊆ times') : Dating accepted' times' before where
  stored pose held := by
    obtain ⟨real, member, dated⟩ := dating.stored pose held
    exact ⟨real, more member,
      dated.imp_right fun ⟨time, isTime, dated⟩ => ⟨time, later isTime, dated⟩⟩
  anchored isAnchored := by
    obtain ⟨real, member, time, isTime, dates⟩ := dating.anchored isAnchored
    exact ⟨real, more member, time, later isTime, dates⟩

/-- A step that moves neither the stored pose nor the reckoner. -/
theorem of_same (dating : Dating accepted times before)
    (pose : after.store.pose = before.store.pose) (reckoner : after.reckoner = before.reckoner) :
    Dating accepted times after where
  stored stored held := dating.stored stored (pose ▸ held)
  anchored isAnchored := by
    rw [reckoner] at isAnchored ⊢
    exact dating.anchored isAnchored

/-- The reckoner is moved up to a time of the run. -/
theorem propagate (dating : Dating accepted times before) (tunnel : Tunnel α) {now : α}
    (isTime : now ∈ times) : Dating accepted times (before.propagate tunnel now) where
  stored := dating.stored
  anchored isAnchored := by
    have anchored : DeadReckoner.anchored before.reckoner = true :=
      (tunnel.reckoner.anchored_propagate before.store.controlCommand now
        before.reckoner).symm.trans isAnchored
    obtain ⟨real, member, time, isTime', ts0, t0, early⟩ := dating.anchored anchored
    obtain ⟨ts0', t0'⟩ :=
      tunnel.reckoner.propagate_anchor before.store.controlCommand now before.reckoner
    rcases tunnel.reckoner.propagate_t before.store.controlCommand now before.reckoner with
      same | moved
    · exact ⟨real, member, time, isTime', ts0'.trans ts0, t0'.trans t0, same.le.trans early⟩
    · exact ⟨real, member, now, isTime, ts0'.trans ts0, t0'.trans t0, moved.le⟩

/-- Looking whether a pose is suspect. -/
theorem suspect (dating : Dating accepted times before) (service : LocalizationService α)
    (pose : LocalizationPose α) (isTime : pose.receivedMonotonicS ∈ times) :
    Dating accepted times (service.suspect pose before).2 := by
  rcases suspect_state pose before with same | ⟨tunnel, moved⟩
  · rw [same]
    exact dating
  · rw [moved]
    exact dating.propagate tunnel isTime

/-- Losing the position keeps what is stored and drops the anchor. -/
theorem declareLost (dating : Dating accepted times before) (wall : α) :
    Dating accepted times (declareLost wall before) := by
  unfold LocalizationService.declareLost
  split
  · exact dating
  · refine ⟨fun pose held => dating.stored pose ?_, fun isAnchored => (nomatch isAnchored)⟩
    have position := Stack.onGpsLost_position
      { before.toStack with store := (before.store.markPoseStale).setEstimatedSpeed 0 } wall
    exact (congrArg Prod.fst position).symm.trans held

/-- A synthetic pose is dated behind the pose the reckoner is anchored at. -/
theorem predicted (dating : Dating accepted times before) {now : α} {pose : LocalizationPose α}
    (predicted : DeadReckoner.predict now before.reckoner = some pose) :
    Dated accepted times pose.sourceTimestampS := by
  obtain ⟨place, position, rfl⟩ := Option.map_eq_some_iff.mp predicted
  have anchored : DeadReckoner.anchored before.reckoner = true := by
    rw [DeadReckoner.anchored, position]
    rfl
  obtain ⟨real, member, time, isTime, ts0, t0, early⟩ := dating.anchored anchored
  refine ⟨real, member, .inr ⟨time, isTime, ?_⟩⟩
  change before.reckoner.ts0 + (before.reckoner.t - before.reckoner.t0) - 5 / 100 ≤ _
  rw [ts0, t0]
  linarith only [early]

/-- Feeding a synthetic pose. -/
theorem tunnelFeed (dating : Dating accepted times before) (service : LocalizationService α)
    {now : α} (isTime : now ∈ times) :
    Dating accepted times (service.tunnelFeed now before).2 := by
  have feed := tunnelFeed_feed service now before
  generalize service.tunnelFeed now before = outcome at feed
  cases feed with
  | idle => exact dating
  | blind tunnel enabled => exact dating.propagate tunnel isTime
  | fed tunnel pose taken enabled driving predicted inZone budget stored =>
    have moved := dating.propagate tunnel isTime
    obtain ⟨speed, mps, rfl⟩ := storePose_taken stored
    refine ⟨fun other held => ?_, moved.anchored⟩
    cases held
    exact moved.predicted predicted

/-- A pose that is accepted by the validator, whatever becomes of it. -/
theorem accept (dating : Dating accepted times before) (service : LocalizationService α)
    {pose : LocalizationPose α} (member : pose ∈ accepted)
    (isTime : pose.receivedMonotonicS ∈ times) (wall : α) :
    Dating accepted times (service.accept pose wall before) := by
  have suspicion := dating.suspect service pose isTime
  cases suspected : (service.suspect pose before).1 with
  | true =>
    rw [accept_suspected suspected]
    exact suspicion
  | false =>
    by_cases newer : Newer before pose
    · obtain ⟨⟨⟨heading, stored⟩, -, anchored⟩, unmoved⟩ := accept_takesUp suspected newer wall
      refine ⟨fun other held => ?_, fun isAnchored => ?_⟩
      · cases stored.symm.trans held
        exact ⟨pose, member, .inl le_rfl⟩
      · cases enabled : service.tunnel with
        | none =>
          rw [unmoved enabled] at isAnchored ⊢
          exact dating.anchored isAnchored
        | some tunnel =>
          obtain ⟨-, ts0, t0, t⟩ := anchored (by rw [enabled]; rfl)
          exact ⟨pose, member, _, isTime, ts0, t0, t.le⟩
    · rw [accept_unadopted suspected newer]
      obtain ⟨estimate, headed⟩ :=
        service.estimateHeading_state pose (service.suspect pose before).2
      rw [headed]
      exact suspicion.of_same rfl rfl

/-- A message, with the pose the validator accepts of it. -/
theorem onRaw (dating : Dating accepted times before) (service : LocalizationService α)
    (message : Option (PyValue α)) (now wall : α) :
    Dating (accepted ++ (service.acceptedOf before (.raw message now wall)).toList) (times ++ [now])
      (service.onRaw message now wall before) := by
  have longer : accepted ⊆
      accepted ++ (service.acceptedOf before (.raw message now wall)).toList :=
    List.subset_append_left _ _
  have later : times ⊆ times ++ [now] := List.subset_append_left _ _
  have dating' := dating.mono longer later
  unfold LocalizationService.onRaw
  cases validated : service.validator.validate before.validator message now with
  | error error => exact dating'
  | ok outcome =>
    obtain ⟨result, validator⟩ := outcome
    have settled : Dating (accepted ++ (service.acceptedOf before (.raw message now wall)).toList)
        (times ++ [now]) { before with validator := validator } := dating'.of_same rfl rfl
    cases result with
    | accepted pose =>
      have received := (PoseValidator.validate_accepts validated).receivedAt
      refine settled.accept service ?_ ?_ wall
      · rw [acceptedOf_raw validated]
        exact List.mem_append_right _ List.mem_cons_self
      · rw [received]
        exact List.mem_append_right _ List.mem_cons_self
    | rejected reason => cases reason <;> exact settled.of_same rfl rfl

/-- A tick. -/
theorem tick (dating : Dating accepted times before) (service : LocalizationService α) {now : α}
    (isTime : now ∈ times) (wall : α) : Dating accepted times (service.tick now wall before) := by
  have fed := dating.tunnelFeed service isTime
  unfold LocalizationService.tick
  split
  · exact dating
  · dsimp only
    split
    · split
      · exact fed
      · split
        · exact fed.declareLost wall
        · exact fed
    · exact dating

theorem step (dating : Dating accepted times before) (service : LocalizationService α)
    (policy : CommandPolicy α) (label : LocalizationLabel α) :
    Dating (accepted ++ (service.acceptedOf before label).toList) (times ++ label.time?.toList)
      (service.step policy before label) := by
  have quiet : ∀ {after}, Dating accepted times after →
      Dating (accepted ++ []) (times ++ []) after :=
    fun dating => dating.mono (List.subset_append_left _ _) (List.subset_append_left _ _)
  have control : ∀ {change : Stack α → Stack α}, ControlOperation policy change →
      Dating (accepted ++ []) (times ++ []) (before.onPolicy change) := fun operation =>
    quiet (dating.of_same (congrArg Prod.fst (operation.position before.toStack)) rfl)
  cases label with
  | raw message now wall => exact dating.onRaw service message now wall
  | tick now wall =>
    exact (dating.mono (List.subset_append_left _ []) (List.subset_append_left _ _)).tick service
      (List.mem_append_right _ List.mem_cons_self) wall
  | disconnected wall => exact quiet (dating.declareLost wall)
  | rawCommand message clock => exact control (.rawMessage message clock)
  | controlDisconnected => exact control .disconnected
  | controlConnected wall => exact control (.connected wall)
  | notifyArrived wall => exact control (.notifyArrived wall)
  | outside driving command => exact quiet (dating.of_same rfl rfl)

/-- What a run keeps, with the poses it accepts and the times it reads. -/
theorem run (dating : Dating accepted times before) (service : LocalizationService α)
    (policy : CommandPolicy α) (labels : List (LocalizationLabel α)) :
    Dating (accepted ++ service.acceptedPoses policy before labels)
      (times ++ labels.filterMap LocalizationLabel.time?)
      (Transition.run (service.step policy) before labels) := by
  induction labels generalizing before accepted times with
  | nil => exact dating.mono (List.subset_append_left _ _) (List.subset_append_left _ _)
  | cons label labels inductionHypothesis =>
    have times : (label :: labels).filterMap LocalizationLabel.time? =
        label.time?.toList ++ labels.filterMap LocalizationLabel.time? := by
      rw [List.filterMap_cons]
      cases label.time? <;> rfl
    rw [acceptedPoses, times, ← List.append_assoc, ← List.append_assoc]
    exact inductionHypothesis (dating.step service policy label)

theorem start (stack : Stack α) (empty : stack.store.pose = none) :
    Dating [] [] (Localization.start stack) where
  stored _ held := nomatch empty.symm.trans held
  anchored isAnchored := nomatch isAnchored

end Dating

/-! ### Real poses are not starved -/

namespace LocalizationService

variable {service : LocalizationService α} {policy : CommandPolicy α}

theorem acceptedPoses_append (state : Localization α) (earlier later : List (LocalizationLabel α)) :
    service.acceptedPoses policy state (earlier ++ later) =
      service.acceptedPoses policy state earlier ++
        service.acceptedPoses policy (Transition.run (service.step policy) state earlier)
          later := by
  induction earlier generalizing state with
  | nil => rfl
  | cons label earlier inductionHypothesis =>
    rw [List.cons_append, acceptedPoses, inductionHypothesis, acceptedPoses, List.append_assoc]
    rfl

/-- A pose is newer than what is dated behind poses that came before it. -/
theorem newer_of_dating {accepted : List (LocalizationPose α)} {times : List α}
    {state : Localization α} {pose : LocalizationPose α} (dating : Dating accepted times state)
    (later : ∀ time ∈ times, time ≤ pose.receivedMonotonicS)
    (newer : ∀ real ∈ accepted, real.sourceTimestampS < pose.sourceTimestampS)
    (steady : ∀ real ∈ accepted, |pose.latency - real.latency| < 5 / 100) : Newer state pose := by
  intro stored held
  obtain ⟨real, member, notNewer | ⟨time, isTime, dated⟩⟩ := dating.stored stored held
  · exact notNewer.trans_lt (newer real member)
  · have elapsed := later time isTime
    have close := (abs_lt.mp (steady real member)).2
    unfold LocalizationPose.latency at close
    linarith only [dated, elapsed, close]

/-- Where the monotonic time does not go back, the dates of the accepted poses increase over the
run, and their latencies differ by less than 50 ms, every accepted pose that is not suspected is
stored, fresh, and the new anchor of the dead reckoner. -/
theorem real_poses_are_taken_up (service : LocalizationService α) (policy : CommandPolicy α)
    (labels : List (LocalizationLabel α))
    (ordered : (labels.filterMap LocalizationLabel.time?).Pairwise (· ≤ ·))
    (increasing : (service.acceptedPoses policy (Localization.start Stack.initial) labels).Pairwise
      fun before after => before.sourceTimestampS < after.sourceTimestampS)
    (steady : (service.acceptedPoses policy (Localization.start Stack.initial) labels).Pairwise
      fun before after => |after.latency - before.latency| < 5 / 100)
    {earlier later : List (LocalizationLabel α)} {message : Option (PyValue α)} {now wall : α}
    (split : labels = earlier ++ .raw message now wall :: later) {pose : LocalizationPose α}
    {validator : ValidatorState α}
    (accepted : service.validator.validate (Transition.run (service.step policy)
      (Localization.start Stack.initial) earlier).validator message now =
        .ok (.accepted pose, validator))
    (trusted : (service.suspect pose (Transition.run (service.step policy)
      (Localization.start Stack.initial) earlier)).1 = false) :
    TakenUp service pose (service.step policy (Transition.run (service.step policy)
      (Localization.start Stack.initial) earlier) (.raw message now wall)) := by
  subst split
  have dating := (Dating.start (Stack.initial : Stack α) rfl).run service policy earlier
  rw [List.nil_append, List.nil_append] at dating
  rw [acceptedPoses_append, acceptedPoses, acceptedOf_raw accepted] at increasing steady
  rw [List.filterMap_append, List.filterMap_cons] at ordered
  have received := (PoseValidator.validate_accepts accepted).receivedAt
  have newer : Newer (Transition.run (service.step policy) (Localization.start Stack.initial)
      earlier) pose := by
    refine newer_of_dating dating (fun time isTime => ?_) (fun real member => ?_)
      fun real member => ?_
    · rw [received]
      exact (List.pairwise_append.mp ordered).2.2 time isTime now List.mem_cons_self
    · exact (List.pairwise_append.mp increasing).2.2 real member pose List.mem_cons_self
    · exact (List.pairwise_append.mp steady).2.2 real member pose List.mem_cons_self
  have answered : service.step policy (Transition.run (service.step policy)
      (Localization.start Stack.initial) earlier) (.raw message now wall) = _ :=
    onRaw_accepted accepted wall
  rw [← suspect_settled validator] at trusted
  rw [answered]
  exact (accept_takesUp trusted newer wall).1

/-- The service with a tunnel mode, on the whole map. -/
def tunnelService : LocalizationService ℚ :=
  { plainService with tunnel := some ⟨⟨plainModel, 10, 10⟩, [⟨0, 5, 0, 3⟩], 1⟩ }

/-- A real pose, and one second on a synthetic one behind it. -/
def fedLabels : List (LocalizationLabel ℚ) :=
  [.raw (some (markerSeen 1 1 100)) 0 0, .outside .followingRoute stopCommand, .tick 1 1]

/-- The synthetic pose does not keep the next real one out. -/
theorem real_poses_are_taken_up_fed : ∃ pose, TakenUp tunnelService pose
    (tunnelService.step ⟨5, 3⟩ (Transition.run (tunnelService.step ⟨5, 3⟩)
      (Localization.start Stack.initial) fedLabels) (.raw (some (markerSeen 1 1 101)) 1 1)) := by
  have accepts : acceptsAt 101 (tunnelService.validator.validate (Transition.run
      (tunnelService.step ⟨5, 3⟩) (Localization.start Stack.initial) fedLabels).validator
        (some (markerSeen 1 1 101)) 1) = true := by decide +kernel
  obtain ⟨pose, validator, accepted, -⟩ := exists_accepted _ accepts
  have known : tunnelService.acceptedOf (Transition.run (tunnelService.step ⟨5, 3⟩)
      (Localization.start Stack.initial) fedLabels) (.raw (some (markerSeen 1 1 101)) 1 1) =
        some ⟨1, 1, 0, 101, 1⟩ := by decide +kernel
  have isPose := Option.some.inj ((acceptedOf_raw accepted).symm.trans known)
  refine ⟨pose, real_poses_are_taken_up tunnelService ⟨5, 3⟩
    (fedLabels ++ [.raw (some (markerSeen 1 1 101)) 1 1]) (by decide +kernel) (by decide +kernel)
    (by decide +kernel) rfl accepted ?_⟩
  rw [isPose]
  decide +kernel

end LocalizationService

end RcTaxi
