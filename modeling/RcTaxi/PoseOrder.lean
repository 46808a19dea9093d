/-
This file is about the order of the poses. Three places judge it by a reference of their own: the
validator by the last pose it accepted, the dead reckoner by where it expects the car, and the store
by the pose it holds. Losing the position resets the first two and leaves the third.

So a position that was lost comes back with a message exactly if the message is newer than the pose
in the store, which the server's clock may not reach again. And the validator takes a pose as its
reference before the other two have judged it, so that its reference is the last adopted pose as
long as neither of them refuses what it accepts.
-/

import RcTaxi.BlindDriving

namespace RcTaxi

variable {α : Type}

/-! ### What the validator remembers -/

namespace PoseValidator

/-- An accepted pose is remembered; a rejected message leaves the memory as it is. -/
def Remembers (before : ValidatorState α) : PoseResult α × ValidatorState α → Prop
  | (.accepted pose, after) => after.previous = some pose
  | (.rejected _, after) => after = before

variable {state : ValidatorState α} {outcome : PoseResult α × ValidatorState α}

theorem remembers_of_judged {jumped : Bool} {pose : LocalizationPose α} {face : Option ℤ}
    (judged : (if jumped = true then pure (.rejected .jump, state)
      else pure (.accepted pose, ⟨some pose, face⟩) : Except PyError _) = .ok outcome) :
    Remembers state outcome := by
  split at judged
  · cases judged
    rfl
  · cases judged
    rfl

variable [Scalar α] {validator : PoseValidator α}

theorem checkPose_remembers {face : Option ℤ} {offset timestamp received : α} {point : Point α}
    {heading : α}
    (checked : validator.checkPose state face offset timestamp received point heading = .ok outcome) :
    Remembers state outcome := by
  unfold checkPose at checked
  split at checked
  · cases checked
    rfl
  · dsimp only at checked
    split at checked
    · cases checked
      rfl
    · split at checked
      · split at checked
        · obtain ⟨jumped, -, judged⟩ := bind_eq_ok.mp checked
          exact remembers_of_judged judged
        · obtain ⟨jumped, -, judged⟩ := bind_eq_ok.mp checked
          exact remembers_of_judged judged
      · obtain ⟨jumped, -, judged⟩ := bind_eq_ok.mp checked
        exact remembers_of_judged judged

theorem validate_remembers {message : Option (PyValue α)} {received : α}
    (validated : validator.validate state message received = .ok outcome) :
    Remembers state outcome := by
  unfold validate at validated
  split at validated
  · cases validated
    rfl
  · split at validated
    · cases validated
      rfl
    · obtain ⟨marker, -, behindMarker⟩ := bind_eq_ok.mp validated
      cases marker with
      | none =>
        cases behindMarker
        rfl
      | some marker =>
        obtain ⟨timestamp, -, behindTime⟩ := bind_eq_ok.mp behindMarker
        cases timestamp with
        | none =>
          cases behindTime
          rfl
        | some timestamp =>
          dsimp only at behindTime
          split at behindTime
          · cases behindTime
            rfl
          · obtain ⟨place, -, behindPlace⟩ := bind_eq_ok.mp behindTime
            cases place with
            | none =>
              cases behindPlace
              rfl
            | some place => exact checkPose_remembers behindPlace

end PoseValidator

variable [Scalar α]

/-! ### What the service does with an accepted pose -/

/-- The same place at the same time; the heading may be an estimate. -/
structure LocalizationPose.SameFix {α : Type} (first second : LocalizationPose α) : Prop where
  x : first.x = second.x
  y : first.y = second.y
  source : first.sourceTimestampS = second.sourceTimestampS

/-- The pose is newer than the one the store holds. -/
def Newer (state : Localization α) (pose : LocalizationPose α) : Prop :=
  ∀ stored, state.store.pose = some stored → stored.sourceTimestampS < pose.sourceTimestampS

namespace LocalizationService

open BlindDriving

variable {service : LocalizationService α} {pose : LocalizationPose α} {state : Localization α}

theorem storePose_newer (service : LocalizationService α) (newer : Newer state pose) :
    ∃ taken, state.storePose service pose = (true, taken) := by
  have accepted : (state.store.updatePose pose).1 = true := by
    unfold VehicleSnapshot.updatePose
    split
    next stored held => rw [if_neg (not_le.mpr (newer stored held))]
    · rfl
  unfold Localization.storePose
  dsimp only
  rw [if_pos accepted]
  exact ⟨_, rfl⟩

theorem storePose_notNewer (notNewer : ¬ Newer state pose) :
    state.storePose service pose = (false, state) := by
  unfold Newer at notNewer
  push Not at notNewer
  obtain ⟨stored, held, older⟩ := notNewer
  unfold Localization.storePose VehicleSnapshot.updatePose
  rw [held]
  dsimp only
  rw [if_pos older]
  rfl

/-- Looking whether a pose is suspect moves the reckoner at most. -/
theorem suspect_state (pose : LocalizationPose α) (state : Localization α) :
    (service.suspect pose state).2 = state ∨ ∃ tunnel,
      (service.suspect pose state).2 = state.propagate tunnel pose.receivedMonotonicS := by
  unfold suspect
  split
  · exact .inl rfl
  next tunnel enabled =>
    split
    · exact .inl rfl
    · exact .inr ⟨tunnel, rfl⟩

theorem suspect_store : (service.suspect pose state).2.store = state.store := by
  rcases suspect_state pose state with same | ⟨tunnel, moved⟩
  · rw [same]
  · rw [moved]
    rfl

theorem suspect_validator : (service.suspect pose state).2.validator = state.validator := by
  rcases suspect_state pose state with same | ⟨tunnel, moved⟩
  · rw [same]
  · rw [moved]
    rfl

theorem suspect_lastAdopted :
    lastAdopted (service.suspect pose state).2.log = lastAdopted state.log := by
  rcases suspect_state pose state with same | ⟨tunnel, moved⟩
  · rw [same]
  · rw [moved]
    exact lastAdopted_append _ _

/-- What the reckoner thinks of a pose does not depend on the validator. -/
theorem suspect_settled (validator : ValidatorState α) :
    (service.suspect pose { state with validator := validator }).1 = (service.suspect pose state).1 := by
  unfold suspect
  split
  · rfl
  · dsimp only
    split <;> rfl

/-- Without an anchor nothing is suspect. -/
theorem suspect_unanchored (unanchored : DeadReckoner.anchored state.reckoner = false) :
    (service.suspect pose state).1 = false := by
  unfold suspect
  rw [unanchored]
  split
  · rfl
  · rfl

theorem suspect_lost : (service.suspect pose state).2.lost = state.lost := by
  rcases suspect_state pose state with same | ⟨tunnel, moved⟩
  · rw [same]
  · rw [moved]
    rfl

theorem suspect_hooks : (service.suspect pose state).2.log.filterMap LocalizationEvent.hook? =
    state.log.filterMap LocalizationEvent.hook? := by
  rcases suspect_state pose state with same | ⟨tunnel, moved⟩
  · rw [same]
  · rw [moved]
    exact List.filterMap_append.trans (List.append_nil _)

theorem estimateHeading_pose (service : LocalizationService α) (pose : LocalizationPose α)
    (state : Localization α) : ∃ heading,
    (service.estimateHeading pose state).1 = { pose with headingDeg := heading } ∧
      (service.heading = none → heading = pose.headingDeg) := by
  unfold estimateHeading
  split
  · exact ⟨pose.headingDeg, rfl, fun _ => rfl⟩
  next estimator enabled => exact ⟨_, rfl, fun without => (nomatch enabled.symm.trans without)⟩

theorem estimateHeading_state (service : LocalizationService α) (pose : LocalizationPose α)
    (state : Localization α) :
    ∃ heading, (service.estimateHeading pose state).2 = { state with heading := heading } := by
  unfold estimateHeading
  split
  · exact ⟨_, rfl⟩
  · exact ⟨_, rfl⟩

/-- What adopting a pose comes to: the pose is in the store, up to its heading, and fresh, and a
lost position is found with one call of the hook. -/
structure Adopts (service : LocalizationService α) (pose : LocalizationPose α)
    (before after : Localization α) : Prop where
  stored : ∃ heading, after.store.pose = some { pose with headingDeg := heading } ∧
    lastAdopted after.log = some { pose with headingDeg := heading } ∧
      (service.heading = none → heading = pose.headingDeg)
  fresh : after.store.poseStale = false
  found : after.lost = false
  called : after.log.filterMap LocalizationEvent.hook? =
    before.log.filterMap LocalizationEvent.hook? ++ if before.lost then [.onRecovered] else []
  validator : after.validator = before.validator

/-- A pose the store takes is adopted. -/
theorem recover_adopts {heading : α} {taken : Localization α}
    (stored : state.storePose service { pose with headingDeg := heading } = (true, taken))
    (exactly : service.heading = none → heading = pose.headingDeg) (wall : α) :
    Adopts service pose state
      (recover wall (service.adopt { pose with headingDeg := heading } taken)) := by
  obtain ⟨speed, mps, rfl⟩ := storePose_taken stored
  have adopted : ∀ log : List (LocalizationEvent α),
      lastAdopted (log ++ [LocalizationEvent.adopted { pose with headingDeg := heading }]) =
        some { pose with headingDeg := heading } := fun log => lastAdopted_append log _
  have noHook : ∀ log : List (LocalizationEvent α),
      (log ++ [LocalizationEvent.adopted { pose with headingDeg := heading }]).filterMap
          LocalizationEvent.hook? =
        log.filterMap LocalizationEvent.hook? :=
    fun log => List.filterMap_append.trans (List.append_nil _)
  unfold recover
  split
  next wasLost =>
    have wasLost : state.lost = true := wasLost
    have position := Stack.onGpsRecovered_position
      { state.toStack with store := { state.store with
          pose := some { pose with headingDeg := heading }, poseStale := false,
          estimatedSpeedMps := mps } } wall
    refine ⟨⟨heading, congrArg Prod.fst position, ?_, exactly⟩, congrArg Prod.snd position, rfl, ?_,
      rfl⟩
    · exact (lastAdopted_append _ .recovered).trans (adopted state.log)
    · rw [wasLost, if_pos rfl, ← noHook state.log]
      exact List.filterMap_append
  next notLost =>
    have notLost : state.lost = false := Bool.not_eq_true _ ▸ notLost
    refine ⟨⟨heading, rfl, adopted state.log, exactly⟩, rfl, notLost, ?_, rfl⟩
    rw [notLost, if_neg Bool.false_ne_true, List.append_nil]
    exact noHook state.log

/-- A suspected pose ends behind the suspicion. -/
theorem accept_suspected (suspected : (service.suspect pose state).1 = true) (wall : α) :
    service.accept pose wall state = (service.suspect pose state).2 := by
  unfold accept
  dsimp only
  rw [if_pos suspected]

/-- A pose that is not suspected is offered to the store with a heading of its own, and is as new
there as it was before. -/
theorem accept_trusted (trusted : (service.suspect pose state).1 = false) (wall : α) :
    ∃ heading estimate, (service.heading = none → heading = pose.headingDeg) ∧
      let posed := { pose with headingDeg := heading }
      let headed := { (service.suspect pose state).2 with heading := estimate }
      service.estimateHeading pose (service.suspect pose state).2 = (posed, headed) ∧
        (Newer headed posed ↔ Newer state pose) ∧
        service.accept pose wall state =
          if (headed.storePose service posed).1 then
            recover wall (service.adopt posed (headed.storePose service posed).2)
          else (headed.storePose service posed).2 := by
  have store : (service.suspect pose state).2.store = state.store := suspect_store
  unfold accept
  generalize service.suspect pose state = suspicion at *
  obtain ⟨suspected, checked⟩ := suspicion
  dsimp only at *
  rw [if_neg (by rw [trusted]; exact Bool.false_ne_true)]
  obtain ⟨heading, posed, exactly⟩ := service.estimateHeading_pose pose checked
  obtain ⟨estimate, headed⟩ := service.estimateHeading_state pose checked
  rw [posed, headed]
  refine ⟨heading, estimate, exactly, Prod.ext posed headed, ?_, rfl⟩
  unfold Newer
  rw [store]

/-- A refused pose ends behind the heading estimate. -/
theorem accept_unadopted (trusted : (service.suspect pose state).1 = false)
    (notNewer : ¬ Newer state pose) (wall : α) :
    service.accept pose wall state =
      (service.estimateHeading pose (service.suspect pose state).2).2 := by
  obtain ⟨heading, estimate, -, estimated, sameAge, accepted⟩ := accept_trusted trusted wall
  rw [accepted, storePose_notNewer (mt sameAge.mp notNewer), if_neg Bool.false_ne_true, estimated]

/-- A pose that the reckoner trusts and the store takes is adopted. -/
theorem accept_adopts (trusted : (service.suspect pose state).1 = false)
    (newer : Newer state pose) (wall : α) :
    Adopts service pose state (service.accept pose wall state) := by
  have validator : (service.suspect pose state).2.validator = state.validator := suspect_validator
  have lost : (service.suspect pose state).2.lost = state.lost := suspect_lost
  have hooks : (service.suspect pose state).2.log.filterMap LocalizationEvent.hook? = _ :=
    suspect_hooks
  obtain ⟨heading, estimate, exactly, -, sameAge, accepted⟩ := accept_trusted trusted wall
  generalize (service.suspect pose state).2 = checked at *
  obtain ⟨taken, stored⟩ := storePose_newer service (sameAge.mpr newer)
  rw [accepted, stored, if_pos rfl]
  have adopts := recover_adopts stored exactly wall
  refine ⟨adopts.stored, adopts.fresh, adopts.found, ?_, adopts.validator.trans validator⟩
  rw [adopts.called, hooks, lost]

/-- A pose that the reckoner suspects or the store refuses leaves the position lost, if it was. -/
theorem accept_refused
    (refused : (service.suspect pose state).1 = true ∨ ¬ Newer state pose) (wall : α) :
    (service.accept pose wall state).lost = state.lost ∧
      (service.accept pose wall state).validator = state.validator ∧
      lastAdopted (service.accept pose wall state).log = lastAdopted state.log := by
  cases suspicion : (service.suspect pose state).1 with
  | true =>
    rw [accept_suspected suspicion]
    exact ⟨suspect_lost, suspect_validator, suspect_lastAdopted⟩
  | false =>
    have notNewer : ¬ Newer state pose :=
      refused.resolve_left fun suspected => (nomatch suspicion.symm.trans suspected)
    obtain ⟨heading, estimate, -, estimated, -⟩ := accept_trusted suspicion wall
    rw [accept_unadopted suspicion notNewer, estimated]
    exact ⟨suspect_lost, suspect_validator, suspect_lastAdopted⟩

/-- A message the validator accepts is judged by the reckoner and the store. -/
theorem onRaw_accepted {message : Option (PyValue α)} {now : α} {validator : ValidatorState α}
    (accepted : service.validator.validate state.validator message now =
      .ok (.accepted pose, validator)) (wall : α) :
    service.onRaw message now wall state =
      service.accept pose wall { state with validator := validator } := by
  unfold onRaw
  rw [accepted]

/-- A message the validator does not accept leaves its reference and the adopted poses alone. -/
theorem onRaw_rejected {message : Option (PyValue α)} {now : α}
    (rejected : ∀ pose validator, service.validator.validate state.validator message now ≠
      .ok (.accepted pose, validator)) (wall : α) :
    (service.onRaw message now wall state).validator = state.validator ∧
      lastAdopted (service.onRaw message now wall state).log = lastAdopted state.log := by
  unfold onRaw
  split
  · exact ⟨rfl, rfl⟩
  next result validator validated =>
    cases result with
    | accepted pose => exact absurd validated (rejected pose validator)
    | rejected reason =>
      have same : validator = state.validator := PoseValidator.validate_remembers validated
      subst same
      cases reason <;> exact ⟨rfl, rfl⟩

end LocalizationService

/-! ### Recovering a lost position -/

namespace LocalizationService

/-- A message brings a lost position back: its pose is in the store and fresh, with the heading the
estimator gives it if there is one, and `on_recovered` was called once. -/
structure Recovers (service : LocalizationService α) (pose : LocalizationPose α)
    (before after : Localization α) : Prop where
  stored : ∃ heading, after.store.pose = some { pose with headingDeg := heading } ∧
    (service.heading = none → heading = pose.headingDeg)
  fresh : after.store.poseStale = false
  found : after.lost = false
  once : after.log.filterMap LocalizationEvent.hook? =
    before.log.filterMap LocalizationEvent.hook? ++ [.onRecovered]

/-- Once the position is lost, a message that the validator accepts brings it back exactly if it is
newer than the pose in the store, whatever the run before. -/
theorem lost_position_recovers_iff_newer (service : LocalizationService α)
    (policy : CommandPolicy α) {state : Localization α}
    (reached : Transition.Reachable (service.step policy) (Localization.start Stack.initial) state)
    (lost : state.lost = true) {message : Option (PyValue α)} {now : α}
    {pose : LocalizationPose α} {validator : ValidatorState α}
    (accepted : service.validator.validate state.validator message now =
      .ok (.accepted pose, validator)) (wall : α) :
    Recovers service pose state (service.step policy state (.raw message now wall)) ↔
      Newer state pose := by
  have answered : service.step policy state (.raw message now wall) =
      service.accept pose wall { state with validator := validator } := onRaw_accepted accepted wall
  rw [answered]
  constructor
  · intro recovers
    by_contra notNewer
    have refused : (service.suspect pose { state with validator := validator }).1 = true ∨
        ¬ Newer { state with validator := validator } pose := .inr notNewer
    have still := (accept_refused refused wall).1
    rw [recovers.found] at still
    exact Bool.false_ne_true (still.trans lost)
  · intro newer
    obtain ⟨labels, rfl⟩ := reached
    have coupled := LossCoupling.run_invariant service policy labels
    have unanchored : DeadReckoner.anchored
        (Transition.run (service.step policy) (Localization.start Stack.initial) labels).reckoner =
          false := by
      rw [← Bool.not_eq_true]
      exact fun anchored => Bool.false_ne_true ((coupled.anchored anchored).1.symm.trans lost)
    have trusted : (service.suspect pose (Transition.run (service.step policy)
        (Localization.start Stack.initial) labels)).1 = false := suspect_unanchored unanchored
    rw [← suspect_settled validator] at trusted
    have adopts := accept_adopts trusted newer wall
    obtain ⟨heading, stored, -, exactly⟩ := adopts.stored
    refine ⟨⟨heading, stored, exactly⟩, adopts.fresh, adopts.found, ?_⟩
    rw [adopts.called, if_pos lost]

/-- A service without tunnel mode and heading estimator. -/
def plainService : LocalizationService ℚ where
  validator := ⟨6, 0, 8 / 100, 15, 1 / 10, 5, 3, none, ⟨((1, 0), (0, 1)), (0, 0)⟩⟩
  estimator := ⟨5, by norm_num, 6 / 10⟩
  timeoutS := 6 / 10
  tunnel := none
  heading := none

/-- A message that sees the marker at a place at a time. -/
def markerSeen (x y timestamp : ℤ) : PyValue ℚ :=
  .dict [("marker_id", .int 6), ("timestamp", .int timestamp), ("found", .bool true),
    ("position", .dict [("x", .int x), ("y", .int y)]), ("heading", .int 0)]

/-- The position is lost behind a pose of the time 100. -/
def lostAtHundred : Localization ℚ :=
  Transition.run (plainService.step ⟨5, 3⟩) (Localization.start Stack.initial)
    [.raw (some (markerSeen 1 1 100)) 0 0, .disconnected 0]

theorem lostAtHundred_reachable : Transition.Reachable (plainService.step ⟨5, 3⟩)
    (Localization.start Stack.initial) lostAtHundred := ⟨_, rfl⟩

/-- Whether a pose of a time is accepted. -/
def acceptsAt (timestamp : ℚ) : Except PyError (PoseResult ℚ × ValidatorState ℚ) → Bool
  | .ok (.accepted pose, _) => pose.sourceTimestampS = timestamp
  | _ => false

theorem exists_accepted (judged : Except PyError (PoseResult ℚ × ValidatorState ℚ)) {timestamp : ℚ}
    (accepted : acceptsAt timestamp judged = true) :
    ∃ pose validator, judged = .ok (.accepted pose, validator) ∧
      pose.sourceTimestampS = timestamp := by
  unfold acceptsAt at accepted
  split at accepted
  · exact ⟨_, _, rfl, of_decide_eq_true accepted⟩
  · cases accepted

/-- Behind a restart of the server's clock a lost position does not come back. -/
theorem recovery_is_refused :
    Transition.Reachable (plainService.step ⟨5, 3⟩) (Localization.start Stack.initial) lostAtHundred ∧
      lostAtHundred.lost = true ∧
      ∃ pose validator, plainService.validator.validate lostAtHundred.validator
          (some (markerSeen 1 1 1)) 1 = .ok (.accepted pose, validator) ∧
        ¬ Recovers plainService pose lostAtHundred
          (plainService.step ⟨5, 3⟩ lostAtHundred (.raw (some (markerSeen 1 1 1)) 1 1)) := by
  have accepts : acceptsAt 1 (plainService.validator.validate lostAtHundred.validator
      (some (markerSeen 1 1 1)) 1) = true := by decide +kernel
  have still : (plainService.step ⟨5, 3⟩ lostAtHundred
      (.raw (some (markerSeen 1 1 1)) 1 1)).lost = true := by decide +kernel
  obtain ⟨pose, validator, accepted, -⟩ := exists_accepted _ accepts
  refine ⟨lostAtHundred_reachable, by decide +kernel, pose, validator, accepted,
    fun recovers => ?_⟩
  exact Bool.false_ne_true (recovers.found.symm.trans still)

theorem lost_position_recovers_iff_newer_later :
    ∃ pose, Recovers plainService pose lostAtHundred
      (plainService.step ⟨5, 3⟩ lostAtHundred (.raw (some (markerSeen 1 1 101)) 1 1)) := by
  have accepts : acceptsAt 101 (plainService.validator.validate lostAtHundred.validator
      (some (markerSeen 1 1 101)) 1) = true := by decide +kernel
  have kept : lostAtHundred.store.pose.map LocalizationPose.sourceTimestampS = some 100 := by
    decide +kernel
  obtain ⟨pose, validator, accepted, timestamp⟩ := exists_accepted _ accepts
  have recovers := lost_position_recovers_iff_newer plainService ⟨5, 3⟩ lostAtHundred_reachable
    (by decide +kernel) accepted 1
  refine ⟨pose, recovers.mpr fun stored held => ?_⟩
  rw [held, Option.map_some, Option.some.injEq] at kept
  rw [kept, timestamp]
  norm_num

end LocalizationService

/-! ### The reference of the validator -/

namespace LocalizationService

open BlindDriving

/-- The validator remembers the last adopted pose, if any. -/
def ReferenceIsAdopted (state : Localization α) : Prop :=
  ∀ previous, state.validator.previous = some previous →
    ∃ real, lastAdopted state.log = some real ∧ real.SameFix previous

/-- Every pose the validator accepts is trusted by the reckoner and newer than the pose in the
store, or repeats the last adopted pose. -/
def Undisputed (service : LocalizationService α) (state : Localization α) :
    LocalizationLabel α → Prop
  | .raw message now _ => ∀ pose validator,
      service.validator.validate state.validator message now = .ok (.accepted pose, validator) →
      ((service.suspect pose state).1 = false ∧ Newer state pose) ∨
        ∃ real, lastAdopted state.log = some real ∧ real.SameFix pose
  | _ => True

omit [Scalar α] in
theorem referenceIsAdopted_of_same {before after : Localization α}
    (reference : ReferenceIsAdopted before) (validator : after.validator = before.validator)
    (last : lastAdopted after.log = lastAdopted before.log) : ReferenceIsAdopted after := by
  intro previous remembered
  rw [validator] at remembered
  rw [last]
  exact reference previous remembered

theorem referenceIsAdopted_of_adopts {service : LocalizationService α}
    {pose : LocalizationPose α} {before after : Localization α}
    (adopts : Adopts service pose before after)
    (remembered : before.validator.previous = some pose) : ReferenceIsAdopted after := by
  obtain ⟨heading, -, last, -⟩ := adopts.stored
  intro previous reference
  rw [adopts.validator, remembered, Option.some.injEq] at reference
  subst reference
  exact ⟨_, last, rfl, rfl, rfl⟩

/-- A message the validator accepts keeps its reference right exactly if nothing else refuses it. -/
theorem referenceIsAdopted_accept {service : LocalizationService α} {state : Localization α}
    {pose : LocalizationPose α} (remembered : state.validator.previous = some pose) (wall : α) :
    ReferenceIsAdopted (service.accept pose wall state) ↔
      ((service.suspect pose state).1 = false ∧ Newer state pose) ∨
        ∃ real, lastAdopted state.log = some real ∧ real.SameFix pose := by
  by_cases taken : (service.suspect pose state).1 = false ∧ Newer state pose
  · have adopts := accept_adopts taken.1 taken.2 wall
    exact ⟨fun _ => .inl taken, fun _ => referenceIsAdopted_of_adopts adopts remembered⟩
  · have refused : (service.suspect pose state).1 = true ∨ ¬ Newer state pose := by
      rwa [not_and_or, Bool.not_eq_false] at taken
    obtain ⟨-, validator, last⟩ := accept_refused refused wall
    rw [or_iff_right taken]
    constructor
    · intro reference
      rw [← last]
      exact reference pose (by rw [validator, remembered])
    · rintro ⟨real, isLast, same⟩ previous reference
      rw [validator, remembered, Option.some.injEq] at reference
      subst reference
      exact ⟨real, last.trans isLast, same⟩

theorem referenceIsAdopted_onRaw (service : LocalizationService α) {state : Localization α}
    (reference : ReferenceIsAdopted state) (message : Option (PyValue α)) (now wall : α) :
    ReferenceIsAdopted (service.onRaw message now wall state) ↔
      Undisputed service state (.raw message now wall) := by
  by_cases isAccepted : ∃ pose validator,
      service.validator.validate state.validator message now = .ok (.accepted pose, validator)
  · obtain ⟨pose, validator, accepted⟩ := isAccepted
    have remembered : validator.previous = some pose := PoseValidator.validate_remembers accepted
    have judged : ReferenceIsAdopted
        (service.accept pose wall { state with validator := validator }) ↔ _ :=
      referenceIsAdopted_accept remembered wall
    rw [suspect_settled] at judged
    rw [onRaw_accepted accepted, judged]
    constructor
    · intro undisputed other settled same
      rw [accepted] at same
      cases same
      exact undisputed
    · exact fun undisputed => undisputed pose validator accepted
  · push Not at isAccepted
    obtain ⟨validator, last⟩ := onRaw_rejected isAccepted wall
    refine ⟨fun _ pose validator accepted => absurd accepted (isAccepted pose validator), fun _ => ?_⟩
    exact referenceIsAdopted_of_same reference validator last

omit [Scalar α] in
/-- Without a reference there is nothing to be wrong. -/
theorem referenceIsAdopted_of_none {state : Localization α}
    (nothing : state.validator.previous = none) : ReferenceIsAdopted state := by
  intro previous remembered
  rw [nothing] at remembered
  cases remembered

theorem referenceIsAdopted_declareLost {state : Localization α}
    (reference : ReferenceIsAdopted state) (wall : α) :
    ReferenceIsAdopted (declareLost wall state) := by
  unfold declareLost
  split
  · exact reference
  · exact referenceIsAdopted_of_none rfl

theorem referenceIsAdopted_tick (service : LocalizationService α) {state : Localization α}
    (reference : ReferenceIsAdopted state) (now wall : α) :
    ReferenceIsAdopted (service.tick now wall state) := by
  unfold tick
  split
  · exact reference
  · dsimp only
    split
    · have feed := tunnelFeed_feed service now state
      generalize service.tunnelFeed now state = outcome at feed ⊢
      have fed : ReferenceIsAdopted outcome.2 := by
        cases feed with
        | idle => exact reference
        | blind tunnel enabled =>
          exact referenceIsAdopted_of_same reference rfl (lastAdopted_append _ _)
        | fed tunnel pose taken enabled driving predicted inZone budget stored =>
          obtain ⟨speed, mps, rfl⟩ := storePose_taken stored
          refine referenceIsAdopted_of_same reference rfl ?_
          exact (lastAdopted_append _ _).trans (lastAdopted_append _ _)
      split
      · exact fed
      · split
        · exact referenceIsAdopted_declareLost fed wall
        · exact fed
    · exact reference

/-- A step keeps the reference right exactly if nothing refuses what the validator accepts. -/
theorem referenceIsAdopted_step (service : LocalizationService α) (policy : CommandPolicy α)
    (state : Localization α) (label : LocalizationLabel α) (reference : ReferenceIsAdopted state) :
    ReferenceIsAdopted (service.step policy state label) ↔ Undisputed service state label := by
  cases label with
  | raw message now wall => exact referenceIsAdopted_onRaw service reference message now wall
  | disconnected wall => exact iff_of_true (referenceIsAdopted_declareLost reference wall) trivial
  | tick now wall => exact iff_of_true (referenceIsAdopted_tick service reference now wall) trivial
  | rawCommand message clock => exact iff_of_true (referenceIsAdopted_of_same reference rfl rfl) trivial
  | controlDisconnected => exact iff_of_true (referenceIsAdopted_of_same reference rfl rfl) trivial
  | controlConnected wall => exact iff_of_true (referenceIsAdopted_of_same reference rfl rfl) trivial
  | notifyArrived wall => exact iff_of_true (referenceIsAdopted_of_same reference rfl rfl) trivial
  | outside driving command => exact iff_of_true (referenceIsAdopted_of_same reference rfl rfl) trivial

/-- In every state of a run the validator's reference is the last adopted pose, exactly if along the
run every pose the validator accepts is trusted by the reckoner and taken by the store, or repeats
the last adopted one. -/
theorem reference_is_last_adopted (service : LocalizationService α) (policy : CommandPolicy α)
    (labels : List (LocalizationLabel α)) :
    (∀ earlier later, labels = earlier ++ later → ReferenceIsAdopted
        (Transition.run (service.step policy) (Localization.start Stack.initial) earlier)) ↔
      Transition.Along (service.step policy) (Undisputed service) (Localization.start Stack.initial)
        labels :=
  Transition.always_iff_along (referenceIsAdopted_step service policy)
    (referenceIsAdopted_of_none rfl) labels

/-- A message refused by the store becomes the reference of the validator. -/
theorem refused_pose_is_reference :
    ¬ ReferenceIsAdopted (Transition.run (plainService.step ⟨5, 3⟩)
      (Localization.start Stack.initial) [.raw (some (markerSeen 1 1 100)) 0 0, .disconnected 0,
        .raw (some (markerSeen 1 1 1)) 1 1]) := by
  rw [Transition.run_cons, Transition.run_cons, Transition.run_cons, Transition.run_nil]
  have remembered : (plainService.step ⟨5, 3⟩ lostAtHundred
      (.raw (some (markerSeen 1 1 1)) 1 1)).validator.previous.map
        LocalizationPose.sourceTimestampS = some 1 := by decide +kernel
  have adopted : (lastAdopted (plainService.step ⟨5, 3⟩ lostAtHundred
      (.raw (some (markerSeen 1 1 1)) 1 1)).log).map LocalizationPose.sourceTimestampS =
        some 100 := by decide +kernel
  unfold lostAtHundred at remembered adopted
  rw [Transition.run_cons, Transition.run_cons, Transition.run_nil] at remembered adopted
  obtain ⟨previous, isPrevious, source⟩ := Option.map_eq_some_iff.mp remembered
  intro reference
  obtain ⟨real, isLast, same⟩ := reference previous isPrevious
  rw [isLast, Option.map_some, Option.some.injEq, same.source, source] at adopted
  norm_num at adopted

end LocalizationService

end RcTaxi
