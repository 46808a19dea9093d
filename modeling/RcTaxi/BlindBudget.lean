/-
This file is about the bounds the dead reckoner keeps by itself. It looks a target speed up in the
measured points, and every step of its integration moves the wheel and the speed by at most what the
servo and the motor can do. The speed is thereby never larger than the largest measured one, the
distance it adds up is never smaller than how far the position has moved, and neither that distance
nor the time shrinks before the next anchor.

The steps inside a call of `propagate` are listed, so that a result about a step is a result about
the loop of the program and not only about its calls.
-/

import RcTaxi.BicycleAgreement
import RcTaxi.Transition

namespace RcTaxi

variable {α : Type} [Scalar α]

/-- The facts about `math.cos`, `math.sin` and `math.hypot` that the length of a step needs. -/
class DirectedHypot (α : Type) [Scalar α] : Prop where
  hypot_direction_le : ∀ angle : α, hypot (cos angle) (sin angle) ≤ 1
  hypot_scale : ∀ scale x y : α, 0 ≤ scale → hypot (scale * x) (scale * y) = scale * hypot x y

export DirectedHypot (hypot_direction_le hypot_scale)

instance : DirectedHypot ℝ where
  hypot_direction_le angle := by
    change Real.sqrt (Real.cos angle ^ 2 + Real.sin angle ^ 2) ≤ 1
    rw [Real.cos_sq_add_sin_sq, Real.sqrt_one]
  hypot_scale scale x y nonneg := by
    change Real.sqrt ((scale * x) ^ 2 + (scale * y) ^ 2) = scale * Real.sqrt (x ^ 2 + y ^ 2)
    rw [mul_pow, mul_pow, ← mul_add, Real.sqrt_mul (sq_nonneg scale), Real.sqrt_sq nonneg]

instance : DirectedHypot ℚ where
  hypot_direction_le angle := by
    change |cos angle| + |sin angle| ≤ 1
    unfold cos sin instScalarRat
    dsimp only
    split
    next found =>
      rw [found]
      norm_num
    next found =>
      rw [found]
      norm_num
    next =>
      split
      · norm_num
      · norm_num
      · norm_num
  hypot_scale scale x y nonneg := by
    change |scale * x| + |scale * y| = scale * (|x| + |y|)
    rw [abs_mul, abs_mul, abs_of_nonneg nonneg, mul_add]

/-! ### The measured speeds -/

/-- The loop of `_speed`, with its division as Python carries it out. -/
def dividingLoop (last : α) (throttle : α) : List ((α × α) × (α × α)) → Except PyError α
  | [] => .ok last
  | ((a, va), (b, vb)) :: rest =>
    if throttle ≤ b then do
      let raised ← divide ((vb - va) * (throttle - a)) (b - a)
      pure (va + raised)
    else dividingLoop last throttle rest

namespace SpeedPoints

/-- `DeadReckoner._speed` of a list that is not empty. -/
def dividingSpeed (points : SpeedPoints α) (throttle : α) : Except PyError α :=
  if throttle ≤ points.first.1 then .ok 0
  else dividingLoop (points.rest.getLastD points.first).2 throttle
    ((points.first :: points.rest).zip points.rest)

/-- The largest speed of the list. -/
def largest (points : SpeedPoints α) : α :=
  (points.rest.map Prod.snd).foldr max points.first.2

/-- The speeds start from zero or above, and do not fall. -/
structure Rising (points : SpeedPoints α) : Prop where
  nonneg : 0 ≤ points.first.2
  chain : (points.first :: points.rest).IsChain fun before after => before.2 ≤ after.2

end SpeedPoints

/-- Behind its first point the loop divides by a difference that is positive, in whatever order the
points are. -/
theorem dividingLoop_eq_ok (last throttle : α) (rest : List (α × α)) (first : α × α)
    (above : first.1 < throttle) :
    dividingLoop last throttle ((first :: rest).zip rest) =
      .ok (speedLoop last throttle ((first :: rest).zip rest)) := by
  induction rest generalizing first with
  | nil => rfl
  | cons next rest inductionHypothesis =>
    rw [List.zip_cons_cons, dividingLoop, speedLoop]
    split
    next reached =>
      have distinct : next.1 - first.1 ≠ 0 := (sub_pos.mpr (above.trans_le reached)).ne'
      rw [divide, if_neg distinct]
      rfl
    next beyond => exact inductionHypothesis next (not_le.mp beyond)

/-- Looking a speed up never divides by zero. -/
theorem SpeedPoints.dividingSpeed_eq_ok (points : SpeedPoints α) (throttle : α) :
    points.dividingSpeed throttle = .ok (points.speed throttle) := by
  unfold dividingSpeed speed
  split
  next => rfl
  next above => exact dividingLoop_eq_ok _ _ _ _ (not_le.mp above)

/-- A point between two others on their line is between them in height. -/
theorem interpolate_mem {a b throttle va vb : α} (above : a < throttle) (reached : throttle ≤ b)
    (rising : va ≤ vb) :
    va ≤ va + (vb - va) * (throttle - a) / (b - a) ∧
      va + (vb - va) * (throttle - a) / (b - a) ≤ vb := by
  have width : 0 < b - a := sub_pos.mpr (above.trans_le reached)
  have height : 0 ≤ vb - va := sub_nonneg.mpr rising
  have share : (vb - va) * (throttle - a) / (b - a) ≤ vb - va := by
    rw [div_le_iff₀ width]
    exact mul_le_mul_of_nonneg_left (sub_le_sub_right reached a) height
  refine ⟨le_add_of_nonneg_right ?_, le_sub_iff_add_le'.mp share⟩
  exact div_nonneg (mul_nonneg height (sub_nonneg.mpr above.le)) width.le

theorem speedLoop_mem {last throttle top : α} (lastMem : 0 ≤ last ∧ last ≤ top)
    (rest : List (α × α)) (first : α × α) (above : first.1 < throttle)
    (chain : (first :: rest).IsChain fun before after => before.2 ≤ after.2)
    (nonneg : 0 ≤ first.2) (atMost : ∀ point ∈ first :: rest, point.2 ≤ top) :
    0 ≤ speedLoop last throttle ((first :: rest).zip rest) ∧
      speedLoop last throttle ((first :: rest).zip rest) ≤ top := by
  induction rest generalizing first with
  | nil => exact lastMem
  | cons next rest inductionHypothesis =>
    obtain ⟨rising, chain⟩ := List.isChain_cons_cons.mp chain
    rw [List.zip_cons_cons, speedLoop]
    split
    next reached =>
      obtain ⟨lower, upper⟩ := interpolate_mem above reached rising
      exact ⟨nonneg.trans lower,
        upper.trans (atMost next (List.mem_cons_of_mem _ List.mem_cons_self))⟩
    next beyond =>
      exact inductionHypothesis next (not_le.mp beyond) chain (nonneg.trans rising)
        fun point member => atMost point (List.mem_cons_of_mem _ member)

namespace SpeedPoints

variable {points : SpeedPoints α}

theorem le_largest (points : SpeedPoints α) :
    ∀ point ∈ points.first :: points.rest, point.2 ≤ points.largest := by
  obtain ⟨first, rest⟩ := points
  unfold largest
  dsimp only
  induction rest with
  | nil =>
    intro point member
    rw [List.mem_singleton.mp member]
    exact le_rfl
  | cons next rest inductionHypothesis =>
    intro point member
    rw [List.map_cons, List.foldr_cons]
    rcases List.mem_cons.mp member with rfl | later
    · exact (inductionHypothesis _ List.mem_cons_self).trans (le_max_right _ _)
    · rcases List.mem_cons.mp later with rfl | later
      · exact le_max_left _ _
      · exact (inductionHypothesis _ (List.mem_cons_of_mem _ later)).trans (le_max_right _ _)

theorem Rising.nonneg_of_mem (rising : Rising points) :
    ∀ point ∈ points.first :: points.rest, 0 ≤ point.2 := by
  obtain ⟨nonneg, chain⟩ := rising
  have pairs := List.isChain_iff_pairwise.mp chain
  intro point member
  rcases List.mem_cons.mp member with rfl | later
  · exact nonneg
  · exact nonneg.trans (List.rel_of_pairwise_cons pairs later)

theorem Rising.largest_nonneg (rising : Rising points) : 0 ≤ points.largest :=
  rising.nonneg.trans (points.le_largest _ List.mem_cons_self)

/-- The target speed is one the car has been measured at, or one between two of those. -/
theorem Rising.speed_mem (rising : Rising points) (throttle : α) :
    0 ≤ points.speed throttle ∧ points.speed throttle ≤ points.largest := by
  unfold speed
  split
  next => exact ⟨le_rfl, rising.largest_nonneg⟩
  next above =>
    have last : points.rest.getLastD points.first ∈ points.first :: points.rest := by
      rw [List.getLastD_eq_getLast?]
      cases found : points.rest.getLast? with
      | none => exact List.mem_cons_self
      | some point => exact List.mem_cons_of_mem _ (List.mem_of_getLast? found)
    exact speedLoop_mem ⟨rising.nonneg_of_mem _ last, points.le_largest _ last⟩ _ _
      (not_le.mp above) rising.chain rising.nonneg points.le_largest

end SpeedPoints

/-! ### The steps of the loop -/

section Trace

variable {State : Type}

/-- The states the integration loop goes through. -/
def integrateTrace (advance : α → State → State) : ℕ → α → State → List State
  | 0, _, _ => []
  | rounds + 1, remain, state =>
    if remain ≤ remainderS then []
    else
      let dt := min stepS remain
      let next := advance dt state
      next :: integrateTrace advance rounds (remain - dt) next

theorem integrateTrace_succ (advance : α → State → State) (rounds : ℕ) (remain : α)
    (state : State) :
    integrateTrace advance (rounds + 1) remain state =
      if remain ≤ remainderS then []
      else advance (min stepS remain) state ::
        integrateTrace advance rounds (remain - min stepS remain)
          (advance (min stepS remain) state) := rfl

/-- The loop ends in the last of them. -/
theorem getLastD_integrateTrace (advance : α → State → State) (rounds : ℕ) (remain : α)
    (state : State) :
    (integrateTrace advance rounds remain state).getLastD state =
      integrateLoop advance rounds remain state := by
  induction rounds generalizing remain state with
  | zero => rfl
  | succ rounds inductionHypothesis =>
    rw [integrateTrace_succ, integrateLoop_succ]
    split
    · rfl
    · rw [List.getLastD_cons]
      exact inductionHypothesis _ _

/-- Steps of positive length that keep a property of the state and lead on to a related state make
up a chain of such states. -/
theorem integrateTrace_chain {holds : State → Prop} {related : State → State → Prop}
    {advance : α → State → State}
    (kept : ∀ dt state, 0 < dt → holds state →
      holds (advance dt state) ∧ related state (advance dt state))
    (rounds : ℕ) (remain : α) {state : State} (initially : holds state) :
    (∀ visited ∈ integrateTrace advance rounds remain state, holds visited) ∧
      (state :: integrateTrace advance rounds remain state).IsChain related := by
  induction rounds generalizing remain state with
  | zero => exact ⟨fun _ member => (nomatch member), List.isChain_singleton _⟩
  | succ rounds inductionHypothesis =>
    rw [integrateTrace_succ]
    split
    next => exact ⟨fun _ member => (nomatch member), List.isChain_singleton _⟩
    next more =>
      have small : (0 : α) < remainderS := by
        unfold remainderS
        norm_num
      have onward : 0 < min stepS remain :=
        lt_min stepS_pos (small.trans (not_le.mp more))
      obtain ⟨holdsNext, relatedNext⟩ := kept _ state onward initially
      obtain ⟨visited, chain⟩ := inductionHypothesis (remain - min stepS remain) holdsNext
      exact ⟨List.forall_mem_cons.mpr ⟨holdsNext, visited⟩,
        List.isChain_cons_cons.mpr ⟨relatedNext, chain⟩⟩

end Trace

/-- A step that is limited on both sides leads towards the command, and not past it. -/
theorem slew_mem_uIcc {limit : α} (nonneg : 0 ≤ limit) (wheel command : α) :
    wheel + max (-limit) (min limit (command - wheel)) ∈ Set.uIcc wheel command := by
  rw [Set.mem_uIcc]
  rcases le_total wheel command with right | left
  · have ahead : 0 ≤ command - wheel := sub_nonneg.mpr right
    have limited : max (-limit) (min limit (command - wheel)) = min limit (command - wheel) :=
      max_eq_right ((neg_nonpos.mpr nonneg).trans (le_min nonneg ahead))
    rw [limited]
    exact .inl ⟨le_add_of_nonneg_right (le_min nonneg ahead),
      le_sub_iff_add_le'.mp (min_le_right _ _)⟩
  · have behind : command - wheel ≤ 0 := sub_nonpos.mpr left
    have limited : min limit (command - wheel) = command - wheel :=
      min_eq_right (behind.trans nonneg)
    rw [limited]
    exact .inr ⟨sub_le_iff_le_add'.mp (le_max_right _ _),
      add_le_of_nonpos_right (max_le (neg_nonpos.mpr nonneg) behind)⟩

/-- A speed that is limited in its change stays between zero and what bounds its target. -/
theorem slewedSpeed_mem {v target dv top : α} (nonneg : 0 ≤ dv) (vMem : 0 ≤ v ∧ v ≤ top)
    (targetMem : 0 ≤ target ∧ target ≤ top) :
    0 ≤ (if v < target then min target (v + dv) else max target (v - dv)) ∧
      (if v < target then min target (v + dv) else max target (v - dv)) ≤ top := by
  split
  next => exact ⟨le_min targetMem.1 (add_nonneg vMem.1 nonneg),
    (min_le_left _ _).trans targetMem.2⟩
  next => exact ⟨targetMem.1.trans (le_max_left _ _),
    max_le targetMem.2 ((sub_le_self _ nonneg).trans vMem.2)⟩

/-! ### The reckoner and its anchor -/

/-- What a caller does to the reckoner. -/
inductive ReckonerCall (α : Type)
  | reset
  | anchor (pose : LocalizationPose α)
  | propagate (command : ControlCommand α) (now : α)

def ReckonerCall.propagates {α : Type} : ReckonerCall α → Prop
  | .propagate _ _ => True
  | _ => False

/-- The reckoner, and the position it was anchored at last. -/
structure Reckoning (α : Type) where
  state : ReckonerState α
  anchoredAt : Option (Point α)

namespace Reckoning

/-- A new reckoner. -/
def start : Reckoning α := ⟨DeadReckoner.reset, none⟩

def step (reckoner : DeadReckoner α) (reckoning : Reckoning α) : ReckonerCall α → Reckoning α
  | .reset => start
  | .anchor pose => ⟨DeadReckoner.anchor pose reckoning.state, some (pose.x, pose.y)⟩
  | .propagate command now =>
    { reckoning with state := reckoner.propagate command now reckoning.state }

end Reckoning

/-- The numbers of a model as they are measured: the speeds start from zero or above and do not fall
with the throttle, and motor and servo do not run backwards. -/
structure BicycleModel.Measured (model : BicycleModel α) : Prop where
  speeds : model.speedPoints.Rising
  accel : 0 ≤ model.accelMps2
  servo : 0 ≤ model.servoRateDps

/-- The states a call of `propagate` goes through. -/
def DeadReckoner.visited (reckoner : DeadReckoner α) (command : ControlCommand α) (now : α)
    (state : ReckonerState α) : List (ReckonerState α) :=
  if !DeadReckoner.anchored state ∨ now ≤ state.t then []
  else
    integrateTrace
      (reckoner.advance (reckoner.model.speedPoints.speed command.throttle)
        command.steeringWheelDeg)
      (integrationRounds (now - state.t)) (now - state.t) state

/-- A call ends in the last of them, up to the time. -/
theorem DeadReckoner.propagate_eq_getLastD (reckoner : DeadReckoner α) (command : ControlCommand α)
    (now : α) (state : ReckonerState α) :
    reckoner.propagate command now state =
      { (reckoner.visited command now state).getLastD state with
        t := (reckoner.propagate command now state).t } := by
  unfold DeadReckoner.propagate DeadReckoner.visited
  split
  · rfl
  · rw [getLastD_integrateTrace]
    rfl

namespace Reckoning

/-- The speed is one the car can have, and the position is within the blind distance of the
anchor. -/
structure Bounded (reckoner : DeadReckoner α) (reckoning : Reckoning α) : Prop where
  speed : 0 ≤ reckoning.state.motion.v ∧
    reckoning.state.motion.v ≤ reckoner.model.speedPoints.largest
  near : ∀ place, reckoning.state.position = some place → ∃ anchor,
    reckoning.anchoredAt = some anchor ∧
      hypot (place.1 - anchor.1) (place.2 - anchor.2) ≤ reckoning.state.blindDistanceM

/-- From one state to the next the wheel comes towards the command and not past it, and neither the
blind distance nor the blind time shrinks. -/
structure Onward (wheelCommandDeg : α) (before after : ReckonerState α) : Prop where
  wheel : after.motion.wheelDeg ∈ Set.uIcc before.motion.wheelDeg wheelCommandDeg
  distance : before.blindDistanceM ≤ after.blindDistanceM
  time : before.blindTimeS ≤ after.blindTimeS

variable {reckoner : DeadReckoner α}

theorem Bounded.start (measured : reckoner.model.Measured) : Bounded reckoner Reckoning.start :=
  ⟨⟨le_rfl, measured.speeds.largest_nonneg⟩, fun _ found => (nomatch found)⟩

/-- Anchoring puts the position and its bound back to the start. -/
theorem Bounded.anchor [LawfulHypot α] {reckoning : Reckoning α}
    (bounded : Bounded reckoner reckoning) (pose : LocalizationPose α) :
    Bounded reckoner (step reckoner reckoning (.anchor pose)) := by
  refine ⟨bounded.speed, fun place found => ⟨(pose.x, pose.y), rfl, ?_⟩⟩
  cases found
  rw [sub_self, sub_self, (hypot_eq_zero 0 0).mpr ⟨rfl, rfl⟩]
  exact le_rfl

/-- A chain of onward states shrinks neither the blind distance nor the blind time. -/
theorem Onward.getLastD {wheelCommandDeg : α} {state : ReckonerState α}
    {inner : List (ReckonerState α)} (chain : (state :: inner).IsChain (Onward wheelCommandDeg)) :
    state.blindDistanceM ≤ (inner.getLastD state).blindDistanceM ∧
      state.blindTimeS ≤ (inner.getLastD state).blindTimeS := by
  induction inner generalizing state with
  | nil => exact ⟨le_rfl, le_rfl⟩
  | cons next inner inductionHypothesis =>
    obtain ⟨onward, rest⟩ := List.isChain_cons_cons.mp chain
    rw [List.getLastD_cons]
    obtain ⟨distance, time⟩ := inductionHypothesis rest
    exact ⟨onward.distance.trans distance, onward.time.trans time⟩

variable [MetricHypot α] [DirectedHypot α]

/-- A step of length `v * dt` in some direction adds at most that to the distance. -/
theorem hypot_step_le {x y distance length : α} (angle : α) (nonneg : 0 ≤ length)
    (within : hypot x y ≤ distance) :
    hypot (x + length * cos angle) (y + length * sin angle) ≤ distance + length := by
  have moved : hypot (length * cos angle) (length * sin angle) ≤ length := by
    rw [hypot_scale _ _ _ nonneg]
    exact mul_le_of_le_one_right nonneg (hypot_direction_le angle)
  exact (hypot_add_le _ _ _ _).trans (add_le_add within moved)

/-- A step of the loop keeps the bounds and leads onward. -/
theorem Bounded.advance (measured : reckoner.model.Measured) {anchoredAt : Option (Point α)}
    {targetV : α} (target : 0 ≤ targetV ∧ targetV ≤ reckoner.model.speedPoints.largest)
    (wheelCommandDeg dt : α) (state : ReckonerState α) (positive : 0 < dt)
    (bounded : Bounded reckoner ⟨state, anchoredAt⟩) :
    Bounded reckoner ⟨reckoner.advance targetV wheelCommandDeg dt state, anchoredAt⟩ ∧
      Onward wheelCommandDeg state (reckoner.advance targetV wheelCommandDeg dt state) := by
  have speed := slewedSpeed_mem (mul_nonneg measured.accel positive.le) bounded.speed target
  have length := mul_nonneg speed.1 positive.le
  refine ⟨⟨speed, fun place found => ?_⟩, ?_, le_add_of_nonneg_right length,
    le_add_of_nonneg_right positive.le⟩
  · obtain ⟨before, was, rfl⟩ := Option.map_eq_some_iff.mp found
    obtain ⟨anchor, anchored, within⟩ := bounded.near before was
    refine ⟨anchor, anchored, ?_⟩
    dsimp only
    rw [add_sub_right_comm, add_sub_right_comm, mul_right_comm, mul_right_comm _ (sin _)]
    exact hypot_step_le _ length within
  · exact slew_mem_uIcc (mul_nonneg measured.servo positive.le) _ _

/-- The states inside a call are bounded, and each leads onward to the next. -/
theorem Bounded.visited (measured : reckoner.model.Measured) {anchoredAt : Option (Point α)}
    {state : ReckonerState α} (bounded : Bounded reckoner ⟨state, anchoredAt⟩)
    (command : ControlCommand α) (now : α) :
    (∀ inner ∈ reckoner.visited command now state, Bounded reckoner ⟨inner, anchoredAt⟩) ∧
      (state :: reckoner.visited command now state).IsChain
        (Onward command.steeringWheelDeg) := by
  unfold DeadReckoner.visited
  split
  · exact ⟨fun _ member => (nomatch member), List.isChain_singleton _⟩
  · exact integrateTrace_chain (fun dt inner positive boundedInner =>
      Bounded.advance measured (measured.speeds.speed_mem command.throttle)
        command.steeringWheelDeg dt inner positive boundedInner) _ _ bounded

/-- A whole call keeps the bounds, and shrinks neither the blind distance nor the blind time. -/
theorem Bounded.propagate (measured : reckoner.model.Measured) {reckoning : Reckoning α}
    (bounded : Bounded reckoner reckoning) (command : ControlCommand α) (now : α) :
    Bounded reckoner (step reckoner reckoning (.propagate command now)) ∧
      reckoning.state.blindDistanceM ≤
        (reckoner.propagate command now reckoning.state).blindDistanceM ∧
      reckoning.state.blindTimeS ≤ (reckoner.propagate command now reckoning.state).blindTimeS := by
  obtain ⟨inner, chain⟩ := bounded.visited measured command now
  have last : Bounded reckoner ⟨(reckoner.visited command now reckoning.state).getLastD
      reckoning.state, reckoning.anchoredAt⟩ := by
    rw [List.getLastD_eq_getLast?]
    cases found : (reckoner.visited command now reckoning.state).getLast? with
    | none => exact bounded
    | some final => exact inner final (List.mem_of_getLast? found)
  rw [step, reckoner.propagate_eq_getLastD]
  exact ⟨⟨last.speed, last.near⟩, Onward.getLastD chain⟩

/-- The bounds hold in every state behind a new reckoner. -/
theorem Bounded.run (measured : reckoner.model.Measured) (calls : List (ReckonerCall α)) :
    Bounded reckoner (Transition.run (step reckoner) Reckoning.start calls) := by
  refine Transition.run_invariant (fun reckoning call bounded => ?_) (Bounded.start measured) calls
  cases call with
  | reset => exact Bounded.start measured
  | anchor pose => exact bounded.anchor pose
  | propagate command now => exact (bounded.propagate measured command now).1

/-- Calls of `propagate` shrink neither the blind distance nor the blind time, however many. -/
theorem Bounded.onward (measured : reckoner.model.Measured) {reckoning : Reckoning α}
    (bounded : Bounded reckoner reckoning) (calls : List (ReckonerCall α))
    (propagates : ∀ call ∈ calls, call.propagates) :
    reckoning.state.blindDistanceM ≤
        (Transition.run (step reckoner) reckoning calls).state.blindDistanceM ∧
      reckoning.state.blindTimeS ≤
        (Transition.run (step reckoner) reckoning calls).state.blindTimeS := by
  induction calls generalizing reckoning with
  | nil => exact ⟨le_rfl, le_rfl⟩
  | cons call rest inductionHypothesis =>
    obtain ⟨first, later⟩ := List.forall_mem_cons.mp propagates
    cases call with
    | reset => exact first.elim
    | anchor pose => exact first.elim
    | propagate command now =>
      obtain ⟨next, distance, time⟩ := bounded.propagate measured command now
      obtain ⟨farther, longer⟩ := inductionHypothesis next later
      exact ⟨distance.trans farther, time.trans longer⟩

end Reckoning

/-- A budget that is used up stays so while neither the distance nor the time shrinks. -/
theorem DeadReckoner.withinBudget_stays (reckoner : DeadReckoner α) {before after : ReckonerState α}
    (distance : before.blindDistanceM ≤ after.blindDistanceM)
    (time : before.blindTimeS ≤ after.blindTimeS) (usedUp : reckoner.withinBudget before = false) :
    reckoner.withinBudget after = false := by
  rw [DeadReckoner.withinBudget, decide_eq_false_iff_not] at usedUp ⊢
  exact fun within => usedUp ⟨distance.trans within.1, time.trans within.2⟩

/-- Looking up a speed divides by zero for no list of points. With speeds that do not fall and with
a motor and a servo that do not run backwards, in every run of a reckoner the speed stays between
zero and the largest one and the position within the blind distance of the anchor, also inside the
calls; each step takes the wheel towards its command and not past it; and until the next anchor or
reset the blind distance and time do not shrink, and a budget that is used up stays so. -/
theorem reckoner_bounded [MetricHypot α] [DirectedHypot α] :
    (∀ (points : SpeedPoints α) throttle,
      points.dividingSpeed throttle = .ok (points.speed throttle)) ∧
    ∀ reckoner : DeadReckoner α, reckoner.model.Measured → ∀ calls,
      let reckoning := Transition.run (Reckoning.step reckoner) Reckoning.start calls
      reckoning.Bounded reckoner ∧
      (∀ command now,
        let inner := reckoner.visited command now reckoning.state
        (∀ state ∈ inner, Reckoning.Bounded reckoner { reckoning with state := state }) ∧
        (reckoning.state :: inner).IsChain (Reckoning.Onward command.steeringWheelDeg) ∧
        reckoner.propagate command now reckoning.state =
          { inner.getLastD reckoning.state with
            t := (reckoner.propagate command now reckoning.state).t }) ∧
      ∀ later, (∀ call ∈ later, call.propagates) →
        let continued := Transition.run (Reckoning.step reckoner) reckoning later
        reckoning.state.blindDistanceM ≤ continued.state.blindDistanceM ∧
        reckoning.state.blindTimeS ≤ continued.state.blindTimeS ∧
        (reckoner.withinBudget reckoning.state = false →
          reckoner.withinBudget continued.state = false) := by
  refine ⟨SpeedPoints.dividingSpeed_eq_ok, fun reckoner measured calls => ?_⟩
  have bounded := Reckoning.Bounded.run measured calls
  refine ⟨bounded, fun command now => ?_, fun later propagates => ?_⟩
  · obtain ⟨inner, chain⟩ := bounded.visited measured command now
    exact ⟨inner, chain, reckoner.propagate_eq_getLastD command now _⟩
  · obtain ⟨distance, time⟩ := bounded.onward measured later propagates
    exact ⟨distance, time, reckoner.withinBudget_stays distance time⟩

/-- A reckoner with two measured points and a budget of a millimetre. -/
def shortSighted : DeadReckoner ℚ where
  model := ⟨1 / 2, one_half_pos, 0, 120, 1 / 2, ⟨(24 / 100, 0), [(1, 199 / 1000)]⟩⟩
  maxBlindDistanceM := 1 / 1000
  maxBlindTimeS := 30

/-- Anchored and driven at full throttle, with a call back in time, it is within its bounds and
beyond its budget, and stays beyond it when it is told to stop. -/
theorem reckoner_bounded_shortSighted :
    let calls : List (ReckonerCall ℚ) := [.anchor ⟨1, 2, 90, 0, 10⟩, .propagate ⟨1, 30⟩ 11,
      .propagate ⟨1, -30⟩ 5]
    let reckoning := Transition.run (Reckoning.step shortSighted) Reckoning.start calls
    reckoning.Bounded shortSighted ∧
      shortSighted.withinBudget
        (Transition.run (Reckoning.step shortSighted) reckoning [.propagate ⟨0, 0⟩ 12]).state =
          false := by
  intro calls reckoning
  obtain ⟨bounded, _, later⟩ := reckoner_bounded.2 shortSighted
    ⟨⟨le_rfl, List.isChain_pair.mpr (by norm_num [shortSighted])⟩, by norm_num [shortSighted],
      by norm_num [shortSighted]⟩ calls
  exact ⟨bounded, (later [.propagate ⟨0, 0⟩ 12] (by simp [ReckonerCall.propagates])).2.2
    (by decide +kernel)⟩

end RcTaxi
