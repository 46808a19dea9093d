/-
This file follows the radius of a turn through the program. The runtime computes the smallest radius of
the car from its wheelbase and its largest wheel angle, and lets the map refuse tighter connectors; the
turn table computes the wheel angle of a turn from the same numbers and limits it; and the dead
reckoner computes from the wheel angle how the car turns. A turn that the table has no wheel angle for
is then driven on the radius of its connector, for a map that was accepted.
-/

import RcTaxi.BlindBudget
import RcTaxi.TurnSanity

namespace RcTaxi

/-- The facts about the angles that turning rests on. The largest wheel angle is below a right
angle. -/
class TurningAngles (α : Type) [Scalar α] : Prop where
  tan_degrees_atan : ∀ slope : α, tan (radians (degrees (atan slope))) = slope
  degrees_atan_le_iff : ∀ slope angle : α, 0 < angle → angle < 90 →
    (degrees (atan slope) ≤ angle ↔ slope ≤ tan (radians angle))
  degrees_atan_neg : ∀ slope : α, degrees (atan (-slope)) = -degrees (atan slope)
  tan_radians_pos : ∀ angle : α, 0 < angle → angle < 90 → 0 < tan (radians angle)
  degrees_add : ∀ x y : α, degrees (x + y) = degrees x + degrees y

export TurningAngles
  (tan_degrees_atan degrees_atan_le_iff degrees_atan_neg tan_radians_pos degrees_add)

/-- An angle below a right angle, in radians. -/
theorem radians_mem_Ioo {angle : ℝ} (positive : 0 < angle) (acute : angle < 90) :
    radians angle ∈ Set.Ioo (-(Real.pi / 2)) (Real.pi / 2) := by
  change angle * Real.pi / 180 ∈ _
  have scaled : angle * Real.pi < 90 * Real.pi := mul_lt_mul_of_pos_right acute Real.pi_pos
  have above : 0 < angle * Real.pi := mul_pos positive Real.pi_pos
  constructor
  · linarith only [above, Real.pi_pos]
  · linarith only [scaled]

instance : TurningAngles ℝ where
  tan_degrees_atan slope := by
    change Real.tan (Real.arctan slope * 180 / Real.pi * Real.pi / 180) = slope
    rw [div_mul_cancel₀ _ Real.pi_ne_zero, mul_div_cancel_right₀ _ (by norm_num), Real.tan_arctan]
  degrees_atan_le_iff slope angle positive acute := by
    have inside := radians_mem_Ioo positive acute
    have inverse : Real.arctan (Real.tan (radians angle)) = radians angle :=
      Real.arctan_tan inside.1 inside.2
    have slopes : Real.arctan slope ≤ Real.arctan (Real.tan (radians angle)) ↔
        slope ≤ Real.tan (radians angle) := Real.arctan_le_arctan_iff
    change Real.arctan slope * 180 / Real.pi ≤ angle ↔ slope ≤ Real.tan (radians angle)
    rw [← slopes, inverse, div_le_iff₀ Real.pi_pos]
    change _ ↔ _ ≤ angle * Real.pi / 180
    rw [le_div_iff₀ (by norm_num)]
  degrees_atan_neg slope := by
    change Real.arctan (-slope) * 180 / Real.pi = -(Real.arctan slope * 180 / Real.pi)
    rw [Real.arctan_neg]
    ring
  tan_radians_pos angle positive acute := by
    have above : 0 < radians angle :=
      div_pos (mul_pos positive Real.pi_pos) (by norm_num)
    exact Real.tan_pos_of_pos_of_lt_pi_div_two above (radians_mem_Ioo positive acute).2
  degrees_add x y := by
    change (x + y) * 180 / Real.pi = x * 180 / Real.pi + y * 180 / Real.pi
    ring

variable {α : Type} [Scalar α]

/-! ### The radii of the map -/

/-- A radius that is not below the smallest one; `nan` is not. -/
def IsWide (minRadiusM : α) : PyFloat α → Prop
  | .finite radius => minRadiusM ≤ radius
  | .inf negative => negative = false
  | .nan => True

/-- A map is accepted if each of its connectors is wide enough. -/
theorem validateTurnRadius_iff {map : LaneMap α} {minRadiusM : α} :
    map.validateTurnRadius minRadiusM = .ok () ↔ ∀ item ∈ map.connectors.items,
      ∀ radius, item.2.radiusM = some radius → IsWide minRadiusM radius := by
  rw [LaneMap.validateTurnRadius, checkAll_eq_ok]
  refine forall₂_congr fun item _ => ?_
  cases item.2.radiusM with
  | none => exact ⟨fun _ _ same => (nomatch same), fun _ => rfl⟩
  | some radius =>
    constructor
    · rintro checked _ ⟨⟩
      cases radius with
      | finite radius =>
        have enough : minRadiusM ≤ radius := require_eq_ok.mp checked
        exact enough
      | inf negative =>
        have positive : negative = false := require_eq_ok.mp checked
        exact positive
      | nan => trivial
    · intro wide
      cases radius with
      | finite radius =>
        have enough : minRadiusM ≤ radius := wide _ rfl
        exact if_pos enough
      | inf negative =>
        have positive : negative = false := wide _ rfl
        exact if_pos positive
      | nan => rfl

/-- A turn over a connector of the map. -/
def LaneMap.HasTurn (map : LaneMap α) (turn : Turn α) : Prop :=
  ∃ item ∈ map.connectors.items, turn.maneuver = item.2.maneuver ∧ turn.radiusM = item.2.radiusM

/-! ### The wheel angle of a turn -/

namespace TurnTable

variable {table : TurnTable α} {turn : Turn α} {radius : α}

/-- Neither the entry of the turn nor the defaults have a wheel angle. -/
def Untuned (table : TurnTable α) (turn : Turn α) : Prop :=
  (table.layer turn.key "wheel_deg").getD .none = .none

/-- The smallest radius of the car, as the runtime computes it. -/
def minRadiusM (table : TurnTable α) : α := table.wheelbaseM / tan (radians table.maxWheelDeg)

/-- The side a turn is steered to. -/
def sideOf : Maneuver → α
  | .right => 1
  | .left => -1
  | _ => 0

/-- The wheelbase is positive, and the wheels turn by less than a right angle. -/
structure CarSized (table : TurnTable α) : Prop where
  wheelbase : 0 < table.wheelbaseM
  limit : 0 < table.maxWheelDeg
  acute : table.maxWheelDeg < 90

theorem unsignedWheelDeg_untuned (untuned : table.Untuned turn) :
    table.unsignedWheelDeg turn = table.geometricWheelDeg turn.radiusM := by
  unfold unsignedWheelDeg nullable
  rw [untuned]
  rfl

section Angles

variable [TurningAngles α]

theorem CarSized.minRadiusM_pos (sized : table.CarSized) : 0 < table.minRadiusM :=
  div_pos sized.wheelbase (tan_radians_pos _ sized.limit sized.acute)

/-- The wheel angle of an arc is within the limit exactly if the radius is one the car can turn. -/
theorem CarSized.angle_le_iff (sized : table.CarSized) (positive : 0 < radius) :
    degrees (atan (table.wheelbaseM / radius)) ≤ table.maxWheelDeg ↔ table.minRadiusM ≤ radius := by
  rw [degrees_atan_le_iff _ _ sized.limit sized.acute, minRadiusM,
    div_le_comm₀ positive (tan_radians_pos _ sized.limit sized.acute)]

/-- The wheel angle of an untuned turn on an arc the car can drive is that of the arc. -/
theorem resolved_wheelDeg [RisingAtan α] (sized : table.CarSized) (untuned : table.Untuned turn)
    (found : turn.radiusM = some (.finite radius)) (wide : table.minRadiusM ≤ radius) :
    (table.resolved turn).wheelDeg =
      sideOf turn.maneuver * degrees (atan (table.wheelbaseM / radius)) := by
  have positive : 0 < radius := sized.minRadiusM_pos.trans_le wide
  have within := (sized.angle_le_iff positive).mpr wide
  have nonneg := degrees_atan_nonneg _ (div_pos sized.wheelbase positive).le
  have unsigned : table.unsignedWheelDeg turn =
      .finite (degrees (atan (table.wheelbaseM / radius))) := by
    rw [unsignedWheelDeg_untuned untuned, found]
    exact if_neg positive.not_ge
  show table.signedWheelDeg turn.maneuver (table.unsignedWheelDeg turn) = _
  rw [unsigned]
  cases turn.maneuver with
  | right =>
    show max (-table.maxWheelDeg) (min table.maxWheelDeg _) = 1 * _
    rw [min_eq_right within, max_eq_right, one_mul]
    exact (neg_nonpos.mpr sized.limit.le).trans nonneg
  | left =>
    show max (-table.maxWheelDeg) (min table.maxWheelDeg (-_)) = -1 * _
    rw [min_eq_right, max_eq_right, neg_one_mul]
    · exact neg_le_neg within
    · exact (neg_nonpos.mpr nonneg).trans sized.limit.le
  | straight | follow | laneChange => exact (PyFloat.clamp_zero sized.limit.le).trans (zero_mul _).symm

/-- The wheels of a turn point along its arc. -/
theorem tan_wheelDeg (maneuver : Maneuver) (slope : α) :
    tan (radians (sideOf maneuver * degrees (atan slope))) = sideOf maneuver * slope := by
  have level : degrees (atan (0 : α)) = 0 := by
    have mirrored := degrees_atan_neg (0 : α)
    rw [neg_zero] at mirrored
    exact self_eq_neg.mp mirrored
  cases maneuver with
  | right => rw [sideOf, one_mul, one_mul, tan_degrees_atan]
  | left => rw [sideOf, neg_one_mul, neg_one_mul, ← degrees_atan_neg, tan_degrees_atan]
  | straight | follow | laneChange =>
    have ahead := tan_degrees_atan (0 : α)
    rw [level] at ahead
    show tan (radians (0 * _)) = 0 * slope
    rw [zero_mul, zero_mul, ahead]

end Angles

end TurnTable

/-! ### The motion of the car -/

/-- What every step of positive length keeps, the loop keeps. -/
theorem integrate_kept_of_pos {State : Type} {holds : State → Prop} {advance : α → State → State}
    (kept : ∀ dt state, 0 < dt → holds state → holds (advance dt state)) (remain : α)
    {state : State} (initially : holds state) : holds (integrate advance remain state) := by
  obtain ⟨visited, _⟩ := @integrateTrace_chain _ _ _ holds (fun _ _ => True) advance
    (fun dt inner positive holdsInner => ⟨kept dt inner positive holdsInner, trivial⟩)
    (integrationRounds remain) remain state initially
  rw [integrate, ← getLastD_integrateTrace, List.getLastD_eq_getLast?]
  cases found : (integrateTrace advance (integrationRounds remain) remain state).getLast? with
  | none => exact initially
  | some last => exact visited last (List.mem_of_getLast? found)

/-- The turn of a car that has driven a distance on an arc. -/
def turnedDeg (maneuver : Maneuver) (radius distance : α) : α :=
  degrees (TurnTable.sideOf maneuver * distance / radius)

namespace DeadReckoner

variable {reckoner : DeadReckoner α} {start state : ReckonerState α} {maneuver : Maneuver}
  {wheelDeg radius : α}

/-- The wheels stand at an angle, and the car has turned as on an arc since the start. -/
structure OnArc (maneuver : Maneuver) (wheelDeg radius : α) (start state : ReckonerState α) :
    Prop where
  wheel : state.motion.wheelDeg = wheelDeg
  heading : state.motion.headingDeg = start.motion.headingDeg -
    turnedDeg maneuver radius (state.blindDistanceM - start.blindDistanceM)

/-- The car is on the arc at the start. -/
theorem OnArc.initially [TurningAngles α] (settled : start.motion.wheelDeg = wheelDeg) :
    OnArc maneuver wheelDeg radius start start := by
  have still : degrees (0 : α) = 0 := by
    have doubled := degrees_add (0 : α) 0
    rw [add_zero] at doubled
    exact left_eq_add.mp doubled
  refine ⟨settled, ?_⟩
  rw [turnedDeg, sub_self, mul_zero, zero_div, still, sub_zero]

/-- The wheels of the model turn the car on the arc. -/
structure Steers (reckoner : DeadReckoner α) (maneuver : Maneuver) (wheelDeg radius : α) :
    Prop where
  servo : 0 ≤ reckoner.model.servoRateDps
  curvature : tan (radians (wheelDeg + reckoner.model.wheelBiasDeg)) / reckoner.model.wheelbaseM =
    TurnTable.sideOf maneuver / radius

/-- A step of the integration stays on the arc. -/
theorem OnArc.advance [TurningAngles α] (steers : reckoner.Steers maneuver wheelDeg radius)
    (targetV dt : α) (positive : 0 < dt) (onArc : OnArc maneuver wheelDeg radius start state) :
    OnArc maneuver wheelDeg radius start (reckoner.advance targetV wheelDeg dt state) := by
  have settled : (reckoner.advance targetV wheelDeg dt state).motion.wheelDeg = wheelDeg := by
    have between := slew_mem_uIcc (mul_nonneg steers.servo positive.le) state.motion.wheelDeg wheelDeg
    rw [onArc.wheel, Set.uIcc_self] at between
    rw [← onArc.wheel] at between ⊢
    exact between
  refine ⟨settled, ?_⟩
  let v := (reckoner.advance targetV wheelDeg dt state).motion.v
  have turned : v / reckoner.model.wheelbaseM *
      tan (radians (wheelDeg + reckoner.model.wheelBiasDeg)) * dt =
        TurnTable.sideOf maneuver * (v * dt) / radius := by
    rw [div_mul_eq_mul_div, mul_div_assoc, steers.curvature]
    ring
  have step : (reckoner.advance targetV wheelDeg dt state).motion.headingDeg =
      state.motion.headingDeg - degrees (v / reckoner.model.wheelbaseM *
        tan (radians ((reckoner.advance targetV wheelDeg dt state).motion.wheelDeg +
          reckoner.model.wheelBiasDeg)) * dt) := rfl
  have split : TurnTable.sideOf maneuver *
      (state.blindDistanceM + v * dt - start.blindDistanceM) / radius =
        TurnTable.sideOf maneuver * (state.blindDistanceM - start.blindDistanceM) / radius +
          TurnTable.sideOf maneuver * (v * dt) / radius := by
    ring
  rw [step, settled, turned, onArc.heading, sub_sub]
  show _ = _ - degrees (_ * (state.blindDistanceM + v * dt - start.blindDistanceM) / radius)
  rw [split, degrees_add]
  rfl

/-- A whole call stays on the arc. -/
theorem OnArc.propagate [TurningAngles α] (steers : reckoner.Steers maneuver wheelDeg radius)
    (throttle now : α) (onArc : OnArc maneuver wheelDeg radius start state) :
    OnArc maneuver wheelDeg radius start (reckoner.propagate ⟨throttle, wheelDeg⟩ now state) := by
  unfold DeadReckoner.propagate
  split
  next => exact onArc
  next =>
    obtain ⟨wheel, heading⟩ := integrate_kept_of_pos (fun dt inner positive onArcInner =>
      OnArc.advance steers (reckoner.model.speedPoints.speed throttle) dt positive onArcInner)
      (now - state.t) onArc
    exact ⟨wheel, heading⟩

end DeadReckoner

/-- The reckoner over the calls of a turn: the wheel command stays, throttle and time change. -/
def drive (reckoner : DeadReckoner α) (wheelDeg : α) (state : ReckonerState α)
    (calls : List (α × α)) : ReckonerState α :=
  Transition.run (fun state call => reckoner.propagate ⟨call.1, wheelDeg⟩ call.2 state) state calls

/-- The arc that a car takes with the wheels of a turn. -/
theorem onArc_drive [TurningAngles α] {reckoner : DeadReckoner α} {maneuver : Maneuver}
    {wheelDeg radius : α} {state : ReckonerState α}
    (steers : reckoner.Steers maneuver wheelDeg radius)
    (settled : state.motion.wheelDeg = wheelDeg) (calls : List (α × α)) :
    DeadReckoner.OnArc maneuver wheelDeg radius state (drive reckoner wheelDeg state calls) :=
  Transition.run_invariant (fun _ call onArc => onArc.propagate steers call.1 call.2)
    (DeadReckoner.OnArc.initially settled) calls

/-- In a map that was accepted for the car, every turn with a radius that the table resolves without
a wheel angle of its own turns the wheels by at most the limit, and a car whose wheels have come to
that angle turns, through whatever calls of the reckoner, as it would on the arc of the connector. -/
theorem turns_follow_their_arcs [TurningAngles α] [RisingAtan α] {raw : PyValue α}
    {wheelbaseM maxWheelDeg : α} {table : TurnTable α}
    (made : TurnTable.new raw wheelbaseM maxWheelDeg = .ok table) (decoded : raw.Decoded)
    (sized : table.CarSized) {map : LaneMap α}
    (validated : map.validateTurnRadius table.minRadiusM = .ok ()) {turn : Turn α}
    (ofMap : map.HasTurn turn) (untuned : table.Untuned turn) {spec : ResolvedTurn α}
    (resolves : table.resolve turn = .ok spec) {radius : α}
    (found : turn.radiusM = some (.finite radius)) :
    0 < radius ∧ |spec.wheelDeg| ≤ table.maxWheelDeg ∧
    ∀ reckoner : DeadReckoner α, reckoner.model.wheelbaseM = table.wheelbaseM →
      reckoner.model.wheelBiasDeg = 0 → 0 ≤ reckoner.model.servoRateDps →
      ∀ state : ReckonerState α, state.motion.wheelDeg = spec.wheelDeg → ∀ calls,
        let driven := drive reckoner spec.wheelDeg state calls
        driven.motion.wheelDeg = spec.wheelDeg ∧
        driven.motion.headingDeg = state.motion.headingDeg -
          turnedDeg turn.maneuver radius (driven.blindDistanceM - state.blindDistanceM) := by
  obtain ⟨accepted, -⟩ := TurnTable.accepted_of_new made decoded
  obtain ⟨-, rfl⟩ := (TurnTable.resolve_yields accepted turn spec).mp resolves
  obtain ⟨item, member, _, sameRadius⟩ := ofMap
  have wide : table.minRadiusM ≤ radius :=
    validateTurnRadius_iff.mp validated item member _ (sameRadius.symm.trans found)
  have positive : 0 < radius := sized.minRadiusM_pos.trans_le wide
  refine ⟨positive, PyFloat.abs_clamp_le sized.limit.le _, ?_⟩
  intro reckoner sameWheelbase unbiased servo state settled calls
  have steers : reckoner.Steers turn.maneuver (table.resolved turn).wheelDeg radius := by
    refine ⟨servo, ?_⟩
    rw [unbiased, add_zero, sameWheelbase, TurnTable.resolved_wheelDeg sized untuned found wide,
      TurnTable.tan_wheelDeg, mul_div_assoc, div_div_cancel_left' sized.wheelbase.ne', div_eq_mul_inv]
  obtain ⟨wheel, heading⟩ := onArc_drive steers settled calls
  exact ⟨wheel, heading⟩

/-- A table without entries, for a car that turns its wheels by half a right angle. -/
noncomputable def bareTable : TurnTable ℝ := ⟨.dict [], [], 1 / 5, 45⟩

/-- A bend to the left, wider than that car needs. -/
noncomputable def bend : Connector ℝ :=
  ⟨"bend", .left, ⟨(0, 0), [(1 / 2, 1 / 2)]⟩, .finite 1, "north", some (.finite (1 / 2))⟩

noncomputable def bendMap : LaneMap ℝ :=
  ⟨.empty, ⟨[("bend", bend)], List.nodup_singleton _⟩, .empty, .empty, 1, 1⟩

noncomputable def bendTurn : Turn ℝ :=
  ⟨"bend", .left, some 11, some 22, "north", some (.finite (1 / 2)), 1, (0, 0), (1 / 2, 1 / 2)⟩

theorem bareTable_new : TurnTable.new (.dict [("turn_table", .dict [])]) (1 / 5) 45 =
    .ok bareTable := rfl

theorem bendTurn_resolves : bareTable.resolve bendTurn = .ok (bareTable.resolved bendTurn) := rfl

theorem bareTable_carSized : bareTable.CarSized := by
  constructor <;> norm_num [bareTable]

/-- The tangent of half a right angle is one, so the smallest radius is the wheelbase. -/
theorem bareTable_minRadiusM : bareTable.minRadiusM = 1 / 5 := by
  have half : radians (45 : ℝ) = Real.pi / 4 := by
    show 45 * Real.pi / 180 = Real.pi / 4
    ring
  show 1 / 5 / Real.tan (radians (45 : ℝ)) = 1 / 5
  rw [half, Real.tan_pi_div_four, div_one]

theorem bendMap_validated : bendMap.validateTurnRadius bareTable.minRadiusM = .ok () := by
  refine validateTurnRadius_iff.mpr fun item member radius found => ?_
  rw [List.mem_singleton.mp member] at found
  cases found
  rw [bareTable_minRadiusM]
  show (1 / 5 : ℝ) ≤ 1 / 2
  norm_num

noncomputable def bendReckoner : DeadReckoner ℝ where
  model := ⟨1 / 5, by norm_num, 0, 90, 1 / 2, ⟨(0, 0), [(1, 1)]⟩⟩
  maxBlindDistanceM := 1
  maxBlindTimeS := 10

/-- A car that stands in front of the bend with its wheels turned. -/
noncomputable def bendStart : ReckonerState ℝ :=
  ⟨some (0, 0), ⟨(bareTable.resolved bendTurn).wheelDeg, 0, 0⟩, 0, 0, 0, 0, 0⟩

/-- That car takes the bend on its radius, however it is driven. -/
theorem turns_follow_their_arcs_bend :
    |(bareTable.resolved bendTurn).wheelDeg| ≤ 45 ∧ ∀ calls,
      let driven := drive bendReckoner (bareTable.resolved bendTurn).wheelDeg bendStart calls
      driven.motion.headingDeg = 0 - turnedDeg .left (1 / 2) (driven.blindDistanceM - 0) := by
  have decoded : (PyValue.dict [("turn_table", .dict [])] : PyValue ℝ).Decoded :=
    PyValue.Decoded.single (.dict [] List.nodup_nil nofun)
  have ofMap : bendMap.HasTurn bendTurn :=
    ⟨("bend", bend), List.mem_singleton.mpr rfl, rfl, rfl⟩
  have untuned : bareTable.Untuned bendTurn := rfl
  obtain ⟨-, within, follows⟩ := turns_follow_their_arcs bareTable_new decoded bareTable_carSized
    bendMap_validated ofMap untuned bendTurn_resolves rfl
  have servo : (0 : ℝ) ≤ bendReckoner.model.servoRateDps := by norm_num [bendReckoner]
  exact ⟨within, fun calls => (follows bendReckoner rfl rfl servo bendStart rfl calls).2⟩

end RcTaxi
