/-
This file models `hardware/vendor/motor_controller.py` under `hardware/real_motor_driver.py`: a
throttle becomes three duty cycles of a PWM board, written one after the other. The calls are not
locked, so those of the control thread and the forced stops of other threads are mixed write by
write.

The motor is between the two inputs of a bridge, and the third output is its power. Whatever calls
are mixed, the bridge drives forward or not at all; once no call is under way, it drives as a call
asked for that no other call followed. What the board does on `deinit` is left out.
-/

import RcTaxi.PyValue
import RcTaxi.RegisterWrites
import RcTaxi.SafetySupervisor

namespace RcTaxi

/-! ### The outputs -/

/-- The outputs of the motor board, in the order in which they are written. -/
inductive MotorPin
  | pwm
  | in1
  | in2
  deriving DecidableEq

/-- How far the channel of an output is behind `MOTOR_CHANNEL`. -/
def MotorPin.offset : MotorPin → ℕ
  | .pwm => 5
  | .in1 => 4
  | .in2 => 3

/-- The order of the writes. -/
def MotorPin.order : List MotorPin := [.pwm, .in1, .in2]

theorem MotorPin.mem_order (pin : MotorPin) : pin ∈ order := by cases pin <;> decide

/-- The duty cycles of the three outputs. -/
def dutyCycles (pwm in1 in2 : ℕ) : MotorPin → ℕ
  | .pwm => pwm
  | .in1 => in1
  | .in2 => in2

theorem dutyCycles_eta (duty : MotorPin → ℕ) :
    duty = dutyCycles (duty .pwm) (duty .in1) (duty .in2) := by
  funext pin
  cases pin with
  | pwm | in1 | in2 => rfl

/-- What the bridge does to the motor: the power, in the direction of the inputs. -/
def bridge (duty : MotorPin → ℕ) : ℤ :=
  if 0 < duty .in1 ∧ duty .in2 = 0 then duty .pwm
  else if duty .in1 = 0 ∧ 0 < duty .in2 then -duty .pwm
  else 0

/-- `config` of the motor: `MOTOR_CHANNEL` and `MOTOR_SIGN`. -/
structure MotorController (α : Type) where
  channel : ℕ
  sign : α

/-- The calls of a motor driver. -/
inductive MotorCall (α : Type)
  | setThrottle (value : α)
  | stop
  | cleanup

namespace MotorController

variable {α : Type} [Scalar α] (controller : MotorController α)

/-- The channel of an output. -/
def channelOf (pin : MotorPin) : ℕ := controller.channel + pin.offset

/-- `int(0xFFFF * abs(throttle))`. -/
def pulse (throttle : α) : ℕ := ⌊((0xFFFF : ℕ) : α) * |throttle|⌋.toNat

/-- `_set_raw_throttle`: what it writes. -/
def setRawThrottle (throttle : α) : MotorPin → ℕ :=
  let throttle := max (-1) (min 1 throttle)
  if throttle < 0 then dutyCycles (pulse throttle) 0 0xFFFF
  else if 0 < throttle then dutyCycles (pulse throttle) 0xFFFF 0
  else dutyCycles 0 0 0

/-- `forward`. -/
def forward (speed : α) : MotorPin → ℕ := setRawThrottle (-controller.sign * |speed|)

/-- `stop` of the vendor. -/
def stop : MotorPin → ℕ := setRawThrottle (0 : α)

/-- The calls of `RealMotorDriver`; a negative throttle raises before anything is written. -/
def duties : MotorCall α → Except PyError (MotorPin → ℕ)
  | .setThrottle value =>
    if value < 0 then .error .valueError else .ok (controller.forward (min value 1))
  | .stop | .cleanup => .ok (stop (α := α))

/-- The power forward. The sign says which direction of the bridge that is. -/
def power (duty : MotorPin → ℕ) : ℤ :=
  if controller.sign < 0 then bridge duty else -bridge duty

/-- The power a call asks for. -/
def commanded : MotorCall α → ℕ
  | .setThrottle value => pulse (min 1 (|controller.sign| * |min value 1|))
  | .stop | .cleanup => 0

/-! ### What a call writes -/

/-- Standing still, or forward with some power. -/
inductive Driving : (MotorPin → ℕ) → Prop
  | still : Driving (dutyCycles 0 0 0)
  | upward (power : ℕ) (small : power ≤ 0xFFFF) (sign : controller.sign < 0) :
      Driving (dutyCycles power 0xFFFF 0)
  | downward (power : ℕ) (small : power ≤ 0xFFFF) (sign : 0 < controller.sign) :
      Driving (dutyCycles power 0 0xFFFF)

theorem pulse_le {throttle : α} (small : |throttle| ≤ 1) : pulse throttle ≤ 0xFFFF := by
  have scaled : ((0xFFFF : ℕ) : α) * |throttle| ≤ ((0xFFFF : ℕ) : α) :=
    mul_le_of_le_one_right (Nat.cast_nonneg _) small
  have floor : ⌊((0xFFFF : ℕ) : α) * |throttle|⌋ ≤ ((0xFFFF : ℕ) : ℤ) := by
    have whole := Int.floor_le_floor scaled
    rwa [Int.floor_natCast] at whole
  exact Int.toNat_le.mpr floor

theorem abs_limited (throttle : α) : |max (-1) (min 1 throttle)| = min 1 |throttle| := by
  rcases le_total 0 throttle with nonneg | nonpos
  · rw [abs_of_nonneg nonneg, max_eq_right ((neg_nonpos.mpr zero_le_one).trans
      (le_min zero_le_one nonneg)), abs_of_nonneg (le_min zero_le_one nonneg)]
  · rw [min_eq_right (nonpos.trans zero_le_one), abs_of_nonpos nonpos,
      abs_of_nonpos (max_le (neg_nonpos.mpr zero_le_one) nonpos), ← min_neg_neg, neg_neg]

/-- The throttle behind the sign of the motor, limited. -/
def raw (speed : α) : α := max (-1) (min 1 (-controller.sign * |speed|))

theorem abs_raw (speed : α) : |controller.raw speed| = min 1 (|controller.sign| * |speed|) := by
  rw [raw, abs_limited, abs_mul, abs_neg, abs_abs]

theorem raw_pos {speed : α} (negative : controller.sign < 0) (moves : 0 < |speed|) :
    0 < controller.raw speed :=
  lt_max_of_lt_right (lt_min one_pos (mul_pos (neg_pos.mpr negative) moves))

theorem raw_neg {speed : α} (positive : 0 < controller.sign) (moves : 0 < |speed|) :
    controller.raw speed < 0 :=
  max_lt (neg_lt_zero.mpr one_pos)
    (min_lt_of_right_lt (mul_neg_of_neg_of_pos (neg_neg_of_pos positive) moves))

theorem raw_zero {speed : α} (rests : controller.sign = 0 ∨ |speed| = 0) :
    controller.raw speed = 0 := by
  rw [← abs_eq_zero, abs_raw]
  rcases rests with sign | speed
  · rw [sign, abs_zero, zero_mul, min_eq_right zero_le_one]
  · rw [speed, mul_zero, min_eq_right zero_le_one]

theorem pulse_raw (speed : α) :
    pulse (controller.raw speed) = pulse (min 1 (|controller.sign| * |speed|)) := by
  have nonneg : 0 ≤ min 1 (|controller.sign| * |speed|) :=
    le_min zero_le_one (mul_nonneg (abs_nonneg _) (abs_nonneg _))
  rw [pulse, pulse, abs_raw, abs_of_nonneg nonneg]

theorem pulse_zero : pulse (0 : α) = 0 := by
  rw [pulse, abs_zero, mul_zero, Int.floor_zero, Int.toNat_zero]

theorem forward_eq (speed : α) : controller.forward speed =
    if controller.raw speed < 0 then dutyCycles (pulse (controller.raw speed)) 0 0xFFFF
    else if 0 < controller.raw speed then dutyCycles (pulse (controller.raw speed)) 0xFFFF 0
    else dutyCycles 0 0 0 := rfl

theorem stop_eq : (stop (α := α)) = dutyCycles 0 0 0 := by
  have neither : max (-1) (min 1 (0 : α)) = 0 := by
    rw [min_eq_right zero_le_one, max_eq_right (neg_nonpos.mpr zero_le_one)]
  unfold stop setRawThrottle
  dsimp only
  rw [neither, if_neg (lt_irrefl _), if_neg (lt_irrefl _)]

theorem power_still : controller.power (dutyCycles 0 0 0) = 0 := by
  unfold power
  split <;> rfl

theorem power_upward (sign : controller.sign < 0) (power : ℕ) :
    controller.power (dutyCycles power 0xFFFF 0) = power := by
  rw [MotorController.power, if_pos sign]
  rfl

theorem power_downward (sign : 0 < controller.sign) (power : ℕ) :
    controller.power (dutyCycles power 0 0xFFFF) = power := by
  rw [MotorController.power, if_neg sign.not_gt]
  exact neg_neg _

/-- What `forward` writes: nothing drives, or the inputs are set forward. -/
theorem forward_driving (speed : α) :
    controller.Driving (controller.forward speed) ∧
      controller.power (controller.forward speed) =
        pulse (min 1 (|controller.sign| * |speed|)) := by
  have small : pulse (controller.raw speed) ≤ 0xFFFF :=
    pulse_le ((controller.abs_raw speed).trans_le (min_le_left _ _))
  rw [← pulse_raw, forward_eq]
  by_cases rests : controller.sign = 0 ∨ |speed| = 0
  · have zero := controller.raw_zero rests
    rw [if_neg zero.not_lt, if_neg zero.not_gt, zero, pulse_zero]
    exact ⟨.still, controller.power_still⟩
  · obtain ⟨signed, moving⟩ := not_or.mp rests
    have moves : 0 < |speed| := lt_of_le_of_ne (abs_nonneg speed) (Ne.symm moving)
    rcases lt_or_gt_of_ne signed with negative | positive
    · have raw := controller.raw_pos negative moves
      rw [if_neg raw.not_gt, if_pos raw]
      exact ⟨.upward _ small negative, controller.power_upward negative _⟩
    · have raw := controller.raw_neg positive moves
      rw [if_pos raw]
      exact ⟨.downward _ small positive, controller.power_downward positive _⟩

/-- What a call writes, and the power it comes to. -/
theorem duties_driving {call : MotorCall α} {duty : MotorPin → ℕ}
    (accepted : controller.duties call = .ok duty) :
    controller.Driving duty ∧ controller.power duty = controller.commanded call := by
  cases call with
  | setThrottle value =>
    rw [duties] at accepted
    split at accepted
    · cases accepted
    · cases accepted
      exact controller.forward_driving (min value 1)
  | stop | cleanup =>
    cases accepted
    rw [stop_eq]
    exact ⟨.still, controller.power_still⟩

/-- Outputs where the sign turns the bridge upwards. -/
theorem Driving.of_neg {controller : MotorController α} {duty : MotorPin → ℕ}
    (driving : controller.Driving duty) (sign : controller.sign < 0) :
    controller.power duty = duty .pwm ∧ duty .in2 = 0 ∧
      (duty .in1 = 0xFFFF ∨ duty = dutyCycles 0 0 0) := by
  cases driving with
  | still => exact ⟨controller.power_still, rfl, .inr rfl⟩
  | upward power => exact ⟨controller.power_upward sign power, rfl, .inl rfl⟩
  | downward _ _ positive => exact absurd sign positive.not_gt

/-- Outputs where the sign turns the bridge downwards. -/
theorem Driving.of_pos {controller : MotorController α} {duty : MotorPin → ℕ}
    (driving : controller.Driving duty) (sign : 0 < controller.sign) :
    controller.power duty = duty .pwm ∧ duty .in1 = 0 ∧
      (duty .in2 = 0xFFFF ∨ duty = dutyCycles 0 0 0) := by
  cases driving with
  | still => exact ⟨controller.power_still, rfl, .inr rfl⟩
  | upward _ _ negative => exact absurd sign negative.not_gt
  | downward power => exact ⟨controller.power_downward sign power, rfl, .inl rfl⟩

/-- Outputs where there is no sign. -/
theorem Driving.of_zero {controller : MotorController α} {duty : MotorPin → ℕ}
    (driving : controller.Driving duty) (sign : controller.sign = 0) :
    duty = dutyCycles 0 0 0 := by
  cases driving with
  | still => rfl
  | upward _ _ negative => exact absurd sign negative.ne
  | downward _ _ positive => exact absurd sign positive.ne'

theorem power_open (power : ℕ) : controller.power (dutyCycles power 0 0) = 0 := by
  unfold MotorController.power
  split
  · rfl
  · rfl

/-- The outputs of three calls mixed: they drive as one of the three does, and never are both inputs
on. -/
theorem mixed_power {first second third duty : MotorPin → ℕ} (driving : controller.Driving first)
    (driving' : controller.Driving second) (driving'' : controller.Driving third)
    (pwm : duty .pwm = first .pwm) (in1 : duty .in1 = second .in1) (in2 : duty .in2 = third .in2) :
    (∃ one ∈ [first, second, third], controller.power duty = controller.power one) ∧
      (duty .in1 = 0 ∨ duty .in2 = 0) := by
  rw [dutyCycles_eta duty, pwm, in1, in2]
  rcases lt_trichotomy controller.sign 0 with negative | zero | positive
  · obtain ⟨power, -, -⟩ := driving.of_neg negative
    obtain ⟨-, -, upward⟩ := driving'.of_neg negative
    obtain ⟨-, closed, -⟩ := driving''.of_neg negative
    rw [closed]
    refine ⟨?_, .inr rfl⟩
    rcases upward with on | still
    · rw [on, controller.power_upward negative]
      exact ⟨first, List.mem_cons_self, power.symm⟩
    · rw [still]
      exact ⟨dutyCycles 0 0 0, List.mem_cons_of_mem _ List.mem_cons_self,
        (controller.power_open _).trans controller.power_still.symm⟩
  · rw [driving.of_zero zero, driving'.of_zero zero, driving''.of_zero zero]
    exact ⟨⟨_, List.mem_cons_self, rfl⟩, .inl rfl⟩
  · obtain ⟨power, -, -⟩ := driving.of_pos positive
    obtain ⟨-, closed, -⟩ := driving'.of_pos positive
    obtain ⟨-, -, downward⟩ := driving''.of_pos positive
    rw [closed]
    refine ⟨?_, .inl rfl⟩
    rcases downward with on | still
    · rw [on, controller.power_downward positive]
      exact ⟨first, List.mem_cons_self, power.symm⟩
    · rw [still]
      exact ⟨dutyCycles 0 0 0,
        List.mem_cons_of_mem _ (List.mem_cons_of_mem _ List.mem_cons_self),
        (controller.power_open _).trans controller.power_still.symm⟩

end MotorController

/-! ### Threads -/

/-- The outputs, and the threads that are inside a call. -/
abbrev MotorFile := RegisterWrites.RegisterFile ℕ MotorPin ℕ

/-- What a thread does next. -/
inductive MotorLabel (α : Type)
  | begins (thread : ℕ) (call : MotorCall α)
  | writes (thread : ℕ)
  | returns (thread : ℕ)

namespace MotorController

variable {α : Type} [Scalar α] (controller : MotorController α)

/-- The vendor's constructor stops the motor. -/
def start : MotorFile := RegisterWrites.start (stop (α := α))

/-- A step of a thread. -/
def step (file : MotorFile) : MotorLabel α → MotorFile
  | .begins thread call => match controller.duties call with
    | .ok duty => RegisterWrites.step MotorPin.order file (.begins thread duty)
    | .error _ => file
  | .writes thread => RegisterWrites.step MotorPin.order file (.writes thread)
  | .returns thread => RegisterWrites.step MotorPin.order file (.returns thread)

/-- The registers and the log belong together, and what was begun are calls of the driver. -/
structure Kept (file : MotorFile) : Prop where
  consistent : RegisterWrites.Consistent MotorPin.order file
  calls : ∀ call duty, .began call duty ∈ file.log →
    ∃ request, controller.duties request = .ok duty

theorem kept_start : controller.Kept (start (α := α)) where
  consistent := RegisterWrites.consistent_start _ _
  calls call duty began := by
    rcases List.mem_pair.mp began with same | other
    · cases same
      exact ⟨.stop, rfl⟩
    · cases other

theorem Kept.step {controller : MotorController α} {file : MotorFile}
    (kept : controller.Kept file) (next : RegisterWrites.CallStep ℕ MotorPin ℕ)
    (asked : ∀ thread duty, next = .begins thread duty →
      ∃ request, controller.duties request = .ok duty) :
    controller.Kept (RegisterWrites.step MotorPin.order file next) where
  consistent := kept.consistent.step next
  calls call duty began := by
    rcases RegisterWrites.began_step began with before | ⟨thread, same⟩
    · exact kept.calls call duty before
    · exact asked thread duty same

theorem kept_step (file : MotorFile) (label : MotorLabel α) (kept : controller.Kept file) :
    controller.Kept (controller.step file label) := by
  cases label with
  | begins thread request =>
    rw [step]
    split
    next duty accepted =>
      refine kept.step _ fun _ _ same => ?_
      cases same
      exact ⟨request, accepted⟩
    · exact kept
  | writes thread => exact kept.step (.writes thread) nofun
  | returns thread => exact kept.step (.returns thread) nofun

/-- The motor drives as some call asked for that meets a condition. -/
def DrivesAs (file : MotorFile) (condition : ℕ → Prop) : Prop :=
  ∃ call duty request, .began call duty ∈ file.log ∧ condition call ∧
    controller.duties request = .ok duty ∧
    controller.power file.registers = controller.commanded request

/-- If every output holds what such a call wrote, the motor drives as one of them asked for. -/
theorem Kept.drives {controller : MotorController α} {file : MotorFile}
    (kept : controller.Kept file) {condition : ℕ → Prop}
    (holds : ∀ pin, ∃ call duty, .began call duty ∈ file.log ∧ condition call ∧
      file.registers pin = duty pin) :
    controller.DrivesAs file condition ∧
      (file.registers .in1 = 0 ∨ file.registers .in2 = 0) := by
  obtain ⟨first, duty, began, meets, pwm⟩ := holds .pwm
  obtain ⟨second, duty', began', meets', in1⟩ := holds .in1
  obtain ⟨third, duty'', began'', meets'', in2⟩ := holds .in2
  obtain ⟨request, accepted⟩ := kept.calls first duty began
  obtain ⟨request', accepted'⟩ := kept.calls second duty' began'
  obtain ⟨request'', accepted''⟩ := kept.calls third duty'' began''
  obtain ⟨driving, power⟩ := controller.duties_driving accepted
  obtain ⟨driving', power'⟩ := controller.duties_driving accepted'
  obtain ⟨driving'', power''⟩ := controller.duties_driving accepted''
  obtain ⟨⟨one, member, same⟩, apart⟩ :=
    controller.mixed_power driving driving' driving'' pwm in1 in2
  refine ⟨?_, apart⟩
  rcases List.mem_cons.mp member with rfl | member
  · exact ⟨first, one, request, began, meets, accepted, same.trans power⟩
  · rcases List.mem_pair.mp member with rfl | rfl
    · exact ⟨second, one, request', began', meets', accepted', same.trans power'⟩
    · exact ⟨third, one, request'', began'', meets'', accepted'', same.trans power''⟩

/-- However the writes of any number of calls are mixed, the two inputs of the bridge are never on
together and the motor always has the forward power some call asked for; while no call is under way,
that of a call which no other followed. -/
theorem mixed_calls_drive (labels : List (MotorLabel α)) :
    let file := Transition.run controller.step (start (α := α)) labels
    (file.registers .in1 = 0 ∨ file.registers .in2 = 0) ∧
      controller.DrivesAs file (fun _ => True) ∧
      (RegisterWrites.Quiet file →
        controller.DrivesAs file fun call => ¬RegisterWrites.Overtaken file.log call) := by
  intro file
  have kept : controller.Kept file :=
    Transition.run_invariant controller.kept_step controller.kept_start labels
  obtain ⟨drives, apart⟩ := kept.drives fun pin => by
    obtain ⟨call, duty, began, holds⟩ := kept.consistent.holds_begun pin
    exact ⟨call, duty, began, trivial, holds⟩
  refine ⟨apart, drives, fun quiet => (kept.drives fun pin => ?_).1⟩
  exact kept.consistent.holds_last quiet pin.mem_order

/-! ### Whole calls -/

/-- A call that no other is mixed with. -/
def wholeCall (thread : ℕ) (call : MotorCall α) : List (MotorLabel α) :=
  [.begins thread call, .writes thread, .writes thread, .writes thread, .returns thread]

theorem run_wholeCall {file : MotorFile} {thread : ℕ} {call : MotorCall α} {duty : MotorPin → ℕ}
    (idle : file.active thread = none) (accepted : controller.duties call = .ok duty) :
    (Transition.run controller.step file (wholeCall thread call)).registers = duty ∧
      (Transition.run controller.step file (wholeCall thread call)).active thread = none := by
  have order : MotorPin.order = [.pwm, .in1, .in2] := rfl
  simp only [wholeCall, Transition.run_cons, Transition.run_nil, step, accepted,
    RegisterWrites.step, idle, order, Function.update_self]
  refine ⟨?_, trivial⟩
  funext pin
  cases pin with
  | pwm | in1 | in2 => rfl

/-- The call of the motor driver an output of the supervisor comes to. -/
def motorCalls : OutputOp α → List (MotorCall α)
  | .setThrottle value => [.setThrottle value]
  | .motorStop => [.stop]
  | _ => []

/-- The outputs drive as the throttle of the car says. -/
def Shows (car : Car α) (file : MotorFile) : Prop :=
  controller.power file.registers = controller.commanded (.setThrottle car.motorThrottle)

theorem commanded_zero : controller.commanded (.setThrottle 0) = 0 := by
  rw [commanded, min_eq_left zero_le_one, abs_zero, mul_zero, min_eq_right zero_le_one, pulse_zero]

/-- The outputs of a single thread drive as the throttle of the car says, if it is never asked for a
negative one. -/
theorem shows_outputs (thread : ℕ) (outputs : List (OutputOp α)) {car : Car α} {file : MotorFile}
    (forward : ∀ value, .setThrottle value ∈ outputs → 0 ≤ value)
    (idle : file.active thread = none) (shows : controller.Shows car file) :
    controller.Shows (outputs.foldl (fun car output => (output.handle car).2) car)
      (Transition.run controller.step file
        ((outputs.flatMap motorCalls).flatMap (wholeCall thread))) := by
  induction outputs generalizing car file with
  | nil => exact shows
  | cons output outputs inductionHypothesis =>
    have rest : ∀ value, .setThrottle value ∈ outputs → 0 ≤ value :=
      fun value member => forward value (List.mem_cons_of_mem _ member)
    have made (call : MotorCall α) (duty : MotorPin → ℕ)
        (accepted : controller.duties call = .ok duty) (car' : Car α)
        (asked : controller.commanded call = controller.commanded (.setThrottle car'.motorThrottle)) :
        controller.Shows (outputs.foldl (fun car output => (output.handle car).2) car')
          (Transition.run controller.step file
            (wholeCall thread call ++ (outputs.flatMap motorCalls).flatMap (wholeCall thread))) := by
      obtain ⟨registers, idle'⟩ := controller.run_wholeCall idle accepted
      rw [Transition.run_append]
      refine inductionHypothesis rest idle' ?_
      rw [Shows, registers, (controller.duties_driving accepted).2, asked]
    cases output with
    | setThrottle value =>
      have nonneg := forward value List.mem_cons_self
      exact made (.setThrottle value) _ (if_neg nonneg.not_gt) _ rfl
    | motorStop => exact made .stop _ rfl _ controller.commanded_zero.symm
    | readGate => exact inductionHypothesis rest idle shows
    | setAngleDeg wheelDeg => exact inductionHypothesis rest idle shows
    | centerSteering => exact inductionHypothesis rest idle shows
    | setControlCommand command => exact inductionHypothesis rest idle shows

end MotorController

end RcTaxi
