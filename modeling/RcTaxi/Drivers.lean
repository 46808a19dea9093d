/-
This file models the drivers of `hardware/`: those of the car, those that stand in for it without
hardware, and those of the simulation, which send what they are told to another process. The upper
layers choose among them by a setting and expect to see no difference.

A wheel angle becomes a servo angle around the reported centre, cut to the reported limits. The real
servo is centred elsewhere: the difference is added behind the reported angle, and the sum is cut
again, to the limits of the vendor's code. That a datagram may be lost is left out, as is the log.
-/

import RcTaxi.MotorDriver

namespace RcTaxi

/-! ### Angles -/

/-- The values of `steering` in `vehicle.yaml`. -/
structure SteeringDriver (α : Type) where
  center : α
  leftMax : α
  rightMax : α
  ratio : α

/-- The angles of the servo in `hardware.yaml`, as `load_vendor` lets them pass. -/
structure SteeringController (α : Type) [Scalar α] where
  left : α
  right : α
  center : α
  ordered : right < left

variable {α : Type} [Scalar α]

/-- The check of `load_vendor`. -/
def loadVendor (left right center : α) : Except PyError (SteeringController α) :=
  if refused : left ≤ right then .error .valueError
  else .ok ⟨left, right, center, not_le.mp refused⟩

/-- `wheel_to_servo`. -/
def SteeringDriver.wheelToServo (driver : SteeringDriver α) (wheelDeg : α) : α :=
  min (max (driver.center + wheelDeg / driver.ratio) driver.leftMax) driver.rightMax

/-- `servo_to_wheel`. -/
def SteeringDriver.servoToWheel (driver : SteeringDriver α) (servoDeg : α) : α :=
  (servoDeg - driver.center) * driver.ratio

/-- `set_angle`: the angle the servo is given. -/
def SteeringController.setAngle (controller : SteeringController α) (angle : α) : α :=
  max controller.right (min controller.left angle)

/-- The reported centre is one of the reported angles. -/
def SteeringDriver.Centered (driver : SteeringDriver α) : Prop :=
  driver.leftMax ≤ driver.center ∧ driver.center ≤ driver.rightMax

theorem SteeringDriver.wheelToServo_zero {driver : SteeringDriver α} (centered : driver.Centered) :
    driver.wheelToServo 0 = driver.center := by
  rw [wheelToServo, zero_div, add_zero, max_eq_left centered.1, min_eq_left centered.2]

/-- The real servo never leaves its limits. -/
theorem SteeringController.setAngle_within (controller : SteeringController α) (angle : α) :
    controller.right ≤ controller.setAngle angle ∧ controller.setAngle angle ≤ controller.left :=
  ⟨le_max_left _ _, max_le controller.ordered.le (min_le_left _ _)⟩

/-- An angle goes through uncut exactly if it is within the limits. -/
theorem SteeringController.setAngle_eq_self_iff (controller : SteeringController α) (angle : α) :
    controller.setAngle angle = angle ↔ controller.right ≤ angle ∧ angle ≤ controller.left := by
  constructor
  · intro same
    rw [← same]
    exact controller.setAngle_within angle
  · rintro ⟨above, below⟩
    rw [setAngle, min_eq_right below, max_eq_right above]

/-- A wheel angle whose servo angle is not cut is read back. -/
theorem SteeringDriver.servoToWheel_wheelToServo (driver : SteeringDriver α) (wheelDeg : α)
    (linked : driver.ratio ≠ 0) (above : driver.leftMax ≤ driver.center + wheelDeg / driver.ratio)
    (below : driver.center + wheelDeg / driver.ratio ≤ driver.rightMax) :
    driver.servoToWheel (driver.wheelToServo wheelDeg) = wheelDeg := by
  rw [wheelToServo, max_eq_left above, min_eq_left below, servoToWheel, add_sub_cancel_left,
    div_mul_cancel₀ _ linked]

/-! ### The drivers -/

/-- A call of the motor driver or of the steering driver; `cleanup` is one of both. -/
inductive DriverCall (α : Type)
  | setThrottle (value : α)
  | stop
  | setAngleDeg (wheelDeg : α)
  | centerSteering
  | cleanup
  deriving DecidableEq

/-- `MockMotorDriver` and `MockSteeringDriver`. -/
structure MockDrivers (α : Type) where
  throttle : α
  stopped : Bool
  servoDeg : α
  cleanedUp : Bool

/-- `SimMotorDriver` and `SimSteeringDriver` with their link, and the datagrams it was to send. -/
structure SimDrivers (α : Type) where
  throttle : α
  wheel : α
  servoDeg : α
  closed : Bool
  sent : List (α × α)

/-- `SimCommandLink._send`: nothing leaves a closed socket. -/
def SimDrivers.send (drivers : SimDrivers α) : SimDrivers α :=
  if drivers.closed then drivers
  else { drivers with sent := drivers.sent ++ [(drivers.throttle, drivers.wheel)] }

/-- `RealMotorDriver` and `RealSteeringDriver`: the outputs of the motor board, the angle of the
servo, and the angle that is reported. -/
structure RealDrivers (α : Type) where
  duty : MotorPin → ℕ
  angle : α
  servoDeg : α

/-- What the drivers are built from. -/
structure Hardware (α : Type) [Scalar α] where
  steering : SteeringDriver α
  motor : MotorController α
  servo : SteeringController α

namespace Hardware

variable (hardware : Hardware α)

/-- How far the centre of the servo is from the reported one. -/
def trim : α := hardware.servo.center - hardware.steering.center

/-- The mock drivers as they are built. -/
def startMock : MockDrivers α := ⟨0, true, hardware.steering.center, false⟩

/-- A call of the mock drivers. -/
def callMock (drivers : MockDrivers α) : DriverCall α → Except PyError (MockDrivers α)
  | .setThrottle value =>
    if value < 0 then .error .valueError
    else .ok { drivers with throttle := min value 1, stopped := decide (min value 1 = 0) }
  | .stop => .ok { drivers with throttle := 0, stopped := true }
  | .setAngleDeg wheelDeg =>
    .ok { drivers with servoDeg := hardware.steering.wheelToServo wheelDeg }
  | .centerSteering => .ok { drivers with servoDeg := hardware.steering.center }
  | .cleanup => .ok { drivers with cleanedUp := true }

/-- The drivers of the simulation as they are built. -/
def startSim : SimDrivers α := ⟨0, 0, hardware.steering.center, false, []⟩

/-- A call of the drivers of the simulation. -/
def callSim (drivers : SimDrivers α) : DriverCall α → Except PyError (SimDrivers α)
  | .setThrottle value =>
    if value < 0 then .error .valueError
    else .ok (SimDrivers.send { drivers with throttle := min value 1 })
  | .stop => .ok (SimDrivers.send { drivers with throttle := 0 })
  | .setAngleDeg wheelDeg =>
    .ok (SimDrivers.send { drivers with
      servoDeg := hardware.steering.wheelToServo wheelDeg, wheel := wheelDeg })
  | .centerSteering =>
    .ok (SimDrivers.send { drivers with servoDeg := hardware.steering.center, wheel := 0 })
  | .cleanup => .ok { SimDrivers.send { drivers with throttle := 0 } with closed := true }

/-- The real drivers as they are built: the vendor's constructors stop the motor and centre the
servo. -/
def startReal : RealDrivers α :=
  ⟨MotorController.stop (α := α), hardware.servo.setAngle hardware.servo.center,
    hardware.steering.center⟩

/-- A call of the real drivers. -/
def callReal (drivers : RealDrivers α) : DriverCall α → Except PyError (RealDrivers α)
  | .setThrottle value =>
    (hardware.motor.duties (.setThrottle value)).map fun duty => { drivers with duty := duty }
  | .stop => (hardware.motor.duties .stop).map fun duty => { drivers with duty := duty }
  | .setAngleDeg wheelDeg =>
    let servo := hardware.steering.wheelToServo wheelDeg
    .ok { drivers with angle := hardware.servo.setAngle (servo + hardware.trim), servoDeg := servo }
  | .centerSteering =>
    .ok { drivers with
      angle := hardware.servo.setAngle hardware.servo.center
      servoDeg := hardware.steering.center }
  | .cleanup => (hardware.motor.duties .cleanup).map fun duty =>
    { duty := duty
      angle := hardware.servo.setAngle hardware.servo.center
      servoDeg := hardware.steering.center }

/-- A call that raises changes nothing. -/
def after {Drivers : Type} (call : Drivers → DriverCall α → Except PyError Drivers)
    (drivers : Drivers) (made : DriverCall α) : Drivers :=
  match call drivers made with
  | .ok changed => changed
  | .error _ => drivers

/-- What a call raises. -/
def raised {Drivers : Type} (call : Drivers → DriverCall α → Except PyError Drivers)
    (drivers : Drivers) (made : DriverCall α) : Option PyError :=
  match call drivers made with
  | .ok _ => none
  | .error error => some error

/-! ### No difference -/

/-- The three kinds of drivers after the same calls. -/
structure Agree (mock : MockDrivers α) (sim : SimDrivers α) (real : RealDrivers α) : Prop where
  throttle : sim.throttle = mock.throttle
  power : hardware.motor.power real.duty = hardware.motor.commanded (.setThrottle mock.throttle)
  simServo : sim.servoDeg = mock.servoDeg
  realServo : real.servoDeg = mock.servoDeg
  wheel : mock.servoDeg = hardware.steering.wheelToServo sim.wheel
  angle : real.angle = hardware.servo.setAngle (mock.servoDeg + hardware.trim)
  sent : sim.closed = false ∧ ∀ last ∈ sim.sent.getLast?, last = (sim.throttle, sim.wheel)

theorem center_trim : hardware.steering.center + hardware.trim = hardware.servo.center :=
  add_sub_cancel _ _

theorem agree_start (centered : hardware.steering.Centered) :
    hardware.Agree hardware.startMock hardware.startSim hardware.startReal where
  throttle := rfl
  power := by
    rw [startReal, MotorController.stop_eq, MotorController.power_still, startMock,
      MotorController.commanded_zero]
    rfl
  simServo := rfl
  realServo := rfl
  wheel := (SteeringDriver.wheelToServo_zero centered).symm
  angle := by rw [startMock, center_trim]; rfl
  sent := ⟨rfl, nofun⟩

section Send

omit [Scalar α]

variable (sim : SimDrivers α)

theorem send_throttle : sim.send.throttle = sim.throttle := by
  unfold SimDrivers.send
  split <;> rfl

theorem send_wheel : sim.send.wheel = sim.wheel := by
  unfold SimDrivers.send
  split <;> rfl

theorem send_servoDeg : sim.send.servoDeg = sim.servoDeg := by
  unfold SimDrivers.send
  split <;> rfl

/-- A datagram that leaves says what the link keeps. -/
theorem sent_send {sim : SimDrivers α} (opened : sim.closed = false) :
    sim.send.closed = false ∧
      ∀ last ∈ sim.send.sent.getLast?, last = (sim.send.throttle, sim.send.wheel) := by
  rw [SimDrivers.send, if_neg (Bool.not_eq_true _ ▸ opened)]
  refine ⟨opened, fun last member => ?_⟩
  rw [List.getLast?_concat] at member
  exact (Option.some.inj member).symm

end Send

theorem commanded_min (value : α) : hardware.motor.commanded (.setThrottle (min value 1)) =
    hardware.motor.commanded (.setThrottle value) := by
  rw [MotorController.commanded, MotorController.commanded, min_assoc, min_self]

section Agree

variable {hardware}
variable {mock : MockDrivers α} {sim : SimDrivers α} {real : RealDrivers α}

/-- The throttle of all drivers changes. -/
theorem Agree.throttled (agree : hardware.Agree mock sim real) (throttle : α) (stopped : Bool)
    {duty : MotorPin → ℕ}
    (power : hardware.motor.power duty = hardware.motor.commanded (.setThrottle throttle)) :
    hardware.Agree { mock with throttle := throttle, stopped := stopped }
      (SimDrivers.send { sim with throttle := throttle }) { real with duty := duty } where
  throttle := send_throttle _
  power := power
  simServo := (send_servoDeg _).trans agree.simServo
  realServo := agree.realServo
  wheel := by
    rw [send_wheel]
    exact agree.wheel
  angle := agree.angle
  sent := sent_send agree.sent.1

/-- The angle of all drivers changes. -/
theorem Agree.steered (agree : hardware.Agree mock sim real) (wheelDeg : α) {servo angle : α}
    (converted : servo = hardware.steering.wheelToServo wheelDeg)
    (shown : angle = hardware.servo.setAngle (servo + hardware.trim)) :
    hardware.Agree { mock with servoDeg := servo }
      (SimDrivers.send { sim with servoDeg := servo, wheel := wheelDeg })
      { real with angle := angle, servoDeg := servo } where
  throttle := (send_throttle _).trans agree.throttle
  power := agree.power
  simServo := send_servoDeg _
  realServo := rfl
  wheel := by
    rw [send_wheel]
    exact converted
  angle := shown
  sent := sent_send agree.sent.1

/-- A call that is not a `cleanup` keeps the three kinds of drivers in agreement. -/
theorem Agree.call (agree : hardware.Agree mock sim real) (centered : hardware.steering.Centered)
    (call : DriverCall α) (regular : call ≠ .cleanup) :
    hardware.Agree (after hardware.callMock mock call) (after hardware.callSim sim call)
      (after hardware.callReal real call) := by
  cases call with
  | setThrottle value =>
    by_cases negative : value < 0
    · simp only [after, callMock, callSim, callReal, MotorController.duties, if_pos negative]
      exact agree
    · simp only [after, callMock, callSim, callReal, MotorController.duties, if_neg negative]
      refine agree.throttled _ _ ?_
      rw [commanded_min]
      exact (hardware.motor.forward_driving _).2
  | stop =>
    refine agree.throttled 0 true ?_
    rw [MotorController.stop_eq, MotorController.power_still, MotorController.commanded_zero]
    rfl
  | setAngleDeg wheelDeg => exact agree.steered wheelDeg rfl rfl
  | centerSteering =>
    refine agree.steered 0 (SteeringDriver.wheelToServo_zero centered).symm ?_
    rw [center_trim]
  | cleanup => exact absurd rfl regular

end Agree

/-- Every kind of driver refuses a negative throttle, and nothing else, whatever came before. -/
theorem raised_eq (mock : MockDrivers α) (sim : SimDrivers α) (real : RealDrivers α)
    (call : DriverCall α) :
    raised hardware.callMock mock call = raised hardware.callSim sim call ∧
      raised hardware.callReal real call = raised hardware.callSim sim call := by
  cases call with
  | setThrottle value =>
    by_cases negative : value < 0
    · simp only [raised, callMock, callSim, callReal, MotorController.duties, if_pos negative]
      exact ⟨trivial, rfl⟩
    · simp only [raised, callMock, callSim, callReal, MotorController.duties, if_neg negative]
      exact ⟨trivial, rfl⟩
  | stop | setAngleDeg wheelDeg | centerSteering | cleanup => exact ⟨rfl, rfl⟩

/-- After the same calls up to a `cleanup`, whichever of them were refused, the drivers report the
same servo angle, the motor of the car has the power of the throttle that the stand-in and the last
datagram tell, the servo of the car is at the reported angle behind the trim, and the next call is
refused by all of them or by none. -/
theorem drivers_agree (centered : hardware.steering.Centered) (calls : List (DriverCall α))
    (regular : ∀ call ∈ calls, call ≠ .cleanup) :
    let mock := Transition.run (after hardware.callMock) hardware.startMock calls
    let sim := Transition.run (after hardware.callSim) hardware.startSim calls
    let real := Transition.run (after hardware.callReal) hardware.startReal calls
    hardware.Agree mock sim real ∧
      ∀ call, raised hardware.callMock mock call = raised hardware.callSim sim call ∧
        raised hardware.callReal real call = raised hardware.callSim sim call := by
  refine ⟨?_, fun call => hardware.raised_eq _ _ _ call⟩
  have agree := hardware.agree_start centered
  generalize hardware.startMock = mock at agree ⊢
  generalize hardware.startSim = sim at agree ⊢
  generalize hardware.startReal = real at agree ⊢
  induction calls generalizing mock sim real with
  | nil => exact agree
  | cons call calls inductionHypothesis =>
    have first := agree.call centered call (regular call List.mem_cons_self)
    exact inductionHypothesis (fun call member => regular call (List.mem_cons_of_mem _ member))
      _ _ _ first

/-- The hardware as it is configured. -/
def configured : Hardware ℚ where
  steering := ⟨108, 51, 165, 526 / 1000⟩
  motor := ⟨0, -1⟩
  servo := ⟨168, 48, 118, by decide +kernel⟩

/-- Half of the throttle and the steering full to the right, and then a refused throttle. -/
def rightLock : List (DriverCall ℚ) := [.setThrottle (1 / 2), .setAngleDeg 30, .setThrottle (-1)]

/-- At the right lock the servo is reported at one limit and stands at another: the trim goes beyond
the limits of the vendor's code. -/
theorem drivers_agree_rightLock :
    let mock := Transition.run (after configured.callMock) configured.startMock rightLock
    let sim := Transition.run (after configured.callSim) configured.startSim rightLock
    let real := Transition.run (after configured.callReal) configured.startReal rightLock
    configured.Agree mock sim real ∧ real.servoDeg = 165 ∧ real.angle = 168 ∧
      real.duty .pwm = 32767 :=
  ⟨(configured.drivers_agree ⟨by decide +kernel, by decide +kernel⟩ rightLock (by decide)).1,
    by decide +kernel, by decide +kernel, by decide +kernel⟩

end Hardware

end RcTaxi
