/-
This file models `safety/safety_supervisor.py`. Every motor output passes the supervisor:
`apply` reads the snapshot and the latch, decides, and then writes the motor, the steering
and the store; `force_stop` writes the three without reading. Both are programs whose calls
are the atomic steps of a thread, so the same definition serves for a whole call and for an
interleaving. The drivers are what was last written to them.
-/

import RcTaxi.StateStore
import RcTaxi.Transition

namespace RcTaxi

/-- The store, the latch, and the values last written to the motor and the steering. -/
structure Car (α : Type) where
  store : VehicleSnapshot α
  latched : Bool
  motorThrottle : α
  steeringDeg : α

/-- The atomic steps of the supervisor. -/
inductive OutputOp (α : Type)
  | readGate
  | setThrottle (value : α)
  | setAngleDeg (wheelDeg : α)
  | motorStop
  | centerSteering
  | setControlCommand (command : ControlCommand α)

/-- Reading the gate yields the snapshot and the latch. -/
abbrev OutputOp.Answer {α : Type} : OutputOp α → Type
  | .readGate => VehicleSnapshot α × Bool
  | _ => Unit

/-- The limits the supervisor is built with. -/
structure SafetySupervisor (α : Type) where
  maxWheelDeg : α
  maxThrottle : α

variable {α : Type} [Scalar α]

/-- One atomic step on the car. -/
def OutputOp.handle : (op : OutputOp α) → Car α → op.Answer × Car α
  | .readGate, car => ((car.store, car.latched), car)
  | .setThrottle value, car => ((), { car with motorThrottle := value })
  | .setAngleDeg wheelDeg, car => ((), { car with steeringDeg := wheelDeg })
  | .motorStop, car => ((), { car with motorThrottle := 0 })
  | .centerSteering, car => ((), { car with steeringDeg := 0 })
  | .setControlCommand command, car =>
    ((), { car with store := car.store.setControlCommand command })

/-- A program of the supervisor. -/
abbrev OutputProgram (α Result : Type) := Program (OutputOp α) OutputOp.Answer Result

/-- The three conditions under which nothing but a stop goes out. -/
def blocked (snap : VehicleSnapshot α) (latched : Bool) : Bool :=
  latched || snap.poseStale || !snap.drivingState.isDriving

namespace SafetySupervisor

variable (supervisor : SafetySupervisor α)

/-- The command with throttle and wheel angle limited. -/
def limit (command : ControlCommand α) : ControlCommand α :=
  ⟨min (max command.throttle 0) supervisor.maxThrottle,
    min (max command.steeringWheelDeg (-supervisor.maxWheelDeg)) supervisor.maxWheelDeg⟩

/-- The command that goes out once the gate is read. -/
def appliedCommand (command : ControlCommand α) (gate : VehicleSnapshot α × Bool) : ControlCommand α :=
  if blocked gate.1 gate.2 then stopCommand else supervisor.limit command

/-- The three writes of `apply`. -/
def output (applied : ControlCommand α) : OutputProgram α (ControlCommand α) :=
  .call (.setThrottle applied.throttle) fun _ =>
    .call (.setAngleDeg applied.steeringWheelDeg) fun _ =>
      .call (.setControlCommand applied) fun _ => .done applied

/-- `SafetySupervisor.apply`. -/
def apply (command : ControlCommand α) : OutputProgram α (ControlCommand α) :=
  .call .readGate fun gate => output (supervisor.appliedCommand command gate)

/-- `SafetySupervisor.force_stop`. -/
def forceStop : OutputProgram α Unit :=
  .call .motorStop fun _ => .call .centerSteering fun _ =>
    .call (.setControlCommand stopCommand) fun _ => .done ()

/-! ### Whole calls -/

/-- The car after a command went out. -/
def sent (applied : ControlCommand α) (car : Car α) : Car α :=
  { car with
    motorThrottle := applied.throttle
    steeringDeg := applied.steeringWheelDeg
    store := car.store.setControlCommand applied }

theorem apply_run (command : ControlCommand α) (car : Car α) :
    (supervisor.apply command).run OutputOp.handle car =
      (supervisor.appliedCommand command (car.store, car.latched),
        sent (supervisor.appliedCommand command (car.store, car.latched)) car) := rfl

/-- A blocked supervisor sends the stop command, whatever it is asked for. -/
theorem apply_blocked (command : ControlCommand α) (car : Car α)
    (isBlocked : blocked car.store car.latched = true) :
    (supervisor.apply command).run OutputOp.handle car = (stopCommand, sent stopCommand car) := by
  rw [apply_run, appliedCommand, if_pos isBlocked]

/-- The throttle that goes out does not depend on the wheel angle asked for. -/
theorem appliedCommand_throttle_eq {first second : ControlCommand α}
    (same : first.throttle = second.throttle) (gate : VehicleSnapshot α × Bool) :
    (supervisor.appliedCommand first gate).throttle =
      (supervisor.appliedCommand second gate).throttle := by
  unfold appliedCommand limit
  split
  · rfl
  · rw [same]

end SafetySupervisor

end RcTaxi
