/-
This file models `tools/guard.py` beside the process it guards: the watchdog of the car stamps a
file, the guard, a process of its own, reads the stamp, reads the clock, and switches the outputs of
the motor off where the stamp is too old. The process of the car may freeze at any moment, between
any two of its steps.

A heartbeat is opened, which empties the file, and then written. So a frozen car is cut off within a
bound, unless it froze between the two: an empty file is no number, and the guard takes it for a car
that is not running. What the guard prints is left out, and so are writes to other registers.
-/

import RcTaxi.LaneCenter
import RcTaxi.MotorDriver

namespace RcTaxi

/-! ### The board -/

/-- A channel of the board: the duty cycle last written, and the bit that switches it off. -/
structure PwmChannel where
  duty : ℕ
  fullOff : Bool

/-- What comes out of a channel. -/
def PwmChannel.level (channel : PwmChannel) : ℕ := if channel.fullOff then 0 else channel.duty

/-- `full_off_regs`: the registers `LEDn_OFF_H` of the outputs. -/
def fullOffRegs (motorChannel : ℕ) : List ℕ := [3, 4, 5].map fun k => 0x09 + 4 * (motorChannel + k)

/-- `i2cset` of a byte to a register `LEDn_OFF_H`: its fourth bit switches the channel off. -/
def i2cset (register byte : ℕ) (board : ℕ → PwmChannel) : ℕ → PwmChannel :=
  if 0x09 ≤ register ∧ (register - 0x09) % 4 = 0 then
    let channel := (register - 0x09) / 4
    Function.update board channel { board channel with fullOff := byte.testBit 4 }
  else board

/-- A duty cycle is written; that switches the channel on again. -/
def setDutyCycle (channel duty : ℕ) (board : ℕ → PwmChannel) : ℕ → PwmChannel :=
  Function.update board channel ⟨duty, false⟩

/-! ### The two processes -/

/-- Where the watchdog is with its heartbeat. -/
inductive BeatPhase (α : Type)
  | idle
  | stamped (moment : α)
  | opened (moment : α)

/-- Where the guard is in its loop. -/
inductive GuardPhase (α : Type)
  | waiting
  | read (heartbeat : α)
  | firing (registers : List ℕ)

/-- The clock, the process of the car as far as the guard sees it, the file, and the guard. Without a
number the file is empty. The program does not keep when the guard last began its loop. -/
structure GuardedCar (α : Type) where
  now : α
  frozen : Bool
  beat : BeatPhase α
  file : Option (Option α)
  board : ℕ → PwmChannel
  guard : GuardPhase α
  cycleStart : α

/-- What the process of the car does: `SafetyWatchdog.tick` in three steps, `clear_heartbeat`, and
the writes of the motor driver. -/
inductive CarStep
  | stamp
  | openFile (opens : Bool)
  | writeFile (writes : Bool)
  | clearHeartbeat
  | writeOutput (pin : MotorPin) (duty : ℕ)

/-- What happens next. -/
inductive GuardLabel (α : Type)
  | pass (duration : α)
  | freeze
  | thaw
  | car (next : CarStep)
  | guardRead
  | guardClock
  | guardFire (succeeds : Bool)

/-- How the guard is started, and the motor it guards. -/
structure FreezeGuard (α : Type) where
  staleSec : α
  motor : MotorController α

namespace FreezeGuard

variable {α : Type} [Scalar α] (guard : FreezeGuard α)

/-- Neither the watchdog nor the guard has done anything. -/
def start (now : α) (board : ℕ → PwmChannel) : GuardedCar α :=
  ⟨now, false, .idle, none, board, .waiting, now⟩

/-- A step of the process of the car. -/
def stepCar (car : GuardedCar α) : CarStep → GuardedCar α
  | .stamp => match car.beat with
    | .idle => { car with beat := .stamped car.now }
    | _ => car
  | .openFile opens => match car.beat with
    | .stamped moment =>
      if opens then { car with beat := .opened moment, file := some none }
      else { car with beat := .idle }
    | _ => car
  | .writeFile writes => match car.beat with
    | .opened moment => { car with
        beat := .idle
        file := match car.file, writes with
          | some _, true => some (some (pyRound moment 3))
          | file, _ => file }
    | _ => car
  | .clearHeartbeat => { car with file := none }
  | .writeOutput pin duty =>
    { car with board := setDutyCycle (guard.motor.channelOf pin) duty car.board }

/-- A step. A frozen process does nothing. -/
def step (car : GuardedCar α) : GuardLabel α → GuardedCar α
  | .pass duration => if 0 ≤ duration then { car with now := car.now + duration } else car
  | .freeze => { car with frozen := true }
  | .thaw => { car with frozen := false }
  | .car next => if car.frozen then car else guard.stepCar car next
  | .guardRead => match car.guard with
    | .waiting => { car with
        cycleStart := car.now
        guard := match car.file with
          | some (some heartbeat) => .read heartbeat
          | _ => .waiting }
    | _ => car
  | .guardClock => match car.guard with
    | .read heartbeat => { car with
        guard := if guard.staleSec < car.now - heartbeat
          then .firing (fullOffRegs guard.motor.channel) else .waiting }
    | _ => car
  | .guardFire succeeds => match car.guard with
    | .firing (register :: rest) => { car with
        board := if succeeds then i2cset register 0x10 car.board else car.board
        guard := if rest.isEmpty then .waiting else .firing rest }
    | _ => car

/-! ### Outputs that are switched off -/

/-- An output is switched off, whatever its duty cycle. -/
def SwitchedOff (car : GuardedCar α) (pin : MotorPin) : Prop :=
  (car.board (guard.motor.channelOf pin)).fullOff = true

/-- All outputs of the motor are switched off. -/
def CutOff (car : GuardedCar α) : Prop := ∀ pin, guard.SwitchedOff car pin

/-- What comes out for the motor. -/
def levels (car : GuardedCar α) (pin : MotorPin) : ℕ :=
  (car.board (guard.motor.channelOf pin)).level

/-- The register that switches an output off. -/
def offRegister (pin : MotorPin) : ℕ := 0x09 + 4 * guard.motor.channelOf pin

omit [Scalar α] in
theorem fullOffRegs_eq : fullOffRegs guard.motor.channel =
    [guard.offRegister .in2, guard.offRegister .in1, guard.offRegister .pwm] := rfl

omit [Scalar α] in
/-- The guard writes to the outputs of the motor and to nothing else. -/
theorem mem_fullOffRegs {register : ℕ} :
    register ∈ fullOffRegs guard.motor.channel ↔ ∃ pin, register = guard.offRegister pin := by
  rw [fullOffRegs_eq]
  constructor
  · intro member
    rcases List.mem_cons.mp member with rfl | member
    · exact ⟨.in2, rfl⟩
    · rcases List.mem_pair.mp member with rfl | rfl
      · exact ⟨.in1, rfl⟩
      · exact ⟨.pwm, rfl⟩
  · rintro ⟨pin, rfl⟩
    cases pin with
    | pwm => exact List.mem_cons_of_mem _ (List.mem_cons_of_mem _ List.mem_cons_self)
    | in1 => exact List.mem_cons_of_mem _ List.mem_cons_self
    | in2 => exact List.mem_cons_self

omit [Scalar α] in
theorem i2cset_offRegister (pin : MotorPin) (board : ℕ → PwmChannel) :
    i2cset (guard.offRegister pin) 0x10 board =
      Function.update board (guard.motor.channelOf pin)
        { board (guard.motor.channelOf pin) with fullOff := true } := by
  have behind : guard.offRegister pin - 0x09 = 4 * guard.motor.channelOf pin :=
    Nat.add_sub_cancel_left ..
  rw [i2cset, behind, Nat.mul_mod_right, if_pos ⟨Nat.le_add_right _ _, rfl⟩,
    Nat.mul_div_cancel_left _ (by decide)]
  rfl

omit [Scalar α] in
theorem levels_of_cutOff {car : GuardedCar α} (cut : guard.CutOff car) :
    guard.levels car = dutyCycles 0 0 0 := by
  have off (pin : MotorPin) : guard.levels car pin = 0 := if_pos (cut pin)
  rw [dutyCycles_eta (guard.levels car), off, off, off]

/-! ### A frozen car -/

/-- The guard begins its loop again within a period, its writes succeed, and the car stays
frozen. -/
def Scheduled (period : α) (car : GuardedCar α) : GuardLabel α → Prop
  | .pass duration => car.now + duration ≤ car.cycleStart + period
  | .thaw => False
  | .guardFire succeeds => succeeds = true
  | _ => True

/-- Whether a step is scheduled can be decided. -/
instance decidableScheduled (period : α) (car : GuardedCar α) :
    ∀ label, Decidable (Scheduled period car label)
  | .pass duration => inferInstanceAs (Decidable (car.now + duration ≤ car.cycleStart + period))
  | .thaw => isFalse id
  | .guardFire succeeds => inferInstanceAs (Decidable (succeeds = true))
  | .freeze | .car _ | .guardRead | .guardClock => isTrue trivial

/-- What the guard has done in its loop since a deadline: the stamp is read, the outputs before the
ones to come are switched off, or all of them are. -/
def Progress (heartbeat : α) (car : GuardedCar α) : Prop :=
  match car.guard with
  | .read found => found = heartbeat
  | .firing registers => ∀ pin, guard.offRegister pin ∉ registers → guard.SwitchedOff car pin
  | .waiting => guard.CutOff car

/-- A car that stays frozen with a stamp, around a deadline by which the stamp is too old. -/
structure Closing (heartbeat deadline period : α) (car : GuardedCar α) : Prop where
  frozen : car.frozen = true
  file : car.file = some (some heartbeat)
  begun : car.cycleStart ≤ car.now
  scheduled : deadline < car.now → car.now ≤ car.cycleStart + period
  progress : deadline < car.cycleStart → guard.Progress heartbeat car
  closed : deadline + period < car.cycleStart → guard.CutOff car

/-- What the guard writes switches no channel on. -/
theorem fullOff_i2cset {board : ℕ → PwmChannel} {channel : ℕ}
    (off : (board channel).fullOff = true) (register : ℕ) :
    (i2cset register 0x10 board channel).fullOff = true := by
  rw [i2cset]
  split
  · dsimp only
    rw [Function.update_apply]
    split
    · rfl
    · exact off
  · exact off

omit [Scalar α] in
theorem fullOff_offRegister (pin : MotorPin) (board : ℕ → PwmChannel) :
    (i2cset (guard.offRegister pin) 0x10 board (guard.motor.channelOf pin)).fullOff = true := by
  rw [i2cset_offRegister, Function.update_self]

/-- What the guard reads where there is a stamp. -/
theorem step_guardRead {car : GuardedCar α} {heartbeat : α} (waiting : car.guard = .waiting)
    (file : car.file = some (some heartbeat)) :
    guard.step car .guardRead = { car with cycleStart := car.now, guard := .read heartbeat } := by
  simp only [step, waiting, file]

namespace Closing

variable {guard}
variable {heartbeat deadline period : α} {car : GuardedCar α}

theorem read (closing : guard.Closing heartbeat deadline period car) (nonneg : 0 ≤ period)
    (waiting : car.guard = .waiting) :
    guard.Closing heartbeat deadline period
      { car with cycleStart := car.now, guard := .read heartbeat } where
  frozen := closing.frozen
  file := closing.file
  begun := le_refl _
  scheduled _ := le_add_of_nonneg_right nonneg
  progress _ := rfl
  closed late := by
    have now := closing.scheduled ((le_add_of_nonneg_right nonneg).trans_lt late)
    have before : deadline < car.cycleStart := lt_of_add_lt_add_right (late.trans_le now)
    have progress := closing.progress before
    rw [Progress, waiting] at progress
    exact progress

theorem clock (closing : guard.Closing heartbeat deadline period car)
    (stale : heartbeat + guard.staleSec ≤ deadline) {found : α} (reading : car.guard = .read found) :
    guard.Closing heartbeat deadline period { car with
      guard := if guard.staleSec < car.now - found
        then .firing (fullOffRegs guard.motor.channel) else .waiting } where
  frozen := closing.frozen
  file := closing.file
  begun := closing.begun
  scheduled := closing.scheduled
  progress late := by
    have progress := closing.progress late
    rw [Progress, reading] at progress
    subst progress
    have old : guard.staleSec < car.now - found :=
      lt_sub_iff_add_lt'.mpr (stale.trans_lt (late.trans_le closing.begun))
    rw [if_pos old]
    exact fun pin absent => absurd (guard.mem_fullOffRegs.mpr ⟨pin, rfl⟩) absent
  closed := closing.closed

theorem fire (closing : guard.Closing heartbeat deadline period car) {register : ℕ} {rest : List ℕ}
    (firing : car.guard = .firing (register :: rest)) :
    guard.Closing heartbeat deadline period { car with
      board := i2cset register 0x10 car.board
      guard := if rest.isEmpty then .waiting else .firing rest } where
  frozen := closing.frozen
  file := closing.file
  begun := closing.begun
  scheduled := closing.scheduled
  progress late := by
    have progress := closing.progress late
    rw [Progress, firing] at progress
    have further (pin : MotorPin) (absent : guard.offRegister pin ∉ rest) :
        guard.SwitchedOff { car with board := i2cset register 0x10 car.board } pin := by
      rcases eq_or_ne (guard.offRegister pin) register with rfl | other
      · exact guard.fullOff_offRegister pin car.board
      · refine fullOff_i2cset (progress pin fun member => ?_) register
        exact (List.mem_cons.mp member).elim other absent
    cases rest with
    | nil => exact fun pin => further pin List.not_mem_nil
    | cons next rest => exact further
  closed late pin := fullOff_i2cset (closing.closed late pin) register

/-- Every step keeps a frozen car closing. -/
theorem step (closing : guard.Closing heartbeat deadline period car) (nonneg : 0 ≤ period)
    (stale : heartbeat + guard.staleSec ≤ deadline) (label : GuardLabel α)
    (scheduled : Scheduled period car label) :
    guard.Closing heartbeat deadline period (guard.step car label) := by
  cases label with
  | pass duration =>
    rw [FreezeGuard.step]
    split
    next forward =>
      have later : car.now ≤ car.now + duration := le_add_of_nonneg_right forward
      exact { closing with begun := closing.begun.trans later, scheduled := fun _ => scheduled }
    · exact closing
  | freeze => exact { closing with frozen := rfl }
  | thaw => exact absurd scheduled id
  | guardRead =>
    by_cases waiting : car.guard = .waiting
    · rw [guard.step_guardRead waiting closing.file]
      exact closing.read nonneg waiting
    · rw [FreezeGuard.step]
      split
      next found => exact absurd found waiting
      · exact closing
  | guardClock =>
    rw [FreezeGuard.step]
    split
    next found reading => exact closing.clock stale reading
    · exact closing
  | guardFire succeeds =>
    cases (scheduled : succeeds = true)
    rw [FreezeGuard.step]
    split
    next register rest firing => exact closing.fire firing
    · exact closing
  | car next =>
    rw [FreezeGuard.step, if_pos closing.frozen]
    exact closing

end Closing

/-- The guard with its defaults, and the motor as it is configured. -/
def configured : FreezeGuard ℚ := ⟨7 / 10, 0, -1⟩

/-- A board whose outputs are all zero. -/
def resting : ℕ → PwmChannel := fun _ => ⟨0, false⟩

/-- The motor runs, and the file of the heartbeat is opened. -/
def drivingOff : List (GuardLabel ℚ) :=
  [.car (.writeOutput .pwm 40000), .car (.writeOutput .in1 0xFFFF), .car (.writeOutput .in2 0),
    .car .stamp, .car (.openFile true)]

/-! ### Runs of both processes -/

/-- What holds in every run: the guard began its loop before now, and a file that is open for the
heartbeat holds no stamp. -/
structure Regular (car : GuardedCar α) : Prop where
  begun : car.cycleStart ≤ car.now
  opened : ∀ moment, car.beat = .opened moment → ∀ heartbeat, car.file ≠ some (some heartbeat)

theorem regular_stepCar {car : GuardedCar α} (regular : Regular car) (next : CarStep) :
    Regular (guard.stepCar car next) := by
  cases next with
  | stamp =>
    rw [stepCar]
    split
    · exact ⟨regular.begun, nofun⟩
    · exact regular
  | openFile opens =>
    rw [stepCar]
    split
    · split
      · exact ⟨regular.begun, fun _ _ => nofun⟩
      · exact ⟨regular.begun, nofun⟩
    · exact regular
  | writeFile writes =>
    rw [stepCar]
    split
    · exact ⟨regular.begun, nofun⟩
    · exact regular
  | clearHeartbeat => exact ⟨regular.begun, fun _ _ => nofun⟩
  | writeOutput pin duty => exact ⟨regular.begun, regular.opened⟩

theorem regular_step (car : GuardedCar α) (label : GuardLabel α) (regular : Regular car) :
    Regular (guard.step car label) := by
  cases label with
  | pass duration =>
    rw [step]
    split
    next forward =>
      exact ⟨regular.begun.trans (le_add_of_nonneg_right forward), regular.opened⟩
    · exact regular
  | guardRead =>
    rw [step]
    split
    · exact ⟨le_refl _, regular.opened⟩
    · exact regular
  | guardClock =>
    rw [step]
    split
    · exact ⟨regular.begun, regular.opened⟩
    · exact regular
  | guardFire succeeds =>
    rw [step]
    split
    · exact ⟨regular.begun, regular.opened⟩
    · exact regular
  | freeze | thaw => exact ⟨regular.begun, regular.opened⟩
  | car next =>
    rw [step]
    split
    · exact regular
    · exact guard.regular_stepCar regular next

theorem regular_start (now : α) (board : ℕ → PwmChannel) : Regular (start now board) where
  begun := le_refl _
  opened moment opened := by cases opened

theorem regular_of_reachable {now : α} {board : ℕ → PwmChannel} {car : GuardedCar α}
    (reachable : Transition.Reachable guard.step (start now board) car) : Regular car :=
  reachable.invariant guard.regular_step (regular_start now board)

/-- Whatever the two processes did before, a car that froze with a stamp in the file and stays frozen
has all outputs of the motor off two periods of the guard after the stamp is too old, and ever
after. -/
theorem frozen_car_is_cut_off {now : α} {board : ℕ → PwmChannel} {car : GuardedCar α}
    (reachable : Transition.Reachable guard.step (start now board) car) (heartbeat period : α)
    (nonneg : 0 ≤ period) (frozen : car.frozen = true) (file : car.file = some (some heartbeat))
    (after : List (GuardLabel α))
    (scheduled : Transition.Along guard.step (Scheduled period) car after)
    (late : max (heartbeat + guard.staleSec) car.now + (period + period) <
      (Transition.run guard.step car after).now) :
    guard.levels (Transition.run guard.step car after) = dutyCycles 0 0 0 ∧
      guard.motor.power (guard.levels (Transition.run guard.step car after)) = 0 := by
  have begun := (guard.regular_of_reachable reachable).begun
  have early : car.cycleStart ≤ max (heartbeat + guard.staleSec) car.now :=
    begun.trans (le_max_right _ _)
  have initially : guard.Closing heartbeat (max (heartbeat + guard.staleSec) car.now) period car :=
    { frozen := frozen
      file := file
      begun := begun
      scheduled := fun after => absurd after (le_max_right _ _).not_gt
      progress := fun after => absurd after early.not_gt
      closed := fun after =>
        absurd ((le_add_of_nonneg_right nonneg).trans_lt after) early.not_gt }
  have closing : guard.Closing heartbeat _ period (Transition.run guard.step car after) :=
    Transition.run_invariant_along
      (fun car label allowed closing => closing.step nonneg (le_max_left _ _) label allowed)
      initially scheduled
  have now' := closing.scheduled
    ((le_add_of_nonneg_right (add_nonneg nonneg nonneg)).trans_lt late)
  rw [← add_assoc] at late
  have cut := closing.closed (lt_of_add_lt_add_right (late.trans_le now'))
  rw [guard.levels_of_cutOff cut]
  exact ⟨rfl, guard.motor.power_still⟩

/-- The loop of the guard every fifth of a second, with three writes in the last two. -/
def guardLoops : List (GuardLabel ℚ) :=
  [.pass (1 / 5), .guardRead, .guardClock, .pass (1 / 5), .guardRead, .guardClock,
    .pass (1 / 5), .guardRead, .guardClock, .pass (1 / 5), .guardRead, .guardClock,
    .guardFire true, .guardFire true, .guardFire true, .pass (1 / 5), .guardRead, .guardClock,
    .guardFire true, .guardFire true, .guardFire true, .pass (1 / 5)]

/-- The car as it freezes behind the heartbeat. -/
def frozenBehind : GuardedCar ℚ :=
  Transition.run configured.step (start 0 resting)
    (drivingOff ++ [.car (.writeFile true), .freeze])

theorem frozen_car_is_cut_off_configured :
    configured.motor.power (configured.levels frozenBehind) = 40000 ∧
      configured.motor.power
        (configured.levels (Transition.run configured.step frozenBehind guardLoops)) = 0 :=
  ⟨by decide +kernel, (configured.frozen_car_is_cut_off ⟨_, rfl⟩ 0 (1 / 5) (by decide +kernel)
    (by decide +kernel) (by decide +kernel) guardLoops (by decide +kernel) (by decide +kernel)).2⟩

/-! ### What the guard cannot see -/

/-- A frozen car without a stamp, while the guard waits. -/
structure Unseen (board : ℕ → PwmChannel) (car : GuardedCar α) : Prop where
  frozen : car.frozen = true
  file : ∀ heartbeat, car.file ≠ some (some heartbeat)
  waiting : car.guard = .waiting
  board : car.board = board

theorem unseen_step {board : ℕ → PwmChannel} (car : GuardedCar α) (label : GuardLabel α)
    (stays : label ≠ .thaw) (unseen : Unseen board car) : Unseen board (guard.step car label) := by
  cases label with
  | pass duration =>
    rw [step]
    split
    · exact { unseen with }
    · exact unseen
  | freeze => exact { unseen with frozen := rfl }
  | thaw => exact absurd rfl stays
  | guardRead =>
    rw [step, unseen.waiting]
    dsimp only
    refine { unseen with waiting := ?_ }
    dsimp only
    split
    next heartbeat same => exact absurd same (unseen.file heartbeat)
    · rfl
  | guardClock =>
    rw [step, unseen.waiting]
    exact unseen
  | guardFire succeeds =>
    rw [step, unseen.waiting]
    exact unseen
  | car next =>
    rw [step, if_pos unseen.frozen]
    exact unseen

/-- A loop of the guard that reads a stamp too old, and whose writes succeed. -/
def guardLoop : List (GuardLabel α) :=
  [.guardRead, .guardClock, .guardFire true, .guardFire true, .guardFire true]

theorem run_guardLoop (car : GuardedCar α) {heartbeat : α} (waiting : car.guard = .waiting)
    (file : car.file = some (some heartbeat)) (old : guard.staleSec < car.now - heartbeat) :
    (Transition.run guard.step car guardLoop).guard = .waiting ∧
      (Transition.run guard.step car guardLoop).cycleStart = car.now := by
  rw [guardLoop, Transition.run_cons, guard.step_guardRead waiting file]
  simp only [Transition.run_cons, Transition.run_nil, step, if_pos old, fullOffRegs_eq,
    List.isEmpty_cons, List.isEmpty_nil, Bool.false_eq_true, if_false, if_true, and_self]

/-- A frozen car with a stamp is cut off by a loop of the guard that begins late enough. -/
theorem exists_cutOff {car : GuardedCar α} {heartbeat : α} (frozen : car.frozen = true)
    (file : car.file = some (some heartbeat)) (waiting : car.guard = .waiting)
    (begun : car.cycleStart ≤ car.now) :
    ∃ after, Transition.Along guard.step (fun _ label => label ≠ .thaw) car after ∧
      guard.CutOff (Transition.run guard.step car after) := by
  obtain ⟨deadline, stale, future⟩ :
      ∃ deadline, heartbeat + guard.staleSec ≤ deadline ∧ car.now ≤ deadline :=
    ⟨_, le_max_left _ _, le_max_right _ _⟩
  have later : deadline < deadline + 1 := lt_add_one _
  have moment : car.now + (deadline + 1 - car.now) = deadline + 1 := add_sub_cancel _ _
  have forward : 0 ≤ deadline + 1 - car.now := sub_nonneg.mpr (future.trans later.le)
  have nonneg : 0 ≤ deadline + 1 - car.cycleStart :=
    sub_nonneg.mpr ((begun.trans future).trans later.le)
  have passed : guard.step car (.pass (deadline + 1 - car.now)) = { car with now := deadline + 1 } := by
    rw [step, if_pos forward, moment]
  refine ⟨.pass (deadline + 1 - car.now) :: guardLoop,
    ⟨nofun, nofun, nofun, nofun, nofun, nofun, trivial⟩, ?_⟩
  have initially : guard.Closing heartbeat deadline (deadline + 1 - car.cycleStart) car :=
    { frozen := frozen
      file := file
      begun := begun
      scheduled := fun after => absurd after future.not_gt
      progress := fun after => absurd after (begun.trans future).not_gt
      closed := fun after =>
        absurd ((le_add_of_nonneg_right nonneg).trans_lt after) (begun.trans future).not_gt }
  have scheduled : Transition.Along guard.step (Scheduled (deadline + 1 - car.cycleStart)) car
      (.pass (deadline + 1 - car.now) :: guardLoop) :=
    ⟨(moment.trans (add_sub_cancel _ _).symm).le, trivial, trivial, rfl, rfl, rfl, trivial⟩
  have closing := Transition.run_invariant_along
    (fun car label allowed closing => closing.step nonneg stale label allowed) initially scheduled
  have old : guard.staleSec < deadline + 1 - heartbeat :=
    lt_sub_iff_add_lt'.mpr (stale.trans_lt later)
  obtain ⟨ended, began⟩ := guard.run_guardLoop { car with now := deadline + 1 } waiting file old
  rw [Transition.run_cons, passed] at closing ⊢
  have progress := closing.progress (later.trans_eq began.symm)
  rw [Progress, ended] at progress
  exact progress

/-- A car that froze in any run while the guard waits, with its motor still on, can be cut off if and
only if there is a stamp in the file; and never if it froze between the opening of the file and the
writing. -/
theorem can_be_cut_off_iff {now : α} {board : ℕ → PwmChannel} {car : GuardedCar α}
    (reachable : Transition.Reachable guard.step (start now board) car) (frozen : car.frozen = true)
    (waiting : car.guard = .waiting) (running : ¬guard.CutOff car) :
    ((∃ after, Transition.Along guard.step (fun _ label => label ≠ .thaw) car after ∧
        guard.CutOff (Transition.run guard.step car after)) ↔
      ∃ heartbeat, car.file = some (some heartbeat)) ∧
      ∀ moment, car.beat = .opened moment →
        ¬∃ after, Transition.Along guard.step (fun _ label => label ≠ .thaw) car after ∧
          guard.CutOff (Transition.run guard.step car after) := by
  have regular := guard.regular_of_reachable reachable
  suffices possible : (∃ after, Transition.Along guard.step (fun _ label => label ≠ .thaw) car after ∧
      guard.CutOff (Transition.run guard.step car after)) ↔
        ∃ heartbeat, car.file = some (some heartbeat) by
    refine ⟨possible, fun moment opened cut => ?_⟩
    obtain ⟨heartbeat, file⟩ := possible.mp cut
    exact regular.opened moment opened heartbeat file
  constructor
  · rintro ⟨after, stays, cut⟩
    by_contra blind
    have unseen : Unseen car.board (Transition.run guard.step car after) :=
      Transition.run_invariant_along guard.unseen_step
        ⟨frozen, fun heartbeat file => blind ⟨heartbeat, file⟩, waiting, rfl⟩ stays
    refine running fun pin => ?_
    have off := cut pin
    rw [SwitchedOff, unseen.board] at off
    exact off
  · rintro ⟨heartbeat, file⟩
    exact guard.exists_cutOff frozen file waiting regular.begun

/-- The car as it freezes while the file of the heartbeat is open. -/
def frozenBetween : GuardedCar ℚ :=
  Transition.run configured.step (start 0 resting) (drivingOff ++ [.freeze])

theorem can_be_cut_off_iff_opened :
    ¬∃ after, Transition.Along configured.step (fun _ label => label ≠ .thaw) frozenBetween after ∧
      configured.CutOff (Transition.run configured.step frozenBetween after) :=
  have reachable : Transition.Reachable configured.step (start 0 resting) frozenBetween := ⟨_, rfl⟩
  have running : ¬configured.CutOff frozenBetween := fun cut => Bool.false_ne_true (cut .pwm)
  (configured.can_be_cut_off_iff reachable rfl rfl running).2 0 rfl

/-! ### A live car -/

/-- The stamps the guard reads have at most an age, and it reads the clock within a delay. -/
def Timely (age delay : α) (car : GuardedCar α) : GuardLabel α → Prop
  | .guardRead => ∀ heartbeat ∈ car.file.join, car.now ≤ heartbeat + age
  | .guardClock => car.now ≤ car.cycleStart + delay
  | _ => True

/-- Whether a step is timely can be decided. -/
instance decidableTimely (age delay : α) (car : GuardedCar α) :
    ∀ label, Decidable (Timely age delay car label)
  | .guardRead =>
    inferInstanceAs (Decidable (∀ heartbeat ∈ car.file.join, car.now ≤ heartbeat + age))
  | .guardClock => inferInstanceAs (Decidable (car.now ≤ car.cycleStart + delay))
  | .pass _ | .freeze | .thaw | .car _ | .guardFire _ => isTrue trivial

/-- The guard has not fired: a stamp it has read was not too old, and no channel is switched off. -/
structure Unfired (age : α) (car : GuardedCar α) : Prop where
  read : ∀ heartbeat, car.guard = .read heartbeat → car.cycleStart ≤ heartbeat + age
  silent : ∀ registers, car.guard ≠ .firing registers
  on : ∀ channel, (car.board channel).fullOff = false

theorem unfired_stepCar {age : α} {car : GuardedCar α} (unfired : Unfired age car)
    (next : CarStep) : Unfired age (guard.stepCar car next) := by
  cases next with
  | stamp | writeFile writes =>
    rw [stepCar]
    split
    · exact { unfired with }
    · exact unfired
  | openFile opens =>
    rw [stepCar]
    split
    · split
      · exact { unfired with }
      · exact { unfired with }
    · exact unfired
  | clearHeartbeat => exact { unfired with }
  | writeOutput pin duty =>
    refine { unfired with on := fun channel => ?_ }
    rw [stepCar, setDutyCycle]
    dsimp only
    rw [Function.update_apply]
    split
    · rfl
    · exact unfired.on channel

theorem unfired_step {age delay : α} (short : age + delay ≤ guard.staleSec) (car : GuardedCar α)
    (label : GuardLabel α) (timely : Timely age delay car label) (unfired : Unfired age car) :
    Unfired age (guard.step car label) := by
  cases label with
  | pass duration =>
    rw [step]
    split
    · exact { unfired with }
    · exact unfired
  | freeze | thaw => exact { unfired with }
  | guardRead =>
    rw [step]
    split
    next waiting =>
      cases file : car.file with
      | none => exact ⟨nofun, nofun, unfired.on⟩
      | some content =>
        cases content with
        | none => exact ⟨nofun, nofun, unfired.on⟩
        | some heartbeat =>
          refine ⟨fun found reading => ?_, nofun, unfired.on⟩
          cases reading
          exact timely heartbeat (congrArg Option.join file)
    · exact unfired
  | guardClock =>
    rw [step]
    split
    next heartbeat reading =>
      have fresh : ¬guard.staleSec < car.now - heartbeat := by
        have read := unfired.read heartbeat reading
        have clock : car.now ≤ heartbeat + (age + delay) := by
          rw [← add_assoc]
          exact (timely : car.now ≤ car.cycleStart + delay).trans (add_le_add_left read delay)
        exact (sub_le_iff_le_add'.mpr (clock.trans (add_le_add_right short heartbeat))).not_gt
      rw [if_neg fresh]
      exact ⟨nofun, nofun, unfired.on⟩
    · exact unfired
  | guardFire succeeds =>
    rw [step]
    split
    next register rest firing => exact absurd firing (unfired.silent _)
    · exact unfired
  | car next =>
    rw [step]
    split
    · exact unfired
    · exact guard.unfired_stepCar unfired next

/-- As long as the guard reads stamps of at most an age and reads the clock within a delay, and both
together are no longer than `--stale-sec`, it switches nothing off, whatever the car does. -/
theorem live_car_is_not_cut_off (age delay : α) (short : age + delay ≤ guard.staleSec) (now : α)
    (board : ℕ → PwmChannel) (on : ∀ channel, (board channel).fullOff = false)
    (labels : List (GuardLabel α))
    (timely : Transition.Along guard.step (Timely age delay) (start now board) labels)
    (channel : ℕ) :
    ((Transition.run guard.step (start now board) labels).board channel).fullOff = false := by
  have initially : Unfired age (start now board) :=
    { read := fun _ reading => nomatch (reading : GuardPhase.waiting = _)
      silent := fun _ firing => nomatch (firing : GuardPhase.waiting = _)
      on := on }
  exact (Transition.run_invariant_along (guard.unfired_step short) initially timely).on channel

/-- A heartbeat, and a loop of the guard that reads it in time. -/
def liveLoop : List (GuardLabel ℚ) :=
  drivingOff ++
    [.car (.writeFile true), .pass (1 / 10), .guardRead, .pass (1 / 10), .guardClock]

theorem live_car_is_not_cut_off_configured :
    ((Transition.run configured.step (start 0 resting) liveLoop).board 5).fullOff = false :=
  configured.live_car_is_not_cut_off (1 / 10) (1 / 10) (by decide +kernel) 0 resting (fun _ => rfl)
    liveLoop (by decide +kernel) 5

end FreezeGuard

end RcTaxi
