/-
This file is a library about the distance of two points on a circle, each given by how far along
the circle it lies. Points that are whole turns apart are the same point, and the distance is the
length of the shorter of the two arcs.

An arc of at most half a turn is a shortest one. Moving a fraction of a shortest arc towards a point
shortens the distance to that point by the fraction, and lengthens the distance to the point it
started from by as much.
-/

import Mathlib

namespace RcTaxi

variable {α : Type} [Field α] [LinearOrder α] [IsStrictOrderedRing α] [FloorRing α]

/-- The length of the shorter arc between two points of a circle. -/
def circularDistance (turn a b : α) : α := |a - b - turn * round ((a - b) / turn)|

theorem circularDistance_nonneg (turn a b : α) : 0 ≤ circularDistance turn a b := abs_nonneg _

variable {turn : α}

/-- No whole number of turns brings the two points closer. -/
theorem circularDistance_le (positive : 0 < turn) (a b : α) (turns : ℤ) :
    circularDistance turn a b ≤ |a - b - turn * turns| := by
  have scaled : ∀ count : ℤ,
      |a - b - turn * count| = turn * |(a - b) / turn - count| := by
    intro count
    have factored : a - b - turn * count = turn * ((a - b) / turn - count) := by
      rw [mul_sub, mul_div_cancel₀ _ positive.ne']
    rw [factored, abs_mul, abs_of_pos positive]
  rw [circularDistance, scaled, scaled]
  exact mul_le_mul_of_nonneg_left (round_le _ _) positive.le

/-- Another number of turns makes a short arc no shorter. -/
theorem abs_le_of_short (positive : 0 < turn) {arc : α} (short : |arc| ≤ turn / 2) (turns : ℤ) :
    |arc| ≤ |arc - turn * turns| := by
  rcases eq_or_ne turns 0 with rfl | around
  · rw [Int.cast_zero, mul_zero, sub_zero]
  · have whole : (1 : α) ≤ |(turns : α)| := by
      rw [← Int.cast_abs]
      exact_mod_cast Int.one_le_abs around
    have far : turn ≤ |turn * (turns : α)| := by
      rw [abs_mul, abs_of_pos positive]
      exact le_mul_of_one_le_right positive.le whole
    have triangle := abs_sub_abs_le_abs_sub (turn * (turns : α)) arc
    rw [abs_sub_comm] at triangle
    linarith only [short, far, triangle]

/-- An arc of at most half a turn has the length of the distance. -/
theorem circularDistance_eq (positive : 0 < turn) {a b : α} {turns : ℤ}
    (short : |a - b - turn * turns| ≤ turn / 2) :
    circularDistance turn a b = |a - b - turn * turns| := by
  refine le_antisymm (circularDistance_le positive a b turns) ?_
  have least := abs_le_of_short positive short (round ((a - b) / turn) - turns)
  have moved : a - b - turn * turns - turn * ((round ((a - b) / turn) - turns : ℤ) : α) =
      a - b - turn * round ((a - b) / turn) := by
    push_cast
    ring
  rwa [moved] at least

theorem circularDistance_comm (positive : 0 < turn) (a b : α) :
    circularDistance turn a b = circularDistance turn b a := by
  have swapped : ∀ first second : α,
      circularDistance turn first second ≤ circularDistance turn second first := by
    intro first second
    refine (circularDistance_le positive first second
      (-round ((second - first) / turn))).trans (le_of_eq ?_)
    rw [circularDistance, ← abs_neg]
    congr 1
    push_cast
    ring
  exact le_antisymm (swapped a b) (swapped b a)

/-- Whole turns of the first point do not count. -/
theorem circularDistance_add_turns (positive : 0 < turn) (a b : α) (turns : ℤ) :
    circularDistance turn (a + turn * turns) b = circularDistance turn a b := by
  have scaled : (a + turn * turns - b) / turn = (a - b) / turn + turns := by
    rw [add_sub_right_comm, add_div, mul_div_cancel_left₀ _ positive.ne']
  rw [circularDistance, circularDistance, scaled, round_add_intCast]
  congr 1
  push_cast
  ring

/-- Nor do those of the second. -/
theorem circularDistance_turns_add (positive : 0 < turn) (a b : α) (turns : ℤ) :
    circularDistance turn a (b + turn * turns) = circularDistance turn a b := by
  rw [circularDistance_comm positive, circularDistance_add_turns positive,
    circularDistance_comm positive]

theorem circularDistance_triangle (positive : 0 < turn) (a b c : α) :
    circularDistance turn a c ≤ circularDistance turn a b + circularDistance turn b c := by
  have direct := circularDistance_le positive a c
    (round ((a - b) / turn) + round ((b - c) / turn))
  have joined : a - c - turn * ((round ((a - b) / turn) + round ((b - c) / turn) : ℤ) : α) =
      (a - b - turn * round ((a - b) / turn)) + (b - c - turn * round ((b - c) / turn)) := by
    push_cast
    ring
  rw [joined] at direct
  exact direct.trans (abs_add_le _ _)

section Fraction

variable (positive : 0 < turn) (start : α) {arc fraction : α} (short : |arc| ≤ turn / 2)
  (nonneg : 0 ≤ fraction) (atMost : fraction ≤ 1)

include positive short

theorem circularDistance_start_end : circularDistance turn start (start + arc) = |arc| := by
  have direct : start - (start + arc) - turn * ((0 : ℤ) : α) = -arc := by
    rw [Int.cast_zero]
    ring
  have shortest : |start - (start + arc) - turn * ((0 : ℤ) : α)| ≤ turn / 2 := by
    rw [direct, abs_neg]
    exact short
  rw [circularDistance_eq positive shortest, direct, abs_neg]

include nonneg atMost

/-- A fraction of the way along a shortest arc, that fraction of the distance to its end is gone. -/
theorem circularDistance_end :
    circularDistance turn (start + fraction * arc) (start + arc) =
      (1 - fraction) * circularDistance turn start (start + arc) := by
  have rest : |(1 - fraction) * arc| = (1 - fraction) * |arc| := by
    rw [abs_mul, abs_of_nonneg (sub_nonneg.mpr atMost)]
  have restShort : |(1 - fraction) * arc| ≤ turn / 2 := by
    rw [rest]
    exact (mul_le_of_le_one_left (abs_nonneg _) (sub_le_self _ nonneg)).trans short
  have reached : start + arc = start + fraction * arc + (1 - fraction) * arc := by ring
  rw [circularDistance_start_end positive _ short, ← rest, reached]
  exact circularDistance_start_end positive _ restShort

/-- And that fraction of it lies between its start and the point reached. -/
theorem circularDistance_start :
    circularDistance turn (start + fraction * arc) start =
      fraction * circularDistance turn start (start + arc) := by
  have part : |fraction * arc| = fraction * |arc| := by rw [abs_mul, abs_of_nonneg nonneg]
  have partShort : |fraction * arc| ≤ turn / 2 := by
    rw [part]
    exact (mul_le_of_le_one_left (abs_nonneg _) atMost).trans short
  rw [circularDistance_comm positive, circularDistance_start_end positive _ partShort, part,
    circularDistance_start_end positive _ short]

end Fraction

end RcTaxi
