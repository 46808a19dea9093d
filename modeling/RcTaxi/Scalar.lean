/-
This file fixes the numbers the model computes with. The program computes with
Python floats; the model computes in an ordered field with a floor and with the
handful of `math` functions the program calls, so every claim that says "exact
arithmetic" is about these definitions. No law of the `math` functions is part of
the class: a result that needs one asks for it.

Two instances are provided. The real numbers carry the real `hypot`, `cos`,
`atan2`. The rational numbers carry functions that agree with the real ones on
vectors parallel to an axis and at multiples of a right angle, with angles kept in
degrees; maps drawn on a grid can be evaluated there.
-/

import Mathlib

namespace RcTaxi

/-! ### Literals -/

section Literals

-- The numbers that are written out in the program. Each has an instance by name, so that a literal
-- is the same term in every file.
instance atLeastTwo2 : Nat.AtLeastTwo 2 := ⟨by norm_num⟩
instance atLeastTwo3 : Nat.AtLeastTwo 3 := ⟨by norm_num⟩
instance atLeastTwo5 : Nat.AtLeastTwo 5 := ⟨by norm_num⟩
instance atLeastTwo6 : Nat.AtLeastTwo 6 := ⟨by norm_num⟩
instance atLeastTwo8 : Nat.AtLeastTwo 8 := ⟨by norm_num⟩
instance atLeastTwo10 : Nat.AtLeastTwo 10 := ⟨by norm_num⟩
instance atLeastTwo12 : Nat.AtLeastTwo 12 := ⟨by norm_num⟩
instance atLeastTwo15 : Nat.AtLeastTwo 15 := ⟨by norm_num⟩
instance atLeastTwo17 : Nat.AtLeastTwo 17 := ⟨by norm_num⟩
instance atLeastTwo25 : Nat.AtLeastTwo 25 := ⟨by norm_num⟩
instance atLeastTwo33 : Nat.AtLeastTwo 33 := ⟨by norm_num⟩
instance atLeastTwo45 : Nat.AtLeastTwo 45 := ⟨by norm_num⟩
instance atLeastTwo50 : Nat.AtLeastTwo 50 := ⟨by norm_num⟩
instance atLeastTwo90 : Nat.AtLeastTwo 90 := ⟨by norm_num⟩
instance atLeastTwo94 : Nat.AtLeastTwo 94 := ⟨by norm_num⟩
instance atLeastTwo99 : Nat.AtLeastTwo 99 := ⟨by norm_num⟩
instance atLeastTwo100 : Nat.AtLeastTwo 100 := ⟨by norm_num⟩
instance atLeastTwo125 : Nat.AtLeastTwo 125 := ⟨by norm_num⟩
instance atLeastTwo180 : Nat.AtLeastTwo 180 := ⟨by norm_num⟩
instance atLeastTwo250 : Nat.AtLeastTwo 250 := ⟨by norm_num⟩
instance atLeastTwo360 : Nat.AtLeastTwo 360 := ⟨by norm_num⟩
instance atLeastTwo477 : Nat.AtLeastTwo 477 := ⟨by norm_num⟩
instance atLeastTwo954 : Nat.AtLeastTwo 954 := ⟨by norm_num⟩
instance atLeastTwo1000 : Nat.AtLeastTwo 1000 := ⟨by norm_num⟩
instance atLeastTwo1000000 : Nat.AtLeastTwo 1000000 := ⟨by norm_num⟩
instance atLeastTwo1000000000 : Nat.AtLeastTwo 1000000000 := ⟨by norm_num⟩

end Literals

/-- The numbers of the program: an ordered field with a floor, and the functions of Python's
`math` module that the program calls. -/
class Scalar (α : Type) extends Field α, LinearOrder α, IsStrictOrderedRing α, FloorRing α where
  hypot : α → α → α
  radians : α → α
  degrees : α → α
  cos : α → α
  sin : α → α
  tan : α → α
  atan : α → α
  atan2 : α → α → α

export Scalar (hypot radians degrees cos sin tan atan atan2)

/-- The two facts about `math.hypot` that distances need. -/
class LawfulHypot (α : Type) [Scalar α] : Prop where
  hypot_nonneg : ∀ x y : α, 0 ≤ hypot x y
  hypot_eq_zero : ∀ x y : α, hypot x y = 0 ↔ x = 0 ∧ y = 0

export LawfulHypot (hypot_nonneg hypot_eq_zero)

/-- The facts about `math.hypot` that comparing distances needs: it is a norm, it bounds the inner
product, and along an axis it is the absolute value. -/
class MetricHypot (α : Type) [Scalar α] : Prop extends LawfulHypot α where
  hypot_neg : ∀ x y : α, hypot (-x) (-y) = hypot x y
  hypot_add_le : ∀ x y x' y' : α, hypot (x + x') (y + y') ≤ hypot x y + hypot x' y'
  inner_le : ∀ x y x' y' : α, |x * x' + y * y'| ≤ hypot x y * hypot x' y'
  hypot_axis : ∀ x : α, hypot x 0 = |x|

export MetricHypot (hypot_neg hypot_add_le inner_le hypot_axis)

/-- `math.hypot` is the length of a vector of the plane. -/
class EuclideanHypot (α : Type) [Scalar α] : Prop extends LawfulHypot α where
  hypot_mul_self : ∀ x y : α, hypot x y * hypot x y = x * x + y * y

export EuclideanHypot (hypot_mul_self)

/-- `math.degrees(math.atan(slope))` is an angle upwards for a slope upwards. -/
class RisingAtan (α : Type) [Scalar α] : Prop where
  degrees_atan_nonneg : ∀ slope : α, 0 ≤ slope → 0 ≤ degrees (atan slope)

export RisingAtan (degrees_atan_nonneg)

/-- Python's `%` on floats: the result has the sign of the modulus. -/
def pyMod {α : Type} [Scalar α] (x modulus : α) : α := x - modulus * ⌊x / modulus⌋

noncomputable instance : Scalar ℝ where
  hypot x y := Real.sqrt (x ^ 2 + y ^ 2)
  radians x := x * Real.pi / 180
  degrees x := x * 180 / Real.pi
  cos := Real.cos
  sin := Real.sin
  tan := Real.tan
  atan := Real.arctan
  atan2 y x := Complex.arg ⟨x, y⟩

instance : LawfulHypot ℝ where
  hypot_nonneg x y := Real.sqrt_nonneg _
  hypot_eq_zero x y := by
    have nonneg : 0 ≤ x ^ 2 + y ^ 2 := add_nonneg (sq_nonneg x) (sq_nonneg y)
    have squares := add_eq_zero_iff_of_nonneg (sq_nonneg x) (sq_nonneg y)
    rw [pow_eq_zero_iff two_ne_zero, pow_eq_zero_iff two_ne_zero] at squares
    exact (Real.sqrt_eq_zero nonneg).trans squares

/-- The inequality of Cauchy and Schwarz in the plane. -/
theorem abs_inner_le_sqrt (x y x' y' : ℝ) :
    |x * x' + y * y'| ≤ Real.sqrt (x ^ 2 + y ^ 2) * Real.sqrt (x' ^ 2 + y' ^ 2) := by
  rw [← Real.sqrt_mul (by positivity)]
  refine Real.abs_le_sqrt ?_
  have square := sq_nonneg (x * y' - y * x')
  linarith only [square]

instance : MetricHypot ℝ where
  hypot_neg x y := by
    change Real.sqrt ((-x) ^ 2 + (-y) ^ 2) = Real.sqrt (x ^ 2 + y ^ 2)
    rw [neg_sq, neg_sq]
  hypot_add_le x y x' y' := by
    have inner := (abs_le.mp (abs_inner_le_sqrt x y x' y')).2
    refine Real.sqrt_le_iff.mpr ⟨add_nonneg (Real.sqrt_nonneg _) (Real.sqrt_nonneg _), ?_⟩
    change (x + x') ^ 2 + (y + y') ^ 2 ≤
      (Real.sqrt (x ^ 2 + y ^ 2) + Real.sqrt (x' ^ 2 + y' ^ 2)) ^ 2
    rw [add_sq (Real.sqrt _), Real.sq_sqrt (by positivity), Real.sq_sqrt (by positivity)]
    linarith only [inner]
  inner_le := abs_inner_le_sqrt
  hypot_axis x := by
    change Real.sqrt (x ^ 2 + 0 ^ 2) = |x|
    rw [zero_pow two_ne_zero, add_zero, Real.sqrt_sq_eq_abs]

instance : EuclideanHypot ℝ where
  hypot_mul_self x y := by
    change Real.sqrt (x ^ 2 + y ^ 2) * Real.sqrt (x ^ 2 + y ^ 2) = x * x + y * y
    rw [Real.mul_self_sqrt (by positivity), sq, sq]

instance : RisingAtan ℝ where
  degrees_atan_nonneg slope nonneg := by
    have rising : 0 ≤ Real.arctan slope := Real.arctan_nonneg.mpr nonneg
    exact div_nonneg (mul_nonneg rising (by norm_num)) Real.pi_pos.le

/-- The quarter turns of an angle in degrees, `none` off the multiples of a right angle. -/
def quarterTurns (angle : ℚ) : Option ℤ :=
  if (angle / 90).den = 1 then some ((angle / 90).num % 4) else none

/-- The grid plane: lengths of vectors parallel to an axis and the trigonometry of right
angles are exact, and the unit of angle is the degree. -/
instance : Scalar ℚ where
  hypot x y := |x| + |y|
  radians := id
  degrees := id
  cos angle := match quarterTurns angle with
    | some 0 => 1
    | some 2 => -1
    | _ => 0
  sin angle := match quarterTurns angle with
    | some 1 => 1
    | some 3 => -1
    | _ => 0
  tan _ := 0
  atan slope := if slope = 0 then 0 else if 0 < slope then 45 else -45
  atan2 y x :=
    if y = 0 then (if 0 ≤ x then 0 else 180)
    else if x = 0 then (if 0 < y then 90 else -90)
    else if 0 < x then (if 0 < y then 45 else -45)
    else (if 0 < y then 135 else -135)

instance : LawfulHypot ℚ where
  hypot_nonneg x y := add_nonneg (abs_nonneg x) (abs_nonneg y)
  hypot_eq_zero x y := by
    have both := add_eq_zero_iff_of_nonneg (abs_nonneg x) (abs_nonneg y)
    rwa [abs_eq_zero, abs_eq_zero] at both

instance : MetricHypot ℚ where
  hypot_neg x y := by
    change |(-x)| + |(-y)| = |x| + |y|
    rw [abs_neg, abs_neg]
  hypot_add_le x y x' y' := by
    change |x + x'| + |y + y'| ≤ |x| + |y| + (|x'| + |y'|)
    have first := abs_add_le x x'
    have second := abs_add_le y y'
    linarith only [first, second]
  inner_le x y x' y' := by
    change |x * x' + y * y'| ≤ (|x| + |y|) * (|x'| + |y'|)
    have parts := abs_add_le (x * x') (y * y')
    rw [abs_mul, abs_mul] at parts
    have cross := mul_nonneg (abs_nonneg x) (abs_nonneg y')
    have cross' := mul_nonneg (abs_nonneg y) (abs_nonneg x')
    linarith only [parts, cross, cross']
  hypot_axis x := by
    change |x| + |(0 : ℚ)| = |x|
    rw [abs_zero, add_zero]

instance : RisingAtan ℚ where
  degrees_atan_nonneg slope nonneg := by
    change 0 ≤ (if slope = 0 then (0 : ℚ) else if 0 < slope then 45 else -45)
    split
    next => exact le_rfl
    next other =>
      rw [if_pos (lt_of_le_of_ne nonneg (Ne.symm other))]
      norm_num

example : pyMod (-10 : ℚ) 360 = 350 := by decide +kernel

end RcTaxi
