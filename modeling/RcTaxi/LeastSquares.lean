/-
This file is a library about fitting a linear function to observations. The coefficients satisfy the
normal equations if the residuals are orthogonal to every coordinate of the rows; then no other
coefficients have a smaller sum of squared residuals. Two choices of coefficients with the least sum
predict the same values at the observed rows.
-/

import Mathlib

namespace RcTaxi

namespace LeastSquares

/-- A row of coordinates, and the value that is observed at it. -/
structure Observation (Index α : Type) where
  row : Index → α
  value : α

variable {Index α : Type} [Fintype Index] [Field α]

/-- The value of the linear function at a row. -/
def predicted (coefficients row : Index → α) : α := ∑ index, row index * coefficients index

def residual (coefficients : Index → α) (observation : Observation Index α) : α :=
  predicted coefficients observation.row - observation.value

/-- The sum of the squared residuals. -/
def squares (observations : List (Observation Index α)) (coefficients : Index → α) : α :=
  (observations.map fun observation => residual coefficients observation ^ 2).sum

/-- The residuals are orthogonal to every coordinate of the rows. -/
def NormalEquations (observations : List (Observation Index α)) (coefficients : Index → α) : Prop :=
  ∀ index, (observations.map fun observation =>
    observation.row index * residual coefficients observation).sum = 0

/-! ### The normal matrix -/

/-- The matrix of the normal equations. -/
def gram (observations : List (Observation Index α)) (first second : Index) : α :=
  (observations.map fun observation => observation.row first * observation.row second).sum

/-- Their right hand side. -/
def moment (observations : List (Observation Index α)) (index : Index) : α :=
  (observations.map fun observation => observation.row index * observation.value).sum

theorem sum_gram_mul (observations : List (Observation Index α)) (vector : Index → α)
    (index : Index) :
    ∑ other, gram observations index other * vector other =
      (observations.map fun observation =>
        observation.row index * predicted vector observation.row).sum := by
  induction observations with
  | nil =>
    refine (Finset.sum_congr rfl fun other _ => ?_).trans Finset.sum_const_zero
    rw [gram, List.map_nil, List.sum_nil, zero_mul]
  | cons observation rest inductionHypothesis =>
    rw [List.map_cons, List.sum_cons, ← inductionHypothesis, predicted, Finset.mul_sum,
      ← Finset.sum_add_distrib]
    refine Finset.sum_congr rfl fun other _ => ?_
    rw [gram, List.map_cons, List.sum_cons, add_mul, mul_assoc]
    rfl

/-- The normal equations as a linear system. -/
theorem normalEquations_iff (observations : List (Observation Index α))
    (coefficients : Index → α) :
    NormalEquations observations coefficients ↔
      ∀ index, ∑ other, gram observations index other * coefficients other =
        moment observations index := by
  refine forall_congr' fun index => ?_
  have split : (observations.map fun observation =>
      observation.row index * residual coefficients observation).sum =
        ∑ other, gram observations index other * coefficients other -
          moment observations index := by
    rw [sum_gram_mul, moment]
    induction observations with
    | nil => exact (sub_zero _).symm
    | cons observation rest inductionHypothesis =>
      simp only [List.map_cons, List.sum_cons, inductionHypothesis]
      rw [residual]
      ring
  rw [split, sub_eq_zero]

/-! ### The least sum -/

theorem residual_add (coefficients other : Index → α) (observation : Observation Index α) :
    residual other observation =
      residual coefficients observation + predicted (other - coefficients) observation.row := by
  have difference : predicted (other - coefficients) observation.row =
      predicted other observation.row - predicted coefficients observation.row := by
    rw [predicted, predicted, predicted, ← Finset.sum_sub_distrib]
    exact Finset.sum_congr rfl fun index _ => mul_sub _ _ _
  rw [difference, residual, residual]
  ring

/-- Residuals that satisfy the normal equations are orthogonal to every linear function. -/
theorem NormalEquations.orthogonal {observations : List (Observation Index α)}
    {coefficients : Index → α} (normal : NormalEquations observations coefficients)
    (direction : Index → α) :
    (observations.map fun observation =>
      residual coefficients observation * predicted direction observation.row).sum = 0 := by
  have exchanged : (observations.map fun observation =>
      residual coefficients observation * predicted direction observation.row).sum =
        ∑ index, (observations.map fun observation =>
          observation.row index * residual coefficients observation).sum * direction index := by
    clear normal
    induction observations with
    | nil =>
      refine ((Finset.sum_congr rfl fun other _ => ?_).trans Finset.sum_const_zero).symm
      rw [List.map_nil, List.sum_nil, zero_mul]
    | cons observation rest inductionHypothesis =>
      rw [List.map_cons, List.sum_cons, inductionHypothesis, predicted, Finset.mul_sum,
        ← Finset.sum_add_distrib]
      refine Finset.sum_congr rfl fun index _ => ?_
      rw [List.map_cons, List.sum_cons]
      ring
  rw [exchanged]
  refine (Finset.sum_congr rfl fun index _ => ?_).trans Finset.sum_const_zero
  rw [normal index, zero_mul]

/-- The sum of squares of other coefficients, expanded around the given ones. -/
theorem squares_eq (observations : List (Observation Index α)) (coefficients other : Index → α) :
    squares observations other = squares observations coefficients +
      2 * (observations.map fun observation => residual coefficients observation *
        predicted (other - coefficients) observation.row).sum +
      (observations.map fun observation =>
        predicted (other - coefficients) observation.row ^ 2).sum := by
  unfold squares
  induction observations with
  | nil => simp only [List.map_nil, List.sum_nil, mul_zero, add_zero]
  | cons observation rest inductionHypothesis =>
    simp only [List.map_cons, List.sum_cons, inductionHypothesis]
    rw [residual_add coefficients other observation]
    ring

/-- Away from the normal equations the sum of squares grows by the squared change of the values. -/
theorem NormalEquations.squares_eq {observations : List (Observation Index α)}
    {coefficients : Index → α} (normal : NormalEquations observations coefficients)
    (other : Index → α) :
    squares observations other = squares observations coefficients +
      (observations.map fun observation =>
        predicted (other - coefficients) observation.row ^ 2).sum := by
  rw [LeastSquares.squares_eq observations coefficients, normal.orthogonal, mul_zero, add_zero]

theorem predicted_single [DecidableEq Index] (index : Index) (change : α) (row : Index → α) :
    predicted (Pi.single index change) row = row index * change := by
  refine (Finset.sum_eq_single index (fun other _ different => ?_) fun missing =>
    absurd (Finset.mem_univ index) missing).trans ?_
  · rw [Pi.single_eq_of_ne different, mul_zero]
  · rw [Pi.single_eq_same]

variable [LinearOrder α] [IsStrictOrderedRing α]

/-- No coefficients have a smaller sum of squared residuals. -/
def Least (observations : List (Observation Index α)) (coefficients : Index → α) : Prop :=
  ∀ other, squares observations coefficients ≤ squares observations other

theorem NormalEquations.least {observations : List (Observation Index α)}
    {coefficients : Index → α} (normal : NormalEquations observations coefficients) :
    Least observations coefficients := by
  intro other
  rw [normal.squares_eq other]
  refine le_add_of_nonneg_right (List.sum_nonneg fun square member => ?_)
  obtain ⟨observation, _, rfl⟩ := List.mem_map.mp member
  exact sq_nonneg _

/-- A parabola through zero that is nowhere negative has no slope there. -/
theorem slope_eq_zero {slope curvature : α} (curved : 0 ≤ curvature)
    (nonneg : ∀ change, 0 ≤ 2 * (slope * change) + curvature * change ^ 2) : slope = 0 := by
  have positive : 0 < curvature + 1 := by linarith only [curved]
  have scaled : slope = slope / (curvature + 1) * (curvature + 1) :=
    (div_mul_cancel₀ slope positive.ne').symm
  generalize slope / (curvature + 1) = share at scaled
  have back := nonneg (-share)
  rw [scaled] at back
  have small : share ^ 2 * (curvature + 2) ≤ 0 := by linarith only [back]
  have zero : share ^ 2 ≤ 0 :=
    nonpos_of_mul_nonpos_left small (by linarith only [curved])
  rw [scaled, (pow_eq_zero_iff two_ne_zero).mp (le_antisymm zero (sq_nonneg share)), zero_mul]

/-- The least sum is found at the solutions of the normal equations only. -/
theorem Least.normalEquations {observations : List (Observation Index α)}
    {coefficients : Index → α} (least : Least observations coefficients) :
    NormalEquations observations coefficients := by
  classical
  intro index
  have curved : 0 ≤ (observations.map fun observation => observation.row index ^ 2).sum := by
    refine List.sum_nonneg fun square member => ?_
    obtain ⟨observation, _, rfl⟩ := List.mem_map.mp member
    exact sq_nonneg _
  refine slope_eq_zero curved fun change => ?_
  have cross : (observations.map fun observation => residual coefficients observation *
      predicted (Pi.single index change) observation.row).sum =
        (observations.map fun observation =>
          observation.row index * residual coefficients observation).sum * change := by
    rw [← List.sum_map_mul_right]
    refine congrArg List.sum (List.map_congr_left fun observation _ => ?_)
    rw [predicted_single]
    ring
  have square : (observations.map fun observation =>
      predicted (Pi.single index change) observation.row ^ 2).sum =
        (observations.map fun observation => observation.row index ^ 2).sum * change ^ 2 := by
    rw [← List.sum_map_mul_right]
    refine congrArg List.sum (List.map_congr_left fun observation _ => ?_)
    rw [predicted_single, mul_pow]
  have grows := least (coefficients + Pi.single index change)
  rw [squares_eq observations coefficients (coefficients + _), add_sub_cancel_left, cross,
    square] at grows
  linarith only [grows]

/-- Two choices of coefficients with the least sum predict the same values. -/
theorem Least.predicted_eq {observations : List (Observation Index α)} {first second : Index → α}
    (least : Least observations first) (least' : Least observations second) :
    ∀ observation ∈ observations,
      predicted first observation.row = predicted second observation.row := by
  have grows := least.normalEquations.squares_eq second
  have below := least' first
  have nothing : (observations.map fun observation =>
      predicted (second - first) observation.row ^ 2).sum ≤ 0 := by
    linarith only [grows, below]
  intro observation member
  have square := (List.single_le_sum (fun square found => by
      obtain ⟨_, _, rfl⟩ := List.mem_map.mp found
      exact sq_nonneg _) _ (List.mem_map_of_mem member)).trans nothing
  have zero := (pow_eq_zero_iff two_ne_zero).mp (le_antisymm square (sq_nonneg _))
  have same := residual_add first second observation
  rw [zero, add_zero, residual, residual] at same
  exact (sub_left_inj.mp same).symm

end LeastSquares

end RcTaxi
