/-
This file is a library about fitting a straight line to points, as the least-squares problem with the
two coefficients slope and start. Through points that are not all at one place there is one such
line, and a closed form gives it. Its residuals sum to zero, and it is carried along when the values
are scaled and shifted.
-/

import RcTaxi.LeastSquares

namespace RcTaxi

namespace LeastSquares

variable {α : Type} [Field α]

/-- A point as an observation of a line. -/
def lineObservation (point : α × α) : Observation (Fin 2) α :=
  ⟨![point.1, 1], point.2⟩

theorem predicted_line (slope start : α) (point : α × α) :
    predicted ![slope, start] (lineObservation point).row = slope * point.1 + start := by
  rw [predicted, Fin.sum_univ_two]
  change point.1 * slope + 1 * start = _
  ring

theorem residual_line (slope start : α) (point : α × α) :
    residual ![slope, start] (lineObservation point) = slope * point.1 + start - point.2 := by
  rw [residual, predicted_line]
  rfl

/-- The normal equations of a line. -/
theorem normalEquations_line_iff {pts : List (α × α)} {slope start : α} :
    NormalEquations (pts.map lineObservation) ![slope, start] ↔
      (pts.map fun point => point.1 * (slope * point.1 + start - point.2)).sum = 0 ∧
        (pts.map fun point => slope * point.1 + start - point.2).sum = 0 := by
  refine Fin.forall_fin_two.trans (and_congr ?_ ?_)
  · rw [List.map_map]
    refine iff_of_eq (congrArg (· = 0) (congrArg List.sum (List.map_congr_left fun point _ => ?_)))
    exact congrArg (point.1 * ·) (residual_line _ _ point)
  · rw [List.map_map]
    refine iff_of_eq (congrArg (· = 0) (congrArg List.sum (List.map_congr_left fun point _ => ?_)))
    exact (one_mul _).trans (residual_line _ _ point)

/-- Scaled and shifted values have the scaled and shifted line. -/
theorem NormalEquations.scaled_line {pts : List (α × α)} {slope start : α}
    (normal : NormalEquations (pts.map lineObservation) ![slope, start]) (scale shift : α) :
    NormalEquations
      ((pts.map fun point => (point.1, scale * point.2 + shift)).map lineObservation)
      ![scale * slope, scale * start + shift] := by
  obtain ⟨weighted, plain⟩ := normalEquations_line_iff.mp normal
  refine normalEquations_line_iff.mpr ⟨?_, ?_⟩
  · rw [List.map_map, ← mul_zero scale, ← weighted, ← List.sum_map_mul_left]
    refine congrArg List.sum (List.map_congr_left fun point _ => ?_)
    dsimp only [Function.comp_apply]
    ring
  · rw [List.map_map, ← mul_zero scale, ← plain, ← List.sum_map_mul_left]
    refine congrArg List.sum (List.map_congr_left fun point _ => ?_)
    dsimp only [Function.comp_apply]
    ring

variable [LinearOrder α] [IsStrictOrderedRing α]

/-- Through points that are not all at one place there is one line with the least sum. -/
theorem Least.line_unique {pts : List (α × α)}
    (distinct : ∃ first ∈ pts, ∃ second ∈ pts, first.1 ≠ second.1) {line other : α × α}
    (least : Least (pts.map lineObservation) ![line.1, line.2])
    (least' : Least (pts.map lineObservation) ![other.1, other.2]) : line = other := by
  have equal : ∀ point ∈ pts, line.1 * point.1 + line.2 = other.1 * point.1 + other.2 := by
    intro point found
    have values := least.predicted_eq least' _ (List.mem_map_of_mem found)
    rwa [predicted_line, predicted_line] at values
  obtain ⟨first, member, second, member', apart⟩ := distinct
  have slopes : line.1 = other.1 := by
    have difference : (line.1 - other.1) * (first.1 - second.1) = 0 := by
      linear_combination equal first member - equal second member'
    exact sub_eq_zero.mp ((mul_eq_zero.mp difference).resolve_right (sub_ne_zero.mpr apart))
  have start := equal first member
  rw [slopes] at start
  exact Prod.ext slopes (add_left_cancel start)

/-- A method that finds the line with the least sum of squared residuals, through points that are
not all at one place. -/
def FitsLine (polyfit : List α → List α → α × α) : Prop :=
  ∀ pts : List (α × α), (∃ first ∈ pts, ∃ second ∈ pts, first.1 ≠ second.1) →
    Least (pts.map lineObservation)
      ![(polyfit (pts.map Prod.fst) (pts.map Prod.snd)).1,
        (polyfit (pts.map Prod.fst) (pts.map Prod.snd)).2]

/-! ### A closed form -/

/-- The least-squares line in closed form. -/
def leastLine (rows xs : List α) : α × α :=
  let n : α := rows.length
  let cross := (rows.zipWith (· * ·) xs).sum
  let slope := (n * cross - rows.sum * xs.sum) /
    (n * (rows.map (· ^ 2)).sum - rows.sum ^ 2)
  (slope, (xs.sum - slope * rows.sum) / n)

omit [LinearOrder α] [IsStrictOrderedRing α] in
/-- The sums of the normal equations of a line. -/
theorem sum_residuals (slope start : α) (pts : List (α × α)) :
    (pts.map fun point => slope * point.1 + start - point.2).sum =
        slope * (pts.map Prod.fst).sum + (pts.map Prod.fst).length * start -
          (pts.map Prod.snd).sum ∧
      (pts.map fun point => point.1 * (slope * point.1 + start - point.2)).sum =
        slope * ((pts.map Prod.fst).map (· ^ 2)).sum + (pts.map Prod.fst).sum * start -
          ((pts.map Prod.fst).zipWith (· * ·) (pts.map Prod.snd)).sum := by
  induction pts with
  | nil => simp only [List.map_nil, List.sum_nil, List.length_nil, List.zipWith_nil_right,
      Nat.cast_zero, mul_zero, zero_mul, add_zero, sub_zero, and_self]
  | cons point rest inductionHypothesis =>
    obtain ⟨plain, weighted⟩ := inductionHypothesis
    simp only [List.map_cons, List.sum_cons, List.length_cons, List.zipWith_cons_cons, plain,
      weighted]
    push_cast
    exact ⟨by ring, by ring⟩

/-- Rows that are not all the same are spread. -/
theorem spread_pos {rows : List α} {first second : α} (member : first ∈ rows)
    (member' : second ∈ rows) (apart : first ≠ second) :
    0 < rows.length * (rows.map (· ^ 2)).sum - rows.sum ^ 2 := by
  have some : (0 : α) < rows.length := Nat.cast_pos.mpr (List.length_pos_of_mem member)
  have centred : ∀ middle : α, (rows.map fun row => (row - middle) ^ 2).sum =
      (rows.map (· ^ 2)).sum - 2 * middle * rows.sum + rows.length * middle ^ 2 := by
    intro middle
    clear member member' some
    induction rows with
    | nil => simp only [List.map_nil, List.sum_nil, List.length_nil, Nat.cast_zero, mul_zero,
        zero_mul, add_zero, sub_zero]
    | cons row rest inductionHypothesis =>
      simp only [List.map_cons, List.sum_cons, List.length_cons, inductionHypothesis]
      push_cast
      ring
  have scaled : rows.length * (rows.map (· ^ 2)).sum - rows.sum ^ 2 =
      rows.length * (rows.map fun row => (row - rows.sum / rows.length) ^ 2).sum := by
    rw [centred]
    field_simp
    ring
  have nonneg : ∀ square ∈ rows.map fun row => (row - rows.sum / rows.length) ^ 2,
      0 ≤ square := by
    intro square found
    obtain ⟨_, _, rfl⟩ := List.mem_map.mp found
    exact sq_nonneg _
  rw [scaled]
  refine mul_pos some ?_
  by_cases off : first = rows.sum / rows.length
  · have away : second - rows.sum / rows.length ≠ 0 :=
      sub_ne_zero.mpr fun same => apart (off.trans same.symm)
    exact (sq_pos_of_ne_zero away).trans_le
      (List.single_le_sum nonneg _ (List.mem_map_of_mem member'))
  · exact (sq_pos_of_ne_zero (sub_ne_zero.mpr off)).trans_le
      (List.single_le_sum nonneg _ (List.mem_map_of_mem member))

/-- The line in closed form solves the two normal equations. -/
theorem leastLine_solves {n rowSum squareSum xSum crossSum slope start : α} (some : 0 < n)
    (spread : 0 < n * squareSum - rowSum ^ 2)
    (slopeIs : slope = (n * crossSum - rowSum * xSum) / (n * squareSum - rowSum ^ 2))
    (startIs : start = (xSum - slope * rowSum) / n) :
    slope * rowSum + n * start - xSum = 0 ∧
      slope * squareSum + rowSum * start - crossSum = 0 := by
  have offset : n * start = xSum - slope * rowSum := by
    rw [startIs, mul_div_cancel₀ _ some.ne']
  have tilt : slope * (n * squareSum - rowSum ^ 2) = n * crossSum - rowSum * xSum := by
    rw [slopeIs, div_mul_cancel₀ _ spread.ne']
  refine ⟨by linear_combination offset, ?_⟩
  have scaled : n * (slope * squareSum + rowSum * start - crossSum) = 0 := by
    linear_combination tilt + rowSum * offset
  exact (mul_eq_zero.mp scaled).resolve_left some.ne'

theorem fitsLine_leastLine : FitsLine (leastLine : List α → List α → α × α) := by
  rintro pts ⟨first, member, second, member', apart⟩
  have spread := spread_pos (List.mem_map_of_mem (f := Prod.fst) member)
    (List.mem_map_of_mem (f := Prod.fst) member') apart
  have some : (0 : α) < (pts.map Prod.fst).length :=
    Nat.cast_pos.mpr (List.length_pos_of_mem (List.mem_map_of_mem (f := Prod.fst) member))
  obtain ⟨constant, linear⟩ := leastLine_solves some spread
    (show (leastLine (pts.map Prod.fst) (pts.map Prod.snd)).1 = _ from rfl)
    (show (leastLine (pts.map Prod.fst) (pts.map Prod.snd)).2 = _ from rfl)
  obtain ⟨plain, weighted⟩ := sum_residuals
    (leastLine (pts.map Prod.fst) (pts.map Prod.snd)).1
    (leastLine (pts.map Prod.fst) (pts.map Prod.snd)).2 pts
  exact (normalEquations_line_iff.mpr ⟨weighted.trans linear, plain.trans constant⟩).least

end LeastSquares

end RcTaxi
