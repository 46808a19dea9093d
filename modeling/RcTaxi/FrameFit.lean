/-
This file models `_solve3` and `_fit_axis` of `tools/fit_frame_transform.py`: the affine map from
server to map coordinates is fitted one axis at a time, by adding up the normal equations and
solving them by elimination. A pivot of almost nothing raises an exception.

Every fit that returns is the least-squares fit, because its normal equations have one solution and
that is what the elimination finds. Points on a line leave the normal matrix with a kernel, and the
elimination without a pivot.
-/

import RcTaxi.FirstBest
import RcTaxi.GaussJordan
import RcTaxi.Geometry
import RcTaxi.LeastSquares
import RcTaxi.Transition

namespace RcTaxi

namespace FrameFit

open GaussJordan LeastSquares

variable {α : Type} [Scalar α]

/-! ### The two functions -/

/-- The absolute value below which a pivot counts as none. -/
def pivotThreshold : α := 1 / 10 ^ 12

/-- `max(range(col, 3), key=lambda r: abs(m[r][col]))`. -/
def pivotRow (m : Augmented 3 α) (col : Fin 3) : Fin 3 :=
  ((List.finRange 3).filter (col < ·)).foldl (FirstBest.keep fun r => -|m r col.castSucc|) col

/-- The pivot of a column. -/
def pivot (m : Augmented 3 α) (col : Fin 3) : α := m (pivotRow m col) col.castSucc

/-- A round of the elimination behind its check. -/
def eliminate (m : Augmented 3 α) (col : Fin 3) : Augmented 3 α :=
  clearColumn (swapRows m col (pivotRow m col)) col

/-- A round of the elimination. -/
def eliminateChecked (m : Augmented 3 α) (col : Fin 3) : Except PyError (Augmented 3 α) :=
  if |pivot m col| < pivotThreshold then .error .valueError else .ok (eliminate m col)

/-- `_solve3`. -/
def solve3 (mat : Fin 3 → Fin 3 → α) (vec : Fin 3 → α) : Except PyError (Fin 3 → α) := do
  let m ← (List.finRange 3).foldlM eliminateChecked (augment mat vec)
  pure (readOff m)

/-- The row of a point. -/
def affineRow (point : Point α) : Fin 3 → α := ![point.1, point.2, 1]

/-- A round of the loop that adds up the normal equations. -/
def accumulate (sums : (Fin 3 → Fin 3 → α) × (Fin 3 → α)) (pair : Point α × α) :
    (Fin 3 → Fin 3 → α) × (Fin 3 → α) :=
  let row := affineRow pair.1
  (fun i j => sums.1 i j + row i * row j, fun i => sums.2 i + row i * pair.2)

/-- `_fit_axis`. -/
def fitAxis (sPts : List (Point α)) (targets : List α) : Except PyError (Fin 3 → α) :=
  let sums := (sPts.zip targets).foldl accumulate (fun _ _ => 0, fun _ => 0)
  solve3 sums.1 sums.2

/-! ### The elimination -/

/-- The pivots of the three rounds are not below the threshold. -/
def PivotsAbove (m : Augmented 3 α) : Prop :=
  Transition.Along eliminate (fun m col => pivotThreshold ≤ |pivot m col|) m (List.finRange 3)

instance decidablePivotsAbove (m : Augmented 3 α) : Decidable (PivotsAbove m) :=
  inferInstanceAs (Decidable (Transition.Along eliminate _ m (List.finRange 3)))

theorem foldlM_eliminateChecked (m : Augmented 3 α) (cols : List (Fin 3)) :
    cols.foldlM eliminateChecked m =
      if Transition.Along eliminate (fun m col => pivotThreshold ≤ |pivot m col|) m cols then
        .ok (Transition.run eliminate m cols)
      else .error .valueError := by
  induction cols generalizing m with
  | nil => exact (if_pos trivial).symm
  | cons col cols inductionHypothesis =>
    rw [List.foldlM_cons, eliminateChecked]
    by_cases above : pivotThreshold ≤ |pivot m col|
    · rw [if_neg (not_lt.mpr above)]
      refine (inductionHypothesis (eliminate m col)).trans ?_
      exact if_congr (and_iff_right above).symm rfl rfl
    · rw [if_pos (not_le.mp above), if_neg fun along => above along.1]
      rfl

theorem solve3_eq (mat : Fin 3 → Fin 3 → α) (vec : Fin 3 → α) :
    solve3 mat vec =
      if PivotsAbove (augment mat vec) then
        .ok (readOff (Transition.run eliminate (augment mat vec) (List.finRange 3)))
      else .error .valueError := by
  rw [solve3, foldlM_eliminateChecked]
  split
  next above => exact (if_pos above).symm
  next below => exact (if_neg below).symm

theorem le_pivotRow (m : Augmented 3 α) (col : Fin 3) : col ≤ pivotRow m col := by
  rcases List.mem_cons.mp (FirstBest.foldl_keep_mem (fun r => -|m r col.castSucc|) col
    ((List.finRange 3).filter (col < ·))) with same | later
  · exact le_of_eq same.symm
  · exact (of_decide_eq_true (List.mem_filter.mp later).2).le

/-- A round with a pivot clears its column. -/
theorem cleared_eliminate {m : Augmented 3 α} (col : Fin 3) (cleared : Cleared m col)
    (above : pivotThreshold ≤ |pivot m col|) : Cleared (eliminate m col) (col + 1) := by
  refine (cleared.swapRows (le_pivotRow m col)).clearColumn ?_
  have positive : (0 : α) < pivotThreshold := by
    unfold pivotThreshold
    positivity
  rw [swapRows, Equiv.swap_apply_left]
  exact abs_pos.mp (positive.trans_le above)

/-- And it keeps what the rows annihilate. -/
theorem annihilates_eliminate {m : Augmented 3 α} (col : Fin 3) (cleared : Cleared m col)
    (vector : Fin 4 → α) : Annihilates (eliminate m col) vector ↔ Annihilates m vector :=
  (annihilates_clearColumn (cleared.swapRows (le_pivotRow m col)) vector).trans
    (annihilates_swapRows m col _ vector)

/-- Three rounds with pivots make the system diagonal, and keep what its rows annihilate. -/
theorem cleared_run {m : Augmented 3 α} (above : PivotsAbove m) :
    Cleared (Transition.run eliminate m (List.finRange 3)) 3 ∧
      ∀ vector, Annihilates (Transition.run eliminate m (List.finRange 3)) vector ↔
        Annihilates m vector := by
  obtain ⟨above0, above1, above2, _⟩ := above
  have cleared0 : Cleared m (0 : Fin 3) := Cleared.zero m
  have cleared1 := cleared_eliminate 0 cleared0 above0
  have cleared2 := cleared_eliminate 1 cleared1 above1
  refine ⟨cleared_eliminate 2 cleared2 above2, fun vector => ?_⟩
  exact ((annihilates_eliminate 2 cleared2 vector).trans
    (annihilates_eliminate 1 cleared1 vector)).trans (annihilates_eliminate 0 cleared0 vector)

/-- A system with pivots has what is read off as its only solution, scaled with its right hand
side. -/
theorem solution_iff {mat : Fin 3 → Fin 3 → α} {vec : Fin 3 → α}
    (above : PivotsAbove (augment mat vec)) (vector : Fin 3 → α) (scale : α) :
    (∀ row, ∑ entry, mat row entry * vector entry = vec row * scale) ↔
      ∀ row, vector row =
        readOff (Transition.run eliminate (augment mat vec) (List.finRange 3)) row * scale := by
  obtain ⟨cleared, same⟩ := cleared_run above
  exact (annihilates_augment mat vec vector scale).symm.trans
    ((same _).symm.trans (cleared.annihilates_iff vector scale))

/-! ### The fit -/

/-- The value of an affine function at a point. -/
def affine (coefficients : Fin 3 → α) (point : Point α) : α :=
  coefficients 0 * point.1 + coefficients 1 * point.2 + coefficients 2

/-- The pairs as observations of an affine function. -/
def observations (pairs : List (Point α × α)) : List (Observation (Fin 3) α) :=
  pairs.map fun pair => ⟨affineRow pair.1, pair.2⟩

/-- The points lie on a line. -/
def Collinear (points : List (Point α)) : Prop :=
  ∃ a b c : α, (a ≠ 0 ∨ b ≠ 0) ∧ ∀ point ∈ points, a * point.1 + b * point.2 + c = 0

/-- The system of the normal equations of the pairs. -/
def normalSystem (pairs : List (Point α × α)) : Augmented 3 α :=
  augment (gram (observations pairs)) (moment (observations pairs))

theorem predicted_affineRow (coefficients : Fin 3 → α) (point : Point α) :
    predicted coefficients (affineRow point) = affine coefficients point := by
  rw [predicted, Fin.sum_univ_three, affine]
  change point.1 * coefficients 0 + point.2 * coefficients 1 + 1 * coefficients 2 = _
  ring

/-- The loop adds up the normal matrix and its right hand side. -/
theorem foldl_accumulate (pairs : List (Point α × α))
    (sums : (Fin 3 → Fin 3 → α) × (Fin 3 → α)) :
    pairs.foldl accumulate sums =
      (fun i j => sums.1 i j + gram (observations pairs) i j,
        fun i => sums.2 i + moment (observations pairs) i) := by
  induction pairs generalizing sums with
  | nil =>
    refine Prod.ext (funext fun i => funext fun j => ?_) (funext fun i => ?_)
    · exact (add_zero _).symm
    · exact (add_zero _).symm
  | cons pair rest inductionHypothesis =>
    rw [List.foldl_cons, inductionHypothesis]
    refine Prod.ext (funext fun i => funext fun j => ?_) (funext fun i => ?_)
    · exact add_assoc _ _ _
    · exact add_assoc _ _ _

theorem fitAxis_eq (pairs : List (Point α × α)) :
    fitAxis (pairs.map Prod.fst) (pairs.map Prod.snd) =
      solve3 (gram (observations pairs)) (moment (observations pairs)) := by
  have zipped : (pairs.map Prod.fst).zip (pairs.map Prod.snd) = pairs := by
    rw [List.zip_map', List.map_id']
  rw [fitAxis, zipped, foldl_accumulate]
  simp only [zero_add]

/-- With pivots, the fit is the only solution of the normal equations. -/
theorem normalEquations_iff_eq {pairs : List (Point α × α)}
    (above : PivotsAbove (normalSystem pairs)) (coefficients : Fin 3 → α) :
    NormalEquations (observations pairs) coefficients ↔ coefficients =
      readOff (Transition.run eliminate (normalSystem pairs) (List.finRange 3)) := by
  have solution := solution_iff above coefficients 1
  simp only [mul_one] at solution
  exact (normalEquations_iff _ _).trans (solution.trans funext_iff.symm)

/-- Points on a line leave some pivot below the threshold. -/
theorem Collinear.not_pivotsAbove {pairs : List (Point α × α)}
    (collinear : Collinear (pairs.map Prod.fst)) : ¬ PivotsAbove (normalSystem pairs) := by
  intro above
  obtain ⟨a, b, c, slanted, onLine⟩ := collinear
  have kernel : ∀ row, ∑ entry, gram (observations pairs) row entry * ![a, b, c] entry =
      moment (observations pairs) row * 0 := by
    intro row
    rw [sum_gram_mul, mul_zero]
    refine List.sum_eq_zero fun product member => ?_
    obtain ⟨observation, found, rfl⟩ := List.mem_map.mp member
    obtain ⟨pair, among, rfl⟩ := List.mem_map.mp found
    have zero : predicted ![a, b, c] (affineRow pair.1) = 0 := by
      rw [predicted_affineRow]
      exact onLine pair.1 (List.mem_map_of_mem among)
    rw [zero, mul_zero]
  have vanishes := (solution_iff above ![a, b, c] 0).mp kernel
  simp only [mul_zero] at vanishes
  exact slanted.elim (fun nonzero => nonzero (vanishes 0)) fun nonzero => nonzero (vanishes 1)

/-- The fit of an axis satisfies the normal equations and has the least sum of squared residuals of
all affine functions; with pivots that are not below the threshold, targets that are affine in the
points give that affine function back; and points on a line raise. -/
theorem fitAxis_least (pairs : List (Point α × α)) :
    (∀ coefficients,
      fitAxis (pairs.map Prod.fst) (pairs.map Prod.snd) = .ok coefficients →
      NormalEquations (observations pairs) coefficients ∧
        Least (observations pairs) coefficients) ∧
    (∀ coefficients, (∀ pair ∈ pairs, pair.2 = affine coefficients pair.1) →
      PivotsAbove (normalSystem pairs) →
      fitAxis (pairs.map Prod.fst) (pairs.map Prod.snd) = .ok coefficients) ∧
    (Collinear (pairs.map Prod.fst) →
      fitAxis (pairs.map Prod.fst) (pairs.map Prod.snd) = .error .valueError) := by
  rw [fitAxis_eq, solve3_eq]
  refine ⟨fun coefficients fitted => ?_, fun coefficients targets above => ?_,
    fun collinear => if_neg collinear.not_pivotsAbove⟩
  · split at fitted
    next above =>
      have normal := (normalEquations_iff_eq above coefficients).mpr (Except.ok.inj fitted).symm
      exact ⟨normal, normal.least⟩
    next => cases fitted
  · have normal : NormalEquations (observations pairs) coefficients := by
      refine fun index => List.sum_eq_zero fun product member => ?_
      obtain ⟨observation, found, rfl⟩ := List.mem_map.mp member
      obtain ⟨pair, among, rfl⟩ := List.mem_map.mp found
      rw [LeastSquares.residual, predicted_affineRow, targets pair among, sub_self, mul_zero]
    rw [(normalEquations_iff_eq above coefficients).mp normal]
    exact if_pos above

/-- Four corners whose targets are affine, and three points on the diagonal. -/
theorem fitAxis_least_corners :
    let pairs : List (Point ℚ × ℚ) := [((0, 0), 1), ((2, 0), 5), ((0, 1), 4), ((2, 1), 8)]
    (NormalEquations (observations pairs) ![2, 3, 1] ∧ Least (observations pairs) ![2, 3, 1]) ∧
    fitAxis (pairs.map Prod.fst) (pairs.map Prod.snd) = .ok ![2, 3, 1] ∧
    fitAxis [(0, 0), (1, 1), (2, (2 : ℚ))] [3, 1, 2] = .error .valueError := by
  intro pairs
  obtain ⟨normal, recovers, _⟩ := fitAxis_least pairs
  have recovered := recovers ![2, 3, 1] (by decide +kernel) (by decide +kernel)
  exact ⟨normal _ recovered, recovered,
    (fitAxis_least [((0, 0), 3), ((1, 1), 1), ((2, 2), (2 : ℚ))]).2.2
      ⟨1, -1, 0, .inl one_ne_zero, by decide +kernel⟩⟩

end FrameFit

end RcTaxi
