/-
This file is a library about Gauss-Jordan elimination on the augmented matrix of a square linear
system. A step brings some row to the place of the column and subtracts multiples of it from all
the others, from that column on to the right. Neither changes which vectors the rows annihilate: the
solutions of the system are the annihilated vectors with `-1` in the last place, and the kernel of
the matrix are those with `0` there.

Once every column is cleared, the matrix is diagonal and the solution can be read off.
-/

import Mathlib

namespace RcTaxi

namespace GaussJordan

variable {n : ℕ} {α : Type}

/-- The rows of a square system, with the right hand side in the last column. -/
abbrev Augmented (n : ℕ) (α : Type) := Fin n → Fin (n + 1) → α

/-- The system of a matrix and a right hand side. -/
def augment (matrix : Fin n → Fin n → α) (vector : Fin n → α) : Augmented n α :=
  fun row => Fin.snoc (matrix row) (vector row)

/-- Exchange two rows. -/
def swapRows (m : Augmented n α) (first second : Fin n) : Augmented n α :=
  fun row => m (Equiv.swap first second row)

variable [Field α]

/-- Subtract multiples of the column's row from the others, from the column on. -/
def clearColumn (m : Augmented n α) (column : Fin n) : Augmented n α :=
  fun row entry =>
    if row = column then m row entry
    else if column.castSucc ≤ entry then
      m row entry - m row column.castSucc / m column column.castSucc * m column entry
    else m row entry

/-- Every row is orthogonal to the vector. -/
def Annihilates (m : Augmented n α) (vector : Fin (n + 1) → α) : Prop :=
  ∀ row, ∑ entry, m row entry * vector entry = 0

/-- The columns in front of the given one are those of a diagonal matrix. -/
structure Cleared (m : Augmented n α) (count : ℕ) : Prop where
  diagonal : ∀ column : Fin n, column < count → m column column.castSucc ≠ 0
  others : ∀ row column : Fin n, column < count → row ≠ column → m row column.castSucc = 0

theorem Cleared.zero (m : Augmented n α) : Cleared m 0 :=
  ⟨fun _ none => absurd none (Nat.not_lt_zero _), fun _ _ none => absurd none (Nat.not_lt_zero _)⟩

/-! ### The two operations -/

theorem annihilates_swapRows (m : Augmented n α) (first second : Fin n)
    (vector : Fin (n + 1) → α) :
    Annihilates (swapRows m first second) vector ↔ Annihilates m vector :=
  (Equiv.swap first second).forall_congr fun _ => Iff.rfl

/-- Exchanging rows that are not cleared yet leaves the cleared columns as they are. -/
theorem Cleared.swapRows {m : Augmented n α} {column other : Fin n} (cleared : Cleared m column)
    (below : column ≤ other) : Cleared (swapRows m column other) column := by
  have fixed : ∀ done : Fin n, done < column → Equiv.swap column other done = done :=
    fun done before => Equiv.swap_apply_of_ne_of_ne before.ne (before.trans_le below).ne
  refine ⟨fun done before => ?_, fun row done before different => ?_⟩
  · rw [GaussJordan.swapRows, fixed done before]
    exact cleared.diagonal done before
  · refine cleared.others _ done before fun same => different ?_
    rw [← fixed done before] at same
    exact (Equiv.swap column other).injective same

/-- The row of the column is zero to the left of it, so a row is changed as a whole. -/
theorem clearColumn_apply {m : Augmented n α} {column : Fin n} (cleared : Cleared m column)
    {row : Fin n} (other : row ≠ column) (entry : Fin (n + 1)) :
    clearColumn m column row entry =
      m row entry - m row column.castSucc / m column column.castSucc * m column entry := by
  rw [clearColumn, if_neg other]
  split
  next => rfl
  next left =>
    have before : entry < column.castSucc := not_le.mp left
    have small : entry.val < n := (Fin.lt_def.mp before).trans column.isLt
    have zero : m column entry = 0 :=
      cleared.others column ⟨entry.val, small⟩ before fun same => before.ne (by rw [same]; rfl)
    rw [zero, mul_zero, sub_zero]

theorem annihilates_clearColumn {m : Augmented n α} {column : Fin n} (cleared : Cleared m column)
    (vector : Fin (n + 1) → α) :
    Annihilates (clearColumn m column) vector ↔ Annihilates m vector := by
  have same : ∀ entry, clearColumn m column column entry = m column entry :=
    fun entry => if_pos rfl
  have combined : ∀ row ≠ column, ∑ entry, clearColumn m column row entry * vector entry =
      ∑ entry, m row entry * vector entry -
        m row column.castSucc / m column column.castSucc *
          ∑ entry, m column entry * vector entry := by
    intro row other
    rw [Finset.mul_sum, ← Finset.sum_sub_distrib]
    refine Finset.sum_congr rfl fun entry _ => ?_
    rw [clearColumn_apply cleared other, sub_mul, mul_assoc]
  constructor
  · intro annihilates row
    have pivot : ∑ entry, m column entry * vector entry = 0 := by
      rw [← annihilates column]
      exact Finset.sum_congr rfl fun entry _ => by rw [same]
    by_cases this : row = column
    · rw [this, pivot]
    · have reduced := annihilates row
      rwa [combined row this, pivot, mul_zero, sub_zero] at reduced
  · intro annihilates row
    by_cases this : row = column
    · rw [this, ← annihilates column]
      exact Finset.sum_congr rfl fun entry _ => by rw [same]
    · rw [combined row this, annihilates row, annihilates column, mul_zero, sub_zero]

/-- With a pivot that is not zero, one more column is cleared. -/
theorem Cleared.clearColumn {m : Augmented n α} {column : Fin n} (cleared : Cleared m column)
    (pivot : m column column.castSucc ≠ 0) :
    Cleared (clearColumn m column) (column + 1) := by
  refine ⟨fun done before => ?_, fun row done before different => ?_⟩
  · by_cases same : done = column
    · rw [same, GaussJordan.clearColumn, if_pos rfl]
      exact pivot
    · have earlier : done < column := lt_of_le_of_ne (Nat.lt_succ_iff.mp before) same
      have zero : m column done.castSucc = 0 := cleared.others column done earlier (Ne.symm same)
      rw [clearColumn_apply cleared same, zero, mul_zero, sub_zero]
      exact cleared.diagonal done earlier
  · by_cases same : done = column
    · subst same
      rw [clearColumn_apply cleared different, div_mul_cancel₀ _ pivot, sub_self]
    · have earlier : done < column := lt_of_le_of_ne (Nat.lt_succ_iff.mp before) same
      have zero : m column done.castSucc = 0 := cleared.others column done earlier (Ne.symm same)
      by_cases own : row = column
      · rw [own, GaussJordan.clearColumn, if_pos rfl]
        exact zero
      · rw [clearColumn_apply cleared own, zero, mul_zero, sub_zero]
        exact cleared.others row done earlier different

/-! ### Systems -/

/-- The solution of a diagonal system. -/
def readOff (m : Augmented n α) (row : Fin n) : α := m row (Fin.last n) / m row row.castSucc

/-- In a matrix that is cleared, a vector is annihilated exactly if its entries are what is read
off, up to its last entry. -/
theorem Cleared.annihilates_iff {m : Augmented n α} (cleared : Cleared m n)
    (vector : Fin n → α) (last : α) :
    Annihilates m (Fin.snoc vector (-last)) ↔ ∀ row, vector row = readOff m row * last := by
  refine forall_congr' fun row => ?_
  have diagonal := cleared.diagonal row row.isLt
  have reduced : ∑ entry : Fin n, m row entry.castSucc * vector entry =
      m row row.castSucc * vector row := by
    refine Finset.sum_eq_single row (fun other _ different => ?_)
      fun missing => absurd (Finset.mem_univ row) missing
    rw [cleared.others row other other.isLt (Ne.symm different), zero_mul]
  rw [Fin.sum_univ_castSucc]
  simp only [Fin.snoc_castSucc, Fin.snoc_last]
  rw [reduced, mul_neg, ← sub_eq_add_neg, sub_eq_zero, readOff, div_mul_eq_mul_div,
    eq_div_iff diagonal, mul_comm (vector row)]

/-- A vector solves the system exactly if the augmented rows annihilate it. -/
theorem annihilates_augment (matrix : Fin n → Fin n → α) (right vector : Fin n → α) (last : α) :
    Annihilates (augment matrix right) (Fin.snoc vector (-last)) ↔
      ∀ row, ∑ entry, matrix row entry * vector entry = right row * last := by
  refine forall_congr' fun row => ?_
  rw [Fin.sum_univ_castSucc]
  simp only [augment, Fin.snoc_castSucc, Fin.snoc_last]
  rw [mul_neg, ← sub_eq_add_neg, sub_eq_zero]

end GaussJordan

end RcTaxi
