/-
This file is a small library about running over candidates and keeping the best one. A candidate
replaces the best one only when its key is strictly smaller, so the first of several candidates with
the smallest key is kept. In the second form a candidate may be missing.
-/

import Mathlib

namespace RcTaxi

namespace FirstBest

variable {Item Key : Type} [LinearOrder Key] (key : Item → Key)

/-- The candidate found, if it is strictly better than the best one so far. -/
def keep (best found : Item) : Item := if key found < key best then found else best

theorem keep_eq_or (best found : Item) :
    keep key best found = best ∨ keep key best found = found := by
  unfold keep
  split
  · exact Or.inr rfl
  · exact Or.inl rfl

theorem keep_le_best (best found : Item) : key (keep key best found) ≤ key best := by
  unfold keep
  split
  next better => exact better.le
  next => exact le_refl _

theorem keep_le_found (best found : Item) : key (keep key best found) ≤ key found := by
  unfold keep
  split
  next => exact le_refl _
  next worse => exact not_lt.mp worse

/-- The candidate that is kept is the first one or one of the others. -/
theorem foldl_keep_mem (first : Item) (rest : List Item) :
    rest.foldl (keep key) first ∈ first :: rest := by
  induction rest generalizing first with
  | nil => exact List.mem_cons_self
  | cons next rest inductionHypothesis =>
    rw [List.foldl_cons]
    rcases List.mem_cons.mp (inductionHypothesis (keep key first next)) with kept | member
    · rw [kept]
      rcases keep_eq_or key first next with same | same
      · rw [same]
        exact List.mem_cons_self
      · rw [same]
        exact List.mem_cons_of_mem _ List.mem_cons_self
    · exact List.mem_cons_of_mem _ (List.mem_cons_of_mem _ member)

/-- No candidate is better than the one that is kept. -/
theorem foldl_keep_le (first : Item) (rest : List Item) :
    ∀ item ∈ first :: rest, key (rest.foldl (keep key) first) ≤ key item := by
  induction rest generalizing first with
  | nil =>
    intro item member
    rw [List.mem_singleton.mp member, List.foldl_nil]
  | cons next rest inductionHypothesis =>
    intro item member
    rw [List.foldl_cons]
    have least := inductionHypothesis (keep key first next)
    have kept := least _ List.mem_cons_self
    rcases List.mem_cons.mp member with rfl | later
    · exact kept.trans (keep_le_best key item next)
    · rcases List.mem_cons.mp later with rfl | behind
      · exact kept.trans (keep_le_found key first item)
      · exact least item (List.mem_cons_of_mem _ behind)

/-! ### Missing candidates -/

/-- The better one of two candidates that may be missing. -/
def keepSome : Option Item → Option Item → Option Item
  | none, found => found
  | some best, none => some best
  | some best, some found => some (keep key best found)

theorem foldl_keepSome_some (best : Item) (items : List (Option Item)) :
    items.foldl (keepSome key) (some best) = some (items.reduceOption.foldl (keep key) best) := by
  induction items generalizing best with
  | nil => rfl
  | cons item rest inductionHypothesis =>
    rw [List.foldl_cons]
    cases item with
    | none =>
      rw [List.reduceOption_cons_of_none]
      exact inductionHypothesis best
    | some found =>
      rw [List.reduceOption_cons_of_some, List.foldl_cons]
      exact inductionHypothesis (keep key best found)

/-- Nothing is kept iff every candidate is missing. -/
theorem foldl_keepSome_eq_none_iff (items : List (Option Item)) :
    items.foldl (keepSome key) none = none ↔ ∀ item, some item ∉ items := by
  induction items with
  | nil => exact ⟨fun _ _ => List.not_mem_nil, fun _ => rfl⟩
  | cons item rest inductionHypothesis =>
    rw [List.foldl_cons]
    cases item with
    | none =>
      refine inductionHypothesis.trans (forall_congr' fun item => not_congr ?_)
      exact ⟨List.mem_cons_of_mem _, fun member => by
        rcases List.mem_cons.mp member with absent | inRest
        · cases absent
        · exact inRest⟩
    | some found =>
      have kept : rest.foldl (keepSome key) (keepSome key none (some found)) =
          some (rest.reduceOption.foldl (keep key) found) := foldl_keepSome_some key found rest
      rw [kept]
      exact ⟨(nomatch ·), fun absent => absurd List.mem_cons_self (absent found)⟩

/-- What is kept is a candidate, and no candidate is better. -/
theorem foldl_keepSome_spec {items : List (Option Item)} {kept : Item}
    (run : items.foldl (keepSome key) none = some kept) :
    some kept ∈ items ∧ ∀ item, some item ∈ items → key kept ≤ key item := by
  induction items with
  | nil => cases run
  | cons item rest inductionHypothesis =>
    rw [List.foldl_cons] at run
    cases item with
    | none =>
      obtain ⟨member, least⟩ := inductionHypothesis run
      refine ⟨List.mem_cons_of_mem _ member, fun item present => ?_⟩
      rcases List.mem_cons.mp present with absent | inRest
      · cases absent
      · exact least item inRest
    | some found =>
      have folded : some (rest.reduceOption.foldl (keep key) found) = some kept :=
        (foldl_keepSome_some key found rest).symm.trans run
      cases folded
      have present : ∀ item,
          some item ∈ some found :: rest ↔ item ∈ found :: rest.reduceOption := by
        intro item
        rw [← List.reduceOption_cons_of_some, List.reduceOption_mem_iff]
      refine ⟨(present _).mpr (foldl_keep_mem key found _), fun item member => ?_⟩
      exact foldl_keep_le key found _ item ((present item).mp member)

end FirstBest

end RcTaxi
