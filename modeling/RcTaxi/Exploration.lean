/-
This file is a library about exploring a graph with a stack. A vertex is popped, its
unseen neighbours are marked and pushed, and the marked vertices are returned when
the stack is empty. On a graph whose neighbours stay in a finite universe the
exploration ends after as many rounds as the universe has vertices, and marks
exactly the vertices that can be reached.

The neighbour function may raise; `unfinished` is returned when the bound on the
rounds is used up.
-/

import Mathlib.Data.Finset.Card
import Mathlib.Logic.Relation
import Mathlib.Tactic.Linarith

namespace RcTaxi

namespace Exploration

variable {Vertex Error : Type} [DecidableEq Vertex]

/-- Mark and push a neighbour unless it is marked already. -/
def visit (state : Finset Vertex × List Vertex) (neighbour : Vertex) :
    Finset Vertex × List Vertex :=
  if neighbour ∈ state.1 then state
  else (insert neighbour state.1, neighbour :: state.2)

/-- The exploration from a set of marked vertices and a stack. -/
def explore (unfinished : Error) (next : Vertex → Except Error (List Vertex)) :
    ℕ → Finset Vertex → List Vertex → Except Error (Finset Vertex)
  | _, seen, [] => .ok seen
  | 0, _, _ :: _ => .error unfinished
  | rounds + 1, seen, top :: stack =>
    match next top with
    | .error error => .error error
    | .ok neighbours =>
      let (seen', stack') := neighbours.foldl visit (seen, stack)
      explore unfinished next rounds seen' stack'

/-- Every pushed vertex is marked, and every marked vertex off the stack has its neighbours
marked. -/
structure Frontier (next : Vertex → List Vertex) (seen : Finset Vertex) (stack : List Vertex) :
    Prop where
  marked : ∀ vertex ∈ stack, vertex ∈ seen
  closed : ∀ vertex ∈ seen, vertex ∉ stack → ∀ neighbour ∈ next vertex, neighbour ∈ seen

/-! ### One round -/

theorem visit_marks (state : Finset Vertex × List Vertex) (neighbour : Vertex) :
    neighbour ∈ (visit state neighbour).1 := by
  unfold visit
  split
  · assumption
  · exact Finset.mem_insert_self _ _

theorem subset_visit (state : Finset Vertex × List Vertex) (neighbour : Vertex) :
    state.1 ⊆ (visit state neighbour).1 := by
  unfold visit
  split
  · exact Finset.Subset.refl _
  · exact Finset.subset_insert _ _

theorem subset_foldl_visit (neighbours : List Vertex) (state : Finset Vertex × List Vertex) :
    state.1 ⊆ (neighbours.foldl visit state).1 := by
  induction neighbours generalizing state with
  | nil => exact Finset.Subset.refl _
  | cons head rest inductionHypothesis =>
    exact (subset_visit state head).trans (inductionHypothesis (visit state head))

theorem foldl_visit_marks (neighbours : List Vertex) (state : Finset Vertex × List Vertex)
    (neighbour : Vertex) (member : neighbour ∈ neighbours) :
    neighbour ∈ (neighbours.foldl visit state).1 := by
  induction neighbours generalizing state with
  | nil => cases member
  | cons head rest inductionHypothesis =>
    rcases List.mem_cons.mp member with rfl | inRest
    · exact subset_foldl_visit rest _ (visit_marks state neighbour)
    · exact inductionHypothesis (visit state head) inRest

/-- A round marks only neighbours, and pushes exactly what it marks. -/
theorem mem_foldl_visit (neighbours : List Vertex) (state : Finset Vertex × List Vertex)
    (vertex : Vertex) :
    (vertex ∈ (neighbours.foldl visit state).1 → vertex ∈ state.1 ∨ vertex ∈ neighbours) ∧
      (vertex ∈ (neighbours.foldl visit state).2 ↔
        vertex ∈ state.2 ∨ (vertex ∉ state.1 ∧ vertex ∈ (neighbours.foldl visit state).1)) := by
  induction neighbours generalizing state with
  | nil => simp
  | cons head rest inductionHypothesis =>
    obtain ⟨onlyNeighbours, pushed⟩ := inductionHypothesis (visit state head)
    rw [List.foldl_cons]
    unfold visit at onlyNeighbours pushed ⊢
    split_ifs at onlyNeighbours pushed ⊢ with present
    · exact ⟨fun marked => (onlyNeighbours marked).imp_right (List.mem_cons_of_mem _), pushed⟩
    · constructor
      · intro marked
        rcases onlyNeighbours marked with old | inRest
        · rcases Finset.mem_insert.mp old with rfl | before
          · exact Or.inr List.mem_cons_self
          · exact Or.inl before
        · exact Or.inr (List.mem_cons_of_mem _ inRest)
      · rw [pushed]
        have headMarked := subset_foldl_visit rest (insert head state.1, head :: state.2)
          (Finset.mem_insert_self head state.1)
        constructor
        · rintro (inStack | ⟨fresh, marked⟩)
          · rcases List.mem_cons.mp inStack with rfl | before
            · exact Or.inr ⟨present, headMarked⟩
            · exact Or.inl before
          · exact Or.inr ⟨fun old => fresh (Finset.mem_insert_of_mem old), marked⟩
        · rintro (before | ⟨fresh, marked⟩)
          · exact Or.inl (List.mem_cons_of_mem _ before)
          · by_cases same : vertex = head
            · exact Or.inl (same ▸ List.mem_cons_self)
            · exact Or.inr ⟨fun old => fresh ((Finset.mem_insert.mp old).resolve_left same), marked⟩

/-- What a round adds to the stack it adds to the marked vertices. -/
theorem foldl_visit_size (neighbours : List Vertex) (state : Finset Vertex × List Vertex) :
    (neighbours.foldl visit state).2.length + state.1.card =
      state.2.length + (neighbours.foldl visit state).1.card := by
  induction neighbours generalizing state with
  | nil => rfl
  | cons head rest inductionHypothesis =>
    have tail := inductionHypothesis (visit state head)
    rw [List.foldl_cons]
    unfold visit at tail ⊢
    split_ifs at tail ⊢ with present
    · exact tail
    · simp only [Finset.card_insert_of_notMem present, List.length_cons] at tail
      omega

theorem Frontier.step {next : Vertex → List Vertex} {seen : Finset Vertex} {top : Vertex}
    {stack : List Vertex} (frontier : Frontier next seen (top :: stack)) :
    Frontier next ((next top).foldl visit (seen, stack)).1
      ((next top).foldl visit (seen, stack)).2 := by
  have round := mem_foldl_visit (next top) (seen, stack)
  have grows := subset_foldl_visit (next top) (seen, stack)
  constructor
  · intro vertex inStack
    rcases (round vertex).2.mp inStack with old | ⟨_, marked⟩
    · exact grows (frontier.marked vertex (List.mem_cons_of_mem _ old))
    · exact marked
  · intro vertex marked notPushed neighbour member
    have before : vertex ∈ seen := by
      by_contra fresh
      exact notPushed ((round vertex).2.mpr (Or.inr ⟨fresh, marked⟩))
    by_cases same : vertex = top
    · subst same
      exact foldl_visit_marks (next vertex) _ neighbour member
    · refine grows (frontier.closed vertex before ?_ neighbour member)
      rintro inStack
      rcases List.mem_cons.mp inStack with isTop | old
      · exact same isTop
      · exact notPushed ((round vertex).2.mpr (Or.inl old))

/-! ### The whole exploration -/

section Whole

variable (unfinished : Error) {next : Vertex → Except Error (List Vertex)}
  {neighbours : Vertex → List Vertex} {universe' : Finset Vertex}

/-- From a frontier inside the universe the exploration returns a closed set that keeps the
marked vertices and adds only reachable ones. -/
theorem explore_spec (answers : ∀ vertex ∈ universe', next vertex = .ok (neighbours vertex))
    (stays : ∀ vertex ∈ universe', ∀ neighbour ∈ neighbours vertex, neighbour ∈ universe')
    (start : Vertex) (rounds : ℕ) (seen : Finset Vertex) (stack : List Vertex)
    (inside : seen ⊆ universe') (frontier : Frontier neighbours seen stack)
    (reached : ∀ vertex ∈ seen,
      Relation.ReflTransGen (fun first second => second ∈ neighbours first) start vertex)
    (enough : stack.length + universe'.card ≤ rounds + seen.card) :
    ∃ result, explore unfinished next rounds seen stack = .ok result ∧ seen ⊆ result ∧
      result ⊆ universe' ∧
      (∀ vertex ∈ result, ∀ neighbour ∈ neighbours vertex, neighbour ∈ result) ∧
      ∀ vertex ∈ result,
        Relation.ReflTransGen (fun first second => second ∈ neighbours first) start vertex := by
  induction rounds generalizing seen stack with
  | zero =>
    have small := Finset.card_le_card inside
    have empty : stack = [] := List.length_eq_zero_iff.mp (by omega)
    subst empty
    exact ⟨seen, by simp only [explore], Finset.Subset.refl _, inside,
      fun vertex marked => frontier.closed vertex marked List.not_mem_nil, reached⟩
  | succ rounds inductionHypothesis =>
    cases stack with
    | nil =>
      exact ⟨seen, by simp only [explore], Finset.Subset.refl _, inside,
        fun vertex marked => frontier.closed vertex marked List.not_mem_nil, reached⟩
    | cons top stack =>
      have topSeen : top ∈ seen := frontier.marked top List.mem_cons_self
      have round := mem_foldl_visit (neighbours top) (seen, stack)
      have size := foldl_visit_size (neighbours top) (seen, stack)
      obtain ⟨result, run, keeps, within, closed, only⟩ := inductionHypothesis
        ((neighbours top).foldl visit (seen, stack)).1
        ((neighbours top).foldl visit (seen, stack)).2
        (fun vertex marked => ((round vertex).1 marked).elim (fun old => inside old)
          (stays top (inside topSeen) vertex))
        frontier.step
        (fun vertex marked => ((round vertex).1 marked).elim (reached vertex)
          fun member => (reached top topSeen).tail member)
        (by
          simp only [List.length_cons] at enough
          dsimp only at size
          omega)
      refine ⟨result, ?_, (subset_foldl_visit _ (seen, stack)).trans keeps, within, closed, only⟩
      rw [explore, answers top (inside topSeen)]
      exact run

/-- Exploring from one vertex returns exactly the vertices that can be reached from it. -/
theorem explore_reachable
    (answers : ∀ vertex ∈ universe', next vertex = .ok (neighbours vertex))
    (stays : ∀ vertex ∈ universe', ∀ neighbour ∈ neighbours vertex, neighbour ∈ universe')
    (start : Vertex) (member : start ∈ universe') (rounds : ℕ) (enough : universe'.card ≤ rounds) :
    ∃ result, explore unfinished next rounds {start} [start] = .ok result ∧ result ⊆ universe' ∧
      ∀ vertex, vertex ∈ result ↔
        Relation.ReflTransGen (fun first second => second ∈ neighbours first) start vertex := by
  have single : ∀ vertex ∈ ({start} : Finset Vertex), vertex = start :=
    fun vertex => Finset.mem_singleton.mp
  obtain ⟨result, run, keeps, within, closed, only⟩ := explore_spec unfinished
    answers stays start rounds {start} [start] (Finset.singleton_subset_iff.mpr member)
    ⟨fun vertex inStack => Finset.mem_singleton.mpr (List.mem_singleton.mp inStack),
      fun vertex marked off => absurd (List.mem_singleton.mpr (single vertex marked)) off⟩
    (fun vertex marked => single vertex marked ▸ Relation.ReflTransGen.refl)
    (by simp only [List.length_singleton, Finset.card_singleton]; omega)
  refine ⟨result, run, within, fun vertex => ⟨only vertex, fun path => ?_⟩⟩
  induction path with
  | refl => exact keeps (Finset.mem_singleton_self start)
  | tail _ edge inductionHypothesis => exact closed _ inductionHypothesis _ edge

end Whole

end Exploration

end RcTaxi
