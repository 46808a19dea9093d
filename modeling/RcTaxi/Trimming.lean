/-
This file proves that `trim` cuts out exactly the stretch asked for. Its result runs from the point
at the first progress to the point at the second one through points in between, in order, and leaves
out a vertex in between only within a small distance of a point it keeps.
-/

import RcTaxi.ArcLength

namespace RcTaxi

variable {α : Type} [Scalar α]

/-! ### Vertices -/

/-- The beginnings of the segments with their arc lengths; the first one lies at `acc`. -/
def starts : α → List (Point α × Point α) → List (α × Point α)
  | _, [] => []
  | acc, (a, b) :: rest => (acc, a) :: starts (acc + segmentLength a b) rest

/-- The vertices of a polyline with their arc lengths. -/
def Polyline.vertices (line : Polyline α) : List (α × Point α) :=
  starts 0 line.pairs ++ [(polylineLength line, line.last)]

section Lawful

variable [LawfulHypot α]

theorem starts_after (acc : α) (segments : List (Point α × Point α)) :
    ∀ vertex ∈ starts acc segments, acc ≤ vertex.1 := by
  induction segments generalizing acc with
  | nil => exact fun vertex member => absurd member List.not_mem_nil
  | cons segment rest inductionHypothesis =>
    intro vertex member
    obtain ⟨a, b⟩ := segment
    rcases List.mem_cons.mp member with rfl | later
    · exact le_refl acc
    · exact (le_add_of_nonneg_right (segmentLength_nonneg a b)).trans
        (inductionHypothesis _ vertex later)

/-- The arc lengths of the vertices do not decrease. -/
theorem starts_ordered (acc : α) (segments : List (Point α × Point α)) :
    (starts acc segments).Pairwise fun first second => first.1 ≤ second.1 := by
  induction segments generalizing acc with
  | nil => exact List.Pairwise.nil
  | cons segment rest inductionHypothesis =>
    obtain ⟨a, b⟩ := segment
    refine List.Pairwise.cons (fun vertex later => ?_) (inductionHypothesis _)
    exact (le_add_of_nonneg_right (segmentLength_nonneg a b)).trans
      (starts_after _ rest vertex later)

/-- A vertex is the point at its arc length. -/
theorem pointAt_starts (line : Polyline α) (back : List (Point α × Point α)) :
    ∀ front, line.pairs = front ++ back →
      ∀ vertex ∈ starts (totalLength front) back, pointAt line vertex.1 = vertex.2 := by
  induction back with
  | nil => exact fun _ _ vertex member => absurd member List.not_mem_nil
  | cons segment back inductionHypothesis =>
    intro front cut vertex member
    obtain ⟨a, b⟩ := segment
    rcases List.mem_cons.mp member with rfl | later
    · obtain ⟨middle, leads, rfl, _⟩ := leadsTo_append.mp (cut ▸ line.leadsTo)
      exact pointAt_end line cut leads
    · have moved : line.pairs = (front ++ [(a, b)]) ++ back := by
        rw [cut, List.append_assoc]
        rfl
      refine inductionHypothesis _ moved vertex ?_
      rwa [totalLength_append, totalLength_cons, totalLength_nil, add_zero]

end Lawful

/-! ### The loop of trim -/

/-- The loop keeps some of the vertices between the two progresses, in order, and leaves out only
vertices close to the point appended before. -/
theorem trimLoop_spec (s0 s1 : α) (segments : List (Point α × Point α)) (acc : α)
    (last : Point α) :
    ∃ kept : List (α × Point α), trimLoop s0 s1 segments acc last = kept.map Prod.snd ∧
      kept.Sublist (starts acc segments) ∧ (∀ vertex ∈ kept, s0 < vertex.1 ∧ vertex.1 < s1) ∧
      ∀ vertex ∈ starts acc segments, s0 < vertex.1 → vertex.1 < s1 →
        vertex ∈ kept ∨ ∃ q ∈ last :: kept.map Prod.snd, segmentLength q vertex.2 ≤ tolerance := by
  induction segments generalizing acc last with
  | nil => exact ⟨[], rfl, List.Sublist.refl _, fun _ member => absurd member List.not_mem_nil,
      fun _ member => absurd member List.not_mem_nil⟩
  | cons segment rest inductionHypothesis =>
    obtain ⟨a, b⟩ := segment
    rw [trimLoop]
    split
    next appended =>
      obtain ⟨kept, run, ordered, between, close⟩ :=
        inductionHypothesis (acc + segmentLength a b) a
      refine ⟨(acc, a) :: kept, ?_, ordered.cons_cons _, fun vertex member => ?_,
        fun vertex member above below => ?_⟩
      · rw [run, List.map_cons]
      · rcases List.mem_cons.mp member with rfl | later
        · exact appended.1
        · exact between vertex later
      · rcases List.mem_cons.mp member with rfl | later
        · exact Or.inl List.mem_cons_self
        · rcases close vertex later above below with inKept | ⟨q, member, near⟩
          · exact Or.inl (List.mem_cons_of_mem _ inKept)
          · exact Or.inr ⟨q, List.mem_cons_of_mem _ member, near⟩
    next dropped =>
      obtain ⟨kept, run, ordered, between, close⟩ :=
        inductionHypothesis (acc + segmentLength a b) last
      refine ⟨kept, run, ordered.cons _, between, fun vertex member above below => ?_⟩
      rcases List.mem_cons.mp member with rfl | later
      · exact Or.inr ⟨last, List.mem_cons_self,
          not_lt.mp fun far => dropped ⟨⟨above, below⟩, far⟩⟩
      · exact close vertex later above below

/-! ### trim -/

/-- Where the result of `trim` comes from: between its end points it has vertices that the loop
kept, all of them unless the last one is close to the end point. -/
theorem trim_cases (line : Polyline α) {s0 s1 : α} (apart : tolerance < s1 - s0) :
    ∃ front back, trimLoop s0 s1 line.pairs 0 (pointAt line s0) = front ++ back ∧
      trim line s0 s1 = .ok ⟨pointAt line s0, front ++ [pointAt line s1]⟩ ∧
      ∀ q ∈ back, segmentLength q (pointAt line s1) ≤ tolerance := by
  have reversed : ¬ s1 + tolerance < s0 := by linarith [tolerance_pos (α := α)]
  unfold trim
  rw [if_neg reversed]
  dsimp only
  rw [if_neg apart.not_ge]
  generalize trimLoop s0 s1 line.pairs 0 (pointAt line s0) = inner
  split
  next =>
    exact ⟨inner, [], (List.append_nil _).symm, rfl,
      fun _ member => absurd member List.not_mem_nil⟩
  next close =>
    split
    next empty =>
      rw [List.isEmpty_iff.mp empty]
      exact ⟨[], [], rfl, rfl, fun _ member => absurd member List.not_mem_nil⟩
    next some =>
      have some : inner ≠ [] := fun empty => some (List.isEmpty_iff.mpr empty)
      rw [List.getLastD_eq_getLast?, List.getLast?_eq_some_getLast some] at close
      refine ⟨inner.dropLast, [inner.getLast some], (List.dropLast_append_getLast some).symm, rfl,
        fun q member => ?_⟩
      rw [List.mem_singleton.mp member]
      exact not_lt.mp close

/-- The part of a polyline between two progresses: it runs from the point at the first one to the
point at the second one through points in between, in order, and comes close to every vertex in
between. -/
structure IsStretch (line : Polyline α) (s0 s1 : α) (part : Polyline α) : Prop where
  two_points : part.rest ≠ []
  first_eq : part.first = pointAt line s0
  last_eq : part.last = pointAt line s1
  in_order : ∃ progresses : List α, part.points = progresses.map (pointAt line) ∧
    progresses.Pairwise (· ≤ ·) ∧ ∀ s ∈ progresses, s0 ≤ s ∧ s ≤ s1
  vertices : ∀ vertex ∈ line.vertices, s0 < vertex.1 → vertex.1 < s1 →
    vertex.2 ∈ part.points ∨ ∃ q ∈ part.points, segmentLength q vertex.2 ≤ 2 * tolerance

/-- Kept vertices between the two progresses, with the end points around them, are the points at
progresses in order. -/
theorem exists_progresses [LawfulHypot α] (line : Polyline α) {s0 s1 : α} (before : s0 ≤ s1)
    {kept : List (α × Point α)} (ordered : kept.Sublist (starts 0 line.pairs))
    (between : ∀ vertex ∈ kept, s0 < vertex.1 ∧ vertex.1 < s1) :
    ∃ progresses : List α,
      pointAt line s0 :: (kept.map Prod.snd ++ [pointAt line s1]) =
        progresses.map (pointAt line) ∧
      progresses.Pairwise (· ≤ ·) ∧ ∀ s ∈ progresses, s0 ≤ s ∧ s ≤ s1 := by
  have points := pointAt_starts line line.pairs [] rfl
  rw [totalLength_nil] at points
  have inner : ∀ s ∈ kept.map Prod.fst, s0 < s ∧ s < s1 := by
    intro s member
    obtain ⟨vertex, inside, rfl⟩ := List.mem_map.mp member
    exact between vertex inside
  refine ⟨s0 :: (kept.map Prod.fst ++ [s1]), ?_, ?_, ?_⟩
  · rw [List.map_cons, List.map_append, List.map_map, List.map_singleton]
    refine congrArg (fun inner => _ :: (inner ++ _)) (List.map_congr_left fun vertex member => ?_)
    exact (points vertex (ordered.subset member)).symm
  · have pairwise : (kept.map Prod.fst).Pairwise (· ≤ ·) :=
      List.pairwise_map.mpr ((starts_ordered 0 line.pairs).sublist ordered)
    refine List.pairwise_cons.mpr ⟨fun s member => ?_, List.pairwise_append.mpr
      ⟨pairwise, List.pairwise_singleton _ _, fun s member final isFinal => ?_⟩⟩
    · rcases List.mem_append.mp member with within | isFinal
      · exact (inner s within).1.le
      · rw [List.mem_singleton.mp isFinal]
        exact before
    · rw [List.mem_singleton.mp isFinal]
      exact (inner s member).2.le
  · intro s member
    rcases List.mem_cons.mp member with rfl | later
    · exact ⟨le_refl _, before⟩
    · rcases List.mem_append.mp later with within | isFinal
      · exact ⟨(inner s within).1.le, (inner s within).2.le⟩
      · rw [List.mem_singleton.mp isFinal]
        exact ⟨before, le_refl _⟩

section Metric

variable [MetricHypot α]

theorem segmentLength_comm (a b : Point α) : segmentLength a b = segmentLength b a := by
  unfold segmentLength
  rw [← hypot_neg, neg_sub, neg_sub]

theorem segmentLength_triangle (a b c : Point α) :
    segmentLength a c ≤ segmentLength a b + segmentLength b c := by
  have sum := hypot_add_le (b.1 - a.1) (b.2 - a.2) (c.1 - b.1) (c.2 - b.2)
  rwa [sub_add_sub_cancel', sub_add_sub_cancel'] at sum

/-- A vertex close to a point the loop kept is close to a point of the result, where the points of
the back part are replaced by the end point beside them. -/
theorem exists_close {start final vertex q : Point α} {front back : List (Point α)}
    (near : ∀ q ∈ back, segmentLength q final ≤ tolerance)
    (member : q ∈ start :: (front ++ back)) (close : segmentLength q vertex ≤ tolerance) :
    ∃ q ∈ start :: (front ++ [final]), segmentLength q vertex ≤ 2 * tolerance := by
  have positive : (0 : α) < tolerance := tolerance_pos
  have wide : segmentLength q vertex ≤ 2 * tolerance := by linarith
  rcases List.mem_cons.mp member with rfl | later
  · exact ⟨q, List.mem_cons_self, wide⟩
  rcases List.mem_append.mp later with inFront | inBack
  · exact ⟨q, List.mem_cons_of_mem _ (List.mem_append_left _ inFront), wide⟩
  · refine ⟨final, List.mem_cons_of_mem _ (List.mem_append_right _ List.mem_cons_self), ?_⟩
    have detour := segmentLength_triangle final q vertex
    have replaced := near q inBack
    rw [segmentLength_comm] at replaced
    linarith

/-- `trim` returns the part of the polyline between two progresses on it that are farther apart than
the tolerance. -/
theorem trim_isStretch (line : Polyline α) {s0 s1 : α}
    (small : s1 ≤ polylineLength line) (apart : tolerance < s1 - s0) :
    ∃ part, trim line s0 s1 = .ok part ∧ IsStretch line s0 s1 part := by
  have before : s0 ≤ s1 := (sub_pos.mp (tolerance_pos.trans apart)).le
  obtain ⟨kept, run, ordered, between, close⟩ :=
    trimLoop_spec s0 s1 line.pairs 0 (pointAt line s0)
  obtain ⟨front, back, cut, result, near⟩ := trim_cases line apart
  rw [run] at cut
  obtain ⟨first, second, rfl, rfl, rfl⟩ := List.map_eq_append_iff.mp cut
  refine ⟨_, result, ⟨List.append_ne_nil_of_right_ne_nil _ (List.cons_ne_nil _ _), rfl,
    List.getLastD_concat .., ?_, fun vertex member above below => ?_⟩⟩
  · exact exists_progresses line before
      ((List.sublist_append_left first second).trans ordered)
      fun vertex member => between vertex (List.mem_append_left _ member)
  · rcases List.mem_append.mp member with isStart | isLast
    · rcases close vertex isStart above below with inKept | ⟨q, inResult, close⟩
      · rcases List.mem_append.mp inKept with inFirst | inSecond
        · exact Or.inl (List.mem_cons_of_mem _ (List.mem_append_left _
            (List.mem_map_of_mem inFirst)))
        · refine Or.inr (exists_close near (q := vertex.2) ?_ ?_)
          · exact List.mem_cons_of_mem _ (List.mem_append_right _ (List.mem_map_of_mem inSecond))
          · rw [segmentLength_self]
            exact tolerance_pos.le
      · rw [List.map_append] at inResult
        exact Or.inr (exists_close near inResult close)
    · rw [List.mem_singleton.mp isLast] at below
      exact absurd below small.not_gt

end Metric

/-- Trimming a corner: the vertex in the middle is kept. -/
theorem trim_isStretch_corner : ∃ part : Polyline ℚ,
    trim ⟨(0, 0), [(1, 0), (1, 1)]⟩ (1 / 2) (3 / 2) = .ok part ∧
      IsStretch ⟨(0, 0), [(1, 0), (1, 1)]⟩ (1 / 2) (3 / 2) part :=
  trim_isStretch _ (by decide +kernel) (by decide +kernel)

end RcTaxi
