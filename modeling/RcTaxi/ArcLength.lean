/-
This file measures polylines by arc length. Walking along the segments, `pointAt` reaches the end of
every front part of them after the length of that part, and the inside of a segment in proportion;
so the points of a polyline are the values of `pointAt` between zero and its length. Zero-length
segments are walked over without a step.
-/

import RcTaxi.Geometry

namespace RcTaxi

variable {α : Type} [Scalar α]

/-! ### Segments in a row -/

/-- The segments lead from one point to another: each begins where the one before it ends. -/
def LeadsTo : Point α → List (Point α × Point α) → Point α → Prop
  | start, [], stop => start = stop
  | start, (a, b) :: rest, stop => a = start ∧ LeadsTo b rest stop

/-- The length of the segments together. -/
def totalLength (segments : List (Point α × Point α)) : α :=
  (segments.map fun pair => segmentLength pair.1 pair.2).sum

@[simp] theorem totalLength_nil : totalLength ([] : List (Point α × Point α)) = 0 := rfl

@[simp] theorem totalLength_cons (a b : Point α) (rest : List (Point α × Point α)) :
    totalLength ((a, b) :: rest) = segmentLength a b + totalLength rest := by
  unfold totalLength
  rw [List.map_cons, List.sum_cons]

theorem totalLength_append (front back : List (Point α × Point α)) :
    totalLength (front ++ back) = totalLength front + totalLength back := by
  unfold totalLength
  rw [List.map_append, List.sum_append]

omit [Scalar α] in
theorem leadsTo_append {front back : List (Point α × Point α)} {start stop : Point α} :
    LeadsTo start (front ++ back) stop ↔
      ∃ middle, LeadsTo start front middle ∧ LeadsTo middle back stop := by
  induction front generalizing start with
  | nil =>
    constructor
    · exact fun leads => ⟨start, rfl, leads⟩
    · rintro ⟨middle, rfl, leads⟩
      exact leads
  | cons segment rest inductionHypothesis =>
    obtain ⟨a, b⟩ := segment
    constructor
    · rintro ⟨same, leads⟩
      obtain ⟨middle, before, behind⟩ := inductionHypothesis.mp leads
      exact ⟨middle, ⟨same, before⟩, behind⟩
    · rintro ⟨middle, ⟨same, before⟩, behind⟩
      exact ⟨same, inductionHypothesis.mpr ⟨middle, before, behind⟩⟩

omit [Scalar α] in
/-- The segments of a polyline lead from its first point to its last. -/
theorem Polyline.leadsTo (line : Polyline α) : LeadsTo line.first line.pairs line.last := by
  obtain ⟨first, rest⟩ := line
  induction rest generalizing first with
  | nil => exact rfl
  | cons next rest inductionHypothesis =>
    have shifted : (next :: rest).getLastD first = rest.getLastD next := List.getLastD_cons ..
    refine ⟨rfl, ?_⟩
    rw [Polyline.last, shifted]
    exact inductionHypothesis next

section Lengths

variable [LawfulHypot α]

theorem totalLength_nonneg (segments : List (Point α × Point α)) : 0 ≤ totalLength segments := by
  refine List.sum_nonneg fun length member => ?_
  obtain ⟨pair, _, rfl⟩ := List.mem_map.mp member
  exact segmentLength_nonneg pair.1 pair.2

/-- Segments of no length lead nowhere. -/
theorem LeadsTo.eq_of_zero {segments : List (Point α × Point α)} {start stop : Point α}
    (leads : LeadsTo start segments stop) (zero : totalLength segments = 0) : start = stop := by
  induction segments generalizing start with
  | nil => exact leads
  | cons segment rest inductionHypothesis =>
    obtain ⟨a, b⟩ := segment
    obtain ⟨rfl, leads⟩ := leads
    rw [totalLength_cons] at zero
    have parts := (add_eq_zero_iff_of_nonneg (segmentLength_nonneg a b)
      (totalLength_nonneg rest)).mp zero
    exact (eq_of_segmentLength_eq_zero parts.1).trans (inductionHypothesis leads parts.2)

end Lengths

/-! ### point_at along the segments -/

theorem interpolate_zero (a b : Point α) : interpolate a b 0 = a := by
  unfold interpolate
  rw [mul_zero, mul_zero, add_zero, add_zero]

theorem interpolate_one (a b : Point α) : interpolate a b 1 = b := by
  unfold interpolate
  rw [mul_one, mul_one, add_sub_cancel, add_sub_cancel]

theorem interpolate_self (a : Point α) (t : α) : interpolate a a t = a := by
  unfold interpolate
  rw [sub_self, sub_self, zero_mul, add_zero, add_zero]

/-- Inside a segment the loop stops in proportion. -/
theorem pointAtLoop_inside (last : Point α) {a b : Point α} {t : α} (acc : α)
    (back : List (Point α × Point α)) (positive : 0 < segmentLength a b) (small : t ≤ 1) :
    pointAtLoop last (acc + segmentLength a b * t) ((a, b) :: back) acc = interpolate a b t := by
  have within : acc + segmentLength a b * t ≤ acc + segmentLength a b :=
    add_le_add_right (mul_le_of_le_one_right positive.le small) acc
  rw [pointAtLoop]
  rw [if_pos ⟨within, positive⟩, add_sub_cancel_left, mul_div_cancel_left₀ t positive.ne']

variable [LawfulHypot α]

/-- The loop passes over the segments that end before the progress asked for. -/
theorem pointAtLoop_append (last : Point α) {s acc : α} (front back : List (Point α × Point α))
    (beyond : acc + totalLength front < s) :
    pointAtLoop last s (front ++ back) acc =
      pointAtLoop last s back (acc + totalLength front) := by
  induction front generalizing acc with
  | nil => rw [totalLength_nil, add_zero, List.nil_append]
  | cons segment rest inductionHypothesis =>
    obtain ⟨a, b⟩ := segment
    rw [totalLength_cons, ← add_assoc] at beyond
    have rest_nonneg := totalLength_nonneg rest
    have passed : ¬ (s ≤ acc + segmentLength a b ∧ 0 < segmentLength a b) :=
      fun chosen => by linarith [chosen.1]
    rw [List.cons_append, pointAtLoop]
    rw [if_neg passed, inductionHypothesis beyond, totalLength_cons, add_assoc]

/-- After the length of a front part the loop stops at the end of that part. -/
theorem pointAtLoop_end (last : Point α) {front back : List (Point α × Point α)}
    {start stop : Point α} (leads : LeadsTo start front stop) (acc : α)
    (positive : 0 < totalLength front) :
    pointAtLoop last (acc + totalLength front) (front ++ back) acc = stop := by
  induction front generalizing start acc with
  | nil => exact absurd positive (lt_irrefl _)
  | cons segment rest inductionHypothesis =>
    obtain ⟨a, b⟩ := segment
    obtain ⟨rfl, leads⟩ := leads
    rw [totalLength_cons] at positive ⊢
    rcases (totalLength_nonneg rest).eq_or_lt with zero | more
    · -- The rest has no length, so the part ends where this segment does.
      rw [← zero, add_zero] at positive ⊢
      have ended := pointAtLoop_inside last acc (rest ++ back) positive (le_refl 1)
      rw [mul_one, interpolate_one] at ended
      exact ended.trans (leads.eq_of_zero zero.symm)
    · have passed : ¬ (acc + (segmentLength a b + totalLength rest) ≤ acc + segmentLength a b ∧
          0 < segmentLength a b) := fun chosen => by linarith [chosen.1]
      rw [List.cons_append, pointAtLoop]
      rw [if_neg passed, ← add_assoc]
      exact inductionHypothesis leads (acc + segmentLength a b) more

/-- The point at the length of a front part of the segments is the end of that part. -/
theorem pointAt_end (line : Polyline α) {front back : List (Point α × Point α)} {stop : Point α}
    (cut : line.pairs = front ++ back) (leads : LeadsTo line.first front stop) :
    pointAt line (totalLength front) = stop := by
  unfold pointAt
  rcases (totalLength_nonneg front).eq_or_lt with zero | positive
  · rw [if_pos zero.symm.le]
    exact leads.eq_of_zero zero.symm
  · rw [if_neg positive.not_ge, cut]
    have ended : pointAtLoop line.last (0 + totalLength front) (front ++ back) 0 = stop :=
      pointAtLoop_end line.last leads 0 positive
    rwa [zero_add] at ended

/-- The point behind a front part, a fraction of the next segment further on. -/
theorem pointAt_inside (line : Polyline α) {front back : List (Point α × Point α)} {a b : Point α}
    (cut : line.pairs = front ++ (a, b) :: back) {t : α} (nonneg : 0 ≤ t) (small : t ≤ 1) :
    pointAt line (totalLength front + segmentLength a b * t) = interpolate a b t := by
  obtain ⟨middle, leads, rfl, _⟩ := leadsTo_append.mp (cut ▸ line.leadsTo)
  rcases (segmentLength_nonneg a b).eq_or_lt with zero | positive
  · rw [← zero, zero_mul, add_zero, pointAt_end line cut leads,
      eq_of_segmentLength_eq_zero zero.symm, interpolate_self]
  rcases nonneg.eq_or_lt with rfl | moved
  · rw [mul_zero, add_zero, pointAt_end line cut leads, interpolate_zero]
  have further : totalLength front < totalLength front + segmentLength a b * t :=
    lt_add_of_pos_right _ (mul_pos positive moved)
  have beyond := (totalLength_nonneg front).trans_lt further
  unfold pointAt
  rw [if_neg beyond.not_ge, cut,
    pointAtLoop_append line.last front _ (by rwa [zero_add]), zero_add]
  exact pointAtLoop_inside line.last _ back positive small

/-! ### The points of a polyline -/

/-- A point lies on the polyline: it is the first point or a point of some segment. -/
def Polyline.Contains (line : Polyline α) (point : Point α) : Prop :=
  point = line.first ∨
    ∃ pair ∈ line.pairs, ∃ t, 0 ≤ t ∧ t ≤ 1 ∧ point = interpolate pair.1 pair.2 t

/-- A progress along the segments ends in one of them, unless there is none. -/
theorem exists_segment {segments : List (Point α × Point α)} {s : α} (some : segments ≠ [])
    (nonneg : 0 ≤ s) (small : s ≤ totalLength segments) :
    ∃ front a b back t, segments = front ++ (a, b) :: back ∧ 0 ≤ t ∧ t ≤ 1 ∧
      s = totalLength front + segmentLength a b * t := by
  induction segments generalizing s with
  | nil => exact absurd rfl some
  | cons segment rest inductionHypothesis =>
    obtain ⟨a, b⟩ := segment
    rw [totalLength_cons] at small
    have length_nonneg := segmentLength_nonneg a b
    by_cases within : s ≤ segmentLength a b
    · rcases length_nonneg.eq_or_lt with zero | positive
      · have stays : s = 0 := le_antisymm (within.trans zero.symm.le) nonneg
        refine ⟨[], a, b, rest, 0, rfl, le_refl 0, zero_le_one, ?_⟩
        rw [stays, totalLength_nil, mul_zero, add_zero]
      · refine ⟨[], a, b, rest, s / segmentLength a b, rfl, div_nonneg nonneg length_nonneg,
          (div_le_one positive).mpr within, ?_⟩
        rw [totalLength_nil, zero_add, mul_div_cancel₀ s positive.ne']
    · have further := not_le.mp within
      have more : rest ≠ [] := by
        rintro rfl
        rw [totalLength_nil, add_zero] at small
        exact within small
      obtain ⟨front, c, d, back, t, cut, t_nonneg, t_small, reached⟩ :=
        inductionHypothesis more (sub_nonneg.mpr further.le) (sub_le_iff_le_add'.mpr small)
      refine ⟨(a, b) :: front, c, d, back, t, ?_, t_nonneg, t_small, ?_⟩
      · rw [cut, List.cons_append]
      · rw [totalLength_cons, add_assoc, ← reached, add_sub_cancel]

/-- The points of a polyline are the values of `pointAt` between zero and its length. -/
theorem Polyline.contains_iff (line : Polyline α) (point : Point α) :
    line.Contains point ↔ ∃ s, 0 ≤ s ∧ s ≤ polylineLength line ∧ pointAt line s = point := by
  constructor
  · rintro (rfl | ⟨⟨a, b⟩, member, t, nonneg, small, rfl⟩)
    · exact ⟨0, le_refl 0, polylineLength_nonneg line, if_pos (le_refl 0)⟩
    · obtain ⟨front, back, cut⟩ := List.append_of_mem member
      have whole : polylineLength line =
          totalLength front + (segmentLength a b + totalLength back) := by
        rw [← totalLength_cons, ← totalLength_append, ← cut]
        rfl
      have forward := mul_nonneg (segmentLength_nonneg a b) nonneg
      have bounded := mul_le_of_le_one_right (segmentLength_nonneg a b) small
      refine ⟨_, add_nonneg (totalLength_nonneg front) forward, ?_,
        pointAt_inside line cut nonneg small⟩
      rw [whole]
      exact add_le_add_right (bounded.trans (le_add_of_nonneg_right (totalLength_nonneg back))) _
  · rintro ⟨s, nonneg, small, rfl⟩
    by_cases none : line.pairs = []
    · have zero : s = 0 := le_antisymm (small.trans (by
        unfold polylineLength
        rw [none]
        exact le_refl 0)) nonneg
      exact Or.inl (if_pos zero.le)
    · obtain ⟨front, a, b, back, t, cut, t_nonneg, t_small, rfl⟩ :=
        exists_segment none nonneg small
      refine Or.inr ⟨(a, b), ?_, t, t_nonneg, t_small,
        pointAt_inside line cut t_nonneg t_small⟩
      rw [cut]
      exact List.mem_append_right _ List.mem_cons_self

/-! ### heading_at along the segments -/

/-- Up to the end of the segments the loop of `heading_at` returns the direction of a segment the
progress lies in, unless the last segment also occurs earlier. -/
theorem headingAtLoop_inside (final : Point α × Point α) {s acc : α}
    {segments : List (Point α × Point α)} (positive : 0 < totalLength segments)
    (begun : acc ≤ s) (small : s ≤ acc + totalLength segments)
    (fresh : final ∉ segments.dropLast) :
    ∃ front a b back, segments = front ++ (a, b) :: back ∧ 0 < segmentLength a b ∧
      acc + totalLength front ≤ s ∧ s ≤ acc + totalLength front + segmentLength a b ∧
      headingAtLoop final s segments acc = directionDeg a b := by
  induction segments generalizing acc with
  | nil => exact absurd positive (lt_irrefl _)
  | cons segment rest inductionHypothesis =>
    obtain ⟨a, b⟩ := segment
    rw [totalLength_cons] at positive small
    have length_nonneg := segmentLength_nonneg a b
    by_cases chosen : s ≤ acc + segmentLength a b ∧ 0 < segmentLength a b
    · refine ⟨[], a, b, rest, rfl, chosen.2, ?_, ?_, ?_⟩
      · rwa [totalLength_nil, add_zero]
      · rw [totalLength_nil, add_zero]
        exact chosen.1
      · rw [headingAtLoop]
        exact if_pos ⟨Or.inl chosen.1, chosen.2⟩
    · -- The segment is passed: it ends before the progress, or it has no length.
      have passed : acc + segmentLength a b ≤ s ∧ 0 < totalLength rest := by
        rcases length_nonneg.eq_or_lt with zero | long
        · rw [← zero, zero_add] at positive
          rw [← zero, add_zero]
          exact ⟨begun, positive⟩
        · have before : acc + segmentLength a b < s := not_le.mp fun le => chosen ⟨le, long⟩
          exact ⟨before.le, by linarith⟩
      obtain ⟨next, others, rfl⟩ : ∃ next others, rest = next :: others := by
        cases rest with
        | nil => exact absurd passed.2 (lt_irrefl _)
        | cons next others => exact ⟨next, others, rfl⟩
      rw [List.dropLast_cons_of_ne_nil (List.cons_ne_nil _ _)] at fresh
      have other : (a, b) ≠ final := fun same => fresh (same ▸ List.mem_cons_self)
      obtain ⟨front, c, d, back, cut, long, begun', small', direction⟩ :=
        inductionHypothesis passed.2 passed.1 (by rwa [add_assoc])
          fun member => fresh (List.mem_cons_of_mem _ member)
      refine ⟨(a, b) :: front, c, d, back, ?_, long, ?_, ?_, ?_⟩
      · rw [cut, List.cons_append]
      · rwa [totalLength_cons, ← add_assoc]
      · rwa [totalLength_cons, ← add_assoc]
      · rw [headingAtLoop]
        rw [if_neg fun both => both.1.elim (fun le => chosen ⟨le, both.2⟩) other]
        exact direction

/-- The heading at a progress along the polyline is the direction of a segment that contains the
point at this progress, unless the last segment also occurs earlier. -/
theorem headingAt_inside (line : Polyline α) {s : α} (positive : 0 < polylineLength line)
    (nonneg : 0 ≤ s) (small : s ≤ polylineLength line) {final : Point α × Point α}
    (ends : line.pairs.getLast? = some final) (fresh : final ∉ line.pairs.dropLast) :
    ∃ pair ∈ line.pairs, headingAt line s = directionDeg pair.1 pair.2 ∧
      ∃ t, 0 ≤ t ∧ t ≤ 1 ∧ pointAt line s = interpolate pair.1 pair.2 t := by
  have within : s ≤ 0 + totalLength line.pairs := by
    rwa [zero_add]
  obtain ⟨front, a, b, back, cut, long, begun, ended, direction⟩ :=
    headingAtLoop_inside final positive nonneg within fresh
  rw [zero_add] at begun ended
  have member : (a, b) ∈ line.pairs := by
    rw [cut]
    exact List.mem_append_right _ List.mem_cons_self
  refine ⟨(a, b), member, ?_, (s - totalLength front) / segmentLength a b,
    div_nonneg (sub_nonneg.mpr begun) long.le,
    (div_le_one long).mpr (sub_le_iff_le_add'.mpr ended), ?_⟩
  · unfold headingAt
    rw [ends]
    exact direction
  · rw [← pointAt_inside line cut (div_nonneg (sub_nonneg.mpr begun) long.le)
      ((div_le_one long).mpr (sub_le_iff_le_add'.mpr ended)), mul_div_cancel₀ _ long.ne',
      add_sub_cancel]

end RcTaxi
