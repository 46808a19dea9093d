/-
This file models `mapping/geometry.py`: the operations on polylines that map
matching, destination snapping, route planning and lane driving share. A polyline is
a non-empty list of points, so its first and last point always exist; the loops over
consecutive points are recursions over the list of pairs.
-/

import RcTaxi.PyValue

namespace RcTaxi

variable {α : Type} [Scalar α]

abbrev Point (α : Type) := α × α

/-- A polyline: a tuple of points that is not empty. -/
structure Polyline (α : Type) where
  first : Point α
  rest : List (Point α)
  deriving DecidableEq

namespace Polyline

/-- The points in order. -/
def points (line : Polyline α) : List (Point α) := line.first :: line.rest

/-- `pts[-1]`. -/
def last (line : Polyline α) : Point α := line.rest.getLastD line.first

/-- `zip(pts, pts[1:])`. -/
def pairs (line : Polyline α) : List (Point α × Point α) := line.points.zip line.rest

end Polyline

/-- `math.hypot(b[0] - a[0], b[1] - a[1])`. -/
def segmentLength (a b : Point α) : α := hypot (b.1 - a.1) (b.2 - a.2)

def polylineLength (line : Polyline α) : α :=
  (line.pairs.map fun pair => segmentLength pair.1 pair.2).sum

/-! ### project_point -/

/-- The clamped projection of `p` on the segment from `a` to `b`: the parameter and the foot. -/
def projectSegment (a b p : Point α) : α × Point α :=
  let seg : Point α := (b.1 - a.1, b.2 - a.2)
  let segLen := hypot seg.1 seg.2
  let raw := ((p.1 - a.1) * seg.1 + (p.2 - a.2) * seg.2) / (segLen * segLen)
  let t := min 1 (max 0 raw)
  (t, (a.1 + seg.1 * t, a.2 + seg.2 * t))

/-- The best projection found so far: progress, distance, foot. -/
structure Projection (α : Type) where
  progress : α
  distance : α
  foot : Point α
  deriving DecidableEq

/-- The loop of `project_point`. -/
def projectLoop (p : Point α) :
    List (Point α × Point α) → α → Option (Projection α) → Option (Projection α)
  | [], _, best => best
  | (a, b) :: rest, acc, best =>
    let segLen := segmentLength a b
    if segLen ≤ 0 then projectLoop p rest acc best
    else
      let (t, q) := projectSegment a b p
      let d := hypot (p.1 - q.1) (p.2 - q.2)
      let found : Projection α := ⟨acc + segLen * t, d, q⟩
      let better := match best with
        | none => true
        | some old => decide (d < old.distance)
      projectLoop p rest (acc + segLen) (if better then some found else best)

/-- `project_point`: the nearest point of the polyline, its progress and its distance. -/
def projectPoint (line : Polyline α) (p : Point α) : Projection α :=
  match projectLoop p line.pairs 0 none with
  | some best => best
  | none => ⟨0, hypot (p.1 - line.first.1) (p.2 - line.first.2), line.first⟩

/-! ### point_at, heading_at -/

/-- The point at parameter `t` of the segment from `a` to `b`. -/
def interpolate (a b : Point α) (t : α) : Point α :=
  (a.1 + (b.1 - a.1) * t, a.2 + (b.2 - a.2) * t)

/-- The loop of `point_at`. -/
def pointAtLoop (last : Point α) (s : α) : List (Point α × Point α) → α → Point α
  | [], _ => last
  | (a, b) :: rest, acc =>
    let segLen := segmentLength a b
    if s ≤ acc + segLen ∧ 0 < segLen then interpolate a b ((s - acc) / segLen)
    else pointAtLoop last s rest (acc + segLen)

/-- `point_at`: the point at progress `s`, clamped to the ends. -/
def pointAt (line : Polyline α) (s : α) : Point α :=
  if s ≤ 0 then line.first else pointAtLoop line.last s line.pairs 0

/-- The direction of the segment from `a` to `b`, in degrees from 0 to 360. -/
def directionDeg (a b : Point α) : α := pyMod (degrees (atan2 (b.2 - a.2) (b.1 - a.1))) 360

/-- The loop of `heading_at`; `final` is the last pair of points. -/
def headingAtLoop (final : Point α × Point α) (s : α) : List (Point α × Point α) → α → α
  | [], _ => 0
  | (a, b) :: rest, acc =>
    let segLen := segmentLength a b
    if (s ≤ acc + segLen ∨ (a, b) = final) ∧ 0 < segLen then directionDeg a b
    else headingAtLoop final s rest (acc + segLen)

/-- `heading_at`: the direction of travel at progress `s`. -/
def headingAt (line : Polyline α) (s : α) : α :=
  match line.pairs.getLast? with
  | none => 0
  | some final => headingAtLoop final s line.pairs 0

/-! ### trim -/

/-- The tolerance of `trim` and of `RoutePlanner.plan`. -/
def tolerance : α := 1 / 1000000000

theorem tolerance_pos : (0 : α) < tolerance := by
  unfold tolerance
  positivity

/-- The vertices `trim` keeps, in order; `last` is the point appended before. -/
def trimLoop (s0 s1 : α) : List (Point α × Point α) → α → Point α → List (Point α)
  | [], _, _ => []
  | (a, b) :: rest, acc, last =>
    let next := acc + segmentLength a b
    if (s0 < acc ∧ acc < s1) ∧ tolerance < hypot (a.1 - last.1) (a.2 - last.2) then
      a :: trimLoop s0 s1 rest next a
    else trimLoop s0 s1 rest next last

/-- `trim`: the part of the polyline from progress `s0` to progress `s1`. -/
def trim (line : Polyline α) (s0 s1 : α) : Except PyError (Polyline α) :=
  if s1 + tolerance < s0 then .error (.assertionError "trim 순서 오류")
  else
    let p0 := pointAt line s0
    let p1 := pointAt line s1
    if s1 - s0 ≤ tolerance then .ok ⟨p0, []⟩
    else
      let inner := trimLoop s0 s1 line.pairs 0 p0
      let last := inner.getLastD p0
      if tolerance < hypot (p1.1 - last.1) (p1.2 - last.2) then .ok ⟨p0, inner ++ [p1]⟩
      else if inner.isEmpty then .ok ⟨p0, [p1]⟩
      else .ok ⟨p0, inner.dropLast ++ [p1]⟩

/-- `heading_diff_deg`: the signed difference of two directions around the circle. -/
def headingDiffDeg (a b : α) : α := pyMod (a - b + 180) 360 - 180

/-! ### Lengths -/

section Lengths

variable [LawfulHypot α]

theorem segmentLength_nonneg (a b : Point α) : 0 ≤ segmentLength a b := hypot_nonneg _ _

theorem eq_of_segmentLength_eq_zero {a b : Point α} (zero : segmentLength a b = 0) : a = b := by
  obtain ⟨first, second⟩ := (hypot_eq_zero _ _).mp zero
  exact Prod.ext (sub_eq_zero.mp first).symm (sub_eq_zero.mp second).symm

theorem segmentLength_self (a : Point α) : segmentLength a a = 0 := by
  rw [segmentLength, sub_self, sub_self]
  exact (hypot_eq_zero _ _).mpr ⟨rfl, rfl⟩

theorem polylineLength_nonneg (line : Polyline α) : 0 ≤ polylineLength line := by
  refine List.sum_nonneg fun length member => ?_
  obtain ⟨pair, _, rfl⟩ := List.mem_map.mp member
  exact segmentLength_nonneg pair.1 pair.2

/-- A polyline of length zero stays at its first point. -/
theorem last_eq_first_of_length_eq_zero (line : Polyline α) (zero : polylineLength line = 0) :
    line.last = line.first := by
  obtain ⟨first, rest⟩ := line
  induction rest generalizing first with
  | nil => rfl
  | cons next rest inductionHypothesis =>
    have split : polylineLength ⟨first, next :: rest⟩ =
        segmentLength first next + polylineLength ⟨next, rest⟩ := rfl
    rw [split] at zero
    have parts := (add_eq_zero_iff_of_nonneg (segmentLength_nonneg first next)
      (polylineLength_nonneg _)).mp zero
    rw [eq_of_segmentLength_eq_zero parts.1]
    have shifted : (next :: rest).getLastD next = rest.getLastD next := List.getLastD_cons ..
    exact shifted.trans (inductionHypothesis next parts.2)

theorem polylineLength_pos (line : Polyline α) (apart : line.last ≠ line.first) :
    0 < polylineLength line :=
  lt_of_le_of_ne (polylineLength_nonneg line) fun zero =>
    apart (last_eq_first_of_length_eq_zero line zero.symm)

end Lengths

/-- `trim` accepts every pair of progresses in order. -/
theorem exists_trim (line : Polyline α) {s0 s1 : α} (ordered : s0 ≤ s1) :
    ∃ part, trim line s0 s1 = .ok part := by
  have notReversed : ¬ s1 + tolerance < s0 :=
    not_lt.mpr (ordered.trans (le_add_of_nonneg_right tolerance_pos.le))
  unfold trim
  rw [if_neg notReversed]
  dsimp only
  split
  · exact ⟨_, rfl⟩
  · split
    · exact ⟨_, rfl⟩
    · split <;> exact ⟨_, rfl⟩

end RcTaxi
