/-
This file compares an image with its mirror image about the axis of the vehicle. The runs of yellow
pixels and the boxes of the dashes are mirrored one by one, so the candidates of a row come in the
opposite order, and the lane around the axis is the mirrored lane. A single candidate is moved by
half a lane to the right if it is left of the axis, and else to the left; a candidate on the axis is
its own mirror image and is moved to the left both times.

Where that does not happen the fitted line is mirrored with the image, and the deviation changes its
sign.
-/

import RcTaxi.LaneCenter
import RcTaxi.LineFit

namespace RcTaxi

variable {α : Type} [Scalar α]

/-- The fact about `np.degrees(np.arctan2(slope, 1.0))` that mirroring a slope needs. -/
class SymmetricAtan2 (α : Type) [Scalar α] : Prop where
  degrees_atan2_neg : ∀ slope : α, degrees (atan2 (-slope) 1) = -degrees (atan2 slope 1)

export SymmetricAtan2 (degrees_atan2_neg)

instance : SymmetricAtan2 ℝ where
  degrees_atan2_neg slope := by
    have ahead : Complex.arg ⟨1, slope⟩ ≠ Real.pi :=
      fun back => absurd (Complex.arg_eq_pi_iff.mp back).1 (not_lt.mpr zero_le_one)
    have mirrored : Complex.arg ⟨1, -slope⟩ = -Complex.arg ⟨1, slope⟩ :=
      (Complex.arg_conj ⟨1, slope⟩).trans (if_neg ahead)
    change Complex.arg ⟨1, -slope⟩ * 180 / Real.pi = -(Complex.arg ⟨1, slope⟩ * 180 / Real.pi)
    rw [mirrored, neg_mul, neg_div]

instance : SymmetricAtan2 ℚ where
  degrees_atan2_neg slope := by
    unfold degrees atan2 instScalarRat
    dsimp only [id]
    rcases lt_trichotomy slope 0 with falling | rfl | rising
    · rw [if_neg (neg_ne_zero.mpr falling.ne), if_neg one_ne_zero, if_pos one_pos,
        if_pos (neg_pos.mpr falling), if_neg falling.ne, if_neg one_ne_zero, if_pos one_pos,
        if_neg falling.not_gt, neg_neg]
    · norm_num
    · rw [if_neg (neg_ne_zero.mpr rising.ne'), if_neg one_ne_zero, if_pos one_pos,
        if_neg (neg_neg_of_pos rising).not_gt, if_neg rising.ne', if_neg one_ne_zero,
        if_pos one_pos, if_pos rising]

/-! ### Rounding -/

theorem nearestEven_intCast (whole : ℤ) : nearestEven (whole : α) = whole := by
  unfold nearestEven
  dsimp only
  rw [Int.floor_intCast, sub_self, if_pos (by norm_num)]

/-- Between two integers the nearest one is found from either side: the even one is even there
too. -/
theorem nearestEven_neg (scaled : α) : nearestEven (-scaled) = -nearestEven scaled := by
  rcases eq_or_ne ((⌊scaled⌋ : ℤ) : α) scaled with whole | between
  · rw [← whole, ← Int.cast_neg, nearestEven_intCast, nearestEven_intCast]
  · have below : ((⌊scaled⌋ : ℤ) : α) < scaled := lt_of_le_of_ne (Int.floor_le scaled) between
    have above := Int.lt_floor_add_one scaled
    have floor : ⌊-scaled⌋ = -⌊scaled⌋ - 1 := by
      rw [Int.floor_eq_iff]
      push_cast
      exact ⟨by linarith only [above], by linarith only [below]⟩
    unfold nearestEven
    dsimp only
    rw [floor]
    push_cast
    generalize ((⌊scaled⌋ : ℤ) : α) = start at *
    rcases lt_trichotomy (scaled - start) (1 / 2) with low | middle | high
    · rw [if_pos low, if_neg (by linarith only [low]), if_pos (by linarith only [low])]
      omega
    · rw [if_neg (by linarith only [middle]), if_neg (by linarith only [middle]),
        if_neg middle.not_lt, if_neg middle.not_gt]
      split
      · split
        · omega
        · omega
      · split
        · omega
        · omega
    · rw [if_pos (by linarith only [high]), if_neg high.not_gt, if_pos high]
      omega

/-- Rounding is symmetric. -/
theorem pyRound_neg (x : α) (digits : ℕ) : pyRound (-x) digits = -pyRound x digits := by
  rw [pyRound, pyRound, neg_mul, nearestEven_neg, Int.cast_neg, neg_div]

namespace LaneCenter

open LeastSquares

/-! ### The mirror -/

/-- A column on the other side of the axis. -/
def reflect (x : α) : α := vehicleAxisPx + (vehicleAxisPx - x)

theorem reflect_reflect (x : α) : reflect (reflect x) = x := by
  unfold reflect
  ring

theorem reflect_lt_reflect {x y : α} : reflect x < reflect y ↔ y < x := by
  unfold reflect
  rw [add_lt_add_iff_left, sub_lt_sub_iff_left]

theorem reflect_sub_axis (x : α) : reflect x - vehicleAxisPx = -(x - vehicleAxisPx) := by
  unfold reflect
  ring

theorem reflect_axis : reflect (vehicleAxisPx : α) = vehicleAxisPx := by
  unfold reflect
  rw [sub_self, add_zero]

/-- The mirror image of a mask. -/
def YellowMask.mirrored (mask : YellowMask) : YellowMask where
  rows := mask.rows
  columns := max mask.columns 954
  isSet row column :=
    decide (column ≤ 954 ∧ 954 - column < mask.columns) && mask.isSet row (954 - column)

/-- The mirror image of a box. -/
def DashBox.mirrored (box : DashBox α) : DashBox α :=
  ⟨reflect box.x2, box.y1, reflect box.x1, box.y2⟩

/-- The set columns lie in 1..953. -/
def YellowMask.Inside (mask : YellowMask) : Prop :=
  ∀ row column, column < mask.columns → mask.isSet row column = true →
    1 ≤ column ∧ column ≤ 953

/-! ### Runs of pixels -/

theorem mem_flatnonzero {mask : YellowMask} {row : ℕ} {column : ℤ} :
    column ∈ mask.flatnonzero row ↔
      ∃ index : ℕ, (index < mask.columns ∧ mask.isSet row index = true) ∧ (index : ℤ) = column := by
  unfold YellowMask.flatnonzero
  simp only [List.mem_map, List.mem_filter, List.mem_range]

theorem pairwise_flatnonzero (mask : YellowMask) (row : ℕ) :
    (mask.flatnonzero row).Pairwise (· < ·) := by
  refine List.pairwise_map.mpr ((List.pairwise_lt_range.filter _).imp fun before => ?_)
  exact Int.ofNat_lt.mpr before

/-- The set columns of the mirror image. -/
theorem flatnonzero_mirrored {mask : YellowMask} (inside : mask.Inside) (row : ℕ) :
    mask.mirrored.flatnonzero row = ((mask.flatnonzero row).map (954 - ·)).reverse := by
  refine List.Pairwise.eq_of_mem_iff (pairwise_flatnonzero _ _) ?_ fun column => ?_
  · refine List.pairwise_reverse.mpr (List.pairwise_map.mpr ?_)
    exact (pairwise_flatnonzero mask row).imp fun before => sub_lt_sub_left before _
  · rw [List.mem_reverse, List.mem_map, mem_flatnonzero]
    constructor
    · rintro ⟨index, ⟨_, found⟩, rfl⟩
      obtain ⟨⟨small, present⟩, isSet⟩ := Bool.and_eq_true_iff.mp found |>.imp of_decide_eq_true id
      exact ⟨(954 - index : ℕ), mem_flatnonzero.mpr ⟨954 - index, ⟨present, isSet⟩, rfl⟩, by omega⟩
    · rintro ⟨original, found, rfl⟩
      obtain ⟨index, ⟨present, isSet⟩, rfl⟩ := mem_flatnonzero.mp found
      obtain ⟨low, high⟩ := inside row index present isSet
      have back : 954 - (954 - index) = index := by omega
      refine ⟨954 - index, ⟨lt_max_of_lt_right (by omega), ?_⟩, by omega⟩
      refine Bool.and_eq_true_iff.mpr ⟨decide_eq_true ⟨by omega, ?_⟩, ?_⟩
      · rw [back]
        exact present
      · rw [back]
        exact isSet

/-- The runs of the mirrored columns are the mirrored runs in the opposite order. -/
theorem splitBy_mirror (cols : List ℤ) :
    ((cols.map (954 - ·)).reverse.splitBy fun before after => after - before ≤ 4) =
      ((cols.splitBy fun before after => after - before ≤ 4).map fun run =>
        (run.map (954 - ·)).reverse).reverse := by
  have same : ∀ before after : ℤ,
      decide (954 - before - (954 - after) ≤ 4) = decide (after - before ≤ 4) := by
    intro before after
    rw [sub_sub_sub_cancel_left]
  rw [List.splitBy_eq_iff]
  refine ⟨?_, ?_, ?_, ?_⟩
  · have whole := List.flatten_splitBy (fun before after : ℤ => decide (after - before ≤ 4)) cols
    have turned : ∀ runs : List (List ℤ), (runs.flatten.map (954 - ·)).reverse =
        (runs.map fun run => (run.map (954 - ·)).reverse).reverse.flatten := by
      intro runs
      rw [List.map_flatten, List.reverse_flatten, List.map_map]
      rfl
    rw [← turned, whole]
  · rw [List.mem_reverse, List.mem_map]
    rintro ⟨run, member, empty⟩
    rw [List.reverse_eq_nil_iff, List.map_eq_nil_iff] at empty
    exact List.nil_notMem_splitBy _ _ (empty ▸ member)
  · intro mirrored member
    obtain ⟨run, found, rfl⟩ := List.mem_map.mp (List.mem_reverse.mp member)
    rw [List.isChain_reverse, List.isChain_map]
    refine (List.isChain_of_mem_splitBy found).imp fun before after close => ?_
    exact (same before after).trans close
  · rw [List.isChain_reverse, List.isChain_map]
    refine (List.isChain_getLast_head_splitBy _ _).imp fun before after apart => ?_
    obtain ⟨some, others, apart⟩ := apart
    refine ⟨by simpa using others, by simpa using some, ?_⟩
    rw [List.getLast_reverse, List.head_reverse, List.head_map, List.getLast_map]
    exact (same _ _).trans apart

/-- The mean of a mirrored run. -/
theorem mean_mirror {run : List ℤ} (nonempty : run ≠ []) :
    (mean ((run.map (954 - ·)).reverse) : α) = reflect (mean run) := by
  have positive : (run.length : α) ≠ 0 :=
    Nat.cast_ne_zero.mpr fun empty => nonempty (List.length_eq_zero_iff.mp empty)
  have total : ∀ columns : List ℤ, ((columns.map (954 - ·)).map (Int.cast : ℤ → α)).sum =
      954 * columns.length - (columns.map (Int.cast : ℤ → α)).sum := by
    intro columns
    induction columns with
    | nil =>
      simp only [List.map_nil, List.sum_nil, List.length_nil, Nat.cast_zero, mul_zero, sub_zero]
    | cons column rest inductionHypothesis =>
      simp only [List.map_cons, List.sum_cons, List.length_cons, inductionHypothesis]
      push_cast
      ring
  unfold mean reflect vehicleAxisPx
  rw [List.map_reverse, List.sum_reverse, total, List.length_reverse, List.length_map, sub_div,
    mul_div_cancel_right₀ _ positive]
  ring

/-- The centres of the runs are mirrored, in the opposite order. -/
theorem runsCenters_mirror (cols : List ℤ) :
    (runsCenters ((cols.map (954 - ·)).reverse) : List α) =
      ((runsCenters cols).map reflect).reverse := by
  unfold runsCenters
  rw [splitBy_mirror, List.map_reverse, List.map_map, List.map_map]
  refine congrArg List.reverse (List.map_congr_left fun run member => ?_)
  exact mean_mirror (List.ne_nil_of_mem_splitBy member)

/-! ### Candidates in order -/

theorem center_mirrored (box : DashBox α) : box.mirrored.center = reflect box.center := by
  unfold DashBox.center DashBox.mirrored reflect
  ring

/-- The candidates of a row are mirrored, in some order. -/
theorem candidates_mirrored {mask : YellowMask} (inside : mask.Inside) (boxes : List (DashBox α))
    (row : ℕ) :
    (candidates mask.mirrored (boxes.map DashBox.mirrored) row).Perm
      ((candidates mask boxes row).map reflect) := by
  unfold candidates
  rw [flatnonzero_mirrored inside, runsCenters_mirror, List.map_append, List.filter_map,
    List.map_map, List.map_map]
  refine (List.reverse_perm _).append (List.Perm.of_eq ?_)
  exact List.map_congr_left fun box _ => center_mirrored box

/-- Sorting the mirrored candidates turns their order around. -/
theorem insertionSort_mirror {list mirrored : List α} (same : mirrored.Perm (list.map reflect)) :
    mirrored.insertionSort (· ≤ ·) = ((list.insertionSort (· ≤ ·)).map reflect).reverse := by
  refine List.Perm.eq_of_pairwise' (List.pairwise_insertionSort _ _) ?_ ?_
  · refine List.pairwise_reverse.mpr (List.pairwise_map.mpr ?_)
    refine (List.pairwise_insertionSort (· ≤ ·) list).imp fun {before after} ordered => ?_
    exact not_lt.mp fun swapped => not_lt.mpr ordered (reflect_lt_reflect.mp swapped)
  · refine (List.perm_insertionSort _ _).trans (same.trans ?_)
    exact ((List.perm_insertionSort _ list).symm.map reflect).trans (List.reverse_perm _).symm

theorem centers_mirrored {mask : YellowMask} (inside : mask.Inside) (boxes : List (DashBox α))
    (row : ℕ) :
    centers mask.mirrored (boxes.map DashBox.mirrored) row =
      ((centers mask boxes row).map reflect).reverse :=
  insertionSort_mirror (candidates_mirrored inside boxes row)

theorem pairwise_centers (mask : YellowMask) (boxes : List (DashBox α)) (row : ℕ) :
    (centers mask boxes row).Pairwise (· ≤ ·) := List.pairwise_insertionSort _ _

/-! ### The lane around the axis -/

/-- Neighbours in a list. -/
theorem mem_zip_tail {Item : Type} {list : List Item} {pair : Item × Item} :
    pair ∈ list.zip list.tail ↔ ∃ before after, list = before ++ pair.1 :: pair.2 :: after := by
  induction list with
  | nil =>
    refine ⟨fun member => (nomatch member), fun ⟨before, after, shape⟩ => ?_⟩
    cases before with
    | nil => cases shape
    | cons _ _ => cases shape
  | cons first rest inductionHypothesis =>
    cases rest with
    | nil =>
      refine ⟨fun member => (nomatch member), fun ⟨before, after, shape⟩ => ?_⟩
      have short := congrArg List.length shape
      simp only [List.length_append, List.length_cons, List.length_nil] at short
      omega
    | cons second rest =>
      rw [List.tail_cons, List.zip_cons_cons, List.mem_cons]
      rw [List.tail_cons] at inductionHypothesis
      constructor
      · rintro (rfl | later)
        · exact ⟨[], rest, rfl⟩
        · obtain ⟨before, after, shape⟩ := inductionHypothesis.mp later
          exact ⟨first :: before, after, congrArg (first :: ·) shape⟩
      · rintro ⟨before, after, shape⟩
        cases before with
        | nil =>
          rw [List.nil_append, List.cons.injEq, List.cons.injEq] at shape
          exact .inl (Prod.ext shape.1.symm shape.2.1.symm)
        | cons head before =>
          rw [List.cons_append, List.cons.injEq] at shape
          exact .inr (inductionHypothesis.mpr ⟨before, after, shape.2⟩)

/-- Neighbours in the mirrored list. -/
theorem mem_zip_tail_mirror {list : List α} {pair : α × α} :
    (reflect pair.2, reflect pair.1) ∈
        ((list.map reflect).reverse).zip ((list.map reflect).reverse).tail ↔
      pair ∈ list.zip list.tail := by
  have turned : ∀ (items : List α) (found : α × α), found ∈ items.zip items.tail →
      (reflect found.2, reflect found.1) ∈
        ((items.map reflect).reverse).zip ((items.map reflect).reverse).tail := by
    intro items found member
    obtain ⟨before, after, shape⟩ := mem_zip_tail.mp member
    refine mem_zip_tail.mpr ⟨(after.map reflect).reverse, (before.map reflect).reverse, ?_⟩
    rw [shape]
    simp only [List.map_append, List.map_cons, List.reverse_append, List.reverse_cons,
      List.append_assoc, List.cons_append, List.nil_append]
  constructor
  · intro member
    have back := turned _ _ member
    rw [List.map_reverse, List.reverse_reverse, List.map_map] at back
    have involution : reflect ∘ reflect = (id : α → α) := funext reflect_reflect
    rw [involution, List.map_id, reflect_reflect, reflect_reflect] at back
    exact back
  · exact turned list pair

/-- A pair and its mirror image are lanes together. -/
theorem isLane_mirror {pair : α × α} : IsLane (reflect pair.2, reflect pair.1) ↔ IsLane pair := by
  have width : reflect pair.1 - reflect pair.2 = pair.2 - pair.1 := by
    unfold reflect
    ring
  unfold IsLane
  rw [width]
  refine and_congr_left' (and_comm.trans (and_congr ?_ ?_))
  · rw [← reflect_axis, reflect_lt_reflect, reflect_axis]
  · rw [← reflect_axis, reflect_lt_reflect, reflect_axis]

/-- What the loop ends with is a lane among the pairs, or what it began with. -/
theorem foldl_narrower_mem (pairs : List (α × α)) (best : Option (α × α)) {found : α × α}
    (ends : pairs.foldl narrower best = some found) :
    best = some found ∨ found ∈ pairs ∧ IsLane found := by
  induction pairs generalizing best with
  | nil => exact .inl ends
  | cons pair rest inductionHypothesis =>
    rcases inductionHypothesis _ ends with kept | ⟨member, lane⟩
    · unfold narrower at kept
      split at kept
      next lane =>
        split at kept
        · cases kept
          exact .inr ⟨List.mem_cons_self, lane⟩
        · split at kept
          · cases kept
            exact .inr ⟨List.mem_cons_self, lane⟩
          · exact .inl kept
      next => exact .inl kept
    · exact .inr ⟨List.mem_cons_of_mem _ member, lane⟩

/-- A lane among the pairs is not passed over for none. -/
theorem foldl_narrower_isSome (pairs : List (α × α)) (best : Option (α × α))
    (present : best.isSome = true ∨ ∃ pair ∈ pairs, IsLane pair) :
    (pairs.foldl narrower best).isSome = true := by
  induction pairs generalizing best with
  | nil => exact present.elim id fun ⟨_, among, _⟩ => (nomatch among)
  | cons pair rest inductionHypothesis =>
    refine inductionHypothesis _ ?_
    by_cases lane : IsLane pair
    · refine .inl ?_
      unfold narrower
      rw [if_pos lane]
      split
      · rfl
      · split
        · rfl
        · rfl
    · unfold narrower
      rw [if_neg lane]
      refine present.imp id fun ⟨other, member, isLane⟩ => ⟨other, ?_, isLane⟩
      exact (List.mem_cons.mp member).resolve_left fun same => lane (same ▸ isLane)

/-- At most one pair of neighbours in order is around the axis. -/
theorem lane_unique {list : List α} (sorted : list.Pairwise (· ≤ ·)) {first second : α × α}
    (member : first ∈ list.zip list.tail) (lane : IsLane first)
    (member' : second ∈ list.zip list.tail) (lane' : IsLane second) : first = second := by
  have ahead : ∀ (head : α) (rest : List α), (head :: rest).Pairwise (· ≤ ·) →
      ∀ pair ∈ (head :: rest).zip rest, head ≤ pair.1 := by
    intro head rest ordered pair found
    rcases List.mem_cons.mp (List.of_mem_zip found).1 with same | later
    · exact le_of_eq same.symm
    · exact List.rel_of_pairwise_cons ordered later
  induction list with
  | nil => cases member
  | cons head rest inductionHypothesis =>
    cases rest with
    | nil => cases member
    | cons next rest =>
      rw [List.tail_cons, List.zip_cons_cons, List.mem_cons] at member member'
      have later := List.Pairwise.of_cons sorted
      have beyond : ∀ pair ∈ (next :: rest).zip rest, IsLane (head, next) → ¬ IsLane pair :=
        fun pair found here there =>
          absurd (here.1.2.trans_le (ahead next rest later pair found)) there.1.1.not_gt
      rcases member with rfl | found
      · rcases member' with rfl | found'
        · rfl
        · exact absurd lane' (beyond second found' lane)
      · rcases member' with rfl | found'
        · exact absurd lane (beyond first found lane')
        · exact inductionHypothesis later found found'

/-- Of candidates in order, the loop finds the lane if there is one. -/
theorem lanePair_eq_some_iff {list : List α} (sorted : list.Pairwise (· ≤ ·)) {pair : α × α} :
    lanePair list = some pair ↔ pair ∈ list.zip list.tail ∧ IsLane pair := by
  constructor
  · intro found
    exact (foldl_narrower_mem _ _ found).resolve_left (nomatch ·)
  · rintro ⟨member, lane⟩
    obtain ⟨best, found⟩ := Option.isSome_iff_exists.mp
      (foldl_narrower_isSome (list.zip list.tail) none (.inr ⟨pair, member, lane⟩))
    obtain ⟨member', lane'⟩ := (foldl_narrower_mem _ _ found).resolve_left (nomatch ·)
    rw [lane_unique sorted member lane member' lane']
    exact found

/-- The lane of the mirrored candidates is the mirrored lane. -/
theorem lanePair_mirror {list : List α} (sorted : list.Pairwise (· ≤ ·)) :
    lanePair (list.map reflect).reverse =
      (lanePair list).map fun pair => (reflect pair.2, reflect pair.1) := by
  have turned : ((list.map reflect).reverse).Pairwise (· ≤ ·) := by
    refine List.pairwise_reverse.mpr (List.pairwise_map.mpr ?_)
    refine sorted.imp fun {before after} le => ?_
    exact not_lt.mp fun swapped => not_lt.mpr le (reflect_lt_reflect.mp swapped)
  refine Option.ext fun mirrored => ?_
  rw [lanePair_eq_some_iff turned, Option.map_eq_some_iff]
  have twice : (reflect (reflect mirrored.1), reflect (reflect mirrored.2)) = mirrored := by
    rw [reflect_reflect, reflect_reflect]
  constructor
  · rintro ⟨member, lane⟩
    refine ⟨(reflect mirrored.2, reflect mirrored.1), ?_, twice⟩
    rw [← twice] at member lane
    exact (lanePair_eq_some_iff sorted).mpr
      ⟨mem_zip_tail_mirror.mp member, isLane_mirror.mp lane⟩
  · rintro ⟨pair, found, rfl⟩
    obtain ⟨member, lane⟩ := (lanePair_eq_some_iff sorted).mp found
    exact ⟨mem_zip_tail_mirror.mpr member, isLane_mirror.mpr lane⟩

/-! ### One row -/

/-- There is no lane, and the only candidate near the axis lies on it. -/
def OnAxis (centers : List α) : Prop := lanePair centers = none ∧ near centers = [vehicleAxisPx]

instance decidableOnAxis (centers : List α) : Decidable (OnAxis centers) :=
  inferInstanceAs (Decidable (_ ∧ _))

/-- The estimate on the other side of the axis. -/
def RowEstimate.mirror : RowEstimate α → RowEstimate α
  | .pair mid => .pair (reflect mid)
  | .single mid => .single (reflect mid)
  | .nothing => .nothing

theorem near_mirror (list : List α) :
    near (list.map reflect).reverse = ((near list).map reflect).reverse := by
  unfold near
  rw [List.filter_reverse, List.filter_map]
  refine congrArg (fun kept => (List.map reflect kept).reverse) (List.filter_congr fun c _ => ?_)
  rw [Function.comp_apply, reflect_sub_axis, abs_neg]

/-- A candidate off the axis is taken for the other border in the mirror image. -/
theorem single_mirror {c : α} (off : c ≠ vehicleAxisPx) :
    (if reflect c < vehicleAxisPx then reflect c + laneHalfPx else reflect c - laneHalfPx) =
      reflect (if c < vehicleAxisPx then c + laneHalfPx else c - laneHalfPx) := by
  have sides : reflect c < vehicleAxisPx ↔ vehicleAxisPx < c := by
    rw [← reflect_axis, reflect_lt_reflect, reflect_axis]
  rcases lt_or_gt_of_ne off with left | right
  · rw [if_neg fun crossed => left.not_gt (sides.mp crossed), if_pos left]
    unfold reflect
    ring
  · rw [if_pos (sides.mpr right), if_neg right.not_gt]
    unfold reflect
    ring

theorem singleEstimate_of_length {kept : List α} (several : kept.length ≠ 1) :
    singleEstimate kept = .nothing := by
  unfold singleEstimate
  split
  · exact absurd rfl several
  · rfl

/-- The one-sided estimate is mirrored, except for a candidate on the axis. -/
theorem singleEstimate_mirror (kept : List α) :
    singleEstimate (kept.map reflect).reverse =
      if kept = [vehicleAxisPx] then singleEstimate kept else (singleEstimate kept).mirror := by
  by_cases one : kept.length = 1
  · obtain ⟨c, rfl⟩ := List.length_eq_one_iff.mp one
    by_cases on : c = vehicleAxisPx
    · rw [on, if_pos rfl, List.map_singleton, reflect_axis]
      rfl
    · rw [if_neg fun same => on (List.cons.inj same).1]
      exact congrArg RowEstimate.single (single_mirror on)
  · have several : ((kept.map reflect).reverse).length ≠ 1 := by
      rw [List.length_reverse, List.length_map]
      exact one
    rw [if_neg fun same => one (congrArg List.length same), singleEstimate_of_length several,
      singleEstimate_of_length one]
    rfl

/-- The estimate of mirrored candidates is the mirrored estimate, except on the axis, where it is
the same estimate. -/
theorem rowEstimate_mirror {list : List α} (sorted : list.Pairwise (· ≤ ·)) :
    rowEstimate (list.map reflect).reverse =
      if OnAxis list then rowEstimate list else (rowEstimate list).mirror := by
  unfold rowEstimate
  rw [lanePair_mirror sorted, near_mirror, singleEstimate_mirror]
  cases found : lanePair list with
  | none =>
    by_cases kept : near list = [vehicleAxisPx]
    · have onAxis : OnAxis list := ⟨found, kept⟩
      rw [if_pos onAxis]
      exact if_pos kept
    · have offAxis : ¬ OnAxis list := fun onAxis => kept onAxis.2
      rw [if_neg offAxis]
      exact if_neg kept
  | some best =>
    have offAxis : ¬ OnAxis list := fun onAxis => (nomatch found.symm.trans onAxis.1)
    rw [if_neg offAxis]
    refine congrArg RowEstimate.pair ?_
    unfold reflect
    ring

/-! ### All rows -/

/-- What the scanned rows say. -/
def scanned (mask : YellowMask) (boxes : List (DashBox α)) : List (ℕ × RowEstimate α) :=
  segRows.map fun row => (row, rowEstimate (centers mask boxes row))

theorem mapM_scanRow (mask : YellowMask) (boxes : List (DashBox α)) (rows : List ℕ) :
    rows.mapM (scanRow mask boxes) =
      if ∀ row ∈ rows, row < mask.rows then
        .ok (rows.map fun row => (row, rowEstimate (centers mask boxes row)))
      else .error .indexError := by
  induction rows with
  | nil => exact (if_pos fun _ none => (nomatch none)).symm
  | cons row rest inductionHypothesis =>
    rw [List.mapM_cons, inductionHypothesis, scanRow]
    by_cases inImage : row < mask.rows
    · rw [if_pos inImage]
      by_cases others : ∀ row ∈ rest, row < mask.rows
      · have all : ∀ other ∈ row :: rest, other < mask.rows :=
          List.forall_mem_cons.mpr ⟨inImage, others⟩
        rw [if_pos others, if_pos all]
        rfl
      · have missing : ¬ ∀ other ∈ row :: rest, other < mask.rows :=
          fun all => others (List.forall_mem_cons.mp all).2
        rw [if_neg others, if_neg missing]
        rfl
    · have missing : ¬ ∀ other ∈ row :: rest, other < mask.rows :=
        fun all => inImage (all row List.mem_cons_self)
      rw [if_neg inImage, if_neg missing]
      rfl

theorem computeSeg_eq (polyfit : List α → List α → α × α) (mask : YellowMask)
    (boxes : List (DashBox α)) :
    computeSeg polyfit mask boxes =
      if ∀ row ∈ segRows, row < mask.rows then .ok (conclude polyfit (scanned mask boxes))
      else .error .indexError := by
  rw [computeSeg, mapM_scanRow]
  split
  · rfl
  · rfl

/-- What the rows of the mirror image say. -/
theorem scanned_mirrored {mask : YellowMask} (inside : mask.Inside) (boxes : List (DashBox α)) :
    scanned mask.mirrored (boxes.map DashBox.mirrored) = segRows.map fun row =>
      (row, if OnAxis (centers mask boxes row) then rowEstimate (centers mask boxes row)
        else (rowEstimate (centers mask boxes row)).mirror) := by
  refine List.map_congr_left fun row _ => ?_
  rw [centers_mirrored inside, rowEstimate_mirror (pairwise_centers mask boxes row)]

/-- Mirrored or not, a row has an estimate, and from a pair, as before. -/
theorem mirror_kind (estimate : RowEstimate α) :
    estimate.mirror.mid? = estimate.mid?.map reflect ∧
      estimate.mirror.isPair = estimate.isPair := by
  cases estimate with
  | pair mid => exact ⟨rfl, rfl⟩
  | single mid => exact ⟨rfl, rfl⟩
  | nothing => exact ⟨rfl, rfl⟩

/-- As many rows are used, and as many pairs among them, as in the image itself. -/
theorem counts_mirrored {mask : YellowMask} (inside : mask.Inside) (boxes : List (DashBox α)) :
    (points (scanned mask.mirrored (boxes.map DashBox.mirrored))).length =
        (points (scanned mask boxes)).length ∧
      ((scanned mask.mirrored (boxes.map DashBox.mirrored)).countP fun entry => entry.2.isPair) =
        (scanned mask boxes).countP fun entry => entry.2.isPair := by
  rw [scanned_mirrored inside]
  unfold points scanned
  rw [List.length_filterMap_eq_countP, List.length_filterMap_eq_countP, List.countP_map,
    List.countP_map, List.countP_map, List.countP_map]
  refine ⟨List.countP_congr fun row _ => ?_, List.countP_congr fun row _ => ?_⟩
  · dsimp only [Function.comp_apply]
    split
    · exact Iff.rfl
    · rw [(mirror_kind _).1]
      simp only [Option.isSome_map]
  · dsimp only [Function.comp_apply]
    split
    · exact Iff.rfl
    · rw [(mirror_kind _).2]

/-! ### The fitted line -/

/-- The points that are fitted, with their rows as numbers. -/
def numbers (pts : List (ℕ × α)) : List (α × α) := pts.map fun point => ((point.1 : α), point.2)

theorem fitted_eq (polyfit : List α → List α → α × α) (pts : List (ℕ × α)) :
    fitted polyfit pts = polyfit ((numbers pts).map Prod.fst) ((numbers pts).map Prod.snd) := by
  unfold fitted numbers
  rw [List.map_map, List.map_map]
  rfl

/-- The points of the mirror image. -/
def reflectPoints (pts : List (ℕ × α)) : List (ℕ × α) :=
  pts.map fun point => (point.1, reflect point.2)

/-- The line through mirrored points is the mirrored line. -/
theorem fitted_reflect {polyfit : List α → List α → α × α} (fits : FitsLine polyfit)
    {pts : List (ℕ × α)}
    (distinct : ∃ first ∈ numbers pts, ∃ second ∈ numbers pts, first.1 ≠ second.1) :
    fitted polyfit (reflectPoints pts) =
      (-(fitted polyfit pts).1, reflect (fitted polyfit pts).2) := by
  have scaled : ∀ x : α, reflect x = -1 * x + 2 * vehicleAxisPx := by
    intro x
    unfold reflect
    ring
  have same : numbers (reflectPoints pts) =
      (numbers pts).map fun point => (point.1, -1 * point.2 + 2 * vehicleAxisPx) := by
    unfold numbers reflectPoints
    rw [List.map_map, List.map_map]
    exact List.map_congr_left fun point _ => Prod.ext rfl (scaled point.2)
  have distinct' : ∃ first ∈ numbers (reflectPoints pts),
      ∃ second ∈ numbers (reflectPoints pts), first.1 ≠ second.1 := by
    obtain ⟨first, member, second, member', apart⟩ := distinct
    rw [same]
    exact ⟨_, List.mem_map_of_mem member, _, List.mem_map_of_mem member', apart⟩
  have line := (fits (numbers pts) distinct).normalEquations.scaled_line (-1) (2 * vehicleAxisPx)
  have line' := fits (numbers (reflectPoints pts)) distinct'
  rw [← fitted_eq polyfit pts, ← same, ← scaled, neg_one_mul] at line
  rw [← fitted_eq polyfit (reflectPoints pts)] at line'
  exact Least.line_unique distinct' line' line.least

/-- The residuals of the fitted line sum to zero. -/
theorem sum_residuals_fitted {polyfit : List α → List α → α × α} (fits : FitsLine polyfit)
    {pts : List (ℕ × α)}
    (distinct : ∃ first ∈ numbers pts, ∃ second ∈ numbers pts, first.1 ≠ second.1) :
    (pts.map fun point => (fitted polyfit pts).1 * (point.1 : α) + (fitted polyfit pts).2 -
      point.2).sum = 0 := by
  have plain := (normalEquations_line_iff.mp (fits (numbers pts) distinct).normalEquations).2
  rw [← fitted_eq polyfit pts] at plain
  unfold numbers at plain
  rwa [List.map_map] at plain

omit [Scalar α] in
/-- The rows of the points ascend. -/
theorem pairwise_points (estimate : ℕ → RowEstimate α) :
    (points (segRows.map fun row => (row, estimate row))).Pairwise fun before after =>
      before.1 < after.1 := by
  have ascending : segRows.Pairwise (· < ·) := by decide
  refine List.pairwise_filterMap.mpr (List.pairwise_map.mpr (ascending.imp fun before => ?_))
  intro first found second found'
  obtain ⟨_, _, rfl⟩ := Option.map_eq_some_iff.mp found
  obtain ⟨_, _, rfl⟩ := Option.map_eq_some_iff.mp found'
  exact before

/-- Enough points are not all in one row. -/
theorem exists_distinct {pts : List (ℕ × α)} (ascending : pts.Pairwise fun before after =>
    before.1 < after.1) (enough : minRows ≤ pts.length) :
    ∃ first ∈ numbers pts, ∃ second ∈ numbers pts, first.1 ≠ second.1 := by
  match pts with
  | [] => cases enough
  | [_] => exact absurd (show 5 ≤ 1 from enough) (by decide)
  | first :: second :: rest =>
    have before := List.rel_of_pairwise_cons ascending List.mem_cons_self
    exact ⟨_, List.mem_cons_self, _, List.mem_cons_of_mem _ List.mem_cons_self,
      fun same => before.ne (Nat.cast_injective same)⟩

/-- The deviation of mirrored points is the opposite one. -/
theorem deviation_reflect [SymmetricAtan2 α] {polyfit : List α → List α → α × α}
    (fits : FitsLine polyfit) {pts : List (ℕ × α)}
    (distinct : ∃ first ∈ numbers pts, ∃ second ∈ numbers pts, first.1 ≠ second.1) :
    deviation polyfit (reflectPoints pts) =
      (-(deviation polyfit pts).1, -(deviation polyfit pts).2) := by
  have rows : (reflectPoints pts).map Prod.fst = pts.map Prod.fst := by
    unfold reflectPoints
    rw [List.map_map]
    rfl
  unfold deviation
  dsimp only
  rw [fitted_reflect fits distinct, rows, degrees_atan2_neg]
  refine Prod.ext ?_ rfl
  dsimp only
  rw [← neg_div]
  unfold reflect
  ring

/-! ### The whole image -/

/-- The lane centre is the mirrored one: as valid, from as many rows and pairs, with the deviation
to the other side. -/
structure MirrorsTo (seen mirrored : SegResult α) : Prop where
  valid : mirrored.valid = seen.valid
  rows : mirrored.rows = seen.rows
  pairRows : mirrored.pairRows = seen.pairRows
  measured : mirrored.measured = seen.measured.map fun deviation => (-deviation.1, -deviation.2)

/-- The result for an image is mirrored with the image. -/
def IsSymmetric (polyfit : List α → List α → α × α) (mask : YellowMask)
    (boxes : List (DashBox α)) : Prop :=
  Alike MirrorsTo (computeSeg polyfit mask boxes)
    (computeSeg polyfit mask.mirrored (boxes.map DashBox.mirrored))

/-- No row is left to a single candidate on the axis. -/
def ClearOfAxis (mask : YellowMask) (boxes : List (DashBox α)) : Prop :=
  ∀ row ∈ segRows, ¬ OnAxis (centers mask boxes row)

instance decidableClearOfAxis (mask : YellowMask) (boxes : List (DashBox α)) :
    Decidable (ClearOfAxis mask boxes) :=
  inferInstanceAs (Decidable (∀ row ∈ segRows, ¬ OnAxis (centers mask boxes row)))

/-- Two candidates of the row make a lane, or exactly one of them is near the axis. -/
def Tells (centers : List α) : Prop := lanePair centers ≠ none ∨ (near centers).length = 1

instance decidableTells (centers : List α) : Decidable (Tells centers) :=
  inferInstanceAs (Decidable (_ ∨ _))

/-- Too few rows have candidates that say anything. -/
def TooFew (mask : YellowMask) (boxes : List (DashBox α)) : Prop :=
  segRows.countP (fun row => Tells (centers mask boxes row)) < minRows

theorem isSome_mid?_iff (list : List α) : (rowEstimate list).mid?.isSome = true ↔ Tells list := by
  unfold rowEstimate Tells
  cases lanePair list with
  | some best => exact iff_of_true rfl (.inl (Option.some_ne_none best))
  | none =>
    match near list with
    | [] => exact iff_of_false Bool.false_ne_true (by simp)
    | [_] => exact iff_of_true rfl (.inr rfl)
    | _ :: _ :: _ => exact iff_of_false Bool.false_ne_true (by simp)

/-- A row gives a point where its candidates say anything. -/
theorem length_points_scanned (mask : YellowMask) (boxes : List (DashBox α)) :
    (points (scanned mask boxes)).length =
      segRows.countP fun row => Tells (centers mask boxes row) := by
  unfold points scanned
  rw [List.filterMap_map, List.length_filterMap_eq_countP]
  refine List.countP_congr fun row _ => ?_
  rw [Function.comp_apply, Option.isSome_map, isSome_mid?_iff, decide_eq_true_iff]

theorem exists_distinct_scanned {mask : YellowMask} {boxes : List (DashBox α)}
    (enough : ¬ TooFew mask boxes) :
    ∃ first ∈ numbers (points (scanned mask boxes)),
      ∃ second ∈ numbers (points (scanned mask boxes)), first.1 ≠ second.1 := by
  rw [TooFew, ← length_points_scanned] at enough
  exact exists_distinct (pairwise_points _) (not_lt.mp enough)

/-- Off the axis, the points of the mirror image are the mirrored points. -/
theorem points_mirrored {mask : YellowMask} (inside : mask.Inside) {boxes : List (DashBox α)}
    (off : ClearOfAxis mask boxes) :
    points (scanned mask.mirrored (boxes.map DashBox.mirrored)) =
      reflectPoints (points (scanned mask boxes)) := by
  rw [scanned_mirrored inside]
  unfold points scanned reflectPoints
  rw [List.filterMap_map, List.filterMap_map, List.map_filterMap]
  refine List.filterMap_congr fun row member => ?_
  dsimp only [Function.comp_apply]
  rw [if_neg (off row member), (mirror_kind _).1, Option.map_map, Option.map_map]
  rfl

/-- Without a candidate on the axis, or with too few rows, the result is mirrored. -/
theorem conclude_mirrored [SymmetricAtan2 α] {polyfit : List α → List α → α × α}
    (fits : FitsLine polyfit) {mask : YellowMask} (inside : mask.Inside)
    {boxes : List (DashBox α)} (symmetric : ClearOfAxis mask boxes ∨ TooFew mask boxes) :
    MirrorsTo (conclude polyfit (scanned mask boxes))
      (conclude polyfit (scanned mask.mirrored (boxes.map DashBox.mirrored))) := by
  obtain ⟨sameRows, samePairs⟩ := counts_mirrored inside boxes
  unfold conclude
  dsimp only
  rw [sameRows, samePairs]
  by_cases few : TooFew mask boxes
  · have short : (points (scanned mask boxes)).length < minRows :=
      (length_points_scanned mask boxes).trans_lt few
    rw [if_pos short, if_pos short]
    exact ⟨rfl, rfl, rfl, rfl⟩
  · have off := symmetric.resolve_right few
    have long : ¬ (points (scanned mask boxes)).length < minRows :=
      fun short => few ((length_points_scanned mask boxes).symm.trans_lt short)
    rw [if_neg long, if_neg long, points_mirrored inside off,
      deviation_reflect fits (exists_distinct_scanned few), abs_neg, abs_neg]
    split
    · exact ⟨rfl, rfl, rfl, rfl⟩
    · refine ⟨rfl, rfl, rfl, ?_⟩
      dsimp only [Option.map_some]
      rw [pyRound_neg, pyRound_neg]

/-! ### A candidate on the axis -/

theorem rowEstimate_onAxis {list : List α} (onAxis : OnAxis list) :
    rowEstimate list = .single (vehicleAxisPx - laneHalfPx) := by
  rw [rowEstimate, onAxis.1]
  dsimp only
  rw [onAxis.2, singleEstimate, if_neg (lt_irrefl _)]

theorem sum_filterMap {Item Found : Type} (choose : Item → Option Found) (value : Found → α)
    (items : List Item) :
    ((items.filterMap choose).map value).sum =
      (items.map fun item => ((choose item).map value).getD 0).sum := by
  induction items with
  | nil => rfl
  | cons item rest inductionHypothesis =>
    rw [List.filterMap_cons, List.map_cons, List.sum_cons, ← inductionHypothesis]
    cases choose item with
    | none => exact (zero_add _).symm
    | some found => rfl

/-- Of a line and its mirror image, the residuals in the image and in the mirror image cancel in the
rows off the axis, and leave the width of a lane on it. -/
theorem residuals_cancel (slope start : α) (row : ℕ) {list : List α} :
    (((rowEstimate list).mid?.map fun mid => (row, mid)).map fun point : ℕ × α =>
        slope * point.1 + start - point.2).getD 0 +
      (((if OnAxis list then rowEstimate list else (rowEstimate list).mirror).mid?.map fun mid =>
        (row, mid)).map fun point : ℕ × α => -slope * point.1 + reflect start - point.2).getD 0 =
      if OnAxis list then 2 * laneHalfPx else 0 := by
  split
  next onAxis =>
    rw [rowEstimate_onAxis onAxis]
    dsimp only [RowEstimate.mid?, Option.map_some, Option.getD_some]
    unfold reflect
    ring
  next =>
    rw [(mirror_kind _).1]
    cases (rowEstimate list).mid? with
    | none => exact add_zero 0
    | some mid =>
      dsimp only [Option.map_some, Option.getD_some]
      unfold reflect
      ring

/-- Once a row is left to a candidate on the axis, the residuals do not cancel. -/
theorem sum_onAxis_pos {mask : YellowMask} {boxes : List (DashBox α)}
    (touching : ¬ ClearOfAxis mask boxes) :
    0 < (segRows.map fun row =>
      if OnAxis (centers mask boxes row) then 2 * laneHalfPx else (0 : α)).sum := by
  have lane : (0 : α) < 2 * laneHalfPx := by
    unfold laneHalfPx ppm
    norm_num
  unfold ClearOfAxis at touching
  simp only [not_forall, not_not] at touching
  obtain ⟨row, member, onAxis⟩ := touching
  have nonneg : ∀ share ∈ segRows.map fun row =>
      if OnAxis (centers mask boxes row) then 2 * laneHalfPx else (0 : α), 0 ≤ share := by
    intro share found
    obtain ⟨other, _, rfl⟩ := List.mem_map.mp found
    split
    · exact lane.le
    · exact le_rfl
  have one := List.single_le_sum nonneg _ (List.mem_map_of_mem member)
  rw [if_pos onAxis] at one
  exact lane.trans_le one

/-- With enough rows and one of them on the axis, the line of the mirror image is not the mirrored
line. -/
theorem fitted_mirrored_ne {polyfit : List α → List α → α × α} (fits : FitsLine polyfit)
    {mask : YellowMask} (inside : mask.Inside) {boxes : List (DashBox α)}
    (on : ¬ (ClearOfAxis mask boxes ∨ TooFew mask boxes)) :
    fitted polyfit (points (scanned mask.mirrored (boxes.map DashBox.mirrored))) ≠
      (-(fitted polyfit (points (scanned mask boxes))).1,
        reflect (fitted polyfit (points (scanned mask boxes))).2) := by
  obtain ⟨touching, enough⟩ := not_or.mp on
  have enough' : ¬ TooFew mask.mirrored (boxes.map DashBox.mirrored) := by
    rw [TooFew, ← length_points_scanned] at enough ⊢
    rwa [(counts_mirrored inside boxes).1]
  have first := sum_residuals_fitted fits (exists_distinct_scanned enough)
  have second := sum_residuals_fitted fits (exists_distinct_scanned enough')
  intro mirrored
  rw [mirrored, scanned_mirrored inside] at second
  generalize fitted polyfit (points (scanned mask boxes)) = line at first second
  unfold points scanned at first
  unfold points at second
  rw [List.filterMap_map, sum_filterMap] at first second
  have total : (segRows.map fun row =>
      if OnAxis (centers mask boxes row) then 2 * laneHalfPx else (0 : α)).sum = 0 := by
    have both := congrArg₂ (· + ·) first second
    dsimp only at both
    rw [← List.sum_map_add, add_zero] at both
    refine Eq.trans (congrArg List.sum (List.map_congr_left fun row _ => ?_)) both
    exact (residuals_cancel line.1 line.2 row).symm
  exact (sum_onAxis_pos touching).ne' total

/-- The result is mirrored with the image if no row is left to a single candidate on the axis, or if
too few rows have candidates that say anything. Else the fitted line is not mirrored; then only a
rejection of both images can hide it. -/
theorem computeSeg_mirrored [SymmetricAtan2 α] {polyfit : List α → List α → α × α}
    (fits : FitsLine polyfit) {mask : YellowMask} (inside : mask.Inside)
    (boxes : List (DashBox α)) :
    (ClearOfAxis mask boxes ∨ TooFew mask boxes → IsSymmetric polyfit mask boxes) ∧
    (¬ (ClearOfAxis mask boxes ∨ TooFew mask boxes) →
      fitted polyfit (points (scanned mask.mirrored (boxes.map DashBox.mirrored))) ≠
        (-(fitted polyfit (points (scanned mask boxes))).1,
          reflect (fitted polyfit (points (scanned mask boxes))).2)) := by
  refine ⟨fun symmetric => ?_, fitted_mirrored_ne fits inside⟩
  rw [IsSymmetric, computeSeg_eq, computeSeg_eq]
  change Alike MirrorsTo _ (if ∀ row ∈ segRows, row < mask.rows then _ else _)
  split
  · exact conclude_mirrored fits inside symmetric
  · exact rfl

/-! ### A line on the axis -/

/-- A yellow line of five columns straight ahead, on the axis. -/
def axisLine : YellowMask := ⟨241, 954, fun _ column => 475 ≤ column ∧ column ≤ 479⟩

/-- The image is its own mirror image, and the lane centre is an eighth of a metre off it. -/
theorem not_isSymmetric_axisLine : ¬ IsSymmetric leastLine axisLine ([] : List (DashBox ℚ)) := by
  intro symmetric
  rw [IsSymmetric, computeSeg_eq, computeSeg_eq, if_pos (by decide), if_pos (by decide)]
    at symmetric
  have seen : conclude leastLine (scanned axisLine ([] : List (DashBox ℚ))) =
      ⟨true, 8, 0, some (1 / 8, 0), none⟩ := by decide +kernel
  have mirrored : conclude leastLine (scanned axisLine.mirrored ([] : List (DashBox ℚ))) =
      ⟨true, 8, 0, some (1 / 8, 0), none⟩ := by decide +kernel
  have opposite := MirrorsTo.measured symmetric
  rw [seen, List.map_nil, mirrored] at opposite
  exact absurd opposite (by decide +kernel)

/-- A lane with a yellow line to the left and dashes to the right. -/
def laneMask : YellowMask := ⟨241, 954, fun _ column => 449 ≤ column ∧ column ≤ 451⟩

theorem inside_laneMask : laneMask.Inside := by
  intro row column _ isSet
  have bounds : 449 ≤ column ∧ column ≤ 451 := of_decide_eq_true isSet
  omega

/-- Its centre is three pixels right of the axis, and left of it in the mirror image. -/
theorem computeSeg_mirrored_lane :
    IsSymmetric leastLine laneMask [(⟨505, 0, 515, 240⟩ : DashBox ℚ)] :=
  (computeSeg_mirrored fitsLine_leastLine inside_laneMask _).1 (.inl (by decide +kernel))

end LaneCenter

end RcTaxi
