/-
This file compares the trigger of a turn with the four conditions it stands for: the class, the
confidence, how near the mark is, and how far it is from the axis of the car. The conditions are
stated over what is published, so that the tolerance of the adapter and the test of the trigger are
judged together.

The code asks for the opposite of each condition and goes on to the next mark if it holds. A
comparison with `nan` does not hold, and without a positive scale the distance from the axis counts
as zero, so a mark is let through where nothing could be compared. A limit below zero is the only
case where it goes the other way.
-/

import RcTaxi.PayloadTolerance

namespace RcTaxi

variable {α : Type} [Scalar α]

/-! ### Comparisons -/

namespace PyFloat

/-- A number is at most another if both are numbers and it is not above it. -/
theorem le_iff_lt_eq_false (first second : PyFloat α) :
    first.le second = true ↔ first ≠ .nan ∧ second ≠ .nan ∧ second.lt first = false := by
  cases first with
  | nan => exact ⟨fun holds => (nomatch holds), fun both => absurd rfl both.1⟩
  | finite first =>
    cases second with
    | nan => exact ⟨fun holds => (nomatch holds), fun both => absurd rfl both.2.1⟩
    | finite second => simp [le, lt]
    | inf negative => simp [le, lt]
  | inf negative =>
    cases second with
    | nan => exact ⟨fun holds => (nomatch holds), fun both => absurd rfl both.2.1⟩
    | finite second => simp [le, lt]
    | inf other => cases negative <;> cases other <;> simp [le, lt]

theorem lt_nan (value : PyFloat α) : value.lt .nan = false := by
  cases value <;> rfl

theorem nan_lt (value : PyFloat α) : PyFloat.nan.lt value = false := rfl

theorem mul_nan (value : PyFloat α) : value.mul .nan = .nan := by
  cases value <;> rfl

/-- A bound may be multiplied by a positive number, or what it is compared with divided. -/
theorem mul_finite_lt_finite {scale : α} (positive : 0 < scale) (bound : PyFloat α) (value : α) :
    (bound.mul (.finite scale)).lt (.finite value) = bound.lt (.finite (value / scale)) := by
  cases bound with
  | nan => rfl
  | finite bound => simp [mul, lt, lt_div_iff₀ positive]
  | inf negative => simp [mul, lt, positive.ne', positive.not_gt]

theorem mul_finite_lt_inf {scale : α} (positive : 0 < scale) (bound : PyFloat α) :
    (bound.mul (.finite scale)).lt (.inf false) = bound.lt (.inf false) := by
  cases bound with
  | nan | finite bound => rfl
  | inf negative => simp [mul, lt, positive.ne', positive.not_gt]

/-- A bound multiplied by infinity is below a number if it was below zero. -/
theorem mul_inf_lt_finite (bound : PyFloat α) (value : α) :
    (bound.mul (.inf false)).lt (.finite value) = bound.lt (.finite 0) := by
  cases bound with
  | nan => rfl
  | inf negative => simp [mul, lt]
  | finite bound =>
    rcases lt_trichotomy bound 0 with below | same | above
    · simp [mul, lt, below, below.ne]
    · simp [mul, lt, same]
    · simp [mul, lt, above.not_gt, above.ne']

def isFinite : PyFloat α → Bool
  | .finite _ => true
  | .nan | .inf _ => false

end PyFloat

/-! ### What is published -/

/-- What a payload says of the picture. -/
structure View (α : Type) where
  heightPx : PyFloat α
  pixelsPerMeter : PyFloat α
  axisPx : PyFloat α
  deriving DecidableEq

/-- A published detection with a class, a box of four numbers, and a number as confidence. -/
structure Detection (α : Type) where
  cls : String
  x1 : PyFloat α
  y1 : PyFloat α
  x2 : PyFloat α
  y2 : PyFloat α
  conf : PyFloat α
  deriving DecidableEq

namespace PyValue

/-- The picture of a payload. A scale that is missing counts as zero, and the axis is the configured
one, the published one, or the middle. -/
def view? (axis : Option (PyFloat α)) (payload : PyValue α) : Option (View α) := do
  let (width, height) ← (payload.get "birdseye_size").pair?
  let width ← width.number?
  let height ← height.number?
  let scale ← ((payload.get "pixels_per_meter").orElse (.float (.finite 0))).number?
  let axis ← (MarkObservation.axisOf axis payload width).toOption
  some ⟨height, scale, axis⟩

/-- A value as a detection. As everywhere a text may be a number, and a missing confidence counts as
zero. -/
def detection? (text : PyValue α → String) (found : PyValue α) : Option (Detection α) :=
  if found.isDict && (found.get "cls").truthy then do
    let (x1, y1, x2, y2) ← (found.get "xyxy_px").four?
    let x1 ← x1.number?
    let y1 ← y1.number?
    let x2 ← x2.number?
    let y2 ← y2.number?
    let conf ← (found.getD "conf" (.float (.finite 0))).number?
    some ⟨text (found.get "cls"), x1, y1, x2, y2, conf⟩
  else Option.none

/-- The detections of a payload. -/
def published (text : PyValue α → String) (payload : PyValue α) : List (Detection α) :=
  ((MarkObservation.detections payload).toOption.getD []).filterMap (detection? text)

end PyValue

/-- The mark of a detection, unless an edge other than the upper one is not finite. -/
def Detection.mark? (seen : Detection α) : Option (Mark α) :=
  MarkObservation.markOf seen.cls (seen.x1, seen.x2, seen.y2, seen.conf)

namespace View

variable (view : View α)

/-- The distance of a mark from the axis, in pixels. -/
def offAxis (mark : Mark α) : PyFloat α :=
  match view.axisPx with
  | .finite axis => .finite |mark.centerXPx - axis|
  | .inf _ => .inf false
  | .nan => .nan

/-- The height of the row that a mark must have come down to. -/
def row (spec : TriggerSpec α) : PyFloat α := view.heightPx.mul spec.nearRowFrac

/-- The largest distance from the axis, in pixels. -/
def limit (spec : TriggerSpec α) : PyFloat α := spec.maxLateralM.mul view.pixelsPerMeter

/-- No distance in meters can be told: there is no positive scale, or both the axis and the scale
are infinite. -/
def Unmeasured : Prop :=
  view.pixelsPerMeter.le (.finite 0) = true ∨
    ∃ first second, view.axisPx = .inf first ∧ view.pixelsPerMeter = .inf second

/-- There is no positive scale, and even a mark on the axis is too far from it. -/
def Inverted (spec : TriggerSpec α) : Prop :=
  view.pixelsPerMeter.le (.finite 0) = true ∧ spec.maxLateralM.lt (.finite 0) = true

end View

namespace Detection

variable (view : View α) (spec : TriggerSpec α) (seen : Detection α)

/-- The four conditions, for a detection with a finite box. -/
def Meets : Prop :=
  ∃ mark, seen.mark? = some mark ∧ seen.y1.isFinite = true ∧
    spec.cls.equalsStr mark.cls = true ∧ spec.minConf.le mark.conf = true ∧
      (view.row spec).le (.finite mark.bottomPx) = true ∧
        (view.offAxis mark).le (view.limit spec) = true

/-- No comparison refuses the detection: it is of the class, not below the confidence, not above the
row, and not beyond the limit where a distance can be told. -/
def Unrefused : Prop :=
  ∃ mark, seen.mark? = some mark ∧ spec.cls.equalsStr mark.cls = true ∧
    mark.conf.lt spec.minConf = false ∧ (PyFloat.finite mark.bottomPx).lt (view.row spec) = false ∧
      (view.Unmeasured ∨ (view.limit spec).lt (view.offAxis mark) = false)

/-- A condition cannot be told, or its failure is not looked at: the upper edge is not finite, there
is a `nan`, or the mark is beyond the limit. -/
def Doubtful : Prop :=
  seen.y1.isFinite = false ∨ seen.conf = .nan ∨ spec.minConf = .nan ∨ view.row spec = .nan ∨
    view.axisPx = .nan ∨ view.limit spec = .nan ∨
      ∃ mark, seen.mark? = some mark ∧ (view.limit spec).lt (view.offAxis mark) = true

end Detection

/-- The trigger can be told from what is published: with no positive scale and a limit below zero
nothing meets the conditions, and otherwise something meets them or nothing that no comparison
refuses is doubtful. -/
def View.Discernible (view : View α) (spec : TriggerSpec α) (seen : List (Detection α)) : Prop :=
  (view.Inverted spec → ∀ detection ∈ seen, ¬ detection.Meets view spec) ∧
    (¬ view.Inverted spec → (∃ detection ∈ seen, detection.Meets view spec) ∨
      ∀ detection ∈ seen, detection.Unrefused view spec → ¬ detection.Doubtful view spec)

/-- Some detection of the payload meets the four conditions. -/
def PyValue.CallsFor (text : PyValue α → String) (axis : Option (PyFloat α))
    (spec : TriggerSpec α) (payload : PyValue α) : Prop :=
  ∃ view, payload.view? axis = some view ∧
    ∃ detection ∈ payload.published text, detection.Meets view spec

/-! ### What the adapter keeps -/

namespace MarkObservation

/-- The picture of an observation. -/
def view (obs : MarkObservation α) : View α := ⟨obs.heightPx, obs.pixelsPerMeter, obs.axisPx⟩

/-- The mark of a value is that of the detection it is. -/
theorem intendedMark_eq (text : PyValue α → String) (found : PyValue α) :
    intendedMark text found = (found.detection? text).bind Detection.mark? := by
  unfold intendedMark PyValue.detection?
  split
  next =>
    simp only [Option.bind_eq_bind, Option.bind_assoc, Option.bind_some]
    rfl
  next => rfl

/-- A valid result is one of those that there are. -/
theorem eq_some_of_getD {result : Option (MarkObservation α)} {obs : MarkObservation α}
    (same : obs = result.getD invalid) (valid : obs.valid = true) : result = some obs := by
  cases result with
  | none =>
    rw [same] at valid
    cases valid
  | some found => exact congrArg some same.symm

/-- A valid observation is of the picture of the payload, whose height is positive, and its marks
are those of the published detections. -/
theorem parse_published {text : PyValue α → String} {axis : Option (PyFloat α)}
    {freshnessMaxS now : α} {payload : PyValue α} {obs : MarkObservation α}
    (parsed : parse text axis freshnessMaxS now (some payload) = .ok obs)
    (valid : obs.valid = true) :
    payload.view? axis = some obs.view ∧ obs.heightPx.le (.finite 0) = false ∧
      obs.marks = (payload.published text).filterMap Detection.mark? := by
  have intends := eq_some_of_getD ((parse_yields text axis freshnessMaxS now _ _).mp parsed).2 valid
  obtain ⟨payload, same, intends⟩ := Option.bind_eq_some_iff.mp intends
  cases same
  obtain ⟨timestamp, -, intends⟩ := Option.bind_eq_some_iff.mp intends
  split at intends
  next => cases intends
  next =>
    have fields := eq_some_of_getD (Option.some.inj intends).symm valid
    obtain ⟨⟨width, height⟩, size, fields⟩ := Option.bind_eq_some_iff.mp fields
    obtain ⟨w, wide, fields⟩ := Option.bind_eq_some_iff.mp fields
    obtain ⟨h, high, fields⟩ := Option.bind_eq_some_iff.mp fields
    obtain ⟨scale, scaled, fields⟩ := Option.bind_eq_some_iff.mp fields
    have measures := Option.some.inj fields
    unfold measured at measures
    dsimp only at measures
    split at measures
    next =>
      rw [← measures] at valid
      cases valid
    next positive =>
      have whole := eq_some_of_getD measures.symm valid
      obtain ⟨a, located, whole⟩ := Option.bind_eq_some_iff.mp whole
      obtain ⟨found, detected, whole⟩ := Option.bind_eq_some_iff.mp whole
      cases whole
      rw [Bool.not_eq_true, Bool.or_eq_false_iff] at positive
      refine ⟨?_, positive.2, ?_⟩
      · simp only [PyValue.view?, size, wide, high, scaled, located, Option.bind_eq_bind,
          Option.bind_some]
        rfl
      · unfold PyValue.published
        rw [detected, Option.getD_some, List.filterMap_filterMap]
        exact congrArg (List.filterMap · found) (funext fun value => intendedMark_eq text value)

/-! ### The distance from the axis -/

/-- Without a positive scale every mark counts as on the axis. -/
theorem lateralM_unscaled {obs : MarkObservation α}
    (unscaled : obs.pixelsPerMeter.le (.finite 0) = true) (mark : Mark α) :
    obs.lateralM mark = .finite 0 := if_pos unscaled

/-- The test of the distance, where a limit below zero does not meet a missing scale: a mark is
refused if it is beyond the limit and a distance can be told. -/
theorem maxLateralM_lt_lateralM {obs : MarkObservation α} {spec : TriggerSpec α}
    (upright : ¬ obs.view.Inverted spec) (mark : Mark α) :
    spec.maxLateralM.lt (obs.lateralM mark) = false ↔
      obs.view.Unmeasured ∨ (obs.view.limit spec).lt (obs.view.offAxis mark) = false := by
  by_cases unscaled : obs.pixelsPerMeter.le (.finite 0) = true
  · rw [lateralM_unscaled unscaled]
    refine ⟨fun _ => .inl (.inl unscaled), fun _ => Bool.eq_false_iff.mpr fun below => ?_⟩
    exact upright ⟨unscaled, below⟩
  · obtain ⟨valid, marks, height, scale, axis⟩ := obs
    have unmeasured_iff : View.Unmeasured (view ⟨valid, marks, height, scale, axis⟩) ↔
        ∃ first second, axis = .inf first ∧ scale = .inf second := or_iff_right unscaled
    rw [unmeasured_iff, lateralM, if_neg unscaled]
    unfold view View.limit View.offAxis
    dsimp only at unscaled ⊢
    cases axis with
    | nan => simp [PyFloat.lt_nan]
    | finite axis =>
      refine Iff.trans ?_ (or_iff_right fun ⟨_, _, same, _⟩ => nomatch same).symm
      cases scale with
      | nan => simp [PyFloat.lt_nan, PyFloat.nan_lt, PyFloat.mul_nan]
      | inf negative =>
        cases Bool.eq_false_iff.mpr unscaled
        exact Iff.of_eq (congrArg (· = false) (PyFloat.mul_inf_lt_finite _ _).symm)
      | finite scale =>
        have positive : 0 < scale := not_le.mp fun small => unscaled (decide_eq_true small)
        exact Iff.of_eq (congrArg (· = false) (PyFloat.mul_finite_lt_finite positive _ _).symm)
    | inf negative =>
      cases scale with
      | nan => simp [PyFloat.lt_nan, PyFloat.nan_lt, PyFloat.mul_nan]
      | inf other => simp [PyFloat.lt_nan]
      | finite scale =>
        have positive : 0 < scale := not_le.mp fun small => unscaled (decide_eq_true small)
        refine Iff.trans ?_ (or_iff_right fun ⟨_, _, _, same⟩ => nomatch same).symm
        exact Iff.of_eq (congrArg (· = false) (PyFloat.mul_finite_lt_inf positive _).symm)

/-! ### The conditions and the comparisons -/

theorem fires_iff {obs : MarkObservation α} {spec : TriggerSpec α}
    (upright : ¬ obs.view.Inverted spec) (mark : Mark α) :
    obs.fires spec mark = true ↔ spec.cls.equalsStr mark.cls = true ∧
      mark.conf.lt spec.minConf = false ∧
        (PyFloat.finite mark.bottomPx).lt (obs.view.row spec) = false ∧
          (obs.view.Unmeasured ∨ (obs.view.limit spec).lt (obs.view.offAxis mark) = false) := by
  rw [← maxLateralM_lt_lateralM upright]
  unfold fires
  rw [Bool.and_eq_true, Bool.and_eq_true, Bool.and_eq_true, Bool.not_eq_true', Bool.not_eq_true',
    Bool.not_eq_true', and_assoc, and_assoc]
  rfl

/-- What no comparison refuses is what fires. -/
theorem unrefused_iff {obs : MarkObservation α} {spec : TriggerSpec α}
    (upright : ¬ obs.view.Inverted spec) (seen : Detection α) :
    seen.Unrefused obs.view spec ↔
      ∃ mark, seen.mark? = some mark ∧ obs.fires spec mark = true :=
  exists_congr fun mark => and_congr_right fun _ => (fires_iff upright mark).symm

/-- With no positive scale and a limit below zero nothing fires. -/
theorem fires_inverted {obs : MarkObservation α} {spec : TriggerSpec α}
    (inverted : obs.view.Inverted spec) (mark : Mark α) : obs.fires spec mark = false := by
  have below : spec.maxLateralM.lt (.finite 0) = true := inverted.2
  unfold fires
  rw [lateralM_unscaled inverted.1, below, Bool.not_true, Bool.and_false]

/-- The trigger of a valid observation is that of its detections. -/
theorem triggered_iff {text : PyValue α → String} {obs : MarkObservation α}
    {spec : TriggerSpec α} {payload : PyValue α} (valid : obs.valid = true)
    (positive : obs.heightPx.le (.finite 0) = false) (vision : spec.usesVision = true)
    (kept : obs.marks = (payload.published text).filterMap Detection.mark?) :
    obs.triggered spec = true ↔ ∃ detection ∈ payload.published text,
      ∃ mark, detection.mark? = some mark ∧ obs.fires spec mark = true := by
  unfold triggered
  rw [vision, valid, positive, Bool.not_false, Bool.and_true, Bool.and_true, Bool.true_and,
    List.any_eq_true, kept]
  simp only [List.mem_filterMap]
  constructor
  · rintro ⟨mark, ⟨detection, member, same⟩, fires⟩
    exact ⟨detection, member, mark, same, fires⟩
  · rintro ⟨detection, member, mark, same, fires⟩
    exact ⟨mark, ⟨detection, member, same⟩, fires⟩

end MarkObservation

namespace Detection

theorem mark?_conf {seen : Detection α} {mark : Mark α} (same : seen.mark? = some mark) :
    mark.conf = seen.conf := by
  unfold mark? MarkObservation.markOf at same
  split at same
  next x1 x2 y2 conf fields =>
    cases same
    exact congrArg (fun all => all.2.2.2) fields.symm
  next => cases same

/-- The conditions are met by what no comparison refuses and is not doubtful. -/
theorem meets_iff (view : View α) (spec : TriggerSpec α) (seen : Detection α) :
    seen.Meets view spec ↔ seen.Unrefused view spec ∧ ¬ seen.Doubtful view spec := by
  have known_iff : ∀ mark, view.offAxis mark ≠ .nan ↔ view.axisPx ≠ .nan := by
    intro mark
    unfold View.offAxis
    cases view.axisPx <;> simp
  constructor
  · rintro ⟨mark, same, upper, cls, sure, near, within⟩
    obtain ⟨minConf, conf, notBelow⟩ := (PyFloat.le_iff_lt_eq_false _ _).mp sure
    obtain ⟨row, -, notAbove⟩ := (PyFloat.le_iff_lt_eq_false _ _).mp near
    obtain ⟨offset, limit, notBeyond⟩ := (PyFloat.le_iff_lt_eq_false _ _).mp within
    refine ⟨⟨mark, same, cls, notBelow, notAbove, .inr notBeyond⟩, ?_⟩
    rintro (open' | doubtful | doubtful | doubtful | doubtful | doubtful | ⟨other, found, beyond⟩)
    · exact Bool.false_ne_true (open'.symm.trans upper)
    · exact conf ((mark?_conf same).trans doubtful)
    · exact minConf doubtful
    · exact row doubtful
    · exact (known_iff mark).mp offset doubtful
    · exact limit doubtful
    · cases found.symm.trans same
      exact Bool.false_ne_true (notBeyond.symm.trans beyond)
  · rintro ⟨⟨mark, same, cls, notBelow, notAbove, -⟩, sure⟩
    unfold Doubtful at sure
    simp only [not_or, not_exists, not_and] at sure
    obtain ⟨upper, conf, minConf, row, axis, limit, within⟩ := sure
    refine ⟨mark, same, Bool.eq_true_of_not_eq_false upper, cls, ?_, ?_, ?_⟩
    · exact (PyFloat.le_iff_lt_eq_false _ _).mpr ⟨minConf, mark?_conf same ▸ conf, notBelow⟩
    · exact (PyFloat.le_iff_lt_eq_false _ _).mpr ⟨row, nofun, notAbove⟩
    · exact (PyFloat.le_iff_lt_eq_false _ _).mpr
        ⟨(known_iff mark).mpr axis, limit, Bool.eq_false_iff.mpr (within mark same)⟩

end Detection

/-- With plain numbers and a positive scale the trigger can always be told. -/
theorem View.discernible_of_finite {height scale axis minConf frac lateral : α} {cls : PyValue α}
    (positive : 0 < scale) {seen : List (Detection α)}
    (plain : ∀ detection ∈ seen, detection.y1.isFinite = true ∧ detection.conf ≠ .nan) :
    View.Discernible ⟨.finite height, .finite scale, .finite axis⟩
      ⟨cls, .finite minConf, .finite frac, .finite lateral⟩ seen := by
  have scaled : (PyFloat.finite scale).le (.finite 0) = false :=
    decide_eq_false positive.not_ge
  refine ⟨fun inverted => ?_, fun _ => .inr fun detection member unrefused doubtful => ?_⟩
  · exact absurd (scaled.symm.trans inverted.1) Bool.false_ne_true
  · obtain ⟨upper, conf⟩ := plain detection member
    obtain ⟨mark, same, _, _, _, unmeasured | within⟩ := unrefused
    · rcases unmeasured with unscaled | ⟨_, _, infinite, _⟩
      · exact Bool.false_ne_true (scaled.symm.trans unscaled)
      · cases infinite
    · rcases doubtful with unbounded | isNan | isNan | isNan | isNan | isNan |
        ⟨other, found, beyond⟩
      · exact Bool.false_ne_true (unbounded.symm.trans upper)
      · exact conf isNan
      · cases isNan
      · cases isNan
      · cases isNan
      · cases isNan
      · cases found.symm.trans same
        exact Bool.false_ne_true (within.symm.trans beyond)

/-! ### The trigger -/

namespace MarkObservation

theorem not_triggered_of_invalid {obs : MarkObservation α} (invalid : obs.valid = false)
    (spec : TriggerSpec α) : obs.triggered spec = false := by
  unfold triggered
  rw [invalid, Bool.and_false, Bool.false_and, Bool.false_and]

/-- What fires is what meets the conditions, exactly if the trigger can be told from the
detections. -/
theorem fires_iff_meets_iff {obs : MarkObservation α} {spec : TriggerSpec α}
    (seen : List (Detection α)) :
    ((∃ detection ∈ seen, ∃ mark, detection.mark? = some mark ∧ obs.fires spec mark = true) ↔
        ∃ detection ∈ seen, detection.Meets obs.view spec) ↔
      obs.view.Discernible spec seen := by
  by_cases inverted : obs.view.Inverted spec
  · have silent : ¬ ∃ detection ∈ seen,
        ∃ mark, detection.mark? = some mark ∧ obs.fires spec mark = true := by
      rintro ⟨_, _, mark, _, fires⟩
      exact Bool.false_ne_true ((fires_inverted inverted mark).symm.trans fires)
    constructor
    · intro same
      exact ⟨fun _ detection member meets => silent (same.mpr ⟨detection, member, meets⟩),
        fun upright => absurd inverted upright⟩
    · rintro ⟨none, -⟩
      exact ⟨fun fires => absurd fires silent,
        fun ⟨detection, member, meets⟩ => absurd meets (none inverted detection member)⟩
  · simp only [← unrefused_iff inverted]
    constructor
    · intro same
      refine ⟨fun isInverted => absurd isInverted inverted, fun _ => ?_⟩
      by_cases met : ∃ detection ∈ seen, detection.Meets obs.view spec
      · exact .inl met
      · exact .inr fun detection member unrefused _ =>
          met (same.mp ⟨detection, member, unrefused⟩)
    · rintro ⟨-, told⟩
      constructor
      · rintro ⟨detection, member, unrefused⟩
        rcases told inverted with met | sure
        · exact met
        · exact ⟨detection, member,
            (detection.meets_iff _ _).mpr ⟨unrefused, sure detection member unrefused⟩⟩
      · rintro ⟨detection, member, meets⟩
        exact ⟨detection, member, ((detection.meets_iff _ _).mp meets).1⟩

/-- A valid observation of a payload triggers a turn with a class exactly if a published detection
meets the four conditions, and an invalid one never does: this holds exactly if the trigger can be
told from what is published. -/
theorem triggered_iff_callsFor_iff (text : PyValue α → String) (axis : Option (PyFloat α))
    (freshnessMaxS now : α) (payload : PyValue α) (obs : MarkObservation α) (spec : TriggerSpec α)
    (parsed : parse text axis freshnessMaxS now (some payload) = .ok obs)
    (valid : obs.valid = true) (vision : spec.usesVision = true) :
    ((obs.triggered spec = true ↔ payload.CallsFor text axis spec) ∧
        ∀ other : MarkObservation α, other.valid = false →
          ∀ spec, other.triggered spec = false) ↔
      ∃ view, payload.view? axis = some view ∧ view.Discernible spec (payload.published text) := by
  obtain ⟨seen, positive, kept⟩ := parse_published parsed valid
  have calls_iff : payload.CallsFor text axis spec ↔
      ∃ detection ∈ payload.published text, detection.Meets obs.view spec := by
    unfold PyValue.CallsFor
    rw [seen]
    simp only [Option.some.injEq, exists_eq_left']
  rw [triggered_iff valid positive vision kept, calls_iff, fires_iff_meets_iff, seen]
  simp only [Option.some.injEq, exists_eq_left']
  exact and_iff_left fun other invalid spec => not_triggered_of_invalid invalid spec

/-- A stop line half of the picture beside the axis, with or without a scale. -/
def besidePayload (scale : PyValue ℚ) : PyValue ℚ :=
  .dict [("timestamp", .int 0), ("birdseye_size", .list [.int 954, .int 100]),
    ("pixels_per_meter", scale), ("model", .dict [("detections", .list [.dict
      [("cls", .str "stop_line"), ("conf", .int 1),
        ("xyxy_px", .list [.int 0, .int 80, .int 10, .int 95])]])])]

/-- A turn at a stop line that is no more than thirty centimeters beside the axis. -/
def stopLineSpec : TriggerSpec ℚ :=
  ⟨.str "stop_line", .finite (45 / 100), .finite (8 / 10), .finite (3 / 10)⟩

/-- What is observed of the stop line. -/
def besideSeen (scale : PyValue ℚ) : Except PyError (MarkObservation ℚ) :=
  parse (fun _ => "stop_line") none (1 / 2) 0 (some (besidePayload scale))

theorem unscaled_seen : (besideSeen .none).toOption.isSome = true := by
  decide +kernel

theorem scaled_seen : (besideSeen (.int 250)).toOption.isSome = true := by
  decide +kernel

/-- Without a scale the stop line starts the turn, and it does not meet the conditions. -/
theorem unscaled_triggers :
    ∃ obs, parse (fun _ => "stop_line") none (1 / 2) 0 (some (besidePayload .none)) = .ok obs ∧
      obs.valid = true ∧ stopLineSpec.usesVision = true ∧
      ¬ ((obs.triggered stopLineSpec = true ↔
          (besidePayload .none).CallsFor (fun _ => "stop_line") none stopLineSpec) ∧
        ∀ other : MarkObservation ℚ, other.valid = false →
          ∀ spec, other.triggered spec = false) := by
  refine ⟨returned _ unscaled_seen, ok_returned _, by decide +kernel, rfl, fun both => ?_⟩
  obtain ⟨view, seen, detection, member, meets⟩ := both.1.mp (by decide +kernel)
  have same : (besidePayload .none).view? none =
      some ⟨.finite 100, .finite 0, .finite 477⟩ := by decide +kernel
  cases seen.symm.trans same
  have only : (besidePayload .none).published (fun _ => "stop_line") =
      [⟨"stop_line", .finite 0, .finite 80, .finite 10, .finite 95, .finite 1⟩] := by
    decide +kernel
  rw [only, List.mem_singleton] at member
  cases member
  exact ((Detection.meets_iff _ _ _).mp meets).2
    (.inr (.inr (.inr (.inr (.inr (.inr ⟨_, rfl, by decide +kernel⟩))))))

/-- With a scale it does not, and does not meet them. -/
theorem scaled_does_not_trigger :
    ∃ obs, besideSeen (.int 250) = .ok obs ∧ obs.valid = true ∧
      ((obs.triggered stopLineSpec = true ↔
          (besidePayload (.int 250)).CallsFor (fun _ => "stop_line") none stopLineSpec) ∧
        ∀ other : MarkObservation ℚ, other.valid = false →
          ∀ spec, other.triggered spec = false) := by
  have parsed := ok_returned scaled_seen
  have valid : (returned _ scaled_seen).valid = true := by decide +kernel
  refine ⟨_, parsed, valid, ?_⟩
  refine (triggered_iff_callsFor_iff _ _ _ _ _ _ stopLineSpec parsed valid rfl).mpr ?_
  have same : (besidePayload (.int 250)).view? none =
      some ⟨.finite 100, .finite 250, .finite 477⟩ := by decide +kernel
  have only : (besidePayload (.int 250)).published (fun _ => "stop_line") =
      [⟨"stop_line", .finite 0, .finite 80, .finite 10, .finite 95, .finite 1⟩] := by
    decide +kernel
  refine ⟨_, same, View.discernible_of_finite (by decide +kernel) ?_⟩
  rw [only]
  exact List.forall_mem_singleton.mpr ⟨rfl, nofun⟩

end MarkObservation

end RcTaxi
