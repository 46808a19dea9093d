/-
This file asks what a malformed publication does to the worker that observes it. A payload that
cannot be used should be an invalid observation, and a detection that cannot be used should be
passed over; this is written down as a reading that never fails. The adapters do the same, except
where a conversion raises something they do not catch: an integer without a float is no format
error, the axis is converted outside of any `try`, and what stands for the detections is iterated as
it is.

The conversions are made in an order, and a field that is no number ends them before the next one is
looked at; so the conditions follow the order.
-/

import RcTaxi.ValidatorTotality
import RcTaxi.VisionFreshness

namespace RcTaxi

variable {α : Type} [Scalar α]

/-! ### Reading numbers -/

namespace PyValue

/-- The number of a field, where it is one. -/
def number? (value : PyValue α) : Option (PyFloat α) := value.toFloat.toOption

/-- The fields that are numbers, in order up to the first that is none, have floats; so has that
one, if it is an integer. -/
def readable : List (PyValue α) → Bool
  | [] => true
  | value :: rest => !value.oversized && (value.number?.isNone || readable rest)

end PyValue

/-- A computation raises nothing but format errors. -/
def Tolerable {β : Type} (result : Except PyError β) : Prop :=
  ∀ error, result = .error error → error.isFormat = true

/-- A computation has a value under a condition, and raises without it. -/
def Yields {β : Type} (result : Except PyError β) (condition : Prop) (value : β) : Prop :=
  ∀ found, result = .ok found ↔ condition ∧ found = value

section Yields

variable {β γ : Type} {result : Except PyError β} {condition : Prop} {value : β}

theorem Yields.ok_iff (yields : Yields result condition value) :
    result = .ok value ↔ condition :=
  (yields value).trans (and_iff_left rfl)

theorem Yields.exists_ok_iff (yields : Yields result condition value) :
    (∃ found, result = .ok found) ↔ condition :=
  ⟨fun ⟨found, same⟩ => ((yields found).mp same).1, fun holds => ⟨value, yields.ok_iff.mpr holds⟩⟩

theorem Yields.ok (value : β) : Yields (.ok value) True value := fun _ =>
  ⟨fun same => ⟨trivial, (Except.ok.inj same).symm⟩, fun both => congrArg _ both.2.symm⟩

/-- The condition may be said otherwise, and under it the value. -/
theorem Yields.congr (yields : Yields result condition value) {other : Prop} {value' : β}
    (same : condition ↔ other) (equal : other → value = value') : Yields result other value' := by
  intro found
  rw [yields found, same]
  exact and_congr_right fun holds => by rw [equal holds]

theorem Yields.of_toOption (default : β) :
    Yields result (result.toOption.isSome = true) (result.toOption.getD default) := by
  intro found
  cases result with
  | ok value =>
    exact ⟨fun same => ⟨rfl, (Except.ok.inj same).symm⟩, fun both => congrArg _ both.2.symm⟩
  | error error => exact ⟨fun same => (nomatch same), fun both => (nomatch both.1)⟩

theorem Yields.bind {next : β → Except PyError γ} {onward : Prop} {continued : γ}
    (yields : Yields result condition value) (then' : Yields (next value) onward continued) :
    Yields (result >>= next) (condition ∧ onward) continued := by
  intro found
  rw [bind_eq_ok]
  constructor
  · rintro ⟨other, first, second⟩
    obtain ⟨holds, rfl⟩ := (yields other).mp first
    obtain ⟨further, same⟩ := (then' found).mp second
    exact ⟨⟨holds, further⟩, same⟩
  · rintro ⟨⟨holds, further⟩, same⟩
    exact ⟨value, yields.ok_iff.mpr holds, (then' found).mpr ⟨further, same⟩⟩

/-- A reading in `try`: its errors must be caught, and what it reads goes on. -/
theorem Yields.tryFields {read : Except PyError β} {malformed : γ} {next : β → Except PyError γ}
    {onward : β → Prop} {continued : β → γ} (tolerable : Tolerable read ↔ condition)
    (each : ∀ fields, Yields (next fields) (onward fields) (continued fields)) :
    Yields (RcTaxi.tryFields read malformed next)
      (condition ∧ ∀ fields, read.toOption = some fields → onward fields)
      ((read.toOption.map continued).getD malformed) := by
  intro found
  rw [← tolerable]
  cases read with
  | ok fields =>
    refine ((each fields) found).trans (and_congr_left fun _ => ⟨fun holds => ⟨?_, ?_⟩, ?_⟩)
    · exact fun error raised => (nomatch raised)
    · exact fun other same => Option.some.inj same ▸ holds
    · exact fun both => both.2 fields rfl
  | error error =>
    rw [RcTaxi.tryFields]
    split
    next caught =>
      refine ⟨fun same => ⟨⟨fun other raised => ?_, fun _ same => (nomatch same)⟩,
        (Except.ok.inj same).symm⟩, fun both => congrArg _ both.2.symm⟩
      cases raised
      exact caught
    next uncaught =>
      exact ⟨fun same => (nomatch same), fun both => absurd (both.1.1 error rfl) uncaught⟩

/-- A traversal whose steps have values under conditions. -/
theorem Yields.mapM {step : β → Except PyError γ} {onward : β → Prop} {continued : β → γ}
    (each : ∀ item, Yields (step item) (onward item) (continued item)) (items : List β) :
    Yields (items.mapM step) (∀ item ∈ items, onward item) (items.map continued) := by
  induction items with
  | nil =>
    exact (Yields.ok []).congr ⟨fun _ _ member => absurd member List.not_mem_nil, fun _ => trivial⟩
      fun _ => rfl
  | cons head rest inductionHypothesis =>
    rw [List.mapM_cons, List.forall_mem_cons, List.map_cons]
    have tail : Yields (rest.mapM step >>= fun values => pure (continued head :: values))
        ((∀ item ∈ rest, onward item) ∧ True) (continued head :: rest.map continued) :=
      inductionHypothesis.bind (Yields.ok _)
    exact ((each head).bind tail).congr (and_congr_right fun _ => and_iff_left trivial)
      fun _ => rfl

end Yields

theorem floatOfString_tolerable (text : String) :
    Tolerable (floatOfString text : Except PyError (PyFloat α)) := by
  intro error raised
  unfold floatOfString at raised
  dsimp only at raised
  split at raised
  · cases raised
  · split at raised
    · cases raised
    · split at raised
      · split at raised
        · cases raised
        · cases raised
          rfl
      · cases raised
        rfl

/-- `float` raises a format error, unless the value is an integer without a float. -/
theorem toFloat_tolerable_iff (value : PyValue α) :
    Tolerable value.toFloat ↔ value.oversized = false := by
  cases value with
  | none | list items | dict fields =>
    refine ⟨fun _ => rfl, fun _ error raised => ?_⟩
    cases raised
    rfl
  | bool value | float value => exact ⟨fun _ => rfl, fun _ error raised => (nomatch raised)⟩
  | str text => exact ⟨fun _ => rfl, fun _ => floatOfString_tolerable text⟩
  | int value =>
    rw [PyValue.toFloat, PyValue.oversized, floatOfInt]
    by_cases large : floatLimit ≤ |value|
    · rw [if_pos large]
      refine ⟨fun tolerable => (nomatch tolerable _ rfl), fun small => ?_⟩
      exact absurd large (of_decide_eq_false small)
    · rw [if_neg large]
      exact ⟨fun _ => decide_eq_false large, fun _ error raised => (nomatch raised)⟩

/-- Reading one number and then the others. -/
theorem tolerable_toFloat_bind {β : Type} {value : PyValue α} {rest : List (PyValue α)}
    {next : PyFloat α → Except PyError β}
    (others : ∀ number, Tolerable (next number) ↔ PyValue.readable rest = true) :
    Tolerable (value.toFloat >>= next) ↔ PyValue.readable (value :: rest) = true := by
  rw [PyValue.readable, Bool.and_eq_true, Bool.not_eq_true', Bool.or_eq_true,
    ← toFloat_tolerable_iff, PyValue.number?]
  cases value.toFloat with
  | ok number =>
    have fine : Tolerable (.ok number : Except PyError (PyFloat α)) :=
      fun _ raised => (nomatch raised)
    exact (others number).trans ⟨fun readable => ⟨fine, .inr readable⟩,
      fun both => both.2.elim (fun none => (nomatch none)) id⟩
  | error error =>
    refine ⟨fun tolerable => ⟨fun other same => ?_, .inl rfl⟩, fun both other same => ?_⟩
    · exact tolerable other (by cases same; rfl)
    · exact both.1 other (by cases same; rfl)

theorem toOption_toFloat_bind {β : Type} {value : PyValue α}
    {next : PyFloat α → Except PyError β} :
    (value.toFloat >>= next).toOption = value.number? >>= fun number => (next number).toOption := by
  unfold PyValue.number?
  cases value.toFloat <;> rfl

theorem tolerable_pure {β : Type} (value : β) :
    Tolerable (pure value : Except PyError β) ↔ PyValue.readable ([] : List (PyValue α)) = true :=
  ⟨fun _ => rfl, fun _ _ raised => (nomatch raised)⟩

/-! ### The lane center -/

namespace PyValue

/-- `value is True`. -/
def isTrue : PyValue α → Bool
  | .bool value => value
  | _ => false

omit [Scalar α] in
theorem isTrue_getD (value : PyValue α) (key : String) :
    (value.getD key (.bool false)).isTrue = (value.get key).isTrue := by
  unfold getD get
  cases value.field? key <;> rfl

end PyValue

namespace SegObservation

/-- The three numbers of a payload, as the model hands them on. -/
def numbers (payload : PyValue α) : List (PyValue α) :=
  [(payload.get "seg").getD "lateral_offset_m" (.float (.finite 0)),
    (payload.get "seg").getD "heading_error_deg" (.float (.finite 0)), payload.get "timestamp"]

/-- The observation of an offset, an error and a timestamp. -/
def judged (freshnessMaxS now : α) : PyFloat α × PyFloat α × PyFloat α → SegObservation α
  | (.finite offset, .finite error, timestamp) =>
    if |error| < 90 ∧ tooOld freshnessMaxS now timestamp = false then ⟨true, offset, error⟩
    else invalid
  | _ => invalid

/-- What a publication should be observed as: a result that calls itself valid and whose fields are
numbers is judged by them, and any other is invalid. -/
def intended (freshnessMaxS now : α) (published : Option (PyValue α)) : SegObservation α :=
  ((do
    let payload ← published
    let offset ← ((payload.get "seg").getD "lateral_offset_m" (.float (.finite 0))).number?
    let error ← ((payload.get "seg").getD "heading_error_deg" (.float (.finite 0))).number?
    let timestamp ← (payload.get "timestamp").number?
    if ((payload.get "seg").get "valid").isTrue then
      some (judged freshnessMaxS now (offset, error, timestamp))
    else none) : Option (SegObservation α)).getD invalid

/-- The numbers of a result that calls itself valid can be read. -/
def Readable (published : Option (PyValue α)) : Prop :=
  ∀ payload, published = some payload → ((payload.get "seg").get "valid").isTrue = true →
    PyValue.readable (numbers payload) = true

/-- The result that the model makes of an object. -/
theorem realSegLatest_dict (fields : List (String × PyValue α)) :
    ∃ raw, realSegLatest (some (.dict fields)) = .ok raw ∧
      raw.get "valid" = ((PyValue.dict fields).get "seg").getD "valid" (.bool false) ∧
      [raw.get "lateral_offset_m", raw.get "heading_error_deg", raw.get "timestamp"] =
        numbers (.dict fields) := by
  have timestamped : (PyValue.dict fields).getAttr "timestamp" =
      .ok ((PyValue.dict fields).get "timestamp") := rfl
  have segmented : (PyValue.dict fields).getAttr "seg" =
      .ok ((PyValue.dict fields).get "seg") := rfl
  rw [realSegLatest, timestamped, segmented, numbers]
  generalize (PyValue.dict fields).get "timestamp" = timestamp
  generalize (PyValue.dict fields).get "seg" = seg
  refine ⟨_, rfl, ?_, ?_⟩
  · cases seg <;> cases timestamp <;> rfl
  · cases seg <;> cases timestamp <;> rfl

theorem tolerable_readFields (raw : PyValue α) : Tolerable (readFields raw) ↔ PyValue.readable
    [raw.get "lateral_offset_m", raw.get "heading_error_deg", raw.get "timestamp"] = true :=
  tolerable_toFloat_bind fun _ => tolerable_toFloat_bind fun _ =>
    tolerable_toFloat_bind fun _ => tolerable_pure _

/-- The fields, where all three are numbers. -/
theorem readFields_toOption (raw : PyValue α) :
    (readFields raw).toOption = (do
      let offset ← (raw.get "lateral_offset_m").number?
      let error ← (raw.get "heading_error_deg").number?
      let timestamp ← (raw.get "timestamp").number?
      pure (offset, error, timestamp)) := by
  unfold readFields
  simp only [toOption_toFloat_bind]
  rfl

/-- A result that calls itself valid is judged by its fields, and any other is not read. -/
theorem parse_some (freshnessMaxS now : α) (raw : PyValue α) :
    parse freshnessMaxS now (some raw) = if (raw.get "valid").isTrue then
      tryFields (readFields raw) invalid fun fields => .ok (judged freshnessMaxS now fields)
    else .ok invalid := by
  unfold parse
  dsimp only
  cases raw.get "valid" with
  | bool value =>
    cases value with
    | false => rfl
    | true =>
      refine congrArg (tryFields (readFields raw) invalid) (funext fun fields => ?_)
      obtain ⟨offset, error, timestamp⟩ := fields
      cases offset with
      | nan | inf negative => rfl
      | finite offset =>
        cases error with
        | nan | inf negative => rfl
        | finite error =>
          dsimp only [judged]
          by_cases large : 90 ≤ |error|
          · rw [if_pos large, if_neg fun both => not_lt.mpr large both.1]
          · rw [if_neg large]
            cases tooOld freshnessMaxS now timestamp with
            | true => rw [if_pos rfl, if_neg fun both => nomatch both.2]
            | false => rw [if_neg Bool.false_ne_true, if_pos ⟨not_le.mp large, rfl⟩]
  | _ => rfl

/-- What is intended, in terms of the result that the model makes of an object. -/
theorem intended_dict {freshnessMaxS now : α} {fields : List (String × PyValue α)} {raw : PyValue α}
    (valid : raw.get "valid" = ((PyValue.dict fields).get "seg").getD "valid" (.bool false))
    (same : [raw.get "lateral_offset_m", raw.get "heading_error_deg", raw.get "timestamp"] =
      numbers (.dict fields)) :
    intended freshnessMaxS now (some (.dict fields)) = if (raw.get "valid").isTrue then
      ((readFields raw).toOption.map (judged freshnessMaxS now)).getD invalid
    else invalid := by
  unfold numbers at same
  simp only [List.cons.injEq, and_true] at same
  obtain ⟨offset, error, timestamp⟩ := same
  rw [intended, readFields_toOption, offset, error, timestamp, valid, PyValue.isTrue_getD]
  simp only [Option.bind_eq_bind, Option.bind_some]
  cases (((PyValue.dict fields).get "seg").getD "lateral_offset_m"
      (.float (.finite 0))).number? with
  | none => exact (ite_self _).symm
  | some offset =>
    cases (((PyValue.dict fields).get "seg").getD "heading_error_deg"
        (.float (.finite 0))).number? with
    | none => exact (ite_self _).symm
    | some error =>
      cases ((PyValue.dict fields).get "timestamp").number? with
      | none => exact (ite_self _).symm
      | some timestamp =>
        cases (((PyValue.dict fields).get "seg").get "valid").isTrue <;> rfl

/-- A publication is observed as intended exactly if the numbers of a result that calls itself valid
can be read. -/
theorem parse_yields (freshnessMaxS now : α) (published : Option (PyValue α)) :
    Yields (parse freshnessMaxS now (realSegLatest published).toOption) (Readable published)
      (intended freshnessMaxS now published) := by
  cases published with
  | none =>
    exact (Yields.ok invalid).congr ⟨fun _ _ same => (nomatch same), fun _ => trivial⟩ fun _ => rfl
  | some payload =>
    cases payload with
    | dict fields =>
      obtain ⟨raw, handed, valid, same⟩ := realSegLatest_dict fields
      rw [handed, intended_dict valid same, Except.toOption, parse_some]
      have isTrue : (raw.get "valid").isTrue =
          (((PyValue.dict fields).get "seg").get "valid").isTrue := by
        rw [valid, PyValue.isTrue_getD]
      by_cases called : (raw.get "valid").isTrue = true
      · rw [if_pos called, if_pos called]
        refine (Yields.tryFields (tolerable_readFields raw) fun fields => Yields.ok _).congr ?_
          fun _ => rfl
        rw [same]
        refine ⟨fun both payload found _ => ?_, fun readable => ⟨?_, fun _ _ => trivial⟩⟩
        · cases found
          exact both.1
        · exact readable _ rfl (isTrue ▸ called)
      · rw [if_neg called, if_neg called]
        refine (Yields.ok invalid).congr ⟨fun _ payload found isCalled => ?_, fun _ => trivial⟩
          fun _ => rfl
        cases found
        exact absurd (isTrue.trans isCalled) called
    | none | bool value | int value | float value | str value | list items =>
      refine (Yields.ok invalid).congr ⟨fun _ payload found called => ?_, fun _ => trivial⟩
        fun _ => rfl
      cases found
      cases called

end SegObservation

/-! ### The road marks -/

namespace PyValue

/-- What a loop over the value runs through, where there can be one. -/
def elements? (value : PyValue α) : Option (List (PyValue α)) := value.iterate.toOption

/-- The two elements of a list of two. -/
def pair? : PyValue α → Option (PyValue α × PyValue α)
  | .list [first, second] => some (first, second)
  | _ => Option.none

omit [Scalar α] in
theorem pair?_eq_some {value first second : PyValue α}
    (same : value.pair? = some (first, second)) : value = .list [first, second] := by
  unfold pair? at same
  split at same
  · cases same
    rfl
  · cases same

/-- The four elements of a list of four. -/
def four? : PyValue α → Option (PyValue α × PyValue α × PyValue α × PyValue α)
  | .list [first, second, third, fourth] => some (first, second, third, fourth)
  | _ => Option.none

omit [Scalar α] in
theorem four?_eq_some {value first second third fourth : PyValue α}
    (same : value.four? = some (first, second, third, fourth)) :
    value = .list [first, second, third, fourth] := by
  unfold four? at same
  split at same
  · cases same
    rfl
  · cases same

end PyValue

theorem getD_map_none {β γ : Type} (found : Option β) (next : β → Option γ) :
    (found.map next).getD none = found.bind next := by
  cases found <;> rfl

namespace MarkObservation

/-- The mark of a class with a box and a confidence, if the box is finite. -/
def markOf (cls : String) : PyFloat α × PyFloat α × PyFloat α × PyFloat α → Option (Mark α)
  | (.finite x1, .finite x2, .finite y2, conf) => some ⟨cls, conf, y2, (x1 + x2) / 2⟩
  | _ => none

/-- The mark of a detection with a class, a box of four numbers, and a number as confidence. -/
def intendedMark (text : PyValue α → String) (found : PyValue α) : Option (Mark α) :=
  if found.isDict && (found.get "cls").truthy then do
    let (x1, y1, x2, y2) ← (found.get "xyxy_px").four?
    let x1 ← x1.number?
    let _ ← y1.number?
    let x2 ← x2.number?
    let y2 ← y2.number?
    let conf ← (found.getD "conf" (.float (.finite 0))).number?
    markOf (text (found.get "cls")) (x1, x2, y2, conf)
  else none

/-- The numbers of a detection with a class and a box can be read. -/
def MarkReadable (found : PyValue α) : Prop :=
  (found.isDict && (found.get "cls").truthy) = true → ∀ x1 y1 x2 y2,
    (found.get "xyxy_px").four? = some (x1, y1, x2, y2) →
      PyValue.readable [x1, y1, x2, y2, found.getD "conf" (.float (.finite 0))] = true

theorem tolerable_readBox (found x1 y1 x2 y2 : PyValue α) :
    Tolerable (readBox found x1 y1 x2 y2) ↔
      PyValue.readable [x1, y1, x2, y2, found.getD "conf" (.float (.finite 0))] = true :=
  tolerable_toFloat_bind fun _ => tolerable_toFloat_bind fun _ => tolerable_toFloat_bind fun _ =>
    tolerable_toFloat_bind fun _ => tolerable_toFloat_bind fun _ => tolerable_pure _

theorem readBox_toOption (found x1 y1 x2 y2 : PyValue α) :
    (readBox found x1 y1 x2 y2).toOption = (do
      let x1 ← x1.number?
      let _ ← y1.number?
      let x2 ← x2.number?
      let y2 ← y2.number?
      let conf ← (found.getD "conf" (.float (.finite 0))).number?
      pure (x1, x2, y2, conf)) := by
  unfold readBox
  simp only [toOption_toFloat_bind]
  rfl

/-- A detection with a class and a box of four is read, and any other is passed over. -/
theorem readMark_eq (text : PyValue α → String) (found : PyValue α) : readMark text found =
    if found.isDict && (found.get "cls").truthy then
      match (found.get "xyxy_px").four? with
      | some (x1, y1, x2, y2) => tryFields (readBox found x1 y1 x2 y2) none fun fields =>
        .ok (markOf (text (found.get "cls")) fields)
      | none => .ok none
    else .ok none := by
  unfold readMark
  split
  next x1 y1 x2 y2 classed box =>
    rw [classed, box]
    refine congrArg (tryFields (readBox found x1 y1 x2 y2) none) (funext fun fields => ?_)
    obtain ⟨x1, x2, y2, conf⟩ := fields
    cases x1 <;> cases x2 <;> cases y2 <;> rfl
  next other =>
    split
    next classed =>
      split
      next x1 y1 x2 y2 box => exact absurd (PyValue.four?_eq_some box) (other x1 y1 x2 y2 classed)
      next => rfl
    next => rfl

theorem readMark_yields (text : PyValue α → String) (found : PyValue α) :
    Yields (readMark text found) (MarkReadable found) (intendedMark text found) := by
  rw [readMark_eq]
  unfold MarkReadable intendedMark
  by_cases classed : (found.isDict && (found.get "cls").truthy) = true
  · rw [if_pos classed, if_pos classed]
    cases (found.get "xyxy_px").four? with
    | none =>
      exact (Yields.ok none).congr ⟨fun _ _ _ _ _ _ same => (nomatch same), fun _ => trivial⟩
        fun _ => rfl
    | some box =>
      obtain ⟨x1, y1, x2, y2⟩ := box
      refine (Yields.tryFields (tolerable_readBox found x1 y1 x2 y2)
        fun fields => Yields.ok _).congr ?_ fun _ => ?_
      · refine ⟨fun both _ _ _ _ _ same => ?_,
          fun readable => ⟨readable classed x1 y1 x2 y2 rfl, fun _ _ => trivial⟩⟩
        cases same
        exact both.1
      · rw [readBox_toOption, getD_map_none]
        simp only [Option.bind_eq_bind, Option.bind_assoc, Option.pure_def, Option.bind_some]
  · rw [if_neg classed, if_neg classed]
    exact (Yields.ok none).congr ⟨fun _ called => absurd called classed, fun _ => trivial⟩
      fun _ => rfl

/-- The observation of a size and a scale: without an area, an axis or something to go through there
is none, and otherwise the marks are those of the detections that have one. -/
def measured (text : PyValue α → String) (axis : Option (PyFloat α)) (payload : PyValue α) :
    PyFloat α × PyFloat α × PyFloat α → MarkObservation α
  | (width, height, scale) =>
    if width.le (.finite 0) || height.le (.finite 0) then invalid
    else ((do
      let axis ← (axisOf axis payload width).toOption
      let found ← (detections payload).toOption
      some ⟨true, found.filterMap (intendedMark text), height, scale, axis⟩) :
        Option (MarkObservation α)).getD invalid

/-- A payload whose size and scale are numbers is measured with them, and any other is invalid. -/
def intendedFields (text : PyValue α → String) (axis : Option (PyFloat α)) (payload : PyValue α) :
    MarkObservation α :=
  ((do
    let (width, height) ← (payload.get "birdseye_size").pair?
    let width ← width.number?
    let height ← height.number?
    let scale ← ((payload.get "pixels_per_meter").orElse (.float (.finite 0))).number?
    some (measured text axis payload (width, height, scale))) :
      Option (MarkObservation α)).getD invalid

/-- What a publication should be observed as: what its fields say, if it has a timestamp that is not
too old, and otherwise nothing. -/
def intended (text : PyValue α → String) (axis : Option (PyFloat α)) (freshnessMaxS now : α)
    (published : Option (PyValue α)) : MarkObservation α :=
  ((do
    let payload ← published
    let timestamp ← (payload.get "timestamp").number?
    if tooOld freshnessMaxS now timestamp then none
    else some (intendedFields text axis payload)) : Option (MarkObservation α)).getD invalid

/-- The axis is configured, missing, or a number. -/
def AxisReadable (axis : Option (PyFloat α)) (payload : PyValue α) : Prop :=
  axis = none → payload.get "vehicle_axis_px" = .none ∨
    (payload.get "vehicle_axis_px").number?.isSome = true

/-- There is nothing for the detections, or something a loop can go through, and the numbers of each
detection can be read. -/
def DetectionsReadable (payload : PyValue α) : Prop :=
  ∃ found, (((payload.get "model").get "detections").orElse (.list [])).elements? = some found ∧
    ∀ item ∈ found, MarkReadable item

/-- The size and the scale can be read, and if they are numbers and there is an area, the axis and
the detections. -/
def FieldsReadable (axis : Option (PyFloat α)) (payload : PyValue α) : Prop :=
  ∀ width height, (payload.get "birdseye_size").pair? = some (width, height) →
    PyValue.readable [width, height, (payload.get "pixels_per_meter").orElse (.float (.finite 0))] =
        true ∧
      ∀ w h, width.number? = some w → height.number? = some h →
        ((payload.get "pixels_per_meter").orElse (.float (.finite 0))).number?.isSome = true →
          (w.le (.finite 0) || h.le (.finite 0)) = false →
            AxisReadable axis payload ∧ DetectionsReadable payload

/-- The timestamp of an object can be read, and if it is not too old, the other fields. -/
def Readable (axis : Option (PyFloat α)) (freshnessMaxS now : α)
    (published : Option (PyValue α)) : Prop :=
  ∀ payload, published = some payload → payload.isDict = true →
    (payload.get "timestamp").oversized = false ∧
      ∀ timestamp, (payload.get "timestamp").number? = some timestamp →
        tooOld freshnessMaxS now timestamp = false → FieldsReadable axis payload

theorem axisOf_yields (axis : Option (PyFloat α)) (payload : PyValue α) (width : PyFloat α) :
    Yields (axisOf axis payload width) (AxisReadable axis payload)
      ((axisOf axis payload width).toOption.getD width) := by
  refine (Yields.of_toOption width).congr ?_ fun _ => rfl
  unfold axisOf AxisReadable
  cases axis with
  | some axis => exact ⟨fun _ same => (nomatch same), fun _ => rfl⟩
  | none =>
    cases payload.get "vehicle_axis_px" with
    | none => exact ⟨fun _ _ => .inl rfl, fun _ => rfl⟩
    | bool value | int value | float value | str value | list items | dict fields =>
      exact ⟨fun isSome _ => .inr isSome,
        fun either => (either rfl).elim (fun same => nomatch same) id⟩

theorem detections_eq (payload : PyValue α) :
    detections payload = (((payload.get "model").get "detections").orElse (.list [])).iterate := by
  unfold detections
  cases payload.get "model" <;> rfl

/-- The axis and the detections. -/
theorem measure_yields (text : PyValue α → String) (axis : Option (PyFloat α)) (payload : PyValue α)
    (width height scale : PyFloat α) :
    Yields (do
        let axis ← axisOf axis payload width
        let found ← detections payload
        let marks ← found.mapM (readMark text)
        pure (⟨true, marks.reduceOption, height, scale, axis⟩ : MarkObservation α))
      (AxisReadable axis payload ∧ DetectionsReadable payload)
      (((do
        let axis ← (axisOf axis payload width).toOption
        let found ← (detections payload).toOption
        some ⟨true, found.filterMap (intendedMark text), height, scale, axis⟩) :
          Option (MarkObservation α)).getD invalid) := by
  have marks : ∀ (axis : PyFloat α) (found : List (PyValue α)), Yields (do
        let marks ← found.mapM (readMark text)
        pure (⟨true, marks.reduceOption, height, scale, axis⟩ : MarkObservation α))
      (∀ item ∈ found, MarkReadable item)
      ⟨true, found.filterMap (intendedMark text), height, scale, axis⟩ := by
    intro axis found
    refine ((Yields.mapM (readMark_yields text) found).bind (by exact Yields.ok _)).congr
      (and_iff_left trivial) fun _ => ?_
    unfold List.reduceOption
    rw [List.filterMap_map, Function.id_comp]
  refine ((axisOf_yields axis payload width).bind
    ((Yields.of_toOption []).bind (marks _ _))).congr (and_congr_right fun _ => ?_) fun both => ?_
  · unfold DetectionsReadable PyValue.elements?
    rw [← detections_eq]
    cases (detections payload).toOption with
    | none => exact ⟨fun both => (nomatch both.1), fun ⟨_, same, _⟩ => (nomatch same)⟩
    | some found =>
      refine ⟨fun both => ⟨found, rfl, both.2⟩, fun ⟨other, same, each⟩ => ⟨rfl, ?_⟩⟩
      cases same
      exact each
  · obtain ⟨readable, found, elements, _⟩ := both
    rw [PyValue.elements?, ← detections_eq] at elements
    rw [elements]
    have located := (axisOf_yields axis payload width).ok_iff.mpr readable
    cases same : axisOf axis payload width with
    | ok axis => rfl
    | error error => cases same.symm.trans located

theorem tolerable_readSize (payload width height : PyValue α) :
    Tolerable (readSize payload width height) ↔ PyValue.readable
      [width, height, (payload.get "pixels_per_meter").orElse (.float (.finite 0))] = true :=
  tolerable_toFloat_bind fun _ => tolerable_toFloat_bind fun _ =>
    tolerable_toFloat_bind fun _ => tolerable_pure _

theorem readSize_toOption (payload width height : PyValue α) :
    (readSize payload width height).toOption = (do
      let width ← width.number?
      let height ← height.number?
      let scale ← ((payload.get "pixels_per_meter").orElse (.float (.finite 0))).number?
      pure (width, height, scale)) := by
  unfold readSize
  simp only [toOption_toFloat_bind]
  rfl

/-- A size of two is read, and any other is invalid. -/
theorem parseFields_eq (text : PyValue α → String) (axis : Option (PyFloat α))
    (payload : PyValue α) : parseFields text axis payload =
    match (payload.get "birdseye_size").pair? with
    | some (width, height) => tryFields (readSize payload width height) invalid fun fields =>
      if fields.1.le (.finite 0) || fields.2.1.le (.finite 0) then .ok invalid
      else do
        let axis ← axisOf axis payload fields.1
        let found ← detections payload
        let marks ← found.mapM (readMark text)
        pure ⟨true, marks.reduceOption, fields.2.1, fields.2.2, axis⟩
    | none => .ok invalid := by
  unfold parseFields
  split
  next width height size =>
    rw [size]
    rfl
  next other =>
    split
    next width height size => exact absurd (PyValue.pair?_eq_some size) (other width height)
    next => rfl

/-- What follows the size and the scale. -/
theorem measured_yields (text : PyValue α → String) (axis : Option (PyFloat α))
    (payload : PyValue α) (fields : PyFloat α × PyFloat α × PyFloat α) :
    Yields (if fields.1.le (.finite 0) || fields.2.1.le (.finite 0) then .ok invalid
      else do
        let axis ← axisOf axis payload fields.1
        let found ← detections payload
        let marks ← found.mapM (readMark text)
        pure ⟨true, marks.reduceOption, fields.2.1, fields.2.2, axis⟩)
      ((fields.1.le (.finite 0) || fields.2.1.le (.finite 0)) = false →
        AxisReadable axis payload ∧ DetectionsReadable payload)
      (measured text axis payload fields) := by
  obtain ⟨width, height, scale⟩ := fields
  unfold measured
  dsimp only
  cases width.le (.finite 0) || height.le (.finite 0) with
  | true =>
    exact (Yields.ok invalid).congr ⟨fun _ positive => (nomatch positive), fun _ => trivial⟩
      fun _ => rfl
  | false =>
    exact (measure_yields text axis payload width height scale).congr
      ⟨fun both _ => both, fun both => both rfl⟩ fun _ => rfl

theorem parseFields_yields (text : PyValue α → String) (axis : Option (PyFloat α))
    (payload : PyValue α) :
    Yields (parseFields text axis payload) (FieldsReadable axis payload)
      (intendedFields text axis payload) := by
  rw [parseFields_eq]
  unfold FieldsReadable intendedFields
  cases (payload.get "birdseye_size").pair? with
  | none =>
    exact (Yields.ok invalid).congr ⟨fun _ _ _ same => (nomatch same), fun _ => trivial⟩
      fun _ => rfl
  | some size =>
    obtain ⟨width, height⟩ := size
    refine (Yields.tryFields (tolerable_readSize payload width height)
      (measured_yields text axis payload)).congr ?_ fun _ => ?_
    · rw [readSize_toOption]
      constructor
      · rintro ⟨readable, onward⟩ _ _ same
        cases same
        refine ⟨readable, fun w h wide high scaled positive => ?_⟩
        obtain ⟨scale, isNumber⟩ := Option.isSome_iff_exists.mp scaled
        exact onward (w, h, scale) (by rw [wide, high, isNumber]; rfl) positive
      · intro fits
        obtain ⟨readable, onward⟩ := fits width height rfl
        refine ⟨readable, fun fields read positive => ?_⟩
        obtain ⟨w, wide, read⟩ := Option.bind_eq_some_iff.mp read
        obtain ⟨h, high, read⟩ := Option.bind_eq_some_iff.mp read
        obtain ⟨scale, isNumber, read⟩ := Option.bind_eq_some_iff.mp read
        cases read
        exact onward w h wide high (by rw [isNumber]; rfl) positive
    · rw [readSize_toOption]
      simp only [Option.bind_eq_bind, Option.bind_some, Option.map_bind, Option.pure_def,
        Function.comp_def, Option.map_some]

/-- A publication is observed as intended exactly if what is looked at can be read. -/
theorem parse_yields (text : PyValue α → String) (axis : Option (PyFloat α)) (freshnessMaxS now : α)
    (published : Option (PyValue α)) :
    Yields (parse text axis freshnessMaxS now published) (Readable axis freshnessMaxS now published)
      (intended text axis freshnessMaxS now published) := by
  cases published with
  | none =>
    exact (Yields.ok invalid).congr ⟨fun _ _ same => (nomatch same), fun _ => trivial⟩ fun _ => rfl
  | some payload =>
    cases payload with
    | dict fields =>
      have judged : ∀ timestamp : PyFloat α, Yields
          (if tooOld freshnessMaxS now timestamp then .ok invalid
            else parseFields text axis (.dict fields))
          (tooOld freshnessMaxS now timestamp = false → FieldsReadable axis (.dict fields))
          (if tooOld freshnessMaxS now timestamp then invalid
            else intendedFields text axis (.dict fields)) := by
        intro timestamp
        cases tooOld freshnessMaxS now timestamp with
        | true =>
          exact (Yields.ok invalid).congr ⟨fun _ young => (nomatch young), fun _ => trivial⟩
            fun _ => rfl
        | false =>
          exact (parseFields_yields text axis (.dict fields)).congr
            ⟨fun readable _ => readable, fun readable => readable rfl⟩ fun _ => rfl
      refine (Yields.tryFields (toFloat_tolerable_iff _) judged).congr ?_ fun _ => ?_
      · refine ⟨fun both payload found _ => ?_, fun readable => readable _ rfl rfl⟩
        cases found
        exact both
      · unfold intended PyValue.number?
        simp only [Option.bind_eq_bind, Option.bind_some]
        cases ((PyValue.dict fields).get "timestamp").toFloat.toOption with
        | none => rfl
        | some timestamp => cases same : tooOld freshnessMaxS now timestamp <;> simp [same]
    | none | bool value | int value | float value | str value | list items =>
      refine (Yields.ok invalid).congr ⟨fun _ payload found isDict => ?_, fun _ => trivial⟩
        fun _ => rfl
      cases found
      cases isDict

end MarkObservation

/-! ### Runs -/

namespace VisionAdapters

variable (adapters : VisionAdapters α)

/-- A step as it should be: an observation never fails. -/
def intendedStep (vision : Vision α) : VisionLabel α → Vision α
  | .publish payload _ => { vision with published := payload }
  | .observeSeg now =>
    { vision with
      seg := SegObservation.intended adapters.segFreshnessMaxS now vision.published
      segSource := vision.published }
  | .observeMarks now =>
    { vision with
      marks := MarkObservation.intended adapters.text adapters.axis adapters.markFreshnessMaxS now
        vision.published
      marksSource := vision.published }
  | .readSeg _ | .readMarks _ => vision

/-- What an observation looks at can be read. -/
def Tolerates (vision : Vision α) : VisionLabel α → Prop
  | .observeSeg _ => SegObservation.Readable vision.published
  | .observeMarks now =>
    MarkObservation.Readable adapters.axis adapters.markFreshnessMaxS now vision.published
  | _ => True

/-- A step of a running worker is as it should be exactly if what it looks at can be read. -/
theorem step_eq_iff (vision : Vision α) (label : VisionLabel α) (running : vision.running = true) :
    adapters.step vision label = adapters.intendedStep vision label ↔
      adapters.Tolerates vision label := by
  cases label with
  | publish payload now => exact ⟨fun _ => trivial, fun _ => rfl⟩
  | readSeg now | readMarks now => exact ⟨fun _ => trivial, fun _ => rfl⟩
  | observeSeg now =>
    have yields := SegObservation.parse_yields adapters.segFreshnessMaxS now vision.published
    rw [step, if_pos running, observeSeg, intendedStep, Tolerates]
    cases parsed : SegObservation.parse adapters.segFreshnessMaxS now
        (realSegLatest vision.published).toOption with
    | ok seg =>
      obtain ⟨readable, same⟩ := (yields seg).mp parsed
      exact ⟨fun _ => readable, fun _ => by rw [same]⟩
    | error error =>
      refine ⟨fun same => ?_, fun readable => ?_⟩
      · cases (congrArg Vision.running same).trans running
      · cases parsed.symm.trans (yields.ok_iff.mpr readable)
  | observeMarks now =>
    have yields := MarkObservation.parse_yields adapters.text adapters.axis
      adapters.markFreshnessMaxS now vision.published
    rw [step, if_pos running, observeMarks, intendedStep, Tolerates]
    cases parsed : MarkObservation.parse adapters.text adapters.axis adapters.markFreshnessMaxS now
        vision.published with
    | ok marks =>
      obtain ⟨readable, same⟩ := (yields marks).mp parsed
      exact ⟨fun _ => readable, fun _ => by rw [same]⟩
    | error error =>
      refine ⟨fun same => ?_, fun readable => ?_⟩
      · cases (congrArg Vision.running same).trans running
      · cases parsed.symm.trans (yields.ok_iff.mpr readable)

theorem intendedStep_running (vision : Vision α) (label : VisionLabel α)
    (running : vision.running = true) : (adapters.intendedStep vision label).running = true := by
  cases label <;> exact running

/-- A run that ends the worker is not as it should be. -/
theorem ended_not_intended {labels : List (VisionLabel α)}
    (ended : (Transition.run adapters.step Vision.start labels).running = false) :
    ¬ ∀ earlier later, labels = earlier ++ later →
        Transition.run adapters.step Vision.start earlier =
          Transition.run adapters.intendedStep Vision.start earlier := by
  intro always
  have running : (Transition.run adapters.intendedStep Vision.start labels).running = true :=
    Transition.run_invariant adapters.intendedStep_running rfl labels
  rw [← always labels [] (List.append_nil labels).symm, ended] at running
  cases running

/-- In every run of publications, observations and reads, the worker goes on and keeps the
observations that each publication should give, exactly if every observation can read what it looks
at. -/
theorem publications_tolerated_iff (labels : List (VisionLabel α)) :
    (∀ earlier later, labels = earlier ++ later →
        Transition.run adapters.step Vision.start earlier =
          Transition.run adapters.intendedStep Vision.start earlier) ↔
      Transition.Along adapters.step adapters.Tolerates Vision.start labels :=
  Transition.same_run_iff_along adapters.intendedStep_running adapters.step_eq_iff rfl labels

/-- A publication of a mark observation whose axis is a text. -/
def axisPayload : PyValue ℚ :=
  .dict [("timestamp", .int 0), ("birdseye_size", .list [.int 2, .int 1]),
    ("vehicle_axis_px", .str "left")]

/-- An offset that is an integer without a float. -/
def offsetPayload : PyValue ℚ :=
  .dict [("timestamp", .int 0), ("seg", .dict [("valid", .bool true),
    ("lateral_offset_m", .int (2 ^ 1024)), ("heading_error_deg", .int 0)])]

/-- The text ends the worker, and so does the integer; both should be invalid observations. -/
theorem malformed_ends_worker :
    (¬ ∀ earlier later,
        [VisionLabel.publish (some axisPayload) 0, .observeMarks 0] = earlier ++ later →
          Transition.run halfSecond.step Vision.start earlier =
            Transition.run halfSecond.intendedStep Vision.start earlier) ∧
      ¬ ∀ earlier later,
        [VisionLabel.publish (some offsetPayload) 0, .observeSeg 0] = earlier ++ later →
          Transition.run halfSecond.step Vision.start earlier =
            Transition.run halfSecond.intendedStep Vision.start earlier := by
  constructor
  · exact halfSecond.ended_not_intended (by decide +kernel)
  · exact halfSecond.ended_not_intended (by decide +kernel)

end VisionAdapters

end RcTaxi
