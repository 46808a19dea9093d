/-
This file models how the observations of the vision are made and kept: the published file, the
observe steps of `perception/seg_adapter.py` and `perception/vision_marks.py`, and the reads of the
control loop. It asks whether what is read is fresh.

The age of a payload is judged once, when it is observed, by a comparison that is written as too
old; what is kept is then read at any later time. A timestamp that is `nan`, infinite or in the
future passes the comparison, and what passed it does not grow old. These are all the ways to a read
that is not fresh. The payload behind each kept observation is part of the state here, although the
program keeps no timestamp. `str` of a class is a parameter: any text may come of it. The adapters'
log output is left out.
-/

import RcTaxi.Perception
import RcTaxi.Transition

namespace RcTaxi

variable {α : Type} [Scalar α]

/-! ### Payloads -/

/-- The errors that `except (TypeError, ValueError)` catches. -/
def PyError.isFormat : PyError → Bool
  | .typeError | .valueError => true
  | _ => false

/-- `try` a reading of some fields, with a result for a format error. -/
def tryFields {Fields Result : Type} (read : Except PyError Fields) (malformed : Result)
    (next : Fields → Except PyError Result) : Except PyError Result :=
  match read with
  | .ok fields => next fields
  | .error error => if error.isFormat then .ok malformed else .error error

/-- `time.time() - timestamp`. -/
def ageAt (now : α) : PyFloat α → PyFloat α
  | .finite timestamp => .finite (now - timestamp)
  | .nan => .nan
  | .inf negative => .inf !negative

/-- `time.time() - timestamp > freshness_max`. -/
def tooOld (freshnessMaxS now : α) (timestamp : PyFloat α) : Bool :=
  (PyFloat.finite freshnessMaxS).lt (ageAt now timestamp)

/-- The timestamp of a payload, where it is a number. -/
def timestampOf (payload : PyValue α) : Option (PyFloat α) :=
  (payload.get "timestamp").toFloat.toOption

/-! ### The lane center -/

/-- The fields of an invalid result. -/
def invalidFields : List (String × PyValue α) :=
  [("valid", .bool false), ("lateral_offset_m", .float (.finite 0)),
    ("heading_error_deg", .float (.finite 0))]

/-- `RealSegModel.latest`; an unreadable file has no payload. -/
def realSegLatest : Option (PyValue α) → Except PyError (PyValue α)
  | none => .ok (.dict invalidFields)
  | some payload => do
    let timestamp ← payload.getAttr "timestamp"
    let seg ← payload.getAttr "seg"
    let out := match seg with
      | .dict fields =>
        let seg : PyValue α := .dict fields
        [("valid", seg.getD "valid" (.bool false)),
          ("lateral_offset_m", seg.getD "lateral_offset_m" (.float (.finite 0))),
          ("heading_error_deg", seg.getD "heading_error_deg" (.float (.finite 0)))]
      | _ => invalidFields
    pure (.dict (match timestamp with
      | .none => out
      | timestamp => out ++ [("timestamp", timestamp)]))

namespace SegObservation

/-- `_INVALID`. -/
def invalid : SegObservation α := ⟨false, 0, 0⟩

/-- `float(get(...))` of the three numbers. -/
def readFields (raw : PyValue α) : Except PyError (PyFloat α × PyFloat α × PyFloat α) := do
  let offset ← (raw.get "lateral_offset_m").toFloat
  let error ← (raw.get "heading_error_deg").toFloat
  let timestamp ← (raw.get "timestamp").toFloat
  pure (offset, error, timestamp)

/-- `SegAdapter._parse`. -/
def parse (freshnessMaxS now : α) : Option (PyValue α) → Except PyError (SegObservation α)
  | none => .ok invalid
  | some raw =>
    match raw.get "valid" with
    | .bool true =>
      tryFields (readFields raw) invalid fun fields =>
        match fields with
        | (.finite offset, .finite error, timestamp) =>
          if 90 ≤ |error| then .ok invalid
          else if tooOld freshnessMaxS now timestamp then .ok invalid
          else .ok ⟨true, offset, error⟩
        | _ => .ok invalid
    | _ => .ok invalid

end SegObservation

/-! ### The road marks -/

namespace MarkObservation

/-- `_INVALID`. -/
def invalid : MarkObservation α := ⟨false, [], .finite 0, .finite 0, .finite 0⟩

/-- The numbers of a detection: the box without its upper edge, and the confidence. -/
def readBox (found x1 y1 x2 y2 : PyValue α) :
    Except PyError (PyFloat α × PyFloat α × PyFloat α × PyFloat α) := do
  let x1 ← x1.toFloat
  let _ ← y1.toFloat
  let x2 ← x2.toFloat
  let y2 ← y2.toFloat
  let conf ← (found.getD "conf" (.float (.finite 0))).toFloat
  pure (x1, x2, y2, conf)

/-- One detection; `none` is one that is passed over. -/
def readMark (text : PyValue α → String) (found : PyValue α) : Except PyError (Option (Mark α)) :=
  match found.isDict && (found.get "cls").truthy, found.get "xyxy_px" with
  | true, .list [x1, y1, x2, y2] =>
    tryFields (readBox found x1 y1 x2 y2) none fun fields =>
      match fields with
      | (.finite x1, .finite x2, .finite y2, conf) =>
        .ok (some ⟨text (found.get "cls"), conf, y2, (x1 + x2) / 2⟩)
      | _ => .ok none
  | _, _ => .ok none

/-- `dets or []`. -/
def detections (payload : PyValue α) : Except PyError (List (PyValue α)) :=
  ((match payload.get "model" with
    | .dict fields => (PyValue.dict fields).get "detections"
    | _ => .none).orElse (.list [])).iterate

/-- The width, the height and the scale. -/
def readSize (payload width height : PyValue α) :
    Except PyError (PyFloat α × PyFloat α × PyFloat α) := do
  let width ← width.toFloat
  let height ← height.toFloat
  let scale ← ((payload.get "pixels_per_meter").orElse (.float (.finite 0))).toFloat
  pure (width, height, scale)

/-- The axis of the car: the configured one, that of the payload, or the middle. -/
def axisOf (axis : Option (PyFloat α)) (payload : PyValue α) (width : PyFloat α) :
    Except PyError (PyFloat α) :=
  match axis with
  | some axis => .ok axis
  | none => match payload.get "vehicle_axis_px" with
    | .none => .ok (width.mul (.finite (1 / 2)))
    | axis => axis.toFloat

/-- The part of `MarkAdapter._parse` behind the judgement of the age. -/
def parseFields (text : PyValue α → String) (axis : Option (PyFloat α)) (payload : PyValue α) :
    Except PyError (MarkObservation α) :=
  match payload.get "birdseye_size" with
  | .list [width, height] =>
    tryFields (readSize payload width height) invalid fun fields =>
      let (width, height, scale) := fields
      if width.le (.finite 0) || height.le (.finite 0) then .ok invalid
      else do
        let axis ← axisOf axis payload width
        let found ← detections payload
        let marks ← found.mapM (readMark text)
        pure ⟨true, marks.reduceOption, height, scale, axis⟩
  | _ => .ok invalid

/-- `MarkAdapter._parse`. -/
def parse (text : PyValue α → String) (axis : Option (PyFloat α)) (freshnessMaxS now : α) :
    Option (PyValue α) → Except PyError (MarkObservation α)
  | some (.dict fields) =>
    let payload : PyValue α := .dict fields
    tryFields (payload.get "timestamp").toFloat invalid fun timestamp =>
      if tooOld freshnessMaxS now timestamp then .ok invalid
      else parseFields text axis payload
  | _ => .ok invalid

end MarkObservation

/-! ### Publishing, observing and reading -/

/-- The adapters as they are configured. -/
structure VisionAdapters (α : Type) where
  segFreshnessMaxS : α
  markFreshnessMaxS : α
  axis : Option (PyFloat α)
  text : PyValue α → String

/-- The published file, what the adapters keep, and whether the worker that observes still runs. The
sources are the payloads behind what is kept. -/
structure Vision (α : Type) where
  published : Option (PyValue α)
  seg : SegObservation α
  segSource : Option (PyValue α)
  marks : MarkObservation α
  marksSource : Option (PyValue α)
  running : Bool

/-- Before anything was observed. -/
def Vision.start : Vision α := ⟨none, .invalid, none, .invalid, none, true⟩

/-- The steps, each at a time of the wall clock. -/
inductive VisionLabel (α : Type)
  | publish (payload : Option (PyValue α)) (now : α)
  | observeSeg (now : α)
  | observeMarks (now : α)
  | readSeg (now : α)
  | readMarks (now : α)

/-- The time of a step. -/
def VisionLabel.time {α : Type} : VisionLabel α → α
  | .publish _ now | .observeSeg now | .observeMarks now | .readSeg now | .readMarks now => now

namespace VisionAdapters

variable (adapters : VisionAdapters α)

/-- `SegAdapter.observe`: an exception of the model is caught, one of `_parse` ends the worker. -/
def observeSeg (now : α) (vision : Vision α) : Vision α :=
  let raw := (realSegLatest vision.published).toOption
  match SegObservation.parse adapters.segFreshnessMaxS now raw with
  | .ok seg => { vision with seg := seg, segSource := vision.published }
  | .error _ => { vision with running := false }

/-- `MarkAdapter.observe`. -/
def observeMarks (now : α) (vision : Vision α) : Vision α :=
  match MarkObservation.parse adapters.text adapters.axis adapters.markFreshnessMaxS now
      vision.published with
  | .ok marks => { vision with marks := marks, marksSource := vision.published }
  | .error _ => { vision with running := false }

/-- One step. `latest` of an adapter returns what it keeps and changes nothing. -/
def step (vision : Vision α) : VisionLabel α → Vision α
  | .publish payload _ => { vision with published := payload }
  | .observeSeg now => if vision.running then adapters.observeSeg now vision else vision
  | .observeMarks now => if vision.running then adapters.observeMarks now vision else vision
  | .readSeg _ | .readMarks _ => vision

end VisionAdapters

/-! ### Freshness -/

/-- The timestamp of a payload is a finite number, not in the future and not too old. -/
def FreshAt (freshnessMaxS now : α) (source : Option (PyValue α)) : Prop :=
  ∃ timestamp, source.bind timestampOf = some (.finite timestamp) ∧ 0 ≤ now - timestamp ∧
    now - timestamp ≤ freshnessMaxS

/-- What a read returns is fresh, if it is valid or starts a turn. -/
def ReadsFresh (adapters : VisionAdapters α) (vision : Vision α) : VisionLabel α → Prop
  | .readSeg now => vision.seg.valid = true →
    FreshAt adapters.segFreshnessMaxS now vision.segSource
  | .readMarks now => vision.marks.valid = true ∨ (∃ spec, vision.marks.triggered spec = true) →
    FreshAt adapters.markFreshnessMaxS now vision.marksSource
  | _ => True

/-- The adapters, and when what they keep was observed. -/
structure ObservedVision (α : Type) extends Vision α where
  segAt : α
  marksAt : α

namespace ObservedVision

def start : ObservedVision α := ⟨Vision.start, 0, 0⟩

/-- A step of the adapters; an observation is kept if the worker that makes it still runs. -/
def step (adapters : VisionAdapters α) (vision : ObservedVision α) (label : VisionLabel α) :
    ObservedVision α :=
  let after := adapters.step vision.toVision label
  { toVision := after
    segAt := match label with
      | .observeSeg now => if after.running then now else vision.segAt
      | _ => vision.segAt
    marksAt := match label with
      | .observeMarks now => if after.running then now else vision.marksAt
      | _ => vision.marksAt }

/-- A payload that was observed and is read later has a timestamp that is not `nan` and not in the
future; and if it was not too old when it was observed, it has not grown too old. -/
def LastsUntil (freshnessMaxS observed now : α) (source : Option (PyValue α)) : Prop :=
  ∀ timestamp, source.bind timestampOf = some timestamp →
    timestamp.le (.finite now) = true ∧
      (tooOld freshnessMaxS observed timestamp = false → tooOld freshnessMaxS now timestamp = false)

/-- What is read as valid lasts from its observation until the read. -/
def Lasting (adapters : VisionAdapters α) (vision : ObservedVision α) : VisionLabel α → Prop
  | .readSeg now => vision.seg.valid = true →
    LastsUntil adapters.segFreshnessMaxS vision.segAt now vision.segSource
  | .readMarks now => vision.marks.valid = true →
    LastsUntil adapters.markFreshnessMaxS vision.marksAt now vision.marksSource
  | .publish _ _ | .observeSeg _ | .observeMarks _ => True

end ObservedVision

/-- Every read of a run is fresh. -/
def EveryReadFresh (adapters : VisionAdapters α) (labels : List (VisionLabel α)) : Prop :=
  ∀ earlier label later, labels = earlier ++ label :: later →
    ReadsFresh adapters (Transition.run adapters.step Vision.start earlier) label

/-! ### What is kept -/

/-- A result of `tryFields` that is not the malformed one comes of the fields. -/
theorem tryFields_ok {Fields Result : Type} {read : Except PyError Fields} {malformed : Result}
    {next : Fields → Except PyError Result} {result : Result}
    (tried : tryFields read malformed next = .ok result) :
    read.toOption = none ∧ result = malformed ∨
      ∃ fields, read = .ok fields ∧ next fields = .ok result := by
  unfold tryFields at tried
  split at tried
  next fields => exact .inr ⟨fields, rfl, tried⟩
  · split at tried
    · exact .inl ⟨rfl, (Except.ok.inj tried).symm⟩
    · cases tried

/-- The published timestamp is handed on. -/
theorem realSegLatest_timestamp {payload raw : PyValue α} {timestamp : PyFloat α}
    (handed : realSegLatest (some payload) = .ok raw)
    (isNumber : (raw.get "timestamp").toFloat = .ok timestamp) :
    timestampOf payload = some timestamp := by
  obtain ⟨stamp, stamped, handed⟩ := bind_eq_ok.mp handed
  obtain ⟨seg, -, handed⟩ := bind_eq_ok.mp handed
  have same : payload.get "timestamp" = stamp := by
    cases payload with
    | dict fields => exact Except.ok.inj stamped
    | none => cases stamped
    | bool value => cases stamped
    | int value => cases stamped
    | float value => cases stamped
    | str value => cases stamped
    | list items => cases stamped
  cases handed
  unfold timestampOf
  rw [same]
  cases stamp with
  | none => cases seg <;> cases isNumber
  | bool value => cases seg <;> exact congrArg Except.toOption isNumber
  | int value => cases seg <;> exact congrArg Except.toOption isNumber
  | float value => cases seg <;> exact congrArg Except.toOption isNumber
  | str value => cases seg <;> exact congrArg Except.toOption isNumber
  | list items => cases seg <;> exact congrArg Except.toOption isNumber
  | dict fields => cases seg <;> exact congrArg Except.toOption isNumber

/-- A valid observation of the lane center comes of a payload whose timestamp is not too old. -/
theorem SegObservation.parse_valid {freshnessMaxS now : α} {published : Option (PyValue α)}
    {seg : SegObservation α}
    (parsed : SegObservation.parse freshnessMaxS now (realSegLatest published).toOption = .ok seg)
    (valid : seg.valid = true) : ∃ timestamp, published.bind timestampOf = some timestamp ∧
      tooOld freshnessMaxS now timestamp = false := by
  have rejected : seg ≠ invalid := by
    rintro rfl
    cases valid
  cases handed : realSegLatest published with
  | error error =>
    rw [handed] at parsed
    exact absurd (Except.ok.inj parsed).symm rejected
  | ok raw =>
    rw [handed] at parsed
    change parse freshnessMaxS now (some raw) = .ok seg at parsed
    unfold parse at parsed
    split at parsed
    · exact absurd (Except.ok.inj parsed).symm rejected
    next raw' same =>
      cases same
      split at parsed
      · rcases tryFields_ok parsed with ⟨-, same⟩ | ⟨fields, read, judged⟩
        · exact absurd same rejected
        · obtain ⟨offset, -, read⟩ := bind_eq_ok.mp read
          obtain ⟨error, -, read⟩ := bind_eq_ok.mp read
          obtain ⟨timestamp, isNumber, same⟩ := bind_eq_ok.mp read
          have young : tooOld freshnessMaxS now timestamp = false := by
            cases same
            split at judged
            next offset error stamp all =>
              cases all
              split at judged
              · exact absurd (Except.ok.inj judged).symm rejected
              · split at judged
                · exact absurd (Except.ok.inj judged).symm rejected
                next passes => exact Bool.eq_false_iff.mpr passes
            · exact absurd (Except.ok.inj judged).symm rejected
          cases published with
          | none =>
            cases handed
            cases isNumber
          | some payload => exact ⟨timestamp, realSegLatest_timestamp handed isNumber, young⟩
      · exact absurd (Except.ok.inj parsed).symm rejected

/-- A valid observation of the road marks comes of a payload whose timestamp is not too old. -/
theorem MarkObservation.parse_valid {text : PyValue α → String} {axis : Option (PyFloat α)}
    {freshnessMaxS now : α} {published : Option (PyValue α)} {marks : MarkObservation α}
    (parsed : MarkObservation.parse text axis freshnessMaxS now published = .ok marks)
    (valid : marks.valid = true) : ∃ timestamp, published.bind timestampOf = some timestamp ∧
      tooOld freshnessMaxS now timestamp = false := by
  unfold parse at parsed
  split at parsed
  next fields =>
    rcases tryFields_ok parsed with ⟨-, invalid⟩ | ⟨timestamp, isNumber, judged⟩
    · rw [invalid] at valid
      cases valid
    · refine ⟨timestamp, congrArg Except.toOption isNumber, ?_⟩
      split at judged
      · cases judged
        cases valid
      next passes => exact Bool.eq_false_iff.mpr passes
  · cases parsed
    cases valid

/-- Marks that start a turn are valid. -/
theorem MarkObservation.valid_of_triggered {marks : MarkObservation α} {spec : TriggerSpec α}
    (triggered : marks.triggered spec = true) : marks.valid = true := by
  unfold MarkObservation.triggered at triggered
  rw [Bool.and_eq_true, Bool.and_eq_true, Bool.and_eq_true] at triggered
  exact triggered.1.1.2

/-- A payload that was not too old when it was observed is fresh exactly if it lasts until now. -/
theorem ObservedVision.freshAt_iff {freshnessMaxS observed now : α} {source : Option (PyValue α)}
    {timestamp : PyFloat α} (stamped : source.bind timestampOf = some timestamp)
    (passed : tooOld freshnessMaxS observed timestamp = false) :
    FreshAt freshnessMaxS now source ↔ LastsUntil freshnessMaxS observed now source := by
  constructor
  · rintro ⟨number, isNumber, past, young⟩ other same
    cases isNumber.symm.trans same
    exact ⟨decide_eq_true (sub_nonneg.mp past), fun _ => decide_eq_false (not_lt.mpr young)⟩
  · intro lasts
    obtain ⟨past, lasting⟩ := lasts timestamp stamped
    cases timestamp with
    | nan => cases past
    | inf negative =>
      -- minus infinity is in the past, but was refused as too old
      cases negative with
      | false => cases past
      | true => cases passed
    | finite number =>
      have young : ¬ freshnessMaxS < now - number := of_decide_eq_false (lasting passed)
      exact ⟨number, stamped, sub_nonneg.mpr (of_decide_eq_true past), not_lt.mp young⟩

namespace ObservedVision

variable {adapters : VisionAdapters α} {vision : ObservedVision α}

/-- What is kept as valid was not too old when it was observed. -/
structure Passed (adapters : VisionAdapters α) (vision : ObservedVision α) : Prop where
  seg : vision.seg.valid = true → ∃ timestamp, vision.segSource.bind timestampOf = some timestamp ∧
    tooOld adapters.segFreshnessMaxS vision.segAt timestamp = false
  marks : vision.marks.valid = true → ∃ timestamp,
    vision.marksSource.bind timestampOf = some timestamp ∧
      tooOld adapters.markFreshnessMaxS vision.marksAt timestamp = false

/-- Nothing is kept at the start. -/
theorem start_passed (adapters : VisionAdapters α) : start.Passed adapters where
  seg valid := by cases valid
  marks valid := by cases valid

/-- Observing the lane center keeps what passes now, or what was kept. -/
theorem Passed.observeSeg (passed : vision.Passed adapters) (now : α) :
    (step adapters vision (.observeSeg now)).Passed adapters := by
  unfold step VisionAdapters.step VisionAdapters.observeSeg
  dsimp only
  cases running : vision.running with
  | false =>
    simp only [Bool.false_eq_true, if_false, running]
    exact ⟨passed.seg, passed.marks⟩
  | true =>
    rw [if_pos rfl]
    cases parsed : SegObservation.parse adapters.segFreshnessMaxS now
        (realSegLatest vision.published).toOption with
    | error error => exact ⟨passed.seg, passed.marks⟩
    | ok seg =>
      simp only [if_true]
      refine ⟨fun valid => ?_, passed.marks⟩
      exact SegObservation.parse_valid parsed valid

/-- Observing the road marks keeps what passes now, or what was kept. -/
theorem Passed.observeMarks (passed : vision.Passed adapters) (now : α) :
    (step adapters vision (.observeMarks now)).Passed adapters := by
  unfold step VisionAdapters.step VisionAdapters.observeMarks
  dsimp only
  cases running : vision.running with
  | false =>
    simp only [Bool.false_eq_true, if_false, running]
    exact ⟨passed.seg, passed.marks⟩
  | true =>
    rw [if_pos rfl]
    cases parsed : MarkObservation.parse adapters.text adapters.axis adapters.markFreshnessMaxS
        now vision.published with
    | error error => exact ⟨passed.seg, passed.marks⟩
    | ok marks =>
      simp only [if_true]
      refine ⟨passed.seg, fun valid => ?_⟩
      exact MarkObservation.parse_valid parsed valid

/-- Every step keeps it. -/
theorem Passed.step (passed : vision.Passed adapters) (label : VisionLabel α) :
    (ObservedVision.step adapters vision label).Passed adapters := by
  cases label with
  | observeSeg now => exact passed.observeSeg now
  | observeMarks now => exact passed.observeMarks now
  | publish payload now => exact ⟨passed.seg, passed.marks⟩
  | readSeg now => exact passed
  | readMarks now => exact passed

/-- A read is fresh exactly if what it returns has lasted. -/
theorem readsFresh_iff (passed : vision.Passed adapters) (label : VisionLabel α) :
    ReadsFresh adapters vision.toVision label ↔ Lasting adapters vision label := by
  cases label with
  | publish payload now => exact Iff.rfl
  | observeSeg now => exact Iff.rfl
  | observeMarks now => exact Iff.rfl
  | readSeg now =>
    refine forall_congr' fun valid => ?_
    obtain ⟨timestamp, stamped, young⟩ := passed.seg valid
    exact freshAt_iff stamped young
  | readMarks now =>
    have readAsValid : vision.marks.valid = true ∨ (∃ spec, vision.marks.triggered spec = true) ↔
        vision.marks.valid = true :=
      or_iff_left_of_imp fun ⟨_, triggered⟩ => MarkObservation.valid_of_triggered triggered
    refine (imp_congr_left readAsValid).trans (forall_congr' fun valid => ?_)
    obtain ⟨timestamp, stamped, young⟩ := passed.marks valid
    exact freshAt_iff stamped young

/-- The observed adapters are the adapters. -/
theorem run_toVision (adapters : VisionAdapters α) (labels : List (VisionLabel α)) :
    (Transition.run (step adapters) start labels).toVision =
      Transition.run adapters.step Vision.start labels := by
  induction labels using List.reverseRecOn with
  | nil => rfl
  | append_singleton labels label inductionHypothesis =>
    rw [Transition.run_concat, Transition.run_concat, ← inductionHypothesis]
    rfl

end ObservedVision

namespace VisionAdapters

/-- Every read of a run is fresh exactly if every read that returns something valid is of a payload
whose timestamp is not `nan` and not in the future, and which has not grown too old since it was
observed. -/
theorem reads_fresh_iff (adapters : VisionAdapters α) (labels : List (VisionLabel α)) :
    EveryReadFresh adapters labels ↔ Transition.Along (ObservedVision.step adapters)
      (ObservedVision.Lasting adapters) ObservedVision.start labels := by
  rw [Transition.along_iff_forall]
  refine forall₃_congr fun earlier label later => forall_congr' fun _ => ?_
  have passed : (Transition.run (ObservedVision.step adapters) ObservedVision.start
      earlier).Passed adapters := by
    have kept (vision : ObservedVision α) (label : VisionLabel α) (passed : vision.Passed adapters) :
        (ObservedVision.step adapters vision label).Passed adapters := passed.step label
    exact Transition.run_invariant kept (ObservedVision.start_passed adapters) earlier
  rw [← ObservedVision.run_toVision]
  exact ObservedVision.readsFresh_iff passed label

end VisionAdapters

/-! ### A read after a stall -/

namespace VisionAdapters

/-- Adapters that take what is at most half a second old. -/
def halfSecond : VisionAdapters ℚ := ⟨1 / 2, 1 / 2, none, fun _ => "stop_line"⟩

/-- A payload with the car in the middle of the lane. -/
def centered (timestamp : PyFloat ℚ) : PyValue ℚ :=
  .dict [("timestamp", .float timestamp), ("seg", .dict [("valid", .bool true)])]

/-- The payload is published and observed at once, and read at some time. -/
def readAt (timestamp : PyFloat ℚ) (now : ℚ) : List (VisionLabel ℚ) :=
  [.publish (some (centered timestamp)) 0, .observeSeg 0, .readSeg now]

/-- What is kept comes of the payload. -/
theorem observed_source : (Transition.run halfSecond.step Vision.start
    [.publish (some (centered (.finite 0))) 0, .observeSeg 0]).segSource.bind timestampOf =
      some (.finite 0) := by
  decide +kernel

theorem observed_source_nan : (Transition.run halfSecond.step Vision.start
    [.publish (some (centered .nan)) 0, .observeSeg 0]).segSource.bind timestampOf = some .nan := by
  decide +kernel

/-- A payload of time zero is read as valid after a second, and one without a time is. -/
theorem stale_is_read : ((readAt (.finite 0) 1).map VisionLabel.time).Pairwise (· ≤ ·) ∧
    ¬ EveryReadFresh halfSecond (readAt (.finite 0) 1) ∧
    ((readAt .nan 0).map VisionLabel.time).Pairwise (· ≤ ·) ∧
    ¬ EveryReadFresh halfSecond (readAt .nan 0) := by
  refine ⟨by decide +kernel, fun every => ?_, by decide +kernel, fun every => ?_⟩
  · obtain ⟨timestamp, source, -, young⟩ := every [_, _] (.readSeg 1) [] rfl (by decide +kernel)
    rw [observed_source, Option.some.injEq, PyFloat.finite.injEq] at source
    rw [← source] at young
    exact absurd young (by decide +kernel)
  · obtain ⟨timestamp, source, -⟩ := every [_, _] (.readSeg 0) [] rfl (by decide +kernel)
    rw [observed_source_nan] at source
    cases source

-- Read after a quarter of a second, the payload is fresh.
example : EveryReadFresh halfSecond (readAt (.finite 0) (1 / 4)) := by
  refine (reads_fresh_iff halfSecond _).mpr ⟨trivial, trivial, fun _ timestamp isNumber => ?_, trivial⟩
  rw [← Option.some.inj (observed_source.symm.trans isNumber)]
  decide +kernel

end VisionAdapters

end RcTaxi
