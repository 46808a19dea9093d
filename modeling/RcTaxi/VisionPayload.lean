/-
This file models what `main` of `vision_runner/vision_runner.py` publishes for a frame, and follows it
to the other process: what the adapters of the car make of it. Numbers are rounded on the way, and
nothing else happens to them. `json` gives back what it was given.

The camera, the neural network and the search for yellow pixels are not part of the repository or are
image processing; a frame is what comes out of them, with the times at which it did.
-/

import RcTaxi.LaneMirror
import RcTaxi.VisionFreshness

namespace RcTaxi

open LaneCenter LeastSquares

variable {α : Type} [Scalar α]

/-! ### What is published -/

/-- A box of the network: its class, the confidence and the corners. -/
structure FoundBox (α : Type) where
  cls : String
  conf : α
  x1 : α
  y1 : α
  x2 : α
  y2 : α

/-- What is known of a frame: the yellow pixels, the boxes, the time of day, and how many seconds the
two stages took. -/
structure Frame (α : Type) where
  number : ℕ
  yellow : YellowMask
  boxes : List (FoundBox α)
  time : α
  extractS : α
  inferS : α

/-- `output_size` of the extractor, which checks that it is positive; an image of OpenCV has no more
than `int` rows and columns. -/
structure OutputSize where
  width : ℤ
  height : ℤ
  width_pos : 0 < width
  height_pos : 0 < height
  width_small : width < 2 ^ 31
  height_small : height < 2 ^ 31

/-- The settings, and `numpy.polyfit`. -/
structure VisionRunner (α : Type) where
  size : OutputSize
  conf : α
  polyfit : List α → List α → α × α

/-- A number that is published with some digits. -/
def rounded (x : α) (digits : ℕ) : PyValue α := .float (.finite (pyRound x digits))

/-- The entry of a box in `detections`. -/
def FoundBox.payload (box : FoundBox α) : PyValue α :=
  .dict [("cls", .str box.cls), ("conf", rounded box.conf 3),
    ("xyxy_px", .list [rounded box.x1 1, rounded box.y1 1, rounded box.x2 1, rounded box.y2 1]),
    ("center_px", .list [rounded ((box.x1 + box.x2) / 2) 1, rounded ((box.y1 + box.y2) / 2) 1])]

namespace Frame

/-- `counts`: how many boxes each class has. -/
def counts (frame : Frame α) : Dict String ℤ :=
  frame.boxes.foldl (fun counts box => counts.insert box.cls ((counts.get? box.cls).getD 0 + 1)) .empty

/-- `dash_boxes`. -/
def dashBoxes (frame : Frame α) : List (DashBox α) :=
  (frame.boxes.filter fun box => box.cls = "dashed_line").map fun box =>
    ⟨box.x1, box.y1, box.x2, box.y2⟩

/-- `np.count_nonzero`. -/
def yellowPixels (frame : Frame α) : ℕ :=
  ((List.range frame.yellow.rows).map fun row => (frame.yellow.flatnonzero row).length).sum

end Frame

/-- The dictionary that `compute_seg` returns. -/
def LaneCenter.SegResult.payload (result : SegResult α) : PyValue α :=
  .dict <| [("valid", .bool result.valid)] ++
    (match result.measured with
    | some (offset, heading) => [("lateral_offset_m", .float (.finite offset)),
        ("heading_error_deg", .float (.finite heading))]
    | none => []) ++
    [("rows", .int result.rows), ("pair_rows", .int result.pairRows)] ++
    match result.reject with
    | some (offset, heading) => [("reject", .dict [("offset_m", .float (.finite offset)),
        ("heading_deg", .float (.finite heading))])]
    | none => []

namespace VisionRunner

variable (runner : VisionRunner α)

/-- The payload of a frame whose lane center was computed. -/
def payloadOf (frame : Frame α) (seg : SegResult α) : PyValue α :=
  .dict [("timestamp", .float (.finite frame.time)), ("frame", .int frame.number),
    ("proc_ms", .dict [("extract", rounded (frame.extractS * 1000) 1),
      ("infer", rounded (frame.inferS * 1000) 1)]),
    ("birdseye_size", .list [.int runner.size.width, .int runner.size.height]),
    ("pixels_per_meter", .float (.finite ppm)), ("vehicle_axis_px", .int 477),
    ("model", .dict [("conf", .float (.finite runner.conf)),
      ("counts", .dict (frame.counts.items.map fun item => (item.1, .int item.2))),
      ("detections", .list (frame.boxes.map FoundBox.payload))]),
    ("heuristic", .dict [("yellow_pixels", .int frame.yellowPixels)]),
    ("seg", seg.payload)]

/-- The payload of a frame; where `compute_seg` raises, nothing is published. -/
def payload (frame : Frame α) : Except PyError (PyValue α) := do
  let seg ← computeSeg runner.polyfit frame.yellow frame.dashBoxes
  pure (runner.payloadOf frame seg)

end VisionRunner

/-! ### Rounding -/

theorem abs_nearestEven_sub_le (scaled : α) : |(nearestEven scaled : α) - scaled| ≤ 1 / 2 := by
  have lower : 0 ≤ scaled - ⌊scaled⌋ := sub_nonneg.mpr (Int.floor_le scaled)
  have upper : scaled - ⌊scaled⌋ < 1 := sub_lt_iff_lt_add'.mpr (Int.lt_floor_add_one scaled)
  unfold nearestEven
  dsimp only
  rw [abs_le]
  split_ifs with down up even
  · constructor <;> linarith only [lower, down]
  · rw [Int.cast_add, Int.cast_one]
    constructor <;> linarith only [upper, up]
  · constructor <;> linarith only [lower, up]
  · rw [Int.cast_add, Int.cast_one]
    constructor <;> linarith only [upper, down]

/-- Rounding does not pass an integer. -/
theorem nearestEven_le {scaled : α} {bound : ℤ} (below : scaled ≤ bound) :
    nearestEven scaled ≤ bound := by
  have near := (abs_le.mp (abs_nearestEven_sub_le scaled)).2
  have short : (nearestEven scaled : α) < (bound + 1 : ℤ) := by
    rw [Int.cast_add, Int.cast_one]
    linarith only [near, below]
  exact Int.lt_add_one_iff.mp (Int.cast_lt.mp short)

/-- A rounded number is off by half a unit of its last digit at most. -/
theorem abs_pyRound_sub_le (x : α) (digits : ℕ) : |pyRound x digits - x| ≤ 1 / 2 / 10 ^ digits := by
  have positive : (0 : α) < 10 ^ digits := pow_pos (by norm_num) digits
  have scaled : pyRound x digits - x = (nearestEven (x * 10 ^ digits) - x * 10 ^ digits) /
      10 ^ digits := by
    rw [pyRound, sub_div, mul_div_cancel_right₀ _ positive.ne']
  rw [scaled, abs_div, abs_of_pos positive]
  exact div_le_div_of_nonneg_right (abs_nearestEven_sub_le _) positive.le

/-- A number within a bound that has no more digits stays within it. -/
theorem abs_pyRound_le {x limit : α} {digits : ℕ} (bound : ℤ) (whole : limit * 10 ^ digits = bound)
    (within : |x| ≤ limit) : |pyRound x digits| ≤ limit := by
  have positive : (0 : α) < 10 ^ digits := pow_pos (by norm_num) digits
  have upward {y : α} (below : y ≤ limit) : pyRound y digits ≤ limit := by
    rw [pyRound, div_le_iff₀ positive, whole]
    refine Int.cast_le.mpr (nearestEven_le ?_)
    rw [← whole]
    exact mul_le_mul_of_nonneg_right below positive.le
  refine abs_le'.mpr ⟨upward (le_of_abs_le within), ?_⟩
  rw [← pyRound_neg]
  exact upward (neg_le.mp (neg_le_of_abs_le within))

/-! ### The lane center on the other side -/

/-- What the car sees of a lane center. -/
def seenSeg (result : SegResult α) : SegObservation α :=
  match result.measured with
  | some (offset, heading) => ⟨true, offset, heading⟩
  | none => .invalid

/-- What `compute_seg` returns: nothing measured, or an offset and a heading within its limits,
rounded. -/
theorem conclude_cases (polyfit : List α → List α → α × α) (scanned : List (ℕ × RowEstimate α)) :
    ((conclude polyfit scanned).valid = false ∧ (conclude polyfit scanned).measured = none) ∨
      (conclude polyfit scanned).valid = true ∧ (conclude polyfit scanned).measured =
        some (pyRound (deviation polyfit (points scanned)).1 4,
          pyRound (deviation polyfit (points scanned)).2 2) ∧
        (conclude polyfit scanned).reject = none ∧
        |(deviation polyfit (points scanned)).1| ≤ maxOffsetM ∧
        |(deviation polyfit (points scanned)).2| ≤ maxHeadDeg := by
  unfold conclude
  dsimp only
  split
  · exact .inl ⟨rfl, rfl⟩
  · split
    · exact .inl ⟨rfl, rfl⟩
    · next accepted =>
      rw [not_or, not_lt, not_lt] at accepted
      exact .inr ⟨rfl, rfl, rfl, accepted⟩

/-- The fields that `RealSegModel.latest` hands on. -/
def handedOn (time : α) (valid : Bool) (offset heading : α) : PyValue α :=
  .dict [("valid", .bool valid), ("lateral_offset_m", .float (.finite offset)),
    ("heading_error_deg", .float (.finite heading)), ("timestamp", .float (.finite time))]

theorem realSegLatest_payloadOf (runner : VisionRunner α) (frame : Frame α) (seg : SegResult α)
    (measured : seg.valid = seg.measured.isSome) :
    realSegLatest (some (runner.payloadOf frame seg)) =
      .ok (handedOn frame.time seg.valid (seg.measured.getD (0, 0)).1
        (seg.measured.getD (0, 0)).2) := by
  obtain ⟨valid, rows, pairRows, found, reject⟩ := seg
  cases found with
  | none =>
    cases reject with
    | none => rfl
    | some rejected => rfl
  | some pair => rfl

/-- What the car reads off a lane center that was published. -/
theorem parse_handedOn (freshnessMaxS now time offset heading : α) (valid : Bool)
    (small : |heading| < 90) :
    SegObservation.parse freshnessMaxS now (some (handedOn time valid offset heading)) =
      .ok (if valid ∧ tooOld freshnessMaxS now (.finite time) = false then ⟨true, offset, heading⟩
        else .invalid) := by
  cases valid with
  | false => rfl
  | true =>
    have read : SegObservation.parse freshnessMaxS now (some (handedOn time true offset heading)) =
        if 90 ≤ |heading| then .ok .invalid
        else if tooOld freshnessMaxS now (.finite time) then .ok .invalid
        else .ok ⟨true, offset, heading⟩ := rfl
    rw [read, if_neg small.not_ge]
    cases tooOld freshnessMaxS now (.finite time) with
    | false => rfl
    | true => rfl

/-- The car sees the lane center of a frame as it was computed, unless the payload is too old. -/
theorem seg_seen (runner : VisionRunner α) (frame : Frame α) (scanned : List (ℕ × RowEstimate α))
    (freshnessMaxS now : α) :
    SegObservation.parse freshnessMaxS now (realSegLatest
        (some (runner.payloadOf frame (conclude runner.polyfit scanned)))).toOption =
      .ok (if tooOld freshnessMaxS now (.finite frame.time) then .invalid
        else seenSeg (conclude runner.polyfit scanned)) := by
  have cases' := conclude_cases runner.polyfit scanned
  generalize conclude runner.polyfit scanned = seg at cases' ⊢
  obtain ⟨valid, measured⟩ | ⟨valid, measured, -, -, heading⟩ := cases'
  · have rejected : seenSeg seg = .invalid := by
      rw [seenSeg, measured]
    rw [realSegLatest_payloadOf runner frame seg (by rw [valid, measured]; rfl), valid, rejected,
      ite_self]
    rfl
  · have within : |pyRound (deviation runner.polyfit (points scanned)).2 2| ≤ (maxHeadDeg : α) := by
      refine abs_pyRound_le 1000 ?_ heading
      rw [maxHeadDeg]
      norm_num
    have small : |pyRound (deviation runner.polyfit (points scanned)).2 2| < 90 := by
      refine within.trans_lt ?_
      rw [maxHeadDeg]
      norm_num
    rw [realSegLatest_payloadOf runner frame seg (by rw [valid, measured]; rfl), Except.toOption,
      valid, measured, Option.getD_some, parse_handedOn _ _ _ _ _ _ small, seenSeg, measured]
    cases tooOld freshnessMaxS now (.finite frame.time) with
    | false => rfl
    | true => rfl

/-! ### The road marks on the other side -/

/-- What the car sees of a box. -/
def seenMark (box : FoundBox α) : Mark α where
  cls := box.cls
  conf := .finite (pyRound box.conf 3)
  bottomPx := pyRound box.y2 1
  centerXPx := (pyRound box.x1 1 + pyRound box.x2 1) / 2

/-- What the car sees of the boxes of a frame; a box without a class is passed over. -/
def seenMarks (runner : VisionRunner α) (axis : Option (PyFloat α)) (frame : Frame α) :
    MarkObservation α where
  valid := true
  marks := (frame.boxes.filter fun box => box.cls ≠ "").map seenMark
  heightPx := .finite runner.size.height
  pixelsPerMeter := .finite ppm
  axisPx := axis.getD (.finite vehicleAxisPx)

theorem floatOfInt_small {value : ℤ} (positive : 0 < value) (small : value < 2 ^ 31) :
    (floatOfInt value : Except PyError (PyFloat α)) = .ok (.finite value) := by
  have limit : (2 : ℤ) ^ 31 ≤ floatLimit := by decide +kernel
  rw [floatOfInt, abs_of_pos positive, if_neg (small.trans_le limit).not_ge]

theorem readSize_payloadOf (runner : VisionRunner α) (frame : Frame α) (seg : SegResult α) :
    MarkObservation.readSize (runner.payloadOf frame seg) (.int runner.size.width)
        (.int runner.size.height) =
      .ok (.finite runner.size.width, .finite runner.size.height, .finite ppm) := by
  have width : (floatOfInt runner.size.width : Except PyError (PyFloat α)) = _ :=
    floatOfInt_small runner.size.width_pos runner.size.width_small
  have height : (floatOfInt runner.size.height : Except PyError (PyFloat α)) = _ :=
    floatOfInt_small runner.size.height_pos runner.size.height_small
  have nonzero : (ppm : α) ≠ 0 := by
    rw [ppm]
    norm_num
  have scale : ((runner.payloadOf frame seg).get "pixels_per_meter").orElse (.float (.finite 0)) =
      .float (.finite ppm) := if_pos (decide_eq_true nonzero)
  rw [MarkObservation.readSize, PyValue.toFloat, PyValue.toFloat, width, height, scale]
  rfl

theorem axisOf_payloadOf (runner : VisionRunner α) (frame : Frame α) (seg : SegResult α)
    (axis : Option (PyFloat α)) (width : PyFloat α) :
    MarkObservation.axisOf axis (runner.payloadOf frame seg) width =
      .ok (axis.getD (.finite vehicleAxisPx)) := by
  cases axis with
  | some axis => rfl
  | none =>
    have column : MarkObservation.axisOf none (runner.payloadOf frame seg) width =
        floatOfInt 477 := rfl
    rw [column, floatOfInt_small (by decide) (by decide), Int.cast_ofNat]
    rfl

theorem detections_payloadOf (runner : VisionRunner α) (frame : Frame α) (seg : SegResult α) :
    MarkObservation.detections (runner.payloadOf frame seg) =
      .ok (frame.boxes.map FoundBox.payload) := by
  have listed : MarkObservation.detections (runner.payloadOf frame seg) =
      ((PyValue.list (frame.boxes.map FoundBox.payload)).orElse (.list [])).iterate := rfl
  rw [listed]
  cases frame.boxes with
  | nil => rfl
  | cons box boxes => rfl

theorem readMark_payload {text : PyValue α → String} (texts : ∀ value, text (.str value) = value)
    (box : FoundBox α) :
    MarkObservation.readMark text box.payload =
      .ok (if box.cls ≠ "" then some (seenMark box) else none) := by
  by_cases named : box.cls ≠ ""
  · have truthy : (box.payload.isDict && (box.payload.get "cls").truthy) = true :=
      decide_eq_true named
    have read : MarkObservation.readMark text box.payload =
        .ok (some { seenMark box with cls := text (.str box.cls) }) := by
      unfold MarkObservation.readMark
      rw [truthy]
      rfl
    rw [read, texts, if_pos named]
    rfl
  · have falsy : (box.payload.isDict && (box.payload.get "cls").truthy) = false :=
      decide_eq_false named
    unfold MarkObservation.readMark
    rw [falsy, if_neg named]

theorem readMarks_payload {text : PyValue α → String} (texts : ∀ value, text (.str value) = value)
    (boxes : List (FoundBox α)) :
    (boxes.map FoundBox.payload).mapM (MarkObservation.readMark text) =
      .ok (boxes.map fun box => if box.cls ≠ "" then some (seenMark box) else none) := by
  induction boxes with
  | nil => rfl
  | cons box boxes inductionHypothesis =>
    rw [List.map_cons, List.mapM_cons, readMark_payload texts, inductionHypothesis]
    rfl

omit [Scalar α] in
theorem reduceOption_seen {Seen : Type} (boxes : List (FoundBox α)) (seen : FoundBox α → Seen) :
    (boxes.map fun box => if box.cls ≠ "" then some (seen box) else none).reduceOption =
      (boxes.filter fun box => box.cls ≠ "").map seen := by
  induction boxes with
  | nil => rfl
  | cons box boxes inductionHypothesis =>
    rw [List.map_cons, List.filter_cons]
    by_cases named : box.cls ≠ ""
    · rw [if_pos named, if_pos (decide_eq_true named), List.reduceOption_cons_of_some,
        inductionHypothesis, List.map_cons]
    · rw [if_neg named, if_neg (by rwa [decide_eq_true_eq]), List.reduceOption_cons_of_none,
        inductionHypothesis]

/-- The car sees the boxes of a frame as they were found, unless the payload is too old. -/
theorem marks_seen {text : PyValue α → String} (texts : ∀ value, text (.str value) = value)
    (runner : VisionRunner α) (frame : Frame α) (seg : SegResult α) (axis : Option (PyFloat α))
    (freshnessMaxS now : α) :
    MarkObservation.parse text axis freshnessMaxS now (some (runner.payloadOf frame seg)) =
      .ok (if tooOld freshnessMaxS now (.finite frame.time) then .invalid
        else seenMarks runner axis frame) := by
  have judged : MarkObservation.parse text axis freshnessMaxS now
        (some (runner.payloadOf frame seg)) =
      if tooOld freshnessMaxS now (.finite frame.time) then .ok .invalid
      else MarkObservation.parseFields text axis (runner.payloadOf frame seg) := rfl
  have sized : MarkObservation.parseFields text axis (runner.payloadOf frame seg) =
      tryFields (MarkObservation.readSize (runner.payloadOf frame seg) (.int runner.size.width)
        (.int runner.size.height)) .invalid fun fields =>
          if fields.1.le (.finite 0) || fields.2.1.le (.finite 0) then .ok .invalid
          else (do
            let axis ← MarkObservation.axisOf axis (runner.payloadOf frame seg) fields.1
            let found ← MarkObservation.detections (runner.payloadOf frame seg)
            let marks ← found.mapM (MarkObservation.readMark text)
            pure ⟨true, marks.reduceOption, fields.2.1, fields.2.2, axis⟩) := rfl
  have positive {size : ℤ} (isPositive : 0 < size) :
      (PyFloat.finite (size : α)).le (.finite 0) = false :=
    decide_eq_false (Int.cast_pos.mpr isPositive).not_ge
  rw [judged, sized, readSize_payloadOf, tryFields, positive runner.size.width_pos,
    positive runner.size.height_pos, axisOf_payloadOf, detections_payloadOf]
  dsimp only [bind_ok, Bool.or_false]
  rw [readMarks_payload texts]
  dsimp only [bind_ok]
  rw [reduceOption_seen]
  split
  · rfl
  · rfl

/-! ### Every run with this publisher -/

/-- Only frames are published; the file may also be missing. -/
def Publishes (runner : VisionRunner α) : VisionLabel α → Prop
  | .publish (some published) _ => ∃ frame, runner.payload frame = .ok published
  | _ => True

/-- An observation is the lane center of the frame, up to half a unit of the last digit; or there was
none in the frame. -/
def IsSegOf (runner : VisionRunner α) (frame : Frame α) (obs : SegObservation α) : Prop :=
  ∃ scanned, segRows.mapM (scanRow frame.yellow frame.dashBoxes) = .ok scanned ∧
    ((conclude runner.polyfit scanned).valid = false ∧ obs = .invalid ∨
      (conclude runner.polyfit scanned).valid = true ∧ obs.valid = true ∧
        |obs.lateralOffsetM - (deviation runner.polyfit (points scanned)).1| ≤ 1 / 2 / 10 ^ 4 ∧
        |obs.headingErrorDeg - (deviation runner.polyfit (points scanned)).2| ≤ 1 / 2 / 10 ^ 2 ∧
        |obs.lateralOffsetM| ≤ maxOffsetM ∧ |obs.headingErrorDeg| ≤ maxHeadDeg)

/-- What is kept is nothing, or comes of the frame behind it. -/
structure Understands (runner : VisionRunner α) (adapters : VisionAdapters α) (vision : Vision α) :
    Prop where
  running : vision.running = true
  published : ∀ published ∈ vision.published, ∃ frame, runner.payload frame = .ok published
  seg : vision.seg = .invalid ∨ ∃ frame published, vision.segSource = some published ∧
    runner.payload frame = .ok published ∧ IsSegOf runner frame vision.seg
  marks : vision.marks = .invalid ∨ ∃ frame published, vision.marksSource = some published ∧
    runner.payload frame = .ok published ∧ vision.marks = seenMarks runner adapters.axis frame

theorem isSegOf_seenSeg (runner : VisionRunner α) (frame : Frame α)
    {scanned : List (ℕ × RowEstimate α)}
    (rows : segRows.mapM (scanRow frame.yellow frame.dashBoxes) = .ok scanned) :
    IsSegOf runner frame (seenSeg (conclude runner.polyfit scanned)) := by
  refine ⟨scanned, rows, ?_⟩
  obtain ⟨valid, measured⟩ | ⟨valid, measured, -, offset, heading⟩ :=
    conclude_cases runner.polyfit scanned
  · refine .inl ⟨valid, ?_⟩
    rw [seenSeg, measured]
  · refine .inr ⟨valid, ?_⟩
    rw [seenSeg, measured]
    refine ⟨rfl, abs_pyRound_sub_le _ 4, abs_pyRound_sub_le _ 2, ?_, ?_⟩
    · refine abs_pyRound_le 2000 ?_ offset
      rw [maxOffsetM]
      norm_num
    · refine abs_pyRound_le 1000 ?_ heading
      rw [maxHeadDeg]
      norm_num

/-- What a payload is made of. -/
theorem payload_eq_ok {runner : VisionRunner α} {frame : Frame α} {published : PyValue α}
    (made : runner.payload frame = .ok published) :
    ∃ scanned, segRows.mapM (scanRow frame.yellow frame.dashBoxes) = .ok scanned ∧
      published = runner.payloadOf frame (conclude runner.polyfit scanned) := by
  obtain ⟨seg, computed, made⟩ := bind_eq_ok.mp made
  obtain ⟨scanned, rows, concluded⟩ := bind_eq_ok.mp computed
  cases concluded
  cases made
  exact ⟨scanned, rows, rfl⟩

section Step

variable {runner : VisionRunner α} {adapters : VisionAdapters α} {vision : Vision α}
  (texts : ∀ value, adapters.text (.str value) = value)

theorem observeSeg_frame (now : α) {frame : Frame α} {published : PyValue α}
    (file : vision.published = some published) (made : runner.payload frame = .ok published) :
    ∃ seg, adapters.observeSeg now vision =
        { vision with seg := seg, segSource := some published } ∧
      (seg = .invalid ∨ IsSegOf runner frame seg) ∧
      (now - frame.time ≤ adapters.segFreshnessMaxS → IsSegOf runner frame seg) := by
  obtain ⟨scanned, rows, rfl⟩ := payload_eq_ok made
  have seen := seg_seen runner frame scanned adapters.segFreshnessMaxS now
  refine ⟨if tooOld adapters.segFreshnessMaxS now (.finite frame.time) then .invalid
    else seenSeg (conclude runner.polyfit scanned), ?_, ?_, ?_⟩
  · rw [VisionAdapters.observeSeg, file, seen]
  · split
    · exact .inl rfl
    · exact .inr (isSegOf_seenSeg runner frame rows)
  · intro young
    rw [if_neg (fun old => (of_decide_eq_true old).not_ge young)]
    exact isSegOf_seenSeg runner frame rows

include texts in
theorem observeMarks_frame (now : α) {frame : Frame α} {published : PyValue α}
    (file : vision.published = some published) (made : runner.payload frame = .ok published) :
    ∃ marks, adapters.observeMarks now vision =
        { vision with marks := marks, marksSource := some published } ∧
      (marks = .invalid ∨ marks = seenMarks runner adapters.axis frame) ∧
      (now - frame.time ≤ adapters.markFreshnessMaxS →
        marks = seenMarks runner adapters.axis frame) := by
  obtain ⟨scanned, rows, rfl⟩ := payload_eq_ok made
  have seen := marks_seen texts runner frame (conclude runner.polyfit scanned) adapters.axis
    adapters.markFreshnessMaxS now
  refine ⟨if tooOld adapters.markFreshnessMaxS now (.finite frame.time) then .invalid
    else seenMarks runner adapters.axis frame, ?_, ?_, ?_⟩
  · rw [VisionAdapters.observeMarks, file, seen]
  · split
    · exact .inl rfl
    · exact .inr rfl
  · intro young
    exact if_neg fun old => (of_decide_eq_true old).not_ge young

/-- Without a file both adapters keep that they saw nothing. -/
theorem observe_missing (now : α) (file : vision.published = none) :
    adapters.observeSeg now vision = { vision with seg := .invalid, segSource := none } ∧
      adapters.observeMarks now vision = { vision with marks := .invalid, marksSource := none } := by
  constructor
  · rw [VisionAdapters.observeSeg, file]
    rfl
  · rw [VisionAdapters.observeMarks, file]
    rfl

include texts in
theorem Understands.step (understands : Understands runner adapters vision) (label : VisionLabel α)
    (publishes : Publishes runner label) :
    Understands runner adapters (adapters.step vision label) := by
  obtain ⟨running, published, seg, marks⟩ := understands
  cases label with
  | publish payload now =>
    cases payload with
    | none => exact ⟨running, nofun, seg, marks⟩
    | some payload =>
      refine ⟨running, ?_, seg, marks⟩
      rintro _ ⟨⟩
      exact publishes
  | observeSeg now =>
    rw [VisionAdapters.step, if_pos running]
    cases file : vision.published with
    | none =>
      rw [(observe_missing now file).1]
      exact ⟨running, published, .inl rfl, marks⟩
    | some payload =>
      obtain ⟨frame, made⟩ := published payload file
      obtain ⟨kept, observed, comes, -⟩ := observeSeg_frame now file made
      rw [observed]
      exact ⟨running, published, comes.imp_right fun isSeg => ⟨frame, payload, rfl, made, isSeg⟩, marks⟩
  | observeMarks now =>
    rw [VisionAdapters.step, if_pos running]
    cases file : vision.published with
    | none =>
      rw [(observe_missing now file).2]
      exact ⟨running, published, seg, .inl rfl⟩
    | some payload =>
      obtain ⟨frame, made⟩ := published payload file
      obtain ⟨kept, observed, comes, -⟩ := observeMarks_frame texts now file made
      rw [observed]
      exact ⟨running, published, seg, comes.imp_right fun seen => ⟨frame, payload, rfl, made, seen⟩⟩
  | readSeg now => exact ⟨running, published, seg, marks⟩
  | readMarks now => exact ⟨running, published, seg, marks⟩

end Step

theorem understands_run {runner : VisionRunner α} {adapters : VisionAdapters α}
    (texts : ∀ value, adapters.text (.str value) = value) {labels : List (VisionLabel α)}
    (publishes : ∀ label ∈ labels, Publishes runner label) :
    Understands runner adapters (Transition.run adapters.step Vision.start labels) := by
  induction labels using List.reverseRecOn with
  | nil => exact ⟨rfl, nofun, .inl rfl, .inl rfl⟩
  | append_singleton labels label inductionHypothesis =>
    have before := inductionHypothesis fun label among =>
      publishes label (List.mem_append_left _ among)
    rw [Transition.run_concat]
    exact before.step texts label (publishes label (List.mem_append_right _ List.mem_cons_self))

/-- In every run in which the publisher publishes frames, the worker that observes never ends; what
it keeps comes of the frame behind it, numbers rounded; and a frame that is not too old is taken
over. -/
theorem published_frames_are_understood (runner : VisionRunner α) (adapters : VisionAdapters α)
    (texts : ∀ value, adapters.text (.str value) = value) (labels : List (VisionLabel α))
    (publishes : ∀ label ∈ labels, Publishes runner label) :
    let vision := Transition.run adapters.step Vision.start labels
    Understands runner adapters vision ∧
      ∀ frame published now, vision.published = some published →
        runner.payload frame = .ok published →
        (now - frame.time ≤ adapters.segFreshnessMaxS →
          IsSegOf runner frame (adapters.step vision (.observeSeg now)).seg) ∧
        (now - frame.time ≤ adapters.markFreshnessMaxS →
          (adapters.step vision (.observeMarks now)).marks =
            seenMarks runner adapters.axis frame) := by
  intro vision
  have understands : Understands runner adapters vision := understands_run texts publishes
  refine ⟨understands, fun frame published now file made => ⟨fun young => ?_, fun young => ?_⟩⟩
  · obtain ⟨kept, observed, -, taken⟩ :=
      observeSeg_frame now file made
    rw [VisionAdapters.step, if_pos understands.running, observed]
    exact taken young
  · obtain ⟨kept, observed, -, taken⟩ := observeMarks_frame texts now file made
    rw [VisionAdapters.step, if_pos understands.running, observed]
    exact taken young

/-! ### A frame with a stop line -/

/-- A lane with a yellow line to the left and dashes to the right, and a stop line across it. -/
def stopFrame : Frame ℚ where
  number := 1
  yellow := laneMask
  boxes := [⟨"dashed_line", 9 / 10, 503, 100, 505, 240⟩, ⟨"stop_line", 4 / 5, 440, 180, 520, 220⟩]
  time := 100
  extractS := 1 / 50
  inferS := 1 / 20

def stopRunner : VisionRunner ℚ where
  size := ⟨954, 241, by decide, by decide, by decide, by decide⟩
  conf := 2 / 5
  polyfit := leastLine

/-- Adapters that read the axis from the payload; the text of a text is itself. -/
def plainAdapters : VisionAdapters ℚ where
  segFreshnessMaxS := 1 / 2
  markFreshnessMaxS := 1 / 2
  axis := none
  text := fun value => match value with
    | .str text => text
    | _ => ""

def stopPayload : PyValue ℚ :=
  stopRunner.payloadOf stopFrame (conclude leastLine (scanned laneMask stopFrame.dashBoxes))

theorem payload_stopFrame : stopRunner.payload stopFrame = .ok stopPayload := by
  rw [VisionRunner.payload, computeSeg_eq, if_pos (by decide)]
  rfl

/-- The frame is published and observed. -/
def stopRun : List (VisionLabel ℚ) :=
  [.publish (some stopPayload) 100, .observeSeg (401 / 4), .observeMarks (401 / 4)]

theorem publishes_stopRun : ∀ label ∈ stopRun, Publishes stopRunner label := by
  intro label among
  rcases List.mem_cons.mp among with rfl | among
  · exact ⟨stopFrame, payload_stopFrame⟩
  · rcases List.mem_cons.mp among with rfl | among
    · trivial
    · rw [List.mem_singleton.mp among]
      trivial

theorem published_frames_are_understood_stopRun :
    Understands stopRunner plainAdapters
      (Transition.run plainAdapters.step Vision.start stopRun) :=
  (published_frames_are_understood stopRunner plainAdapters (fun _ => rfl) stopRun
    publishes_stopRun).1

/-! ### The start of a turn -/

/-- The box starts a turn with so many half units of the last published digits to spare: it is of the
class, found with enough confidence, near enough and in the own lane. -/
def Shows (runner : VisionRunner α) (column minConf nearRowFrac maxLateralM spare : α)
    (cls : PyValue α) (box : FoundBox α) : Prop :=
  (cls.equalsStr box.cls = true ∧ box.cls ≠ "") ∧
    minConf + spare * (1 / 2 / 10 ^ 3) ≤ box.conf ∧
    runner.size.height * nearRowFrac + spare * (1 / 2 / 10 ^ 1) ≤ box.y2 ∧
    |(box.x1 + box.x2) / 2 - column| + spare * (1 / 2 / 10 ^ 1) ≤ maxLateralM * ppm

section Trigger

variable {runner : VisionRunner α} {column minConf nearRowFrac maxLateralM : α}
  {spec : TriggerSpec α} {axis : Option (PyFloat α)} {frame : Frame α}

theorem abs_center_sub_le (box : FoundBox α) :
    |(seenMark box).centerXPx - (box.x1 + box.x2) / 2| ≤ 1 / 2 / 10 ^ 1 := by
  have left := abs_le.mp (abs_pyRound_sub_le box.x1 1)
  have right := abs_le.mp (abs_pyRound_sub_le box.x2 1)
  rw [seenMark, abs_le]
  constructor
  · linarith only [left.1, right.1]
  · linarith only [left.2, right.2]

/-- What the four conditions say of a box. -/
theorem fires_seenMark (conf : spec.minConf = .finite minConf)
    (near : spec.nearRowFrac = .finite nearRowFrac) (lateral : spec.maxLateralM = .finite maxLateralM)
    (onAxis : axis.getD (.finite vehicleAxisPx) = .finite column) (box : FoundBox α) :
    (seenMarks runner axis frame).fires spec (seenMark box) = true ↔
      spec.cls.equalsStr box.cls = true ∧ minConf ≤ pyRound box.conf 3 ∧
        runner.size.height * nearRowFrac ≤ pyRound box.y2 1 ∧
        |(seenMark box).centerXPx - column| ≤ maxLateralM * ppm := by
  have positive : (0 : α) < ppm := by
    rw [ppm]
    norm_num
  have aside : (seenMarks runner axis frame).lateralM (seenMark box) =
      .finite (|(seenMark box).centerXPx - column| / ppm) := by
    rw [MarkObservation.lateralM, seenMarks]
    dsimp only
    rw [onAxis, show (PyFloat.finite ppm).le (.finite (0 : α)) = false from
      decide_eq_false positive.not_ge]
    rfl
  rw [MarkObservation.fires, aside, conf, lateral, near, Bool.and_eq_true, Bool.and_eq_true,
    Bool.and_eq_true, and_assoc, and_assoc, Bool.not_eq_true', Bool.not_eq_true', Bool.not_eq_true']
  refine and_congr_right fun _ => and_congr ?_ (and_congr ?_ ?_)
  · exact decide_eq_false_iff_not.trans not_lt
  · exact decide_eq_false_iff_not.trans not_lt
  · exact (decide_eq_false_iff_not.trans not_lt).trans (div_le_iff₀ positive)

theorem triggered_seenMarks :
    (seenMarks runner axis frame).triggered spec = true ↔ spec.usesVision = true ∧
      ∃ box ∈ frame.boxes, box.cls ≠ "" ∧
        (seenMarks runner axis frame).fires spec (seenMark box) = true := by
  have valid : (seenMarks runner axis frame).valid = true := rfl
  have high : (seenMarks runner axis frame).heightPx.le (.finite 0) = false :=
    decide_eq_false (Int.cast_pos.mpr runner.size.height_pos).not_ge
  rw [MarkObservation.triggered, Bool.and_eq_true, Bool.and_eq_true, Bool.and_eq_true, and_assoc,
    and_assoc]
  refine and_congr_right fun _ => ?_
  rw [and_iff_right valid, high, and_iff_right Bool.not_false, List.any_eq_true]
  constructor
  · rintro ⟨mark, among, fires⟩
    obtain ⟨box, found, rfl⟩ := List.mem_map.mp among
    obtain ⟨member, named⟩ := List.mem_filter.mp found
    exact ⟨box, member, of_decide_eq_true named, fires⟩
  · rintro ⟨box, member, named, fires⟩
    exact ⟨seenMark box, List.mem_map_of_mem (List.mem_filter.mpr ⟨member, decide_eq_true named⟩),
      fires⟩

/-- With something to spare the published box starts the turn, and what starts a turn is such a box up
to as much. -/
theorem triggered_of_shows (conf : spec.minConf = .finite minConf)
    (near : spec.nearRowFrac = .finite nearRowFrac) (lateral : spec.maxLateralM = .finite maxLateralM)
    (onAxis : axis.getD (.finite vehicleAxisPx) = .finite column) :
    ((∃ box ∈ frame.boxes, Shows runner column minConf nearRowFrac maxLateralM 1 spec.cls box) →
        (seenMarks runner axis frame).triggered spec = true) ∧
      ((seenMarks runner axis frame).triggered spec = true →
        ∃ box ∈ frame.boxes,
          Shows runner column minConf nearRowFrac maxLateralM (-1) spec.cls box) := by
  rw [triggered_seenMarks]
  constructor
  · rintro ⟨box, member, ⟨sameClass, named⟩, sure, close, own⟩
    refine ⟨?_, box, member, named, (fires_seenMark conf near lateral onAxis box).mpr ?_⟩
    · cases cls : spec.cls with
      | none =>
        rw [cls] at sameClass
        cases sameClass
      | bool value | int value | float value | str value | list items | dict fields =>
        rw [TriggerSpec.usesVision, cls]
    · have confidence := (abs_le.mp (abs_pyRound_sub_le box.conf 3)).1
      have bottom := (abs_le.mp (abs_pyRound_sub_le box.y2 1)).1
      have center := (abs_sub_le (seenMark box).centerXPx ((box.x1 + box.x2) / 2) column).trans
        (add_le_add_left (abs_center_sub_le box) _)
      refine ⟨sameClass, ?_, ?_, ?_⟩
      · linarith only [sure, confidence]
      · linarith only [close, bottom]
      · linarith only [own, center]
  · rintro ⟨-, box, member, named, fires⟩
    obtain ⟨sameClass, sure, close, own⟩ := (fires_seenMark conf near lateral onAxis box).mp fires
    have confidence := (abs_le.mp (abs_pyRound_sub_le box.conf 3)).2
    have bottom := (abs_le.mp (abs_pyRound_sub_le box.y2 1)).2
    have center := (abs_sub_le ((box.x1 + box.x2) / 2) (seenMark box).centerXPx column).trans
      (add_le_add_left ((abs_sub_comm _ _).trans_le (abs_center_sub_le box)) _)
    refine ⟨box, member, ⟨sameClass, named⟩, ?_, ?_, ?_⟩
    · linarith only [sure, confidence]
    · linarith only [close, bottom]
    · linarith only [own, center]

end Trigger

/-- In every run in which the publisher publishes frames: what is kept starts a turn only if the frame
behind it has a box for it, and a frame that is not too old and has such a box starts it once it is
observed, both up to half a unit of the last published digits. -/
theorem turns_start_by_boxes (runner : VisionRunner α) (adapters : VisionAdapters α)
    (texts : ∀ value, adapters.text (.str value) = value) (labels : List (VisionLabel α))
    (publishes : ∀ label ∈ labels, Publishes runner label) (spec : TriggerSpec α)
    (column minConf nearRowFrac maxLateralM : α) (conf : spec.minConf = .finite minConf)
    (near : spec.nearRowFrac = .finite nearRowFrac) (lateral : spec.maxLateralM = .finite maxLateralM)
    (onAxis : adapters.axis.getD (.finite vehicleAxisPx) = .finite column) :
    let vision := Transition.run adapters.step Vision.start labels
    (vision.marks.triggered spec = true → ∃ frame published,
        vision.marksSource = some published ∧ runner.payload frame = .ok published ∧
          ∃ box ∈ frame.boxes,
            Shows runner column minConf nearRowFrac maxLateralM (-1) spec.cls box) ∧
      ∀ frame published now, vision.published = some published →
        runner.payload frame = .ok published → now - frame.time ≤ adapters.markFreshnessMaxS →
        (∃ box ∈ frame.boxes, Shows runner column minConf nearRowFrac maxLateralM 1 spec.cls box) →
        (adapters.step vision (.observeMarks now)).marks.triggered spec = true := by
  intro vision
  have understands : Understands runner adapters vision := understands_run texts publishes
  constructor
  · intro triggered
    rcases understands.marks with invalid | ⟨frame, published, source, made, seen⟩
    · have valid := MarkObservation.valid_of_triggered triggered
      rw [invalid] at valid
      cases valid
    · rw [seen] at triggered
      exact ⟨frame, published, source, made,
        (triggered_of_shows conf near lateral onAxis).2 triggered⟩
  · intro frame published now file made young enough
    obtain ⟨kept, observed, -, taken⟩ := observeMarks_frame texts now file made
    rw [VisionAdapters.step, if_pos understands.running, observed]
    dsimp only
    rw [taken young]
    exact (triggered_of_shows conf near lateral onAxis).1 enough

/-- A turn that is started by a stop line. -/
def stopTrigger : TriggerSpec ℚ :=
  ⟨.str "stop_line", .finite (45 / 100), .finite (8 / 10), .finite (3 / 10)⟩

theorem turns_start_by_boxes_stopFrame :
    let vision := Transition.run plainAdapters.step Vision.start [.publish (some stopPayload) 100]
    (plainAdapters.step vision (.observeMarks (401 / 4))).marks.triggered stopTrigger = true := by
  have publishes : ∀ label ∈ [.publish (some stopPayload) 100], Publishes stopRunner label := by
    intro label among
    rw [List.mem_singleton.mp among]
    exact ⟨stopFrame, payload_stopFrame⟩
  refine (turns_start_by_boxes stopRunner plainAdapters (fun _ => rfl) _ publishes stopTrigger
    vehicleAxisPx (45 / 100) (8 / 10) (3 / 10) rfl rfl rfl rfl).2 stopFrame stopPayload (401 / 4) rfl
    payload_stopFrame (by decide +kernel) ⟨_, List.mem_cons_of_mem _ List.mem_cons_self, ?_⟩
  unfold Shows
  decide +kernel

end RcTaxi
