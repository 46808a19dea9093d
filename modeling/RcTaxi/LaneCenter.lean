/-
This file models `_runs_centers` and `compute_seg` of `vision_runner/vision_runner.py`: where the
centre of the lane is, from the yellow pixels and the dashes of a bird's-eye image. Every scanned
row yields candidates for a line; a pair of them around the axis of the vehicle is the lane, and
where there is none a single one near the axis is taken for one of its borders. A straight line is
fitted through the centres of the rows.

The fit is `numpy.polyfit`, which is not part of the repository and is a parameter here.
-/

import RcTaxi.PyValue

namespace RcTaxi

variable {α : Type} [Scalar α]

/-- The nearest integer, and the even one of two. -/
def nearestEven (scaled : α) : ℤ :=
  let whole := ⌊scaled⌋
  let part := scaled - whole
  if part < 1 / 2 then whole
  else if 1 / 2 < part then whole + 1
  else if whole % 2 = 0 then whole
  else whole + 1

/-- Python's `round(x, digits)`. -/
def pyRound (x : α) (digits : ℕ) : α := nearestEven (x * 10 ^ digits) / 10 ^ digits

namespace LaneCenter

/-! ### Constants -/

/-- `PPM`. -/
def ppm : α := 250

/-- `VEHICLE_AXIS_PX`. -/
def vehicleAxisPx : α := 477

/-- `LANE_W_PX`. -/
def laneWPx : α × α := (17 / 100 * ppm, 33 / 100 * ppm)

/-- `SEG_ROWS`, which is `range(140, 236, 12)`. -/
def segRows : List ℕ := List.range' 140 8 12

/-- `MIN_ROWS`. -/
def minRows : ℕ := 5

/-- `MAX_OFFSET_M`. -/
def maxOffsetM : α := 2 / 10

/-- `MAX_HEAD_DEG`. -/
def maxHeadDeg : α := 10

/-- `LANE_HALF_PX`. -/
def laneHalfPx : α := 125 / 1000 * ppm

/-- `SINGLE_GATE_PX`. -/
def singleGatePx : α := 25 / 100 * ppm

/-! ### Candidates -/

/-- The yellow mask: an image, and which of its pixels are set. -/
structure YellowMask where
  rows : ℕ
  columns : ℕ
  isSet : ℕ → ℕ → Bool

/-- `np.flatnonzero(yellow_mask[row])`. -/
def YellowMask.flatnonzero (mask : YellowMask) (row : ℕ) : List ℤ :=
  ((List.range mask.columns).filter (mask.isSet row)).map (↑)

/-- The box of a dash. -/
structure DashBox (α : Type) where
  x1 : α
  y1 : α
  x2 : α
  y2 : α

/-- `seg.mean()`. -/
def mean (run : List ℤ) : α := (run.map (Int.cast : ℤ → α)).sum / run.length

/-- `_runs_centers`: a gap of more than four columns separates two runs. -/
def runsCenters (cols : List ℤ) : List α :=
  (cols.splitBy fun before after => after - before ≤ 4).map mean

/-- The centre of a box. -/
def DashBox.center (box : DashBox α) : α := (box.x1 + box.x2) / 2

/-- The candidates of a row: the yellow runs, and the dashes that reach over it. -/
def candidates (mask : YellowMask) (boxes : List (DashBox α)) (row : ℕ) : List α :=
  runsCenters (mask.flatnonzero row) ++
    (boxes.filter fun box => box.y1 ≤ (row : α) ∧ (row : α) ≤ box.y2).map DashBox.center

/-- The candidates in order. -/
def centers (mask : YellowMask) (boxes : List (DashBox α)) (row : ℕ) : List α :=
  (candidates mask boxes row).insertionSort (· ≤ ·)

/-! ### One row -/

/-- The pair is around the axis, and as far apart as the borders of a lane. -/
def IsLane (pair : α × α) : Prop :=
  (pair.1 < vehicleAxisPx ∧ vehicleAxisPx < pair.2) ∧
    laneWPx.1 ≤ pair.2 - pair.1 ∧ pair.2 - pair.1 ≤ laneWPx.2

instance decidableIsLane (pair : α × α) : Decidable (IsLane pair) :=
  inferInstanceAs (Decidable ((_ ∧ _) ∧ _ ∧ _))

/-- A round of the loop over the neighbouring candidates. -/
def narrower (best : Option (α × α)) (pair : α × α) : Option (α × α) :=
  if IsLane pair then
    match best with
    | none => some pair
    | some old => if pair.2 - pair.1 < old.2 - old.1 then some pair else best
  else best

/-- The narrowest lane. -/
def lanePair (centers : List α) : Option (α × α) :=
  (centers.zip centers.tail).foldl narrower none

/-- The candidates close to the axis. -/
def near (centers : List α) : List α :=
  centers.filter fun c => |c - vehicleAxisPx| ≤ singleGatePx

/-- What a row says about the centre of the lane. -/
inductive RowEstimate (α : Type)
  | pair (mid : α)
  | single (mid : α)
  | nothing
  deriving DecidableEq

/-- The one-sided estimate: a single candidate left of the axis is the left border of the lane, any
other single one the right border. -/
def singleEstimate : List α → RowEstimate α
  | [c] => .single (if c < vehicleAxisPx then c + laneHalfPx else c - laneHalfPx)
  | _ => .nothing

/-- A round of the loop over the rows. -/
def rowEstimate (centers : List α) : RowEstimate α :=
  match lanePair centers with
  | some best => .pair ((best.1 + best.2) / 2)
  | none => singleEstimate (near centers)

/-- The centre of the lane in the row. -/
def RowEstimate.mid? : RowEstimate α → Option α
  | .pair mid | .single mid => some mid
  | .nothing => none

def RowEstimate.isPair : RowEstimate α → Bool
  | .pair _ => true
  | _ => false

/-- A row and its estimate; a row the image does not have raises. -/
def scanRow (mask : YellowMask) (boxes : List (DashBox α)) (row : ℕ) :
    Except PyError (ℕ × RowEstimate α) :=
  if row < mask.rows then .ok (row, rowEstimate (centers mask boxes row)) else .error .indexError

/-! ### The fit -/

/-- What `compute_seg` returns: the lateral offset in metres and the heading error in degrees,
either as measured or as rejected. -/
structure SegResult (α : Type) where
  valid : Bool
  rows : ℕ
  pairRows : ℕ
  measured : Option (α × α)
  reject : Option (α × α)
  deriving DecidableEq

/-- The centres that are fitted. -/
def points (scanned : List (ℕ × RowEstimate α)) : List (ℕ × α) :=
  scanned.filterMap fun entry => entry.2.mid?.map fun mid => (entry.1, mid)

variable (polyfit : List α → List α → α × α)

/-- `np.polyfit(rows, xs, 1)`. -/
def fitted (pts : List (ℕ × α)) : α × α :=
  polyfit (pts.map fun point => (point.1 : α)) (pts.map Prod.snd)

/-- The lateral offset in the nearest row, and the heading error. -/
def deviation (pts : List (ℕ × α)) : α × α :=
  let line := fitted polyfit pts
  let xNear := line.1 * ((pts.map Prod.fst).foldr max 0 : ℕ) + line.2
  ((vehicleAxisPx - xNear) / ppm, degrees (atan2 line.1 1))

/-- The end of `compute_seg`, behind the loop over the rows. -/
def conclude (scanned : List (ℕ × RowEstimate α)) : SegResult α :=
  let pts := points scanned
  let pairRows := scanned.countP fun entry => entry.2.isPair
  if pts.length < minRows then ⟨false, pts.length, pairRows, none, none⟩
  else
    let (offsetM, headingDeg) := deviation polyfit pts
    if maxOffsetM < |offsetM| ∨ maxHeadDeg < |headingDeg| then
      ⟨false, pts.length, pairRows, none, some (pyRound offsetM 3, pyRound headingDeg 1)⟩
    else ⟨true, pts.length, pairRows, some (pyRound offsetM 4, pyRound headingDeg 2), none⟩

/-- `compute_seg`. -/
def computeSeg (mask : YellowMask) (boxes : List (DashBox α)) : Except PyError (SegResult α) := do
  let scanned ← segRows.mapM (scanRow mask boxes)
  pure (conclude polyfit scanned)

end LaneCenter

end RcTaxi
