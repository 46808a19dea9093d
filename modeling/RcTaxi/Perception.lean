/-
This file models what the control loop reads from `perception/seg_adapter.py` and
`perception/vision_marks.py`: the last observation of the lane center, the correction of the
wheel angle made from it, and the last observation of the road marks with the test that starts a
turn. How the observations are made from the published payloads is not part of it; any
observation may stand here.
-/

import RcTaxi.TurnTable

namespace RcTaxi

/-- `SegObservation`. -/
structure SegObservation (α : Type) where
  valid : Bool
  lateralOffsetM : α
  headingErrorDeg : α

/-- The gains and the limit of `SegAdapter`. -/
structure SegAdapter (α : Type) where
  offsetGain : α
  headingGain : α
  maxCorrectionDeg : α

/-- A road mark seen from above. -/
structure Mark (α : Type) where
  cls : String
  conf : PyFloat α
  bottomPx : α
  centerXPx : α

/-- `MarkObservation`. -/
structure MarkObservation (α : Type) where
  valid : Bool
  marks : List (Mark α)
  heightPx : PyFloat α
  pixelsPerMeter : PyFloat α
  axisPx : PyFloat α

variable {α : Type} [Scalar α]

/-- `correction_wheel_deg`: no correction without a valid observation. -/
def SegAdapter.correctionWheelDeg (adapter : SegAdapter α) (obs : SegObservation α) : α :=
  if !obs.valid then 0
  else max (-adapter.maxCorrectionDeg) (min adapter.maxCorrectionDeg
    (-(adapter.offsetGain * obs.lateralOffsetM + adapter.headingGain * obs.headingErrorDeg)))

namespace MarkObservation

/-- `lateral_m`: the distance of a mark from the axis of the car; zero without a scale. -/
def lateralM (obs : MarkObservation α) (mark : Mark α) : PyFloat α :=
  if obs.pixelsPerMeter.le (.finite 0) then .finite 0
  else match obs.axisPx, obs.pixelsPerMeter with
    | .nan, _ | _, .nan | .inf _, .inf _ => .nan
    | .finite axis, .finite scale => .finite (|mark.centerXPx - axis| / scale)
    | .finite _, .inf _ => .finite 0
    | .inf _, .finite _ => .inf false

/-- The four conditions on one mark; as in the source a condition that fails is a comparison that
holds. -/
def fires (obs : MarkObservation α) (spec : TriggerSpec α) (mark : Mark α) : Bool :=
  spec.cls.equalsStr mark.cls && !mark.conf.lt spec.minConf &&
    !(PyFloat.finite mark.bottomPx).lt (obs.heightPx.mul spec.nearRowFrac) &&
    !spec.maxLateralM.lt (obs.lateralM mark)

/-- `MarkAdapter.triggered`. -/
def triggered (obs : MarkObservation α) (spec : TriggerSpec α) : Bool :=
  spec.usesVision && obs.valid && !obs.heightPx.le (.finite 0) &&
    obs.marks.any fun mark => obs.fires spec mark

end MarkObservation

end RcTaxi
