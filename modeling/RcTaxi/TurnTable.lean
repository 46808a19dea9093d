/-
This file models `navigation/turn_table.py`: the table that says when a turn is started, how far
the wheels are turned and when the turn is over. A turn is looked up under its own key, then
under the key of the symmetric turn, and the entry is laid over the defaults.

The fields of the table stay as they were read from the file until a turn is resolved, and may
be `nan`. The texts of the errors are the program's, without the offending value.
-/

import RcTaxi.LaneRoute

namespace RcTaxi

variable {α : Type}

/-- `TriggerSpec`: the road mark that starts a turn, and how near it has to be. -/
structure TriggerSpec (α : Type) where
  cls : PyValue α
  minConf : PyFloat α
  nearRowFrac : PyFloat α
  maxLateralM : PyFloat α

/-- `uses_vision`. -/
def TriggerSpec.usesVision (spec : TriggerSpec α) : Bool :=
  match spec.cls with
  | .none => false
  | _ => true

/-- `ResolvedTurn`. -/
structure ResolvedTurn (α : Type) where
  key : String
  maneuver : Maneuver
  armDistanceM : PyFloat α
  startOffsetM : PyFloat α
  wheelDeg : α
  exitAlignDeg : PyFloat α
  minTurnM : PyFloat α
  maxTurnM : PyFloat α
  arcCompleteM : Option (PyFloat α)
  fallbackAtLaneEnd : Bool
  fallbackLeadM : PyFloat α
  fuseNext : Bool
  trigger : TriggerSpec α
  fromTable : Bool
  sourceKey : Option String

/-- `is_turn`: a straight connector is not turned on. -/
def ResolvedTurn.isTurn (spec : ResolvedTurn α) : Bool :=
  spec.maneuver = .left ∨ spec.maneuver = .right

/-- The table as it stands in the file, with the wheelbase and the largest wheel angle. -/
structure TurnTable (α : Type) where
  defaults : PyValue α
  turns : List (String × PyValue α)
  wheelbaseM : α
  maxWheelDeg : α

variable [Scalar α]

namespace PyValue

/-- `dict(value)` of a mapping. -/
def fields : PyValue α → Except PyError (List (String × PyValue α))
  | .dict fields => .ok fields
  | _ => .error .typeError

/-- `value or {}`. -/
def orEmpty (value : PyValue α) : PyValue α := value.orElse (.dict [])

end PyValue

/-- `out[key] = value` on the fields of a mapping. -/
def setField (key : String) (value : PyValue α) :
    List (String × PyValue α) → List (String × PyValue α)
  | [] => [(key, value)]
  | field :: rest =>
    if field.1 = key then (key, value) :: rest else field :: setField key value rest

namespace TurnTable

/-- The trigger of an entry laid over the trigger of the defaults. -/
def mergeTrigger (base entry : PyValue α) : Except PyError (PyValue α) := do
  let merged ← (base.get "trigger").orEmpty.fields
  let changes ← entry.fields
  pure (.dict (changes.foldl (fun fields field => setField field.1 field.2 fields) merged))

/-- One field of `_merge`. -/
def mergeField (base : PyValue α) (out : List (String × PyValue α)) (field : String × PyValue α) :
    Except PyError (List (String × PyValue α)) :=
  if field.1 = "trigger" ∧ field.2.isDict then do
    let merged ← mergeTrigger base field.2
    pure (setField "trigger" merged out)
  else .ok (setField field.1 field.2 out)

/-- `_merge`: an entry laid over the defaults. -/
def merge (base entry : PyValue α) : Except PyError (PyValue α) := do
  let out ← base.fields
  if !entry.truthy then pure (.dict out)
  else
    let fields ← entry.items
    pure (.dict (← fields.foldlM (mergeField base) out))

/-- `_TRIGGER_CLASSES`. -/
def triggerClasses : List String := ["crosswalk", "stop_line", "direction_arrow", "dashed_line"]

/-- The checks of one entry, or of the defaults. -/
def validateEntry (entry : String × PyValue α) : Except PyError Unit := do
  let trigger := (← (entry.2.orEmpty).getAttr "trigger").orEmpty
  match ← trigger.getAttr "class" with
  | .none => pure ()
  | cls =>
    require (triggerClasses.any (fun name => cls.equalsStr name) = true)
      (.configError s!"turn_table.yaml: '{entry.1}.trigger.class' 는 4종 중 하나 또는 null")
  match ← trigger.getAttr "near_row_frac" with
  | .none => pure ()
  | frac =>
    let frac ← frac.toFloat
    require (PyFloat.lt (.finite 0) frac = true ∧ frac.le (.finite 1) = true)
      (.configError s!"turn_table.yaml: '{entry.1}.trigger.near_row_frac' 는 0 초과 1 이하")

/-- `_validate`. -/
def validate (table : TurnTable α) : Except PyError Unit := do
  checkAll validateEntry (("defaults", table.defaults) :: table.turns)
  checkAll (fun entry => require ((partitionArrow entry.1.toList).isSome = true)
    (.configError "turn_table.yaml: turns 키는 '출발번호->도착번호' 형식이어야 함")) table.turns

/-- `TurnTable(raw, wheelbase_m, max_wheel_deg)`. -/
def new (raw : PyValue α) (wheelbaseM maxWheelDeg : α) : Except PyError (TurnTable α) := do
  let block ← raw.getAttr "turn_table"
  require (block.isDict = true) (.configError "turn_table.yaml: 'turn_table' 섹션 없음")
  match (block.get "turns").orEmpty with
  | .dict turns =>
    let table : TurnTable α := ⟨(block.get "defaults").orEmpty, turns, wheelbaseM, maxWheelDeg⟩
    table.validate
    pure table
  | _ => .error (.configError "turn_table.yaml: 'turn_table.turns' 는 매핑이어야 함")

/-- The entry of a turn and the key it was found under: its own, or that of the symmetric turn. A
null entry counts as missing. -/
def entryOf (table : TurnTable α) (key : String) : PyValue α × Option String :=
  match table.turns.lookup key with
  | some .none | none =>
    match symmetricKey key with
    | none => (.none, none)
    | some mirror =>
      match table.turns.lookup mirror with
      | some .none | none => (.none, none)
      | some entry => (entry, some mirror)
  | some entry => (entry, some key)

/-- `_geometric_wheel_deg`: the wheel angle of an arc; without a radius the largest one. -/
def geometricWheelDeg (table : TurnTable α) : Option (PyFloat α) → PyFloat α
  | none => .finite table.maxWheelDeg
  | some (.finite radius) =>
    if radius ≤ 0 then .finite table.maxWheelDeg
    else .finite (degrees (atan (table.wheelbaseM / radius)))
  | some (.inf negative) =>
    if negative then .finite table.maxWheelDeg else .finite (degrees (atan 0))
  | some .nan => .nan

/-- The wheel angle of a turn, signed by its direction and limited. -/
def signedWheelDeg (table : TurnTable α) (maneuver : Maneuver) (wheel : PyFloat α) : α :=
  PyFloat.clamp table.maxWheelDeg <| match maneuver with
    | .right => wheel
    | .left => wheel.neg
    | _ => .finite 0

/-- A number of an entry, with its default. -/
def number (cfg : PyValue α) (key : String) (default : α) : Except PyError (PyFloat α) :=
  (cfg.getD key (.float (.finite default))).toFloat

/-- `resolve`. -/
def resolve (table : TurnTable α) (turn : Turn α) : Except PyError (ResolvedTurn α) := do
  let (entry, sourceKey) := table.entryOf turn.key
  let cfg ← merge table.defaults entry
  let trigger := (cfg.get "trigger").orEmpty
  let cls ← trigger.getAttr "class"
  let wheel ← match cfg.get "wheel_deg" with
    | .none => pure (table.geometricWheelDeg turn.radiusM)
    | wheel => do
      let wheel ← wheel.toFloat
      pure wheel.abs
  let armDistanceM ← number cfg "arm_distance_m" (6 / 10)
  let startOffsetM ← number cfg "start_offset_m" 0
  let exitAlignDeg ← number cfg "exit_align_deg" 12
  let minTurnM ← number cfg "min_turn_m" (1 / 10)
  let maxTurnM ← number cfg "max_turn_m" (12 / 10)
  let arcCompleteM ← match cfg.get "arc_complete_m" with
    | .none => pure none
    | arc => do
      let arc ← arc.toFloat
      pure (some arc)
  let fallbackLeadM ← number cfg "fallback_lead_m" 0
  let minConf ← number trigger "min_conf" (45 / 100)
  let nearRowFrac ← number trigger "near_row_frac" (8 / 10)
  let maxLateralM ← number trigger "max_lateral_m" (3 / 10)
  pure {
    key := turn.key
    maneuver := turn.maneuver
    armDistanceM := armDistanceM
    startOffsetM := startOffsetM
    wheelDeg := table.signedWheelDeg turn.maneuver wheel
    exitAlignDeg := exitAlignDeg
    minTurnM := minTurnM
    maxTurnM := maxTurnM
    arcCompleteM := arcCompleteM
    fallbackAtLaneEnd := (cfg.getD "fallback_at_lane_end" (.bool true)).truthy
    fallbackLeadM := fallbackLeadM
    fuseNext := (cfg.getD "fuse_next" (.bool false)).truthy
    trigger := ⟨cls, minConf, nearRowFrac, maxLateralM⟩
    fromTable := sourceKey.isSome
    sourceKey := sourceKey }

end TurnTable

end RcTaxi
