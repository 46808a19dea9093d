/-
This file says what the turn table comes to for a turn. The entry is laid over the defaults field by
field, and its trigger over theirs, so a field has the value of the uppermost layer that has it. A
table that was accepted can always be laid together like this; what is left to fail is the
conversion of a field to a number, and a turn resolves exactly if each of them can be converted.
-/

import RcTaxi.PayloadTolerance

namespace RcTaxi

variable {α : Type}

/-! ### Assigning fields -/

theorem lookup_setField (key other : String) (value : PyValue α)
    (fields : List (String × PyValue α)) :
    (setField key value fields).lookup other =
      if other = key then some value else fields.lookup other := by
  induction fields with
  | nil =>
    unfold setField
    by_cases same : other = key
    · rw [if_pos same, same, List.lookup_cons_self]
    · rw [if_neg same, List.lookup_cons, beq_false_of_ne same]
  | cons field rest inductionHypothesis =>
    obtain ⟨name, old⟩ := field
    unfold setField
    by_cases replaced : name = key
    · rw [if_pos replaced]
      by_cases same : other = key
      · rw [if_pos same, same, List.lookup_cons_self]
      · have different : other ≠ name := fun equal => same (equal.trans replaced)
        rw [if_neg same, List.lookup_cons, beq_false_of_ne same, List.lookup_cons,
          beq_false_of_ne different]
    · rw [if_neg replaced, List.lookup_cons, List.lookup_cons, inductionHypothesis]
      by_cases found : other = name
      · rw [found, beq_self_eq_true]
        exact (if_neg replaced).symm
      · rw [beq_false_of_ne found]

/-- `out.update(changes)`. -/
def overlay (changes fields : List (String × PyValue α)) : List (String × PyValue α) :=
  changes.foldl (fun fields field => setField field.1 field.2 fields) fields

/-- Each field has the value of the upper layer, where that has it. -/
theorem lookup_overlay {changes : List (String × PyValue α)}
    (nodup : (changes.map Prod.fst).Nodup) (fields : List (String × PyValue α)) (name : String) :
    (overlay changes fields).lookup name = (changes.lookup name).or (fields.lookup name) := by
  induction changes generalizing fields with
  | nil => rfl
  | cons change rest inductionHypothesis =>
    obtain ⟨key, value⟩ := change
    rw [List.map_cons, List.nodup_cons] at nodup
    have step := inductionHypothesis nodup.2 (setField key value fields)
    rw [lookup_setField] at step
    refine step.trans ?_
    rw [List.lookup_cons]
    by_cases same : name = key
    · have absent : rest.lookup name = none := by
        cases found : rest.lookup name with
        | none => rfl
        | some other =>
          exact absurd (List.mem_map.mpr ⟨_, Dict.mem_of_lookup found, same⟩) nodup.1
      rw [absent, if_pos same, same, beq_self_eq_true]
      rfl
    · rw [if_neg same, beq_false_of_ne same]

/-- Looking a key up behind a change of the values. -/
theorem lookup_map_value (change : String → PyValue α → PyValue α)
    (fields : List (String × PyValue α)) (name : String) :
    (fields.map fun field => (field.1, change field.1 field.2)).lookup name =
      (fields.lookup name).map (change name) := by
  induction fields with
  | nil => rfl
  | cons field rest inductionHypothesis =>
    obtain ⟨key, value⟩ := field
    rw [List.map_cons, List.lookup_cons, List.lookup_cons, inductionHypothesis]
    by_cases same : name = key
    · rw [same, beq_self_eq_true]
      rfl
    · rw [beq_false_of_ne same]

/-! ### Decoded values -/

/-- A value as a decoder makes it: no key of a mapping occurs twice, however deep it stands. -/
inductive PyValue.Decoded : PyValue α → Prop
  | none : Decoded .none
  | bool (value : Bool) : Decoded (.bool value)
  | int (value : ℤ) : Decoded (.int value)
  | float (value : PyFloat α) : Decoded (.float value)
  | str (value : String) : Decoded (.str value)
  | list (items : List (PyValue α)) (each : ∀ item ∈ items, Decoded item) : Decoded (.list items)
  | dict (fields : List (String × PyValue α)) (nodup : (fields.map Prod.fst).Nodup)
    (each : ∀ field ∈ fields, Decoded field.2) : Decoded (.dict fields)

namespace PyValue

theorem Decoded.nodup {fields : List (String × PyValue α)} (decoded : Decoded (.dict fields)) :
    (fields.map Prod.fst).Nodup := by
  cases decoded with
  | dict _ nodup each => exact nodup

theorem Decoded.single {name : String} {value : PyValue α} (decoded : value.Decoded) :
    Decoded (.dict [(name, value)]) :=
  .dict _ (List.nodup_singleton _) (List.forall_mem_singleton.mpr decoded)

theorem Decoded.field? {value found : PyValue α} {name : String} (decoded : value.Decoded)
    (same : value.field? name = some found) : found.Decoded := by
  cases decoded with
  | dict fields nodup each => exact each (name, found) (Dict.mem_of_lookup same)
  | none | bool _ | int _ | float _ | str _ | list _ _ => cases same

theorem Decoded.get {value : PyValue α} (decoded : value.Decoded) (name : String) :
    (value.get name).Decoded := by
  unfold PyValue.get
  cases same : value.field? name with
  | none => exact .none
  | some found => exact decoded.field? same

end PyValue

/-! ### Laying an entry over the defaults -/

variable [Scalar α]

theorem PyValue.orEmpty_field? {value : PyValue α} {fields : List (String × PyValue α)}
    (same : value.orEmpty = .dict fields) (name : String) :
    value.field? name = fields.lookup name := by
  unfold PyValue.orEmpty PyValue.orElse at same
  split at same
  next => exact same ▸ rfl
  next falsy =>
    cases same
    cases value with
    | none | bool _ | int _ | float _ | str _ | list _ => rfl
    | dict fields =>
      cases fields with
      | nil => rfl
      | cons field rest => exact absurd rfl falsy

namespace PyValue

theorem orEmpty_dict (fields : List (String × PyValue α)) :
    (PyValue.dict fields).orEmpty = .dict fields := by
  cases fields <;> rfl

theorem orEmpty_orEmpty (value : PyValue α) : value.orEmpty.orEmpty = value.orEmpty := by
  unfold orEmpty orElse
  split
  · rfl
  · rfl

/-- What counts as a mapping and is none is empty. -/
theorem orEmpty_of_isDict_eq_false {value : PyValue α} {fields : List (String × PyValue α)}
    (other : value.isDict = false) (same : value.orEmpty = .dict fields) :
    value.orEmpty = .dict [] := by
  unfold orEmpty orElse at same ⊢
  split at same
  next =>
    rw [same] at other
    cases other
  next falsy => exact if_neg falsy

theorem Decoded.orEmpty {value : PyValue α} (decoded : value.Decoded) : value.orEmpty.Decoded := by
  unfold PyValue.orEmpty PyValue.orElse
  split
  next => exact decoded
  next => exact .dict [] List.nodup_nil fun _ member => absurd member List.not_mem_nil

end PyValue

namespace TurnTable

/-- What a field of an entry is set to over the trigger of the defaults. -/
def laidOver (trigger : List (String × PyValue α)) (name : String) (value : PyValue α) :
    PyValue α :=
  match value with
  | .dict changes => if name = "trigger" then .dict (overlay changes trigger) else .dict changes
  | other => other

omit [Scalar α] in
theorem laidOver_of_ne (trigger : List (String × PyValue α)) {name : String}
    (different : name ≠ "trigger") (value : PyValue α) : laidOver trigger name value = value := by
  cases value with
  | dict changes => exact if_neg different
  | none | bool _ | int _ | float _ | str _ | list _ => rfl

theorem mergeField_eq {base : PyValue α} {trigger : List (String × PyValue α)}
    (under : (base.get "trigger").orEmpty = .dict trigger) (out : List (String × PyValue α))
    (field : String × PyValue α) :
    mergeField base out field = .ok (setField field.1 (laidOver trigger field.1 field.2) out) := by
  obtain ⟨name, value⟩ := field
  unfold mergeField laidOver
  by_cases named : name = "trigger"
  · cases value with
    | dict changes =>
      rw [if_pos ⟨named, rfl⟩, mergeTrigger, under, named]
      rfl
    | none | bool _ | int _ | float _ | str _ | list _ => exact if_neg fun both => nomatch both.2
  · rw [if_neg fun both => named both.1]
    exact congrArg (Except.ok <| setField name · out) (laidOver_of_ne trigger named value).symm

/-- The fields of an entry over those of the defaults. -/
def laid (trigger changes fields : List (String × PyValue α)) : List (String × PyValue α) :=
  overlay (changes.map fun field => (field.1, laidOver trigger field.1 field.2)) fields

omit [Scalar α] in
theorem lookup_laid {changes : List (String × PyValue α)} (nodup : (changes.map Prod.fst).Nodup)
    (trigger fields : List (String × PyValue α)) (name : String) :
    (laid trigger changes fields).lookup name =
      ((changes.lookup name).map (laidOver trigger name)).or (fields.lookup name) := by
  rw [← lookup_map_value]
  refine lookup_overlay ?_ fields name
  rw [List.map_map]
  exact nodup

theorem foldlM_mergeField {base : PyValue α} {trigger : List (String × PyValue α)}
    (under : (base.get "trigger").orEmpty = .dict trigger)
    (changes out : List (String × PyValue α)) :
    changes.foldlM (mergeField base) out = .ok (laid trigger changes out) := by
  induction changes generalizing out with
  | nil => rfl
  | cons change rest inductionHypothesis =>
    rw [List.foldlM_cons, mergeField_eq under]
    exact inductionHypothesis _

/-- An entry that is a mapping, or counts as an empty one, is laid over defaults that are a mapping
and whose trigger is. -/
theorem merge_eq {base entry : PyValue α} {fields changes trigger : List (String × PyValue α)}
    (isDict : base = .dict fields) (under : (base.get "trigger").orEmpty = .dict trigger)
    (above : entry.orEmpty = .dict changes) :
    merge base entry = .ok (.dict (laid trigger changes fields)) := by
  unfold merge
  rw [isDict]
  unfold PyValue.orEmpty PyValue.orElse at above
  split at above
  next truthy =>
    rw [truthy]
    show (entry.items >>= fun items => items.foldlM (mergeField (.dict fields)) fields >>= _) = _
    rw [above, ← isDict]
    show (changes.foldlM (mergeField base) fields >>= _) = _
    rw [foldlM_mergeField under]
    rfl
  next falsy =>
    cases above
    rw [Bool.not_eq_true] at falsy
    rw [falsy]
    rfl

end TurnTable

/-! ### What is checked -/

omit [Scalar α] in
theorem PyValue.getAttr_eq_ok {value found : PyValue α} {name : String}
    (got : value.getAttr name = .ok found) :
    ∃ fields, value = .dict fields ∧ found = value.get name := by
  cases value with
  | dict fields => exact ⟨fields, rfl, (Except.ok.inj got).symm⟩
  | none | bool _ | int _ | float _ | str _ | list _ => cases got

/-- The fraction of the picture that a mark must have come down to. -/
def PyFloat.IsRowFraction (frac : PyFloat α) : Prop :=
  PyFloat.lt (.finite 0) frac = true ∧ frac.le (.finite 1) = true

/-- What the check of an entry, or of the defaults, makes sure of. -/
structure PyValue.IsEntry (entry : PyValue α) : Prop where
  mapping : ∃ fields, entry.orEmpty = .dict fields
  trigger : ∃ fields, (entry.get "trigger").orEmpty = .dict fields
  cls : (entry.get "trigger").get "class" = .none ∨
    TurnTable.triggerClasses.any (fun name => ((entry.get "trigger").get "class").equalsStr name) =
      true
  row : (entry.get "trigger").get "near_row_frac" = .none ∨
    ∃ frac, ((entry.get "trigger").get "near_row_frac").toFloat = .ok frac ∧ frac.IsRowFraction

theorem PyValue.orEmpty_get {value : PyValue α} {fields : List (String × PyValue α)}
    (same : value.orEmpty = .dict fields) (name : String) :
    value.orEmpty.get name = value.get name := by
  unfold PyValue.get
  rw [PyValue.orEmpty_field? same, same]
  rfl

namespace TurnTable

/-- The last check of an entry. -/
def checkRowFrac (name : String) : PyValue α → Except PyError Unit
  | .none => pure ()
  | frac => do
    let frac ← frac.toFloat
    require (PyFloat.lt (.finite 0) frac = true ∧ frac.le (.finite 1) = true)
      (.configError s!"turn_table.yaml: '{name}.trigger.near_row_frac' 는 0 초과 1 이하")

theorem isRowFraction_of_checkRowFrac {name : String} {frac : PyValue α}
    (checked : checkRowFrac name frac = .ok ()) :
    frac = .none ∨ ∃ value, frac.toFloat = .ok value ∧ value.IsRowFraction := by
  unfold checkRowFrac at checked
  split at checked
  next => exact .inl rfl
  next =>
    obtain ⟨value, converted, required⟩ := bind_eq_ok.mp checked
    have holds := require_eq_ok.mp required
    exact .inr ⟨value, converted, holds⟩

/-- An entry that passes the check is one. -/
theorem isEntry_of_validateEntry {entry : String × PyValue α}
    (validated : validateEntry entry = .ok ()) : entry.2.IsEntry := by
  obtain ⟨trigger, gotTrigger, validated⟩ := bind_eq_ok.mp validated
  obtain ⟨fields, mapping, rfl⟩ := PyValue.getAttr_eq_ok gotTrigger
  rw [PyValue.orEmpty_get mapping] at validated
  obtain ⟨cls, gotClass, validated⟩ := bind_eq_ok.mp validated
  obtain ⟨triggerFields, triggerMapping, rfl⟩ := PyValue.getAttr_eq_ok gotClass
  rw [PyValue.orEmpty_get triggerMapping] at validated
  dsimp only at validated
  have rowed : ((entry.2.get "trigger").orEmpty.getAttr "near_row_frac" >>=
      checkRowFrac entry.1) = .ok () := by
    split at validated
    next => exact validated
    next =>
      obtain ⟨_, -, validated⟩ := bind_eq_ok.mp validated
      exact validated
  obtain ⟨frac, gotFrac, checked⟩ := bind_eq_ok.mp rowed
  obtain ⟨-, -, rfl⟩ := PyValue.getAttr_eq_ok gotFrac
  rw [PyValue.orEmpty_get triggerMapping] at checked
  refine ⟨⟨fields, mapping⟩, ⟨triggerFields, triggerMapping⟩, ?_,
    isRowFraction_of_checkRowFrac checked⟩
  split at validated
  next isNone => exact .inl isNone
  next =>
    obtain ⟨_, required, -⟩ := bind_eq_ok.mp validated
    exact .inr (require_eq_ok.mp required)

/-- A table that was accepted: defaults that are a mapping, and entries that passed the check. -/
structure Accepted (table : TurnTable α) : Prop where
  mapping : ∃ fields, table.defaults = .dict fields
  defaults : table.defaults.IsEntry
  turns : ∀ key entry, table.turns.lookup key = some entry → entry.IsEntry ∧ entry.Decoded

omit [Scalar α] in
theorem isEntry_none [Scalar α] : (PyValue.none : PyValue α).IsEntry :=
  ⟨⟨[], rfl⟩, ⟨[], rfl⟩, .inl rfl, .inl rfl⟩

/-- The entry of a turn passed the check, or there is none. -/
theorem Accepted.entryOf {table : TurnTable α} (accepted : table.Accepted) (key : String) :
    (table.entryOf key).1.IsEntry ∧ (table.entryOf key).1.Decoded := by
  unfold TurnTable.entryOf
  split
  case h_1 | h_2 =>
    split
    next => exact ⟨isEntry_none, .none⟩
    next mirror _ =>
      split
      case h_1 | h_2 => exact ⟨isEntry_none, .none⟩
      next entry _ found => exact accepted.turns mirror entry found
  next entry _ found => exact accepted.turns key entry found

/-- The constructor returns a table that is accepted. -/
theorem accepted_of_new {raw : PyValue α} {wheelbaseM maxWheelDeg : α} {table : TurnTable α}
    (made : new raw wheelbaseM maxWheelDeg = .ok table) (decoded : raw.Decoded) :
    table.Accepted ∧ table.wheelbaseM = wheelbaseM ∧ table.maxWheelDeg = maxWheelDeg := by
  obtain ⟨block, gotBlock, made⟩ := bind_eq_ok.mp made
  obtain ⟨-, -, rfl⟩ := PyValue.getAttr_eq_ok gotBlock
  obtain ⟨-, -, made⟩ := bind_eq_ok.mp made
  have inBlock := decoded.get "turn_table"
  split at made
  next turns isDict =>
    obtain ⟨_, validated, same⟩ := bind_eq_ok.mp made
    cases same
    obtain ⟨_, checked, -⟩ := bind_eq_ok.mp validated
    have each := checkAll_eq_ok.mp checked
    have entry := isEntry_of_validateEntry (each _ List.mem_cons_self)
    obtain ⟨fields, mapping⟩ := entry.mapping
    rw [PyValue.orEmpty_orEmpty] at mapping
    refine ⟨⟨⟨fields, mapping⟩, entry, fun key entry found => ?_⟩, rfl, rfl⟩
    have inTurns : (PyValue.dict turns).Decoded := isDict ▸ (inBlock.get "turns").orEmpty
    exact ⟨isEntry_of_validateEntry (each _ (List.mem_cons_of_mem _ (Dict.mem_of_lookup found))),
      inTurns.field? found⟩
  next => cases made

/-! ### The layers -/

/-- A field of a turn: that of its entry, or else that of the defaults. -/
def layer (table : TurnTable α) (key name : String) : Option (PyValue α) :=
  ((table.entryOf key).1.field? name).or (table.defaults.field? name)

/-- A field of the trigger of a turn. The trigger of the entry is laid over that of the defaults; an
empty one that is no mapping hides it. -/
def triggerLayer (table : TurnTable α) (key name : String) : Option (PyValue α) :=
  match (table.entryOf key).1.field? "trigger" with
  | none => (table.defaults.get "trigger").field? name
  | some (.dict changes) =>
    (changes.lookup name).or ((table.defaults.get "trigger").field? name)
  | some _ => none

/-- Laying the entry over the defaults returns the layers. -/
theorem Accepted.merge {table : TurnTable α} (accepted : table.Accepted) (key : String) :
    ∃ cfg, TurnTable.merge table.defaults (table.entryOf key).1 = .ok cfg ∧
      (∀ name, name ≠ "trigger" → cfg.field? name = table.layer key name) ∧
      ∃ trigger, (cfg.get "trigger").orEmpty = .dict trigger ∧
        ∀ name, (PyValue.dict trigger).field? name = table.triggerLayer key name := by
  obtain ⟨fields, isDict⟩ := accepted.mapping
  obtain ⟨trigger, under⟩ := accepted.defaults.trigger
  obtain ⟨isEntry, decoded⟩ := accepted.entryOf key
  obtain ⟨changes, above⟩ := isEntry.mapping
  obtain ⟨changed, aboveTrigger⟩ := isEntry.trigger
  have inEntry := PyValue.orEmpty_field? above
  have inDefaults := PyValue.orEmpty_field? under
  have looked : ∀ name, PyValue.field? name (.dict (laid trigger changes fields)) =
      (((table.entryOf key).1.field? name).map (laidOver trigger name)).or
        (table.defaults.field? name) := by
    intro name
    rw [inEntry, isDict]
    exact lookup_laid (above ▸ decoded.orEmpty).nodup trigger fields name
  refine ⟨_, merge_eq isDict under above, fun name different => ?_, ?_⟩
  · rw [looked, layer]
    cases (table.entryOf key).1.field? name with
    | none => rfl
    | some value => exact congrArg some (laidOver_of_ne trigger different value)
  · unfold triggerLayer
    rw [PyValue.get, looked]
    unfold PyValue.get at aboveTrigger under
    cases found : (table.entryOf key).1.field? "trigger" with
    | none => exact ⟨trigger, under, fun name => (inDefaults name).symm⟩
    | some value =>
      rw [found] at aboveTrigger
      cases value with
      | dict changes =>
        refine ⟨overlay changes trigger, ?_, fun name => ?_⟩
        · exact PyValue.orEmpty_dict (overlay changes trigger)
        · show (overlay changes trigger).lookup name = _
          rw [lookup_overlay (decoded.field? found).nodup, inDefaults]
      | none | bool _ | int _ | float _ | str _ | list _ =>
        exact ⟨[], PyValue.orEmpty_of_isDict_eq_false rfl aboveTrigger, fun name => rfl⟩

/-! ### Resolving -/

/-- A number of a layer, with its default. -/
def numberOr (found : Option (PyValue α)) (default : α) : PyFloat α :=
  (found.getD (.float (.finite default))).number?.getD .nan

/-- A number of a layer that may be null. -/
def nullable (found : Option (PyValue α)) : Option (PyFloat α) :=
  match found.getD .none with
  | .none => none
  | value => some (value.number?.getD .nan)

/-- The wheel angle before its sign and limit: that of the layers, or that of the arc. -/
def unsignedWheelDeg (table : TurnTable α) (turn : Turn α) : PyFloat α :=
  (nullable (table.layer turn.key "wheel_deg")).elim (table.geometricWheelDeg turn.radiusM)
    PyFloat.abs

/-- What a turn resolves to, read off the layers. -/
def resolved (table : TurnTable α) (turn : Turn α) : ResolvedTurn α where
  key := turn.key
  maneuver := turn.maneuver
  armDistanceM := numberOr (table.layer turn.key "arm_distance_m") (6 / 10)
  startOffsetM := numberOr (table.layer turn.key "start_offset_m") 0
  wheelDeg := table.signedWheelDeg turn.maneuver (table.unsignedWheelDeg turn)
  exitAlignDeg := numberOr (table.layer turn.key "exit_align_deg") 12
  minTurnM := numberOr (table.layer turn.key "min_turn_m") (1 / 10)
  maxTurnM := numberOr (table.layer turn.key "max_turn_m") (12 / 10)
  arcCompleteM := nullable (table.layer turn.key "arc_complete_m")
  fallbackAtLaneEnd :=
    ((table.layer turn.key "fallback_at_lane_end").getD (.bool true)).truthy
  fallbackLeadM := numberOr (table.layer turn.key "fallback_lead_m") 0
  fuseNext := ((table.layer turn.key "fuse_next").getD (.bool false)).truthy
  trigger :=
    ⟨(table.triggerLayer turn.key "class").getD .none,
      numberOr (table.triggerLayer turn.key "min_conf") (45 / 100),
      numberOr (table.triggerLayer turn.key "near_row_frac") (8 / 10),
      numberOr (table.triggerLayer turn.key "max_lateral_m") (3 / 10)⟩
  fromTable := (table.entryOf turn.key).2.isSome
  sourceKey := (table.entryOf turn.key).2

/-- A field that is there is a number. -/
def IsNumber (found : Option (PyValue α)) : Prop :=
  ∀ value, found = some value → value.number?.isSome = true

/-- A field that is there is null or a number. -/
def IsNullable (found : Option (PyValue α)) : Prop :=
  ∀ value, found = some value → value = .none ∨ value.number?.isSome = true

instance (found : Option (PyValue α)) : Decidable (IsNumber found) :=
  match found with
  | none => isTrue fun _ same => (nomatch same)
  | some value => decidable_of_iff (value.number?.isSome = true)
    ⟨fun isNumber _ same => Option.some.inj same ▸ isNumber, fun each => each value rfl⟩

instance (value : PyValue α) : Decidable (value = .none) :=
  match value with
  | .none => isTrue rfl
  | .bool _ | .int _ | .float _ | .str _ | .list _ | .dict _ => isFalse nofun

instance (found : Option (PyValue α)) : Decidable (IsNullable found) :=
  match found with
  | none => isTrue fun _ same => (nomatch same)
  | some value => decidable_of_iff (value = .none ∨ value.number?.isSome = true)
    ⟨fun either _ same => Option.some.inj same ▸ either, fun each => each value rfl⟩

/-- Every number that resolving a turn of the key converts is one. -/
structure Convertible (table : TurnTable α) (key : String) : Prop where
  numbers : ∀ name ∈ ["arm_distance_m", "start_offset_m", "exit_align_deg", "min_turn_m",
    "max_turn_m", "fallback_lead_m"], IsNumber (table.layer key name)
  nullables : ∀ name ∈ ["wheel_deg", "arc_complete_m"], IsNullable (table.layer key name)
  trigger : ∀ name ∈ ["min_conf", "near_row_frac", "max_lateral_m"],
    IsNumber (table.triggerLayer key name)

/-- The conversions one by one. -/
theorem convertible_iff (table : TurnTable α) (key : String) : table.Convertible key ↔
    (IsNumber (table.layer key "arm_distance_m") ∧ IsNumber (table.layer key "start_offset_m") ∧
      IsNumber (table.layer key "exit_align_deg") ∧ IsNumber (table.layer key "min_turn_m") ∧
      IsNumber (table.layer key "max_turn_m") ∧ IsNumber (table.layer key "fallback_lead_m")) ∧
    (IsNullable (table.layer key "wheel_deg") ∧ IsNullable (table.layer key "arc_complete_m")) ∧
    IsNumber (table.triggerLayer key "min_conf") ∧
      IsNumber (table.triggerLayer key "near_row_frac") ∧
      IsNumber (table.triggerLayer key "max_lateral_m") := by
  have fields : table.Convertible key ↔ _ ∧ _ ∧ _ :=
    ⟨fun ⟨numbers, nullables, trigger⟩ => ⟨numbers, nullables, trigger⟩,
      fun ⟨numbers, nullables, trigger⟩ => ⟨numbers, nullables, trigger⟩⟩
  rw [fields]
  simp only [List.forall_mem_cons, List.not_mem_nil, false_implies, implies_true, and_true]

instance (table : TurnTable α) (key : String) : Decidable (table.Convertible key) :=
  decidable_of_iff' _ (table.convertible_iff key)

theorem number_yields {cfg : PyValue α} {name : String} {found : Option (PyValue α)}
    (same : cfg.field? name = found) (default : α) :
    Yields (number cfg name default) (IsNumber found) (numberOr found default) := by
  subst same
  refine (Yields.of_toOption .nan).congr ?_ fun _ => rfl
  unfold number PyValue.getD IsNumber
  cases cfg.field? name with
  | none => exact ⟨fun _ _ none => (nomatch none), fun _ => rfl⟩
  | some value =>
    exact ⟨fun isSome _ same => Option.some.inj same ▸ isSome, fun each => each value rfl⟩

/-- A number of the laid over mapping that may be null. -/
def readNullable : PyValue α → Except PyError (Option (PyFloat α))
  | .none => pure none
  | value => do
    let number ← value.toFloat
    pure (some number)

/-- The part of `resolve` behind the laid over mapping. -/
def readTurn (table : TurnTable α) (turn : Turn α) (cfg : PyValue α) :
    Except PyError (ResolvedTurn α) := do
  let trigger := (cfg.get "trigger").orEmpty
  let cls ← trigger.getAttr "class"
  let wheel ← readNullable (cfg.get "wheel_deg")
  let armDistanceM ← number cfg "arm_distance_m" (6 / 10)
  let startOffsetM ← number cfg "start_offset_m" 0
  let exitAlignDeg ← number cfg "exit_align_deg" 12
  let minTurnM ← number cfg "min_turn_m" (1 / 10)
  let maxTurnM ← number cfg "max_turn_m" (12 / 10)
  let arcCompleteM ← readNullable (cfg.get "arc_complete_m")
  let fallbackLeadM ← number cfg "fallback_lead_m" 0
  let minConf ← number trigger "min_conf" (45 / 100)
  let nearRowFrac ← number trigger "near_row_frac" (8 / 10)
  let maxLateralM ← number trigger "max_lateral_m" (3 / 10)
  pure {
    key := turn.key
    maneuver := turn.maneuver
    armDistanceM := armDistanceM
    startOffsetM := startOffsetM
    wheelDeg := table.signedWheelDeg turn.maneuver
      (wheel.elim (table.geometricWheelDeg turn.radiusM) PyFloat.abs)
    exitAlignDeg := exitAlignDeg
    minTurnM := minTurnM
    maxTurnM := maxTurnM
    arcCompleteM := arcCompleteM
    fallbackAtLaneEnd := (cfg.getD "fallback_at_lane_end" (.bool true)).truthy
    fallbackLeadM := fallbackLeadM
    fuseNext := (cfg.getD "fuse_next" (.bool false)).truthy
    trigger := ⟨cls, minConf, nearRowFrac, maxLateralM⟩
    fromTable := (table.entryOf turn.key).2.isSome
    sourceKey := (table.entryOf turn.key).2 }

theorem resolve_eq (table : TurnTable α) (turn : Turn α) : table.resolve turn = (do
    let cfg ← merge table.defaults (table.entryOf turn.key).1
    table.readTurn turn cfg) := by
  unfold resolve
  refine congrArg (merge table.defaults (table.entryOf turn.key).1 >>= ·) (funext fun cfg => ?_)
  unfold readTurn
  dsimp only
  generalize cfg.get "wheel_deg" = wheel
  generalize cfg.get "arc_complete_m" = arc
  cases wheel <;> cases arc <;> simp only [readNullable, bind_assoc, pure_bind] <;> rfl

theorem readNullable_yields {cfg : PyValue α} {name : String} {found : Option (PyValue α)}
    (same : cfg.field? name = found) :
    Yields (readNullable (cfg.get name)) (IsNullable found) (nullable found) := by
  subst same
  have reads : ∀ value : PyValue α, Yields (value.toFloat >>= fun number => pure (some number))
      (value.number?.isSome = true) (some (value.number?.getD .nan)) := fun value =>
    ((Yields.of_toOption PyFloat.nan).bind (by exact Yields.ok _)).congr (and_iff_left trivial)
      fun _ => rfl
  unfold PyValue.get IsNullable nullable
  cases cfg.field? name with
  | none =>
    exact (Yields.ok none).congr ⟨fun _ _ same => (nomatch same), fun _ => trivial⟩ fun _ => rfl
  | some value =>
    rw [Option.getD_some]
    cases value with
    | none =>
      exact (Yields.ok none).congr ⟨fun _ _ same => .inl (Option.some.inj same).symm,
        fun _ => trivial⟩ fun _ => rfl
    | bool _ | int _ | float _ | str _ | list _ | dict _ =>
      refine (reads _).congr ⟨fun isSome _ same => .inr (Option.some.inj same ▸ isSome),
        fun each => ?_⟩ fun _ => rfl
      exact (each _ rfl).resolve_left (fun same => (nomatch same))

/-- A turn of an accepted table resolves to what is read off the layers, exactly if every number
that is converted is one. -/
theorem resolve_yields {table : TurnTable α} (accepted : table.Accepted) (turn : Turn α) :
    Yields (table.resolve turn) (table.Convertible turn.key) (table.resolved turn) := by
  obtain ⟨cfg, merged, layers, trigger, isDict, triggerLayers⟩ := accepted.merge turn.key
  rw [resolve_eq, merged]
  show Yields (table.readTurn turn cfg) _ _
  unfold readTurn
  rw [isDict]
  refine ((Yields.ok (((PyValue.dict trigger).get "class"))).bind
    ((readNullable_yields (layers "wheel_deg" (by decide))).bind
      ((number_yields (layers "arm_distance_m" (by decide)) _).bind
        ((number_yields (layers "start_offset_m" (by decide)) _).bind
          ((number_yields (layers "exit_align_deg" (by decide)) _).bind
            ((number_yields (layers "min_turn_m" (by decide)) _).bind
              ((number_yields (layers "max_turn_m" (by decide)) _).bind
                ((readNullable_yields (layers "arc_complete_m" (by decide))).bind
                  ((number_yields (layers "fallback_lead_m" (by decide)) _).bind
                    ((number_yields (triggerLayers "min_conf") _).bind
                      ((number_yields (triggerLayers "near_row_frac") _).bind
                        ((number_yields (triggerLayers "max_lateral_m") _).bind
                          (by exact Yields.ok _))))))))))))).congr ?_ fun _ => ?_
  · rw [convertible_iff]
    constructor
    · rintro ⟨-, wheel, arm, start, align, shortest, longest, arc, lead, conf, row, lateral, -⟩
      exact ⟨⟨arm, start, align, shortest, longest, lead⟩, ⟨wheel, arc⟩, conf, row, lateral⟩
    · rintro ⟨⟨arm, start, align, shortest, longest, lead⟩, ⟨wheel, arc⟩, conf, row, lateral⟩
      exact ⟨trivial, wheel, arm, start, align, shortest, longest, arc, lead, conf, row, lateral,
        trivial⟩
  · unfold resolved PyValue.getD PyValue.get
    rw [triggerLayers, layers "fallback_at_lane_end" (by decide), layers "fuse_next" (by decide)]
    rfl

end TurnTable

end RcTaxi
