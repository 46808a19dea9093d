/-
This file says what every turn of an accepted table resolves to: a wheel angle within the largest
one and to the side of the turn, a class the trigger knows, a row of the picture, and for the two
turns of a symmetric pair the same numbers, whichever of them was tuned. The class and the row are
checked in each layer, so they hold of every mixture of the layers.

The sign goes wrong in one case. A wheel angle that is `nan` comes out of the limit as the largest
one, to the right, whatever the sign it was given; a left turn then turns right.
-/

import RcTaxi.TurnLayers
import RcTaxi.OutputEnvelope

namespace RcTaxi

variable {α : Type} [Scalar α]

/-! ### The wheel angle -/

namespace PyFloat

theorem abs_lt_zero (value : PyFloat α) : value.abs.lt (.finite 0) = false := by
  cases value with
  | finite value => exact decide_eq_false (abs_nonneg value).not_gt
  | nan | inf negative => rfl

theorem abs_eq_nan {value : PyFloat α} : value.abs = .nan ↔ value = .nan := by
  cases value <;> simp [abs]

/-- What is not below zero is not below zero within a limit. -/
theorem clamp_nonneg {limit : α} (nonneg : 0 ≤ limit) {value : PyFloat α}
    (notBelow : value.lt (.finite 0) = false) : 0 ≤ clamp limit value := by
  cases value with
  | finite value =>
    exact le_max_of_le_right (le_min nonneg (not_lt.mp (of_decide_eq_false notBelow)))
  | nan => exact le_max_of_le_right nonneg
  | inf negative =>
    cases negative with
    | false => exact le_max_of_le_right nonneg
    | true => cases notBelow

/-- The negative of what is not below zero is not above zero within a limit, unless it is `nan`. -/
theorem clamp_neg_nonpos_iff {limit : α} (positive : 0 < limit) {value : PyFloat α}
    (notBelow : value.lt (.finite 0) = false) : clamp limit value.neg ≤ 0 ↔ value ≠ .nan := by
  cases value with
  | finite value =>
    refine ⟨fun _ => nofun, fun _ => max_le (neg_nonpos.mpr positive.le) (min_le_of_right_le ?_)⟩
    exact neg_nonpos.mpr (not_lt.mp (of_decide_eq_false notBelow))
  | nan =>
    exact ⟨fun small => absurd small (not_le.mpr (lt_max_of_lt_right positive)),
      fun other => absurd rfl other⟩
  | inf negative =>
    cases negative with
    | false => exact ⟨fun _ => nofun, fun _ => neg_nonpos.mpr positive.le⟩
    | true => cases notBelow

theorem clamp_zero {limit : α} (nonneg : 0 ≤ limit) : clamp limit (.finite 0) = 0 := by
  show max (-limit) (min limit 0) = 0
  rw [min_eq_right nonneg, max_eq_right (neg_nonpos.mpr nonneg)]

end PyFloat

namespace TurnTable

/-- The wheel angle of a turn is `nan`: that of the layers is, or they have none and the radius of
the arc is. -/
def NanWheel (table : TurnTable α) (turn : Turn α) : Prop :=
  ((table.layer turn.key "wheel_deg").getD .none).number? = some .nan ∨
    (table.layer turn.key "wheel_deg").getD .none = .none ∧ turn.radiusM = some .nan

theorem geometricWheelDeg_lt_zero [RisingAtan α] {table : TurnTable α}
    (wheelbase : 0 < table.wheelbaseM) (limit : 0 < table.maxWheelDeg)
    (radius : Option (PyFloat α)) : (table.geometricWheelDeg radius).lt (.finite 0) = false := by
  have notBelow : ∀ {wheel : α}, 0 ≤ wheel → (PyFloat.finite wheel).lt (.finite 0) = false :=
    fun nonneg => decide_eq_false nonneg.not_gt
  unfold geometricWheelDeg
  split
  next => exact notBelow limit.le
  next radius =>
    split
    next => exact notBelow limit.le
    next positive =>
      exact notBelow (degrees_atan_nonneg _ (div_pos wheelbase (not_le.mp positive)).le)
  next negative =>
    split
    next => exact notBelow limit.le
    next => exact notBelow (degrees_atan_nonneg _ le_rfl)
  next => rfl

theorem geometricWheelDeg_eq_nan {table : TurnTable α} {radius : Option (PyFloat α)} :
    table.geometricWheelDeg radius = .nan ↔ radius = some .nan := by
  unfold geometricWheelDeg
  split
  next => exact ⟨fun same => (nomatch same), fun same => (nomatch same)⟩
  next => split <;> exact ⟨fun same => (nomatch same), fun same => (nomatch same)⟩
  next => split <;> exact ⟨fun same => (nomatch same), fun same => (nomatch same)⟩
  next => exact ⟨fun _ => rfl, fun _ => rfl⟩

/-- The wheel angle without its sign is not below zero. -/
theorem unsignedWheelDeg_lt_zero [RisingAtan α] {table : TurnTable α}
    (wheelbase : 0 < table.wheelbaseM) (limit : 0 < table.maxWheelDeg) (turn : Turn α) :
    (table.unsignedWheelDeg turn).lt (.finite 0) = false := by
  unfold unsignedWheelDeg
  cases nullable (table.layer turn.key "wheel_deg") with
  | none => exact geometricWheelDeg_lt_zero wheelbase limit turn.radiusM
  | some wheel => exact wheel.abs_lt_zero

/-- The wheel angle that a turn resolves with is `nan` where the layers say so. -/
theorem unsignedWheelDeg_eq_nan {table : TurnTable α} {turn : Turn α}
    (convertible : table.Convertible turn.key) :
    table.unsignedWheelDeg turn = .nan ↔ table.NanWheel turn := by
  have isNullable := convertible.nullables "wheel_deg" List.mem_cons_self
  unfold unsignedWheelDeg NanWheel nullable
  split
  next missing =>
    rw [missing]
    exact geometricWheelDeg_eq_nan.trans ((or_iff_right fun same => (nomatch same)).trans
      (and_iff_right rfl)).symm
  next other =>
    have isNumber : ((table.layer turn.key "wheel_deg").getD .none).number?.isSome = true := by
      cases found : table.layer turn.key "wheel_deg" with
      | none => exact absurd (by rw [found]; rfl) other
      | some value =>
        exact (isNullable value found).resolve_left fun null => other (by rw [found, null]; rfl)
    obtain ⟨wheel, same⟩ := Option.isSome_iff_exists.mp isNumber
    rw [same, or_iff_left fun both => other both.1, Option.some.injEq]
    exact PyFloat.abs_eq_nan

/-! ### The trigger -/

omit [Scalar α] in
/-- A field of the trigger of a turn stands in that of its entry or in that of the defaults. -/
theorem triggerLayer_eq_some {table : TurnTable α} {key name : String} {value : PyValue α}
    (found : table.triggerLayer key name = some value) :
    ((table.entryOf key).1.get "trigger").field? name = some value ∨
      (table.defaults.get "trigger").field? name = some value := by
  unfold triggerLayer at found
  rw [PyValue.get]
  split at found
  next => exact .inr found
  next changes same =>
    rw [same]
    cases inEntry : changes.lookup name with
    | none =>
      rw [inEntry] at found
      exact .inr found
    | some other =>
      rw [inEntry] at found
      exact .inl (inEntry.trans found)
  next => cases found

/-- The class of a turn is null or one the trigger knows. -/
theorem class_known {table : TurnTable α} (accepted : table.Accepted) (key : String) :
    (table.triggerLayer key "class").getD .none = .none ∨
      ∃ name ∈ triggerClasses, (table.triggerLayer key "class").getD .none = .str name := by
  have known : ∀ {entry : PyValue α}, entry.IsEntry → ∀ {value},
      (entry.get "trigger").field? "class" = some value →
        value = .none ∨ ∃ name ∈ triggerClasses, value = .str name := by
    intro entry isEntry value found
    have cls := isEntry.cls
    rw [PyValue.get, found, Option.getD_some] at cls
    refine cls.imp_right fun some_ => ?_
    obtain ⟨name, member, same⟩ := List.any_eq_true.mp some_
    refine ⟨name, member, ?_⟩
    cases value with
    | str text => exact congrArg PyValue.str (of_decide_eq_true same)
    | none | bool _ | int _ | float _ | list _ | dict _ => cases same
  cases found : table.triggerLayer key "class" with
  | none => exact .inl rfl
  | some value =>
    rcases triggerLayer_eq_some found with inEntry | inDefaults
    · exact known (accepted.entryOf key).1 inEntry
    · exact known accepted.defaults inDefaults

/-- The row of a turn is one of the picture. -/
theorem row_isRowFraction {table : TurnTable α} (accepted : table.Accepted) {key : String}
    (isNumber : IsNumber (table.triggerLayer key "near_row_frac")) :
    (numberOr (table.triggerLayer key "near_row_frac") (8 / 10)).IsRowFraction := by
  have checked : ∀ {entry : PyValue α}, entry.IsEntry → ∀ {value},
      (entry.get "trigger").field? "near_row_frac" = some value →
        value.number?.isSome = true → (value.number?.getD .nan).IsRowFraction := by
    intro entry isEntry value found number
    have row := isEntry.row
    rw [PyValue.get, found, Option.getD_some] at row
    rcases row with null | ⟨frac, converted, isFraction⟩
    · rw [null] at number
      cases number
    · rw [PyValue.number?, converted]
      exact isFraction
  unfold numberOr
  cases found : table.triggerLayer key "near_row_frac" with
  | none =>
    have positive : (0 : α) < 8 / 10 := by norm_num
    have small : (8 : α) / 10 ≤ 1 := by norm_num
    exact ⟨decide_eq_true positive, decide_eq_true small⟩
  | some value =>
    have number := isNumber value found
    rcases triggerLayer_eq_some found with inEntry | inDefaults
    · exact checked (accepted.entryOf key).1 inEntry number
    · exact checked accepted.defaults inDefaults number

end TurnTable

/-! ### One turn -/

/-- What a turn should resolve to. -/
structure ResolvedTurn.Sane (spec : ResolvedTurn α) (turn : Turn α) (maxWheelDeg : α) : Prop where
  limited : |spec.wheelDeg| ≤ maxWheelDeg
  right : turn.maneuver = .right → 0 ≤ spec.wheelDeg
  left : turn.maneuver = .left → spec.wheelDeg ≤ 0
  other : turn.maneuver ≠ .right → turn.maneuver ≠ .left → spec.wheelDeg = 0
  cls : spec.trigger.cls = .none ∨ ∃ name ∈ TurnTable.triggerClasses, spec.trigger.cls = .str name
  row : spec.trigger.nearRowFrac.IsRowFraction

namespace TurnTable

/-- What a turn resolves to is sane, unless it is a left turn whose wheel angle is `nan`. -/
theorem resolved_sane_iff [RisingAtan α] {table : TurnTable α} (accepted : table.Accepted)
    (wheelbase : 0 < table.wheelbaseM) (limit : 0 < table.maxWheelDeg) {turn : Turn α}
    (convertible : table.Convertible turn.key) :
    (table.resolved turn).Sane turn table.maxWheelDeg ↔
      ¬ (turn.maneuver = .left ∧ table.NanWheel turn) := by
  have notBelow := unsignedWheelDeg_lt_zero wheelbase limit turn
  have left_iff : turn.maneuver = .left →
      ((table.resolved turn).wheelDeg ≤ 0 ↔ ¬ table.NanWheel turn) := by
    intro isLeft
    show table.signedWheelDeg turn.maneuver _ ≤ 0 ↔ _
    rw [isLeft, ← unsignedWheelDeg_eq_nan convertible]
    exact PyFloat.clamp_neg_nonpos_iff limit notBelow
  constructor
  · rintro sane ⟨isLeft, isNan⟩
    exact (left_iff isLeft).mp (sane.left isLeft) isNan
  · intro plain
    refine ⟨PyFloat.abs_clamp_le limit.le _, fun isRight => ?_,
      fun isLeft => (left_iff isLeft).mpr fun isNan => plain ⟨isLeft, isNan⟩,
      fun notRight notLeft => ?_, class_known accepted turn.key,
      row_isRowFraction accepted (convertible.trigger "near_row_frac" (by decide))⟩
    · show 0 ≤ table.signedWheelDeg turn.maneuver _
      rw [isRight]
      exact PyFloat.clamp_nonneg limit.le notBelow
    · show table.signedWheelDeg turn.maneuver _ = 0
      cases maneuver : turn.maneuver with
      | right => exact absurd maneuver notRight
      | left => exact absurd maneuver notLeft
      | straight | follow | laneChange => exact PyFloat.clamp_zero limit.le

end TurnTable

/-! ### Symmetric turns -/

namespace TurnTable

/-- The entry of a key itself; a null entry counts as missing. -/
def ownEntry (table : TurnTable α) (key : String) : PyValue α :=
  (table.turns.lookup key).getD .none

omit [Scalar α] in
theorem entryOf_own {table : TurnTable α} {key : String} (own : table.ownEntry key ≠ .none) :
    (table.entryOf key).1 = table.ownEntry key := by
  unfold entryOf ownEntry at *
  split
  next missing => exact absurd (congrArg (Option.getD · .none) missing) own
  next missing => exact absurd (congrArg (Option.getD · .none) missing) own
  next entry _ found => rw [found, Option.getD_some]

omit [Scalar α] in
theorem entryOf_mirror {table : TurnTable α} {key mirror : String}
    (image : symmetricKey key = some mirror) (none : table.ownEntry key = .none) :
    (table.entryOf key).1 = table.ownEntry mirror := by
  unfold entryOf ownEntry at *
  rw [image]
  split
  case h_1 | h_2 =>
    dsimp only
    split
    next same => rw [same, Option.getD_some]
    next same => rw [same, Option.getD_none]
    next entry _ same => rw [same, Option.getD_some]
  next entry other found =>
    rw [found, Option.getD_some] at none
    exact absurd none other

omit [Scalar α] in
/-- A turn has a source exactly if it has an entry. -/
theorem entryOf_source (table : TurnTable α) (key : String) :
    (table.entryOf key).2 = none ↔ (table.entryOf key).1 = .none := by
  have some_ : ∀ {entry : PyValue α} {source : String}, entry ≠ .none →
      (some source = none ↔ entry = .none) := fun other =>
    ⟨fun same => (nomatch same), fun same => absurd same other⟩
  unfold entryOf
  split
  case h_1 | h_2 =>
    split
    next => exact ⟨fun _ => rfl, fun _ => rfl⟩
    next =>
      split
      case h_1 | h_2 => exact ⟨fun _ => rfl, fun _ => rfl⟩
      next entry other _ => exact some_ other
  next entry other _ => exact some_ other

end TurnTable

/-- Two turns are those of a symmetric pair, with the same maneuver and radius, and at most one of
their keys has an entry. -/
structure Mirrored (table : TurnTable α) (turn turn' : Turn α) : Prop where
  image : symmetricKey turn.key = some turn'.key
  image' : symmetricKey turn'.key = some turn.key
  maneuver : turn.maneuver = turn'.maneuver
  radiusM : turn.radiusM = turn'.radiusM
  untuned : table.ownEntry turn.key = .none ∨ table.ownEntry turn'.key = .none

omit [Scalar α] in
/-- The two turns have one entry. -/
theorem Mirrored.entryOf {table : TurnTable α} {turn turn' : Turn α}
    (mirrored : Mirrored table turn turn') :
    (table.entryOf turn.key).1 = (table.entryOf turn'.key).1 := by
  have inherits : ∀ {key mirror : String}, symmetricKey key = some mirror →
      symmetricKey mirror = some key → table.ownEntry key = .none →
        (table.entryOf key).1 = (table.entryOf mirror).1 := by
    intro key mirror image image' untuned
    rw [TurnTable.entryOf_mirror image untuned]
    by_cases own : table.ownEntry mirror = .none
    · rw [TurnTable.entryOf_mirror image' own, untuned, own]
    · rw [TurnTable.entryOf_own own]
  rcases mirrored.untuned with untuned | untuned
  · exact inherits mirrored.image mirrored.image' untuned
  · exact (inherits mirrored.image' mirrored.image untuned).symm

/-- Two resolved turns agree in everything but their key and where it was found. -/
def SameTuning (spec spec' : ResolvedTurn α) : Prop :=
  spec' = { spec with key := spec'.key, sourceKey := spec'.sourceKey }

/-- The two turns of a symmetric pair resolve to the same numbers, or raise the same error. -/
theorem Mirrored.resolve {table : TurnTable α} {turn turn' : Turn α}
    (mirrored : Mirrored table turn turn') :
    Alike SameTuning (table.resolve turn) (table.resolve turn') := by
  have source : (table.entryOf turn.key).2.isSome = (table.entryOf turn'.key).2.isSome := by
    rw [← Bool.not_inj_iff, Option.not_isSome, Option.not_isSome, Bool.eq_iff_iff,
      Option.isNone_iff_eq_none, Option.isNone_iff_eq_none, TurnTable.entryOf_source,
      TurnTable.entryOf_source, mirrored.entryOf]
  rw [TurnTable.resolve_eq, TurnTable.resolve_eq, mirrored.entryOf]
  refine Alike.known _ fun cfg _ => ?_
  unfold TurnTable.readTurn
  rw [mirrored.maneuver, mirrored.radiusM, source]
  dsimp only
  refine Alike.known _ fun cls _ => Alike.known _ fun wheel _ => Alike.known _ fun arm _ =>
    Alike.known _ fun start _ => Alike.known _ fun align _ => Alike.known _ fun shortest _ =>
    Alike.known _ fun longest _ => Alike.known _ fun arc _ => Alike.known _ fun lead _ =>
    Alike.known _ fun conf _ => Alike.known _ fun row _ => Alike.known _ fun lateral _ => ?_
  exact rfl

/-! ### Every turn -/

namespace TurnTable

/-- A turn of an accepted table resolves to a sane entry, and to that of its mirror image with at
most one of the two tuned, exactly if it is no left turn that resolves with a wheel angle of
`nan`. -/
theorem sane_and_symmetric_iff [RisingAtan α] {raw : PyValue α} {wheelbaseM maxWheelDeg : α}
    {table : TurnTable α} (made : new raw wheelbaseM maxWheelDeg = .ok table)
    (decoded : raw.Decoded) (wheelbase : 0 < wheelbaseM) (limit : 0 < maxWheelDeg)
    (turn : Turn α) :
    ((∀ spec, table.resolve turn = .ok spec → spec.Sane turn maxWheelDeg) ∧
        ∀ turn', Mirrored table turn turn' →
          Alike SameTuning (table.resolve turn) (table.resolve turn')) ↔
      ¬ (turn.maneuver = .left ∧ table.NanWheel turn ∧ table.Convertible turn.key) := by
  obtain ⟨accepted, rfl, rfl⟩ := accepted_of_new made decoded
  have resolves := resolve_yields accepted turn
  rw [and_iff_left fun turn' mirrored => mirrored.resolve]
  constructor
  · rintro sane ⟨isLeft, isNan, convertible⟩
    have isSane := sane _ (resolves.ok_iff.mpr convertible)
    exact (resolved_sane_iff accepted wheelbase limit convertible).mp isSane ⟨isLeft, isNan⟩
  · intro plain spec resolved
    obtain ⟨convertible, rfl⟩ := (resolves spec).mp resolved
    exact (resolved_sane_iff accepted wheelbase limit convertible).mpr
      fun both => plain ⟨both.1, both.2, convertible⟩

/-- A table with an entry of one wheel angle. -/
def wheelRaw (wheel : PyValue ℚ) : PyValue ℚ :=
  .dict [("turn_table", .dict [("turns", .dict [("7->22", .dict [("wheel_deg", wheel)])])])]

theorem wheelRaw_decoded {wheel : PyValue ℚ} (decoded : wheel.Decoded) :
    (wheelRaw wheel).Decoded :=
  decoded.single.single.single.single

/-- The left turn of the entry. -/
def southTurn : Turn ℚ :=
  ⟨"mid_wb2_vert_sb1", .left, some 7, some 22, "vert_sb1_s", some (.finite (35 / 100)), 55 / 100,
    (2, 2), (7 / 4, 7 / 4)⟩

def nanTable : TurnTable ℚ :=
  returned (new (wheelRaw (.float .nan)) (14 / 100) 30) (by decide +kernel)

def nanSpec : ResolvedTurn ℚ :=
  returned (nanTable.resolve southTurn) (by decide +kernel)

def plainTable : TurnTable ℚ :=
  returned (new (wheelRaw (.int 25)) (14 / 100) 30) (by decide +kernel)

/-- A left turn with a wheel angle of `nan` resolves to the largest one to the right. -/
theorem nan_turns_right :
    new (wheelRaw (.float .nan)) (14 / 100) 30 = .ok nanTable ∧
      (wheelRaw (.float .nan)).Decoded ∧
      ¬ ((∀ spec, nanTable.resolve southTurn = .ok spec → spec.Sane southTurn 30) ∧
        ∀ turn', Mirrored nanTable southTurn turn' →
          Alike SameTuning (nanTable.resolve southTurn) (nanTable.resolve turn')) := by
  refine ⟨ok_returned _, wheelRaw_decoded (.float .nan), fun both => ?_⟩
  have small : nanSpec.wheelDeg ≤ 0 := (both.1 nanSpec (ok_returned _)).left rfl
  exact absurd small (by decide +kernel)

/-- With a number it turns left. -/
theorem plain_sane :
    (∀ spec, plainTable.resolve southTurn = .ok spec → spec.Sane southTurn 30) ∧
      ∀ turn', Mirrored plainTable southTurn turn' →
        Alike SameTuning (plainTable.resolve southTurn) (plainTable.resolve turn') := by
  have made : new (wheelRaw (.int 25)) (14 / 100) 30 = .ok plainTable := ok_returned _
  refine (sane_and_symmetric_iff made (wheelRaw_decoded (.int 25)) (by norm_num) (by norm_num)
    southTurn).mpr ?_
  rintro ⟨-, isNan | ⟨-, isNan⟩, -⟩
  · exact absurd isNan (by decide +kernel)
  · cases isNan

end TurnTable

end RcTaxi
