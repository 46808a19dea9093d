/-
This file models the values the program reads from outside: what `json.loads`
returns for a message text and what `yaml.safe_load` returns for a configuration
or map file. Both are trees of Python objects, so one type serves for both. The
decoders themselves belong to Python and PyYAML; an input of the model is the
decoded object, and a text that does not decode is an absent object.

A number is a Python `int` of any size or a Python `float`. The finite floats are
the elements of the scalar field; `nan` and the infinities are kept apart, because
the checks of the program are written against them.
-/

import RcTaxi.Scalar

namespace RcTaxi

/-- The exceptions the modelled code can raise. `unfinished` is not one of them: it marks a
`while` loop that has not come to its end when the model's bound on its rounds is used up. -/
inductive PyError
  | keyError (key : String)
  | indexError
  | typeError
  | valueError
  | attributeError
  | zeroDivisionError
  | overflowError
  | assertionError (message : String)
  | mapError (message : String)
  | routeError (message : String)
  | laneRouteError (message : String)
  | configError (message : String)
  | unfinished
  deriving DecidableEq, Repr

/-- A Python float. -/
inductive PyFloat (α : Type)
  | finite (value : α)
  | nan
  | inf (negative : Bool)
  deriving DecidableEq

namespace PyFloat

variable {α : Type} [Scalar α]

/-- `a < b`; no comparison with `nan` holds. -/
def lt : PyFloat α → PyFloat α → Bool
  | .nan, _ | _, .nan => false
  | .finite a, .finite b => a < b
  | .finite _, .inf negative => !negative
  | .inf negative, .finite _ => negative
  | .inf first, .inf second => first && !second

/-- `a <= b`. -/
def le : PyFloat α → PyFloat α → Bool
  | .nan, _ | _, .nan => false
  | .finite a, .finite b => a ≤ b
  | .finite _, .inf negative => !negative
  | .inf negative, .finite _ => negative
  | .inf first, .inf second => first || !second

/-- A number that a bound is not at most is below it, unless the bound is `nan`. -/
theorem lt_of_not_le {bound : PyFloat α} {value : α}
    (above : bound.le (.finite value) = false) :
    bound = .nan ∨ (PyFloat.finite value).lt bound = true := by
  cases bound with
  | nan => exact .inl rfl
  | finite bound =>
    exact .inr (decide_eq_true (not_le.mp (of_decide_eq_false above)))
  | inf negative => cases negative with
    | false => exact .inr rfl
    | true => cases above

/-- `min(a, b)`: the first unless the second is smaller. -/
def pyMin (a b : PyFloat α) : PyFloat α := if b.lt a then b else a

/-- `max(a, b)`: the first unless the second is larger. -/
def pyMax (a b : PyFloat α) : PyFloat α := if a.lt b then b else a

def neg : PyFloat α → PyFloat α
  | .finite value => .finite (-value)
  | .nan => .nan
  | .inf negative => .inf !negative

def abs : PyFloat α → PyFloat α
  | .finite value => .finite |value|
  | .nan => .nan
  | .inf _ => .inf false

/-- `a * b`. -/
def mul : PyFloat α → PyFloat α → PyFloat α
  | .nan, _ | _, .nan => .nan
  | .finite a, .finite b => .finite (a * b)
  | .finite a, .inf negative | .inf negative, .finite a =>
    if a = 0 then .nan else .inf (negative != decide (a < 0))
  | .inf first, .inf second => .inf (first != second)

/-- `max(-limit, min(limit, value))` of a finite limit; `nan` comes out as the limit. -/
def clamp (limit : α) : PyFloat α → α
  | .finite value => max (-limit) (min limit value)
  | .nan | .inf false => max (-limit) limit
  | .inf true => -limit

end PyFloat

/-- A decoded JSON or YAML object. -/
inductive PyValue (α : Type)
  | none
  | bool (value : Bool)
  | int (value : ℤ)
  | float (value : PyFloat α)
  | str (value : String)
  | list (items : List (PyValue α))
  | dict (fields : List (String × PyValue α))

/-! ### Raising -/

theorem bind_ok {β γ : Type} (value : β) (next : β → Except PyError γ) :
    (Except.ok value >>= next) = next value := rfl

/-- A sequence of two steps succeeds exactly when both do. -/
theorem bind_eq_ok {β γ : Type} {first : Except PyError β} {next : β → Except PyError γ}
    {result : γ} :
    (first >>= next) = .ok result ↔ ∃ value, first = .ok value ∧ next value = .ok result := by
  cases first with
  | error error => exact ⟨fun raised => (nomatch raised), fun ⟨_, raised, _⟩ => (nomatch raised)⟩
  | ok value => exact ⟨fun done => ⟨value, rfl, done⟩, fun ⟨_, same, done⟩ => by cases same; exact done⟩

/-- The value of a computation that raises nothing. -/
def returned {β : Type} (result : Except PyError β) (isOk : result.toOption.isSome = true) : β :=
  result.toOption.get isOk

theorem ok_returned {β : Type} {result : Except PyError β} (isOk : result.toOption.isSome = true) :
    result = .ok (returned result isOk) := by
  cases result with
  | ok value => rfl
  | error error => cases isOk

/-- Raise the error unless the condition holds. -/
def require (condition : Prop) [Decidable condition] (error : PyError) : Except PyError Unit :=
  if condition then .ok () else .error error

theorem require_eq_ok {condition : Prop} [Decidable condition] {error : PyError} {result : Unit} :
    require condition error = .ok result ↔ condition := by
  unfold require
  split
  next holds => exact ⟨fun _ => holds, fun _ => rfl⟩
  next fails => exact ⟨fun done => (nomatch done), fun holds => absurd holds fails⟩

/-- `a / b` of two floats. -/
def divide {α : Type} [Scalar α] (a b : α) : Except PyError α :=
  if b = 0 then .error .zeroDivisionError else .ok (a / b)

/-- `for item in items: check(item)`: the first failing check raises. -/
def checkAll {β : Type} (check : β → Except PyError Unit) : List β → Except PyError Unit
  | [] => .ok ()
  | item :: rest => do
    check item
    checkAll check rest

theorem checkAll_eq_ok {β : Type} {check : β → Except PyError Unit} {items : List β}
    {result : Unit} :
    checkAll check items = .ok result ↔ ∀ item ∈ items, check item = .ok () := by
  induction items with
  | nil => exact ⟨fun _ item member => absurd member List.not_mem_nil, fun _ => rfl⟩
  | cons head rest inductionHypothesis =>
    rw [checkAll, bind_eq_ok, List.forall_mem_cons, ← inductionHypothesis]
    exact ⟨fun ⟨_, first, others⟩ => ⟨first, others⟩, fun ⟨first, others⟩ => ⟨(), first, others⟩⟩

/-- A traversal succeeds if every step does. -/
theorem exists_mapM {β γ : Type} {step : β → Except PyError γ} {items : List β}
    (each : ∀ item ∈ items, ∃ value, step item = .ok value) :
    ∃ values, items.mapM step = .ok values := by
  induction items with
  | nil => exact ⟨[], rfl⟩
  | cons head rest inductionHypothesis =>
    obtain ⟨value, first⟩ := each head List.mem_cons_self
    obtain ⟨values, others⟩ :=
      inductionHypothesis fun item member => each item (List.mem_cons_of_mem _ member)
    refine ⟨value :: values, ?_⟩
    rw [List.mapM_cons, first]
    exact bind_eq_ok.mpr ⟨value, rfl, bind_eq_ok.mpr ⟨values, others, rfl⟩⟩

/-- The values of a traversal are the values of its steps. -/
theorem mem_mapM {β γ : Type} {step : β → Except PyError γ} {items : List β} {values : List γ}
    (done : items.mapM step = .ok values) (value : γ) :
    value ∈ values ↔ ∃ item ∈ items, step item = .ok value := by
  induction items generalizing values with
  | nil =>
    cases done
    exact ⟨fun member => absurd member List.not_mem_nil, fun ⟨_, member, _⟩ =>
      absurd member List.not_mem_nil⟩
  | cons head rest inductionHypothesis =>
    rw [List.mapM_cons] at done
    obtain ⟨first, headDone, tail⟩ := bind_eq_ok.mp done
    obtain ⟨others, restDone, same⟩ := bind_eq_ok.mp tail
    cases same
    rw [List.mem_cons, inductionHypothesis restDone, List.exists_mem_cons_iff, headDone]
    refine or_congr_left ⟨fun same => congrArg Except.ok same.symm, fun same => ?_⟩
    cases same
    rfl

/-! ### Two computations side by side -/

/-- Both raise the same, or both succeed with related values. -/
def Alike {β γ : Type} (related : β → γ → Prop) : Except PyError β → Except PyError γ → Prop
  | .ok first, .ok second => related first second
  | .error first, .error second => first = second
  | _, _ => False

section Alike

variable {β γ β' γ' : Type} {related : β → γ → Prop} {related' : β' → γ' → Prop}
  {first : Except PyError β} {second : Except PyError γ}

theorem Alike.bind {next : β → Except PyError β'} {next' : γ → Except PyError γ'}
    (alike : Alike related first second)
    (continued : ∀ value value', related value value' → Alike related' (next value) (next' value')) :
    Alike related' (first >>= next) (second >>= next') := by
  cases first with
  | error error => cases second with
    | error error' => exact alike
    | ok value' => exact alike.elim
  | ok value => cases second with
    | error error' => exact alike.elim
    | ok value' => exact continued value value' alike

theorem Alike.imp {weaker : β → γ → Prop}
    (implied : ∀ value value', related value value' → weaker value value')
    (alike : Alike related first second) : Alike weaker first second := by
  cases first with
  | error error => cases second with
    | error error' => exact alike
    | ok value' => exact alike.elim
  | ok value => cases second with
    | error error' => exact alike.elim
    | ok value' => exact implied value value' alike

/-- What a result is related to. -/
theorem Alike.ok {value : β} (alike : Alike related first second) (returned : first = .ok value) :
    ∃ value', second = .ok value' ∧ related value value' := by
  subst returned
  cases second with
  | error error' => exact alike.elim
  | ok value' => exact ⟨value', rfl, alike⟩

theorem Alike.error {error : PyError} (alike : Alike related first second)
    (raised : first = .error error) : second = .error error := by
  subst raised
  cases second with
  | error error' => exact congrArg _ (Eq.symm alike)
  | ok value' => exact alike.elim

/-- What is related by equality is equal. -/
theorem Alike.eq {related : β → β → Prop} {first second : Except PyError β}
    (alike : Alike related first second)
    (equal : ∀ value value', related value value' → value = value') : first = second := by
  cases first with
  | error error => cases second with
    | error error' => exact congrArg _ alike
    | ok value' => exact alike.elim
  | ok value => cases second with
    | error error' => exact alike.elim
    | ok value' => exact congrArg _ (equal value value' alike)

/-- The same computation in front of two others, with what is known of its result. -/
theorem Alike.known {next : β → Except PyError β'} {next' : β → Except PyError γ'}
    (first : Except PyError β)
    (continued : ∀ value, first = .ok value → Alike related' (next value) (next' value)) :
    Alike related' (first >>= next) (first >>= next') := by
  cases first with
  | error error => exact rfl
  | ok value => exact continued value rfl

/-- The same computation in front of two others. -/
theorem Alike.same {next : β → Except PyError β'} {next' : β → Except PyError γ'}
    (first : Except PyError β) (continued : ∀ value, Alike related' (next value) (next' value)) :
    Alike related' (first >>= next) (first >>= next') :=
  .known first fun value _ => continued value

end Alike

variable {α : Type} [Scalar α]

/-! ### Text to number -/

/-- Integers from here on round to a float that does not exist. -/
def floatLimit : ℤ := 2 ^ 1024 - 2 ^ 970

/-- The conversion of an `int` to a `float`. -/
def floatOfInt (value : ℤ) : Except PyError (PyFloat α) :=
  if floatLimit ≤ |value| then .error .overflowError else .ok (.finite value)

/-- The blanks beyond ASCII. -/
def wideBlanks : List ℕ :=
  [0x85, 0xA0, 0x1680, 0x2000, 0x2001, 0x2002, 0x2003, 0x2004, 0x2005, 0x2006, 0x2007, 0x2008,
   0x2009, 0x200A, 0x2028, 0x2029, 0x202F, 0x205F, 0x3000]

/-- The zeros of the decimal digits beyond ASCII, each followed by its nine others: those of
Unicode 13, which Python 3.10 has. -/
def wideZeros : List ℕ :=
  [0x660, 0x6F0, 0x7C0, 0x966, 0x9E6, 0xA66, 0xAE6, 0xB66, 0xBE6, 0xC66, 0xCE6, 0xD66, 0xDE6,
   0xE50, 0xED0, 0xF20, 0x1040, 0x1090, 0x17E0, 0x1810, 0x1946, 0x19D0, 0x1A80, 0x1A90, 0x1B50,
   0x1BB0, 0x1C40, 0x1C50, 0xA620, 0xA8D0, 0xA900, 0xA9D0, 0xA9F0, 0xAA50, 0xABF0, 0xFF10,
   0x104A0, 0x10D30, 0x11066, 0x110F0, 0x11136, 0x111D0, 0x112F0, 0x11450, 0x114D0, 0x11650,
   0x116C0, 0x11730, 0x118E0, 0x11950, 0x11C50, 0x11D50, 0x11DA0, 0x16A60, 0x16B50, 0x1D7CE,
   0x1D7D8, 0x1D7E2, 0x1D7EC, 0x1D7F6, 0x1E140, 0x1E2F0, 0x1E950, 0x1FBF0]

/-- What a number text is read through: the blanks and decimal digits beyond ASCII become ASCII
ones. Every other character beyond ASCII stays, and is part of no number. -/
def toAscii (char : Char) : Char :=
  if char.toNat < 128 then char
  else if char.toNat ∈ wideBlanks then ' '
  else match wideZeros.find? fun first => first ≤ char.toNat && char.toNat < first + 10 with
    | some first => Char.ofNat ('0'.toNat + (char.toNat - first))
    | none => char

/-- The blanks around a number text. The separators U+001C to U+001F, which `str.strip` takes
too, are not among them. -/
def isSpace (char : Char) : Bool := char = ' ' || ('\t' ≤ char && char ≤ '\r')

/-- The ASCII characters of a number text without the blanks around it. -/
def strip (text : String) : List Char :=
  (((text.toList.map toAscii).dropWhile isSpace).reverse.dropWhile isSpace).reverse

/-- Underscores may only stand between two digits. -/
def underscoresOk : Bool → List Char → Bool
  | _, [] => true
  | afterDigit, char :: rest =>
    if char = '_' then
      afterDigit && (rest.head?.map Char.isDigit).getD false && underscoresOk false rest
    else underscoresOk char.isDigit rest

/-- The leading digits of a text and what follows them. -/
def takeDigits : List Char → List ℕ × List Char
  | [] => ([], [])
  | char :: rest =>
    if char.isDigit then
      let (digits, tail) := takeDigits rest
      ((char.toNat - '0'.toNat) :: digits, tail)
    else ([], char :: rest)

def ofDigits (digits : List ℕ) : ℕ := digits.foldl (fun value digit => 10 * value + digit) 0

/-- The sign of a number text, and the text after it. -/
def takeSign : List Char → Bool × List Char
  | char :: rest =>
    if char = '-' then (true, rest) else if char = '+' then (false, rest) else (false, char :: rest)
  | [] => (false, [])

/-- The digits `int` takes at most (`sys.int_info.default_max_str_digits`). -/
def maxStrDigits : ℕ := 4300

/-- Python's `int(text)`, `none` where it raises `ValueError`. -/
def intOfString (text : String) : Option ℤ :=
  let (negative, body) := takeSign (strip text)
  let (digits, rest) := takeDigits (body.filter (· ≠ '_'))
  if underscoresOk false body && !digits.isEmpty && rest.isEmpty &&
      decide (digits.length ≤ maxStrDigits) then
    some (if negative then -(ofDigits digits : ℤ) else ofDigits digits)
  else none

/-- An unsigned decimal with an optional fraction and exponent. -/
def decimalOf (chars : List Char) : Option ℚ :=
  let (whole, afterWhole) := takeDigits chars
  let (fraction, afterFraction) := match afterWhole with
    | '.' :: rest => takeDigits rest
    | rest => ([], rest)
  let mantissa : ℚ := (ofDigits (whole ++ fraction) : ℚ) / 10 ^ fraction.length
  if whole.isEmpty && fraction.isEmpty then none
  else match afterFraction with
    | [] => some mantissa
    | char :: rest =>
      let (negative, body) := takeSign rest
      let (digits, tail) := takeDigits body
      if (char = 'e' ∨ char = 'E') ∧ !digits.isEmpty ∧ tail.isEmpty then
        some (if negative then mantissa / 10 ^ ofDigits digits else mantissa * 10 ^ ofDigits digits)
      else none

/-- The float of a sign and an unsigned decimal, which is infinite where no float is large
enough. -/
def floatOfDecimal (negative : Bool) (value : ℚ) : PyFloat α :=
  if (floatLimit : ℚ) ≤ value then .inf negative
  else .finite (if negative then -(value : α) else (value : α))

/-- Python's `float(text)`. -/
def floatOfString (text : String) : Except PyError (PyFloat α) :=
  let (negative, body) := takeSign (strip text)
  let word := String.ofList (body.map Char.toLower)
  if word = "inf" ∨ word = "infinity" then .ok (.inf negative)
  else if word = "nan" then .ok .nan
  else if underscoresOk false body then
    match decimalOf (body.filter (· ≠ '_')) with
    | some value => .ok (floatOfDecimal negative value)
    | none => .error .valueError
  else .error .valueError

example : (floatOfString "1e999" : Except PyError (PyFloat ℚ)).toOption = some (.inf false) := by
  decide +kernel

example : (floatOfString "\u00a0\u0661\u0662.5 " : Except PyError (PyFloat ℚ)).toOption =
    some (.finite (25 / 2)) := by
  decide +kernel

/-! ### Operations on decoded objects -/

namespace PyValue

/-- `bool(value)`. -/
def truthy : PyValue α → Bool
  | .none => false
  | .bool value => value
  | .int value => value ≠ 0
  | .float (.finite value) => value ≠ 0
  | .float _ => true
  | .str value => value ≠ ""
  | .list items => !items.isEmpty
  | .dict fields => !fields.isEmpty

/-- `float(value)`. -/
def toFloat : PyValue α → Except PyError (PyFloat α)
  | .bool value => .ok (.finite (if value then 1 else 0))
  | .int value => floatOfInt value
  | .float value => .ok value
  | .str value => floatOfString value
  | .none | .list _ | .dict _ => .error .typeError

/-- `float(value)` where the model goes on with a finite number. -/
def toScalar (value : PyValue α) : Except PyError α := do
  match ← value.toFloat with
  | .finite number => .ok number
  | _ => .error .valueError

/-- `int(value)`; a float is cut off towards zero. -/
def toInt : PyValue α → Except PyError ℤ
  | .bool value => .ok (if value then 1 else 0)
  | .int value => .ok value
  | .float (.finite value) => .ok (if 0 ≤ value then ⌊value⌋ else ⌈value⌉)
  | .float .nan => .error .valueError
  | .float (.inf _) => .error .overflowError
  | .str value => match intOfString value with
    | some number => .ok number
    | Option.none => .error .valueError
  | .none | .list _ | .dict _ => .error .typeError

/-- `str(value)`. The texts of floats and containers are not modelled. -/
def toStr : PyValue α → Except PyError String
  | .none => .ok "None"
  | .bool value => .ok (if value then "True" else "False")
  | .int value => .ok (toString value)
  | .str value => .ok value
  | .float _ | .list _ | .dict _ => .error .valueError

/-- `value[key]` of a mapping as far as `in` and `[]` need it: the field, if there is one. -/
def field? (key : String) : PyValue α → Option (PyValue α)
  | .dict fields => fields.lookup key
  | _ => Option.none

/-- `value.get(key)`, with `None` for a missing key. -/
def get (key : String) (value : PyValue α) : PyValue α := (value.field? key).getD .none

/-- `value.get(key, default)`: the default stands in for a missing key only. -/
def getD (value : PyValue α) (key : String) (default : PyValue α) : PyValue α :=
  (value.field? key).getD default

/-- `value[key]` of a mapping. -/
def item (key : String) : PyValue α → Except PyError (PyValue α)
  | .dict fields => match fields.lookup key with
    | some value => .ok value
    | Option.none => .error (.keyError key)
  | _ => .error .typeError

/-- `for item in value`: a string yields its characters and a mapping its keys. -/
def iterate : PyValue α → Except PyError (List (PyValue α))
  | .list items => .ok items
  | .str value => .ok (value.toList.map fun char => .str (String.singleton char))
  | .dict fields => .ok (fields.map fun field => .str field.1)
  | .none | .bool _ | .int _ | .float _ => .error .typeError

/-- `value.items()` of a mapping. -/
def items : PyValue α → Except PyError (List (String × PyValue α))
  | .dict fields => .ok fields
  | _ => .error .attributeError

/-- `value.get(key)` on an object that may not be a mapping. -/
def getAttr (key : String) (value : PyValue α) : Except PyError (PyValue α) :=
  match value with
  | .dict fields => .ok ((fields.lookup key).getD .none)
  | _ => .error .attributeError

/-- `value or default` where the default is empty: a falsy object stands for it. -/
def orElse (value default : PyValue α) : PyValue α := if value.truthy then value else default

def isDict : PyValue α → Bool
  | .dict _ => true
  | _ => false

/-- `isinstance(v, (int, float)) and not isinstance(v, bool)`. -/
def isNumber : PyValue α → Bool
  | .int _ | .float _ => true
  | _ => false

/-- `value == number` for an integer on the right: Python compares numbers by value, and
`True == 1`. -/
def equalsInt (number : ℤ) : PyValue α → Bool
  | .bool value => (if value then 1 else 0) = number
  | .int value => value = number
  | .float (.finite value) => value = (number : α)
  | _ => false

/-- `value == text` for a string on the right. -/
def equalsStr (text : String) : PyValue α → Bool
  | .str value => value = text
  | _ => false

end PyValue

end RcTaxi
