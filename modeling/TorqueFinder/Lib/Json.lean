import Mathlib.Algebra.Field.Rat
import TorqueFinder.Lib.PyText

/-! JSON values as Python holds them, and the conversions a reader of JSON applies to them. -/

namespace PyJson

open PyText

/-- A Python float, with its finite values taken exactly. -/
inductive PyFloat where
  /-- A number. -/
  | finite (value : ℚ)
  /-- Positive infinity. -/
  | posInf
  /-- Negative infinity. -/
  | negInf
  /-- Not a number. -/
  | nan
  deriving DecidableEq

/-- A value `json.loads` returns, with the fields of an object in text order. -/
inductive Json where
  | null
  | bool (value : Bool)
  | int (value : Int)
  | float (value : PyFloat)
  | str (value : String)
  | arr (items : List Json)
  | obj (fields : List (String × Json))

/-- The exceptions the conversions raise. -/
inductive PyException where
  | jsonDecodeError
  | valueError
  | typeError
  | keyError
  | attributeError
  | overflowError
  | recursionError
  deriving DecidableEq

/-- The parts of the interpreter whose results no theorem needs to know. -/
structure Interpreter where
  /-- `json.loads`. -/
  loads : String → Except PyException Json
  /-- `str(value)`. -/
  str : Json → Except PyException String
  /-- `float(value)`. -/
  float : Json → Except PyException PyFloat
  /-- A text is its own string. -/
  str_str : ∀ text, str (.str text) = .ok text

/-- An interpreter that knows the values of some texts and converts nothing but texts and floats. -/
def tableInterpreter (table : List (String × Json)) : Interpreter where
  loads text :=
    match table.find? fun entry => entry.1 = text with
    | some entry => .ok entry.2
    -- A text that is not in the table is not JSON.
    | none => .error .jsonDecodeError
  str value :=
    match value with
    | .str text => .ok text
    | _ => .error .recursionError
  float value :=
    match value with
    | .float number => .ok number
    | _ => .error .typeError
  str_str _ := rfl

/-- The least magnitude of an integer that no finite float is close enough to. -/
def floatLimit : Nat := 2 ^ 1024 - 2 ^ 970

/-- Every value has a text, as the language documents. -/
def Interpreter.Printable (interpreter : Interpreter) : Prop :=
  ∀ value, ∃ text, interpreter.str value = .ok text

/-- The conversions raise what the language documents. -/
structure Interpreter.AsDocumented (interpreter : Interpreter) : Prop where
  /-- Every value has a text. -/
  str_total : ∀ value, ∃ text, interpreter.str value = .ok text
  /-- The integers that are too large for a float overflow, and nothing else does. -/
  float_overflow : ∀ value, interpreter.float value = .error .overflowError ↔
    ∃ number, value = .int number ∧ floatLimit ≤ number.natAbs
  /-- What is no number raises one of two exceptions. -/
  float_errors : ∀ value exception, interpreter.float value = .error exception →
    exception = .typeError ∨ exception = .valueError ∨ exception = .overflowError

/-- An interpreter that knows the values of some texts and converts numbers as documented. -/
def numericInterpreter (table : List (String × Json)) : Interpreter where
  loads := (tableInterpreter table).loads
  str value :=
    match value with
    | .str text => .ok text
    | _ => .ok ""
  float value :=
    match value with
    | .float number => .ok number
    | .int number =>
      -- An integer beyond the range of floats overflows, and others are exact.
      if floatLimit ≤ number.natAbs then .error .overflowError else .ok (.finite number)
    | .str _ => .error .valueError
    | _ => .error .typeError
  str_str _ := rfl

/-- That interpreter raises what is documented. -/
theorem numericInterpreter_asDocumented (table : List (String × Json)) :
    (numericInterpreter table).AsDocumented where
  -- Only an integer can overflow, and each other value has its own exception.
  str_total value := by
    cases value <;> simp [numericInterpreter]
  float_overflow value := by
    cases value with
    | int number => simp [numericInterpreter]
    | _ => simp [numericInterpreter]
  float_errors value exception failed := by
    cases value with
    | int number =>
      simp only [numericInterpreter] at failed
      split at failed
      · cases failed
        exact Or.inr (Or.inr rfl)
      · cases failed
    | _ => simp_all [numericInterpreter]

/-- The conversion to a float is exact for floats and small numbers, and keeps large ones large. -/
structure Interpreter.RoundsAsDocumented (interpreter : Interpreter) : Prop where
  float_float : ∀ number, interpreter.float (.float number) = .ok number
  float_exact : ∀ number : Int, number.natAbs ≤ 2 ^ 53 →
    interpreter.float (.int number) = .ok (.finite number)
  float_large : ∀ number : Int, 2 ^ 53 < number.natAbs → number.natAbs < floatLimit →
    ∃ value : ℚ, interpreter.float (.int number) = .ok (.finite value) ∧ 1 < |value|

/-- That interpreter keeps numbers as they are. -/
theorem numericInterpreter_roundsAsDocumented (table : List (String × Json)) :
    (numericInterpreter table).RoundsAsDocumented where
  -- Every integer within the range is read exactly, so nothing is rounded.
  float_float _ := rfl
  float_exact number small := by
    have fits : ¬ floatLimit ≤ number.natAbs := by
      rw [floatLimit]
      omega
    simp [numericInterpreter, fits]
  float_large number large fits := by
    refine ⟨number, by simp [numericInterpreter, Nat.not_le.mpr fits], ?_⟩
    have outside : 1 < number ∨ 1 < -number := by omega
    rw [lt_abs]
    exact outside.imp (fun high => by exact_mod_cast high) fun low => by exact_mod_cast low

/-- The value of a field, where a later field of the same name replaces an earlier one. -/
def lookup (fields : List (String × Json)) (key : String) : Option Json :=
  (fields.reverse.find? fun field => field.1 = key).map Prod.snd

/-- `payload[key]`. -/
def Json.subscript (payload : Json) (key : String) : Except PyException Json :=
  match payload with
  | .obj fields =>
    match lookup fields key with
    | some value => .ok value
    | none => .error .keyError
  -- No other value can be indexed by a string.
  | _ => .error .typeError

/-- `payload.get(key)` of an object, where a missing field reads as null. -/
def Json.get (payload : Json) (key : String) : Json :=
  -- A key that is missing reads as null, like `dict.get`.
  match payload with
  | .obj fields => (lookup fields key).getD .null
  | _ => .null

/-- `value.get(key)`, which only an object has. -/
def Json.field (value : Json) (key : String) : Except PyException Json :=
  match value with
  | .obj _ => .ok (value.get key)
  -- Only an object has a method to get a field with.
  | _ => .error .attributeError

/-- `value.get(key, default)`. -/
def Json.fieldOr (value : Json) (key : String) (default : Json) : Except PyException Json :=
  match value with
  | .obj fields => .ok ((lookup fields key).getD default)
  -- Only an object has a method to get a field with.
  | _ => .error .attributeError

/-- `bool(value)`. -/
def Json.truthy : Json → Bool
  | .null => false
  | .bool value => value
  | .int value => value ≠ 0
  | .float (.finite value) => value ≠ 0
  -- Infinities are true, and so is what is not a number.
  | .float _ => true
  | .str text => text ≠ ""
  | .arr items => !items.isEmpty
  | .obj fields => !fields.isEmpty

/-- `first or second`. -/
def Json.or (first second : Json) : Json := if first.truthy then first else second

/-- The items a loop over the value visits. -/
def iterate : Json → Except PyException (List Json)
  | .arr items => .ok items
  -- A text is visited by its characters, an object by its keys.
  | .str text => .ok (text.toList.map fun char => .str (String.singleton char))
  | .obj fields => .ok ((fields.map Prod.fst).eraseDups.map .str)
  | _ => .error .typeError

/-- `key in value`. -/
def Json.contains (value : Json) (key : String) : Except PyException Bool :=
  match value with
  | .obj fields => .ok (lookup fields key).isSome
  -- A text contains its parts, a list its items.
  | .str text => .ok (decide (OccursIn key text))
  | .arr items => .ok (items.any fun item => match item with
      | .str text => text = key
      | _ => false)
  | _ => .error .typeError

/-- `int(value)`. -/
def pyInt : Json → Except PyException Int
  -- Truth values count as numbers.
  | .bool value => .ok value.toNat
  | .int value => .ok value
  -- Truncation is towards zero.
  | .float (.finite value) => .ok (value.num.tdiv value.den)
  | .float .nan => .error .valueError
  | .float _ => .error .overflowError
  | .str text =>
    match intOfText text with
    | some value => .ok value
    | none => .error .valueError
  | _ => .error .typeError

end PyJson
