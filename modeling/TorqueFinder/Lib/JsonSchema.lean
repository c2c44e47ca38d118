import TorqueFinder.Lib.Json

/-! Schemas of JSON objects, and what a reader may rely on in an object that has one. -/

namespace PyJson

/-- A type that a schema names. -/
inductive JsonType where
  | null
  | boolean
  | integer
  | number
  | string
  | array
  | object
  deriving DecidableEq

/-- The loaded value of a text has the type, where a number too large for a float is infinite. -/
def JsonType.admits : JsonType → Json → Bool
  | .null, .null => true
  | .boolean, .bool _ => true
  | .string, .str _ => true
  | .array, .arr _ => true
  | .object, .obj _ => true
  | .integer, .int _ => true
  -- A number without a fractional part is an integer, however it is written.
  | .integer, .float (.finite value) => value.den = 1
  | .integer, .float .nan => false
  | .integer, .float _ => true
  | .number, .int _ => true
  | .number, .float value => value ≠ .nan
  | _, _ => false

/-- The schema of an object. -/
structure ObjectSchema where
  /-- The types each named field may have. -/
  properties : List (String × List JsonType)
  required : List String
  additionalProperties : Bool

/-- A value is an object with the required fields, and its fields have their types. -/
def ObjectSchema.accepts (schema : ObjectSchema) : Json → Bool
  | .obj fields =>
    (schema.required.all fun name => (lookup fields name).isSome) &&
    -- A property that is present has to be of one of its types.
    (schema.properties.all fun property => (lookup fields property.1).all fun value =>
      property.2.any fun type => type.admits value) &&
    -- Unless others are allowed, every field is a declared property.
    (schema.additionalProperties ||
      fields.all fun field => schema.properties.any fun property => property.1 = field.1)
  | _ => false

variable {schema : ObjectSchema} {payload value : Json} {name : String} {types : List JsonType}

/-- A required field of an accepted object is there, and has one of its types. -/
theorem ObjectSchema.field_of_accepts (accepted : schema.accepts payload = true)
    (needed : name ∈ schema.required) (typed : (name, types) ∈ schema.properties) :
    ∃ type ∈ types, type.admits (payload.get name) = true ∧
      payload.subscript name = .ok (payload.get name) := by
  cases payload with
  | obj fields =>
    rw [accepts, Bool.and_eq_true, Bool.and_eq_true, List.all_eq_true, List.all_eq_true] at accepted
    obtain ⟨⟨present, fits⟩, -⟩ := accepted
    -- The field is there because it is required, and checked because it is a property.
    obtain ⟨value, found⟩ := Option.isSome_iff_exists.mp (present name needed)
    have checked := fits (name, types) typed
    rw [found, Option.all_some, List.any_eq_true] at checked
    obtain ⟨type, member, admits⟩ := checked
    refine ⟨type, member, ?_, ?_⟩
    · simpa [Json.get, found] using admits
    · simp [Json.get, Json.subscript, found]
  | _ => cases accepted

/-- Only a text has the type of one. -/
theorem admits_string (admits : JsonType.string.admits value = true) :
    ∃ text, value = .str text := by
  -- The type of the value decides.
  cases value with
  | str text => exact ⟨text, rfl⟩
  | _ => cases admits

/-- Only null has the type of null. -/
theorem admits_null (admits : JsonType.null.admits value = true) : value = .null := by
  -- The type of the value decides.
  cases value with
  | null => rfl
  | _ => cases admits

/-- A number is an integer or a float. -/
theorem admits_number (admits : JsonType.number.admits value = true) :
    (∃ number, value = .int number) ∨ ∃ number, value = .float number ∧ number ≠ .nan := by
  -- An integer is a number too, and so is every float that is one.
  cases value with
  | int number => exact .inl ⟨number, rfl⟩
  | float number => exact .inr ⟨number, rfl, of_decide_eq_true admits⟩
  | _ => cases admits

/-- An integer is read as a number, unless it is too large for a float and written as one. -/
theorem pyInt_of_admits (admits : JsonType.integer.admits value = true) :
    (∃ number, pyInt value = .ok number) ∨ value = .float .posInf ∨ value = .float .negInf := by
  -- The schema takes the infinities for integers, and only these overflow.
  cases value with
  | int number => exact .inl ⟨number, rfl⟩
  | float number =>
    cases number with
    | finite value => exact .inl ⟨_, rfl⟩
    | posInf => exact .inr (.inl rfl)
    | negInf => exact .inr (.inr rfl)
    | nan => cases admits
  | _ => cases admits

end PyJson
