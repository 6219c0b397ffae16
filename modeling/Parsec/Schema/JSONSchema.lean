import Parsec.Foundation.JsonValue
import Parsec.Schema.Registry

/-! # Payload schemas

The subset of JSON Schema that payloads are checked against, as it is checked and as the draft
defines its keywords. -/

namespace Parsec.Schema

open Foundation

structure Document (Number : Type) where
  value : JsonValue Number
  distinct : value.distinct = true

inductive SchemaType
  | string
  | number
  | integer
  | boolean
  | object
  | array
  | null
  | unknown (name : String)
  deriving DecidableEq

/-- An absent field is `none`. A property may be declared by a null instead of a schema. -/
structure JSONSchema (Number : Type) where
  type : Option SchemaType := none
  required : List String := []
  properties : List (String × Option (JSONSchema Number)) := []
  items : Option (JSONSchema Number) := none
  additionalProperties : Option Bool := none
  enum : Option (List (Document Number)) := none

/-! ## Validation -/

/-- What a number of the text becomes when it is decoded, and when that is converted to an
`int64` and back. -/
structure Numbers (Number : Type) where
  float64 : Number → Number
  truncated : Number → Number

def displayPath (path : String) : String := if path = "" then "<root>" else path

section Validation

variable {Number : Type} [DecidableEq Number]

def SchemaType.checks (numbers : Numbers Number) : SchemaType → JsonValue Number → Bool
  | .string, .string _ => true
  | .number, .number _ => true
  | .integer, .number value => numbers.float64 value = numbers.truncated (numbers.float64 value)
  | .boolean, .boolean _ => true
  | .object, .object _ | .object, .null => true
  | .array, .array _ | .array, .null => true
  | .null, .null => true
  | .unknown _, _ => true
  | _, _ => false

def SchemaType.name : SchemaType → String
  | .string => "string"
  | .number => "number"
  | .integer => "integer"
  | .boolean => "boolean"
  | .object => "object"
  | .array => "array"
  | .null => "null"
  | .unknown name => name

def mistyped (path : String) (type : SchemaType) : String :=
  "schema: " ++ displayPath path ++ " expected " ++ type.name

def checkType (numbers : Numbers Number) (type : SchemaType) (value : JsonValue Number)
    (path : String) : Except String Unit :=
  ensure (type.checks numbers value = true) (mistyped path type)

def checkDeclared (numbers : Numbers Number) (type : Option SchemaType)
    (value : JsonValue Number) (path : String) : Except String Unit :=
  match type with
  | none => .ok ()
  | some type => checkType numbers type value path

def checkEnum (numbers : Numbers Number) (enum : Option (List (Document Number)))
    (value : JsonValue Number) (path : String) : Except String Unit :=
  match enum with
  | none | some [] => .ok ()
  | some allowed =>
    ensure (allowed.any fun entry => entry.value.deepEqual numbers.float64 value)
      ("schema: " ++ displayPath path ++ " not in enum")

def checkRequired (required : List String) (fields : List (String × JsonValue Number))
    (path : String) : Except String Unit :=
  required.forM fun name =>
    ensure ((fields.lookup name).isSome = true)
      ("schema: missing required field " ++ displayPath path ++ "." ++ name)

mutual
def validateValue (numbers : Numbers Number) (schema : JSONSchema Number) :
    JsonValue Number → String → Except String Unit
  | value, path => do
      checkDeclared numbers schema.type value path
      checkEnum numbers schema.enum value path
      match schema.type, value with
        | some .object, .object fields =>
          checkRequired schema.required fields path
          validateFields numbers schema fields path
        | some .object, .null =>
          checkRequired schema.required ([] : List (String × JsonValue Number)) path
        | some .object, _ => .error (mistyped path .object)
        | some .array, .array elements =>
          match schema.items with
          | none => .ok ()
          | some items => validateElements numbers items elements path 0
        | some .array, .null => .ok ()
        | some .array, _ => .error (mistyped path .array)
        | _, _ => .ok ()

def validateFields (numbers : Numbers Number) (schema : JSONSchema Number) :
    List (String × JsonValue Number) → String → Except String Unit
  | [], _ => .ok ()
  | (name, value) :: rest, path => do
      match schema.properties.lookup name with
        | none =>
          ensure (schema.additionalProperties ≠ some false)
            ("schema: unexpected field " ++ displayPath path ++ "." ++ name)
        | some none => .ok ()
        | some (some property) => validateValue numbers property value (path ++ "." ++ name)
      validateFields numbers schema rest path

def validateElements (numbers : Numbers Number) (items : JSONSchema Number) :
    List (JsonValue Number) → String → Nat → Except String Unit
  | [], _, _ => .ok ()
  | element :: rest, path, index => do
      validateValue numbers items element (path ++ "[" ++ toString index ++ "]")
      validateElements numbers items rest path (index + 1)
end

def validate (numbers : Numbers Number) (schema : Option (JSONSchema Number))
    (value : JsonValue Number) : Except String Unit :=
  match schema with
  | none => .ok ()
  | some schema => validateValue numbers schema value ""

variable {numbers : Numbers Number} {schema : JSONSchema Number} {path : String}
  {value : JsonValue Number}

theorem checkDeclared_eq_ok {type : Option SchemaType} :
    checkDeclared numbers type value path = .ok () ↔
      ∀ declared, type = some declared → declared.checks numbers value = true := by
  cases type <;> simp [checkDeclared, checkType]

theorem checkEnum_eq_ok {enum : Option (List (Document Number))}
    (distinct : value.distinct = true) :
    checkEnum numbers enum value path = .ok () ↔ ∀ allowed, enum = some allowed → allowed ≠ [] →
      ∃ entry ∈ allowed, JsonValue.Same numbers.float64 entry.value value := by
  simp only [← JsonValue.deepEqual_iff_same (Document.distinct _) distinct]
  cases enum with
  | none => simp [checkEnum]
  | some allowed =>
    cases allowed with
    | nil | cons first rest => simp [checkEnum]

omit [DecidableEq Number] in
variable {fields : List (String × JsonValue Number)}

theorem checkRequired_eq_ok {required : List String} :
    checkRequired required fields path = .ok () ↔
      ∀ name ∈ required, (fields.lookup name).isSome = true := by
  rw [checkRequired, forM_eq_ok]
  simp only [ensure_eq_ok]

def FieldAccepted (numbers : Numbers Number) (schema : JSONSchema Number) (path : String)
    (name : String) (value : JsonValue Number) : Prop :=
  (schema.properties.lookup name = none → schema.additionalProperties ≠ some false) ∧
    ∀ property, schema.properties.lookup name = some (some property) →
      validateValue numbers property value (path ++ "." ++ name) = .ok ()

theorem validateFields_eq_ok :
    validateFields numbers schema fields path = .ok () ↔
      ∀ name value, (name, value) ∈ fields → FieldAccepted numbers schema path name value := by
  induction fields with
  | nil => simp [validateFields]
  | cons field rest induction =>
    rcases field with ⟨name, value⟩
    have both : validateFields numbers schema ((name, value) :: rest) path = .ok () ↔
        FieldAccepted numbers schema path name value ∧
          validateFields numbers schema rest path = .ok () := by
      rw [validateFields]
      cases found : schema.properties.lookup name with
      | none => simp [FieldAccepted, found, check_then_eq_ok]
      | some property => cases property <;> simp [FieldAccepted, found, check_then_eq_ok]
    rw [both, induction]
    simpa only [Prod.forall] using (List.forall_mem_cons
      (p := fun field : String × _ => FieldAccepted numbers schema path field.1 field.2)
      (a := (name, value))).symm

private theorem validateElements_eq_ok {elements : List (JsonValue Number)} {index : Nat} :
    validateElements numbers schema elements path index = .ok () ↔
      ∀ (offset : Nat) (element : JsonValue Number), elements[offset]? = some element →
        validateValue numbers schema element
          (path ++ "[" ++ toString (index + offset) ++ "]") = .ok () := by
  induction elements generalizing index with
  | nil => simp [validateElements]
  | cons element rest induction =>
    rw [validateElements, check_then_eq_ok, induction]
    constructor
    · intro ⟨here, later⟩ offset
      cases offset with
      | zero => simpa using here
      | succ offset => simpa [Nat.add_right_comm, Nat.add_assoc] using later offset
    · intro all
      refine ⟨by simpa using all 0 element rfl, fun offset => ?_⟩
      simpa [Nat.add_right_comm, Nat.add_assoc] using all (offset + 1)

private theorem validateValue_eq_ok :
    validateValue numbers schema value path = .ok () ↔
      (∀ type, schema.type = some type → type.checks numbers value = true) ∧
      checkEnum numbers schema.enum value path = .ok () ∧
      (schema.type = some .object →
        (value = .null → schema.required = []) ∧
        ∀ fields, value = .object fields →
          (∀ name ∈ schema.required, (fields.lookup name).isSome = true) ∧
          validateFields numbers schema fields path = .ok ()) ∧
      (schema.type = some .array → ∀ elements items, value = .array elements →
        schema.items = some items → validateElements numbers items elements path 0 = .ok ()) := by
  unfold validateValue
  rw [check_then_eq_ok, check_then_eq_ok, checkDeclared_eq_ok]
  apply and_congr_right
  intro checked
  apply and_congr_right
  intro _
  cases declared : schema.type with
  | none => simp
  | some type =>
    have checked := checked type declared
    cases type with
    | object =>
      cases value with
      | object fields => simp [check_then_eq_ok, checkRequired_eq_ok]
      | null => simp [checkRequired_eq_ok, List.eq_nil_iff_forall_not_mem]
      | _ => simp [SchemaType.checks] at checked
    | array =>
      cases value with
      | array elements => cases schema.items <;> simp
      | null => simp
      | _ => simp [SchemaType.checks] at checked
    | _ => simp

end Validation

/-! ## The meaning of the keywords -/

section Meaning

variable {Number : Type}

def kind : JsonValue Number → SchemaType
  | .null => .null
  | .boolean _ => .boolean
  | .number _ => .number
  | .string _ => .string
  | .array _ => .array
  | .object _ => .object

/-- The draft's meaning of the keywords: each constrains the values of its own kind, whether or
not there is a type. -/
inductive Valid : JSONSchema Number → JsonValue Number → Prop
  | intro {schema : JSONSchema Number} {value : JsonValue Number}
      (type : ∀ type, schema.type = some type → kind value = type)
      (enum : ∀ allowed, schema.enum = some allowed →
        ∃ entry ∈ allowed, JsonValue.Same id entry.value value)
      (required : ∀ fields, value = .object fields →
        ∀ name ∈ schema.required, (fields.lookup name).isSome = true)
      (additional : ∀ fields, value = .object fields → schema.additionalProperties = some false →
        ∀ name field, (name, field) ∈ fields → schema.properties.lookup name ≠ none)
      (properties : ∀ fields, value = .object fields → ∀ name field property,
        (name, field) ∈ fields → schema.properties.lookup name = some (some property) →
          Valid property field)
      (items : ∀ elements, value = .array elements → ∀ element ∈ elements, ∀ items,
        schema.items = some items → Valid items element) :
      Valid schema value

inductive Covered : JSONSchema Number → Prop
  | intro {schema : JSONSchema Number}
      (type : ∀ type, schema.type = some type → type ≠ .integer ∧ ∀ name, type ≠ .unknown name)
      (properties : ∀ name property, schema.properties.lookup name = some (some property) →
        Covered property)
      (items : ∀ items, schema.items = some items → Covered items) :
      Covered schema

/-- How the keywords are read: which numbers are the same, and whether every keyword constrains
all values of its kind. -/
structure Reading (Number : Type) where
  number : Number → Number
  strict : Bool

def draft : Reading Number := { number := id, strict := true }

/-- The validator lets null pass as an object and as an array, takes an empty enumeration for
none, and looks at the keywords for objects and arrays under their type only. -/
def Numbers.checked (numbers : Numbers Number) : Reading Number :=
  { number := numbers.float64, strict := false }

inductive Violates (reading : Reading Number) : JSONSchema Number → JsonValue Number → Prop
  | type {schema value type} :
      schema.type = some type → kind value ≠ type →
      (value = .null → type = .object ∨ type = .array → reading.strict = true) →
      Violates reading schema value
  | enum {schema value allowed} :
      schema.enum = some allowed → (allowed = [] → reading.strict = true) →
      (∀ entry ∈ allowed, ¬ JsonValue.Same reading.number entry.value value) →
      Violates reading schema value
  | null {schema name} :
      schema.type = some .object → name ∈ schema.required → Violates reading schema .null
  | required {schema fields name} :
      reading.strict = true ∨ schema.type = some .object → name ∈ schema.required →
      (fields.lookup name).isSome = false → Violates reading schema (.object fields)
  | additional {schema fields name field} :
      reading.strict = true ∨ schema.type = some .object →
      schema.additionalProperties = some false → (name, field) ∈ fields →
      schema.properties.lookup name = none → Violates reading schema (.object fields)
  | property {schema property fields name field} :
      reading.strict = true ∨ schema.type = some .object → (name, field) ∈ fields →
      schema.properties.lookup name = some (some property) → Violates reading property field →
      Violates reading schema (.object fields)
  | item {schema items elements element} :
      reading.strict = true ∨ schema.type = some .array → element ∈ elements →
      schema.items = some items → Violates reading items element →
      Violates reading schema (.array elements)

inductive Slips (numbers : Numbers Number) : JSONSchema Number → JsonValue Number → Prop
  | null {schema} :
      schema.type = some .object ∨ schema.type = some .array → Slips numbers schema .null
  | enum {schema value} :
      schema.enum = some [] → Slips numbers schema value
  | rounded {schema value entry allowed} :
      schema.enum = some allowed → (∀ entry ∈ allowed, ¬ JsonValue.Same id entry.value value) →
      entry ∈ allowed → JsonValue.Same numbers.float64 entry.value value →
      Slips numbers schema value
  | required {schema fields name} :
      schema.type = none → name ∈ schema.required → (fields.lookup name).isSome = false →
      Slips numbers schema (.object fields)
  | additional {schema fields name field} :
      schema.type = none → schema.additionalProperties = some false → (name, field) ∈ fields →
      schema.properties.lookup name = none → Slips numbers schema (.object fields)
  | property {schema property fields name field} :
      schema.type = none → (name, field) ∈ fields →
      schema.properties.lookup name = some (some property) → Violates draft property field →
      Slips numbers schema (.object fields)
  | item {schema items elements element} :
      schema.type = none → element ∈ elements → schema.items = some items →
      Violates draft items element → Slips numbers schema (.array elements)
  | withinField {schema property fields name field} :
      schema.type = some .object → (name, field) ∈ fields →
      schema.properties.lookup name = some (some property) → Slips numbers property field →
      Slips numbers schema (.object fields)
  | withinElement {schema items elements element} :
      schema.type = some .array → element ∈ elements → schema.items = some items →
      Slips numbers items element → Slips numbers schema (.array elements)

variable {schema : JSONSchema Number} {value : JsonValue Number} {numbers : Numbers Number}

theorem valid_iff : Valid schema value ↔ ¬ Violates draft schema value := by
  constructor
  · intro valid violates
    induction violates with
    | type declared other =>
      rcases valid with ⟨type, _, _, _, _, _⟩
      exact other (type _ declared)
    | enum given _ outside =>
      rcases valid with ⟨_, enum, _, _, _, _⟩
      rcases enum _ given with ⟨entry, member, same⟩
      exact outside entry member same
    | null declared =>
      rcases valid with ⟨type, _, _, _, _, _⟩
      cases type _ declared
    | required _ member missing =>
      rcases valid with ⟨_, _, required, _, _, _⟩
      have present := required _ rfl _ member
      rw [missing] at present
      cases present
    | additional _ closed member undeclared =>
      rcases valid with ⟨_, _, _, additional, _, _⟩
      exact additional _ rfl closed _ _ member undeclared
    | property _ member found _ invalid =>
      rcases valid with ⟨_, _, _, _, properties, _⟩
      exact invalid (properties _ rfl _ _ _ member found)
    | item _ member given _ invalid =>
      rcases valid with ⟨_, _, _, _, _, items⟩
      exact invalid (items _ rfl _ member _ given)
  · intro none
    induction value using JsonValue.inside_induction generalizing schema with
    | step value induction =>
      refine .intro ?_ ?_ ?_ ?_ ?_ ?_
      · intro type declared
        by_contra other
        exact none (.type declared other fun _ _ => rfl)
      · intro allowed given
        by_contra outside
        push Not at outside
        exact none (.enum given (fun _ => rfl) outside)
      · rintro fields rfl name member
        by_contra missing
        exact none (.required (.inl rfl) member (eq_false_of_ne_true missing))
      · rintro fields rfl closed name field member undeclared
        exact none (.additional (.inl rfl) closed member undeclared)
      · rintro fields rfl name field property member found
        exact induction field ⟨name, member⟩ fun inner =>
          none (.property (.inl rfl) member found inner)
      · rintro elements rfl element member items given
        exact induction element member fun inner => none (.item (.inl rfl) member given inner)

theorem Slips.violates (slips : Slips numbers schema value) : Violates draft schema value := by
  induction slips with
  | null container =>
    rcases container with declared | declared
    · exact .type declared (by simp [kind]) fun _ _ => rfl
    · exact .type declared (by simp [kind]) fun _ _ => rfl
  | enum empty => exact .enum empty (fun _ => rfl) (by simp)
  | rounded given outside => exact .enum given (fun _ => rfl) outside
  | required _ member missing => exact .required (.inl rfl) member missing
  | additional _ closed member undeclared => exact .additional (.inl rfl) closed member undeclared
  | property _ member found inner | withinField _ member found _ inner =>
    exact .property (.inl rfl) member found inner
  | item _ member given inner | withinElement _ member given _ inner =>
    exact .item (.inl rfl) member given inner

theorem Violates.of_checked (violates : Violates numbers.checked schema value) :
    Violates draft schema value := by
  induction violates with
  | type declared other => exact .type declared other fun _ _ => rfl
  | enum given _ outside =>
    exact .enum given (fun _ => rfl) fun entry member same => outside entry member same.read
  | null declared => exact .type declared (by simp [kind]) fun _ _ => rfl
  | required _ member missing => exact .required (.inl rfl) member missing
  | additional _ closed member undeclared => exact .additional (.inl rfl) closed member undeclared
  | property _ member found _ inner => exact .property (.inl rfl) member found inner
  | item _ member given _ inner => exact .item (.inl rfl) member given inner

/-- Under a type of its own kind the validator looks at the keyword, without a type it does not,
and under any other type the value is refused. -/
private theorem checked_or_slips_of_type (filled : value ≠ .null)
    (untyped : schema.type = none → Slips numbers schema value)
    (typed : schema.type = some (kind value) →
      Violates numbers.checked schema value ∨ Slips numbers schema value) :
    Violates numbers.checked schema value ∨ Slips numbers schema value := by
  cases declared : schema.type with
  | none => exact .inr (untyped declared)
  | some type =>
    by_cases same : kind value = type
    · exact typed (same ▸ declared)
    · exact .inl (.type declared same fun null => absurd null filled)

theorem Violates.checked_or_slips (violates : Violates draft schema value) :
    Violates numbers.checked schema value ∨ Slips numbers schema value := by
  induction violates with
  | @type schema value type declared other _ =>
    by_cases passed : value = .null ∧ (type = .object ∨ type = .array)
    · rcases passed with ⟨rfl, rfl | rfl⟩
      · exact .inr (.null (.inl declared))
      · exact .inr (.null (.inr declared))
    · exact .inl (.type declared other fun null container => absurd ⟨null, container⟩ passed)
  | @enum schema value allowed given _ outside =>
    by_cases empty : allowed = []
    · rw [empty] at given
      exact .inr (.enum given)
    · by_cases near : ∃ entry ∈ allowed, JsonValue.Same numbers.float64 entry.value value
      · rcases near with ⟨entry, member, same⟩
        exact .inr (.rounded given outside member same)
      · push Not at near
        exact .inl (.enum given (fun none => absurd none empty) near)
  | null declared => exact .inr (.null (.inl declared))
  | required _ member missing =>
    exact checked_or_slips_of_type (by simp) (.required · member missing)
      fun typed => .inl (.required (.inr typed) member missing)
  | additional _ closed member undeclared =>
    exact checked_or_slips_of_type (by simp) (.additional · closed member undeclared)
      fun typed => .inl (.additional (.inr typed) closed member undeclared)
  | property _ member found inner seen =>
    exact checked_or_slips_of_type (by simp) (.property · member found inner) fun typed =>
      seen.imp (.property (.inr typed) member found) (.withinField typed member found)
  | item _ member given inner seen =>
    exact checked_or_slips_of_type (by simp) (.item · member given inner) fun typed =>
      seen.imp (.item (.inr typed) member given) (.withinElement typed member given)

end Meaning

section Agreement

variable {Number : Type} [DecidableEq Number] {numbers : Numbers Number}
  {schema : JSONSchema Number} {value : JsonValue Number}

theorem checks_iff {type : SchemaType} (known : type ≠ .integer ∧ ∀ name, type ≠ .unknown name) :
    type.checks numbers value = true ↔
      kind value = type ∨ value = .null ∧ (type = .object ∨ type = .array) := by
  cases type with
  | integer => exact absurd rfl known.1
  | unknown name => exact absurd rfl (known.2 name)
  | _ => cases value <;> simp [SchemaType.checks, kind]

private theorem Violates.refused (violates : Violates numbers.checked schema value)
    (distinct : value.distinct = true) (covered : Covered schema) (path : String) :
    validateValue numbers schema value path ≠ .ok () := by
  have typed : ∀ {type : Prop}, numbers.checked.strict = true ∨ type → type :=
    fun typed => typed.resolve_left (by simp [Numbers.checked])
  intro accepted
  induction violates generalizing path with
  | type declared other outside =>
    rcases covered with ⟨known, _, _⟩
    rcases (checks_iff (known _ declared)).mp ((validateValue_eq_ok.mp accepted).1 _ declared) with
      same | ⟨null, as⟩
    · exact other same
    · cases outside null as
  | enum given some outside =>
    have listed := (checkEnum_eq_ok distinct).mp (validateValue_eq_ok.mp accepted).2.1
    rcases listed _ given (fun empty => Bool.false_ne_true (some empty)) with
      ⟨entry, member, same⟩
    exact outside entry member same
  | null declared member =>
    rw [((validateValue_eq_ok.mp accepted).2.2.1 declared).1 rfl] at member
    cases member
  | required as member missing =>
    have present := (((validateValue_eq_ok.mp accepted).2.2.1 (typed as)).2 _ rfl).1 _ member
    rw [missing] at present
    cases present
  | additional as closed member undeclared =>
    have each := (((validateValue_eq_ok.mp accepted).2.2.1 (typed as)).2 _ rfl).2
    exact (validateFields_eq_ok.mp each _ _ member).1 undeclared closed
  | @property _ property fields name field as member found _ refused =>
    rcases covered with ⟨_, coveredProperties, _⟩
    have each := (((validateValue_eq_ok.mp accepted).2.2.1 (typed as)).2 _ rfl).2
    have inside : field.Inside (.object fields) := ⟨name, member⟩
    exact refused (inside.distinct distinct) (coveredProperties _ _ found) _
      ((validateFields_eq_ok.mp each _ _ member).2 _ found)
  | @item _ items elements element as member given _ refused =>
    rcases covered with ⟨_, _, coveredItems⟩
    have each := (validateValue_eq_ok.mp accepted).2.2.2 (typed as) _ _ rfl given
    rcases List.getElem?_of_mem member with ⟨offset, here⟩
    have inside : element.Inside (.array elements) := member
    exact refused (inside.distinct distinct) (coveredItems _ given) _
      (validateElements_eq_ok.mp each _ _ here)

private theorem validateValue_of_not_violates (distinct : value.distinct = true)
    (covered : Covered schema) (none : ¬ Violates numbers.checked schema value) (path : String) :
    validateValue numbers schema value path = .ok () := by
  induction value using JsonValue.inside_induction generalizing schema path with
  | step value induction =>
    rcases covered with ⟨known, coveredProperties, coveredItems⟩
    rw [validateValue_eq_ok, checkEnum_eq_ok distinct]
    refine ⟨?_, ?_, ?_, ?_⟩
    · intro type declared
      apply (checks_iff (known type declared)).mpr
      by_contra other
      push Not at other
      refine none (.type declared other.1 fun null as => ?_)
      rcases as with rfl | rfl
      · exact absurd rfl (other.2 null).1
      · exact absurd rfl (other.2 null).2
    · intro allowed given some
      by_contra outside
      push Not at outside
      exact none (.enum given (fun empty => absurd empty some) outside)
    · intro declared
      refine ⟨?_, ?_⟩
      · rintro rfl
        rw [List.eq_nil_iff_forall_not_mem]
        exact fun name member => none (.null declared member)
      · rintro fields rfl
        refine ⟨fun name member => ?_, validateFields_eq_ok.mpr fun name field member => ⟨?_, ?_⟩⟩
        · by_contra missing
          exact none (.required (.inr declared) member (eq_false_of_ne_true missing))
        · intro undeclared closed
          exact none (.additional (.inr declared) closed member undeclared)
        · intro property found
          have inside : field.Inside (.object fields) := ⟨name, member⟩
          exact induction field inside (inside.distinct distinct) (coveredProperties _ _ found)
            (fun inner => none (.property (.inr declared) member found inner)) _
    · rintro declared elements items rfl given
      apply validateElements_eq_ok.mpr
      intro offset element here
      have inside : element.Inside (.array elements) := List.mem_of_getElem? here
      exact induction element inside (inside.distinct distinct) (coveredItems _ given)
        (fun inner => none (.item (.inr declared) inside given inner)) _

/-- Acceptance means validity exactly if nothing slips, or something else breaks a keyword that
the validator looks at. -/
theorem validate_agrees_iff (numbers : Numbers Number) (schema : JSONSchema Number)
    (document : Document Number) (covered : Covered schema) :
    (validate numbers (some schema) document.value = .ok () ↔ Valid schema document.value) ↔
      (Slips numbers schema document.value →
        Violates numbers.checked schema document.value) := by
  have accepts : validateValue numbers schema document.value "" = .ok () ↔
      ¬ Violates numbers.checked schema document.value :=
    ⟨fun accepted violates => violates.refused document.distinct covered "" accepted,
      fun none => validateValue_of_not_violates document.distinct covered none ""⟩
  rw [validate, accepts, valid_iff, not_iff_not]
  constructor
  · intro agree slips
    exact agree.mpr slips.violates
  · intro seen
    exact ⟨Violates.of_checked, fun violates => violates.checked_or_slips.elim id seen⟩

end Agreement

def identified (type : Option SchemaType) : JSONSchema Nat where
  type := type
  required := ["id"]
  properties := [("id", some { type := some .string })]
  additionalProperties := some false

def identifier : Document Nat where
  value := .object [("id", .string "a")]
  distinct := by decide

private theorem covered_identified : Covered (identified (some .object)) := by
  refine .intro (by simp [identified]) ?_ (by simp [identified])
  intro name property found
  rcases List.mem_singleton.mp (mem_of_lookup found) with ⟨rfl, rfl⟩
  exact .intro (by simp) (by simp) (by simp)

theorem identifier_valid : Covered (identified (some .object)) ∧
    Valid (identified (some .object)) identifier.value := by
  refine ⟨covered_identified, ?_⟩
  have accepted :
      validate ⟨id, id⟩ (some (identified (some .object))) identifier.value = .ok () := by
    decide
  apply ((validate_agrees_iff ⟨id, id⟩ _ identifier covered_identified).mpr ?_).mp accepted
  intro slips
  cases slips with
  | enum given | rounded given => cases given
  | required untyped | additional untyped | property untyped => cases untyped
  | withinField _ member found inner =>
    cases List.mem_singleton.mp member
    cases List.mem_singleton.mp (mem_of_lookup found)
    cases inner with
    | enum given | rounded given => cases given

/-- A null is accepted as an object, and without a type nothing of the rest is checked. -/
theorem invalid_values_accepted :
    (validate ⟨id, id⟩ (some { type := some .object }) (.null : JsonValue Nat) = .ok () ∧
      ¬ Valid { type := some .object } (.null : JsonValue Nat)) ∧
    (validate ⟨id, id⟩ (some (identified none)) (.object []) = .ok () ∧
      ¬ Valid (identified none) (.object [])) := by
  refine ⟨⟨by decide, fun valid => ?_⟩, ⟨by decide, fun valid => ?_⟩⟩
  · exact valid_iff.mp valid (.type rfl (by simp [kind]) fun _ _ => rfl)
  · exact valid_iff.mp valid (.required (.inl rfl) List.mem_cons_self rfl)

/-! ## Validators

The check a client makes on each envelope it receives. Only a strict validator refuses one, and
only for a channel that the registry knows. -/

/-- The policy on payloads that do not conform. The source names it by a string, which may be
empty or name no policy. -/
inductive Mode
  | unset
  | off
  | warn
  | strict
  | other (text : String)
  deriving DecidableEq

structure Aspect (Number : Type) where
  payloadSchema : Option (JSONSchema Number)

structure Validator (Number : Type) where
  registry : Option (String → Except String (ChannelPattern (Records (Aspect Number)) × Bindings))
  mode : Mode

def errUnsupportedAspect : String := "schema: unsupported aspect"

def errPayloadInvalid : String := "schema: payload does not conform"

section Check

variable {Number : Type} [DecidableEq Number]

structure PayloadReader (Number : Type) extends Numbers Number where
  unmarshal : String → Except String (JsonValue Number)

variable (reader : PayloadReader Number)

def validateBytes (schema : JSONSchema Number) (raw : String) : Except String Unit :=
  if raw = "" then validateValue reader.toNumbers schema .null ""
  else
    match reader.unmarshal raw with
    | .error error => .error ("schema: payload is not JSON: " ++ error)
    | .ok value => validateValue reader.toNumbers schema value ""

def Validator.conforms (validator : Validator Number) (aspects : Records (Aspect Number))
    (aspect payload : String) : Except String Unit :=
  match aspects.lookup aspect with
  | none => if validator.mode = .strict then .error errUnsupportedAspect else .ok ()
  | some declared =>
    match declared.payloadSchema with
    | none => .ok ()
    | some schema =>
      match validateBytes reader schema payload with
      | .ok () => .ok ()
      | .error error =>
        if validator.mode = .strict then .error (errPayloadInvalid ++ "\n" ++ error)
        else .ok ()

def Validator.check (validator : Validator Number) (channel aspect payload : String) :
    Except String Unit :=
  if validator.mode = .unset ∨ validator.mode = .off then .ok ()
  else
    match validator.registry with
    | none => .ok ()
    | some resolve =>
      match resolve channel with
      | .error _ => .ok ()
      | .ok (pattern, _) => validator.conforms reader pattern.contract aspect payload

end Check

end Parsec.Schema
