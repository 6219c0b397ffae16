import Mathlib

/-! # JSON values

Decoded JSON with an arbitrary type of numbers. The fields of an object stand in the order in
which its map is visited, and two objects are the same whatever their orders. -/

namespace Parsec.Foundation

inductive JsonValue (Number : Type)
  | null
  | boolean (value : Bool)
  | number (value : Number)
  | string (value : String)
  | array (elements : List (JsonValue Number))
  | object (fields : List (String × JsonValue Number))

namespace JsonValue

variable {Number : Type}

def Inside (child : JsonValue Number) : JsonValue Number → Prop
  | .array elements => child ∈ elements
  | .object fields => ∃ name, (name, child) ∈ fields
  | .null | .boolean _ | .number _ | .string _ => False

theorem Inside.sizeOf_lt {child value : JsonValue Number} (inside : child.Inside value) :
    sizeOf child < sizeOf value := by
  cases value with
  | null | boolean value | number value | string value => exact inside.elim
  | array elements =>
    have smaller := List.sizeOf_lt_of_mem inside
    rw [array.sizeOf_spec]
    omega
  | object fields =>
    rcases inside with ⟨name, member⟩
    have smaller := List.sizeOf_lt_of_mem member
    rw [Prod.mk.sizeOf_spec] at smaller
    rw [object.sizeOf_spec]
    omega

theorem inside_induction {motive : JsonValue Number → Prop}
    (step : ∀ value, (∀ child : JsonValue Number, child.Inside value → motive child) →
      motive value) (value : JsonValue Number) : motive value := by
  apply (measure sizeOf).wf.induction value
  intro value smaller
  exact step value fun child inside => smaller child inside.sizeOf_lt

mutual
def distinct : JsonValue Number → Bool
  | .array elements => distinctElements elements
  | .object fields => decide (fields.map Prod.fst).Nodup && distinctFields fields
  | .null | .boolean _ | .number _ | .string _ => true

def distinctElements : List (JsonValue Number) → Bool
  | [] => true
  | element :: rest => element.distinct && distinctElements rest

def distinctFields : List (String × JsonValue Number) → Bool
  | [] => true
  | (_, value) :: rest => value.distinct && distinctFields rest
end

theorem distinctElements_iff {elements : List (JsonValue Number)} :
    distinctElements elements = true ↔ ∀ element ∈ elements, element.distinct = true := by
  induction elements with
  | nil => simp [distinctElements]
  | cons element rest induction => simp [distinctElements, induction]

variable {fields : List (String × JsonValue Number)}

theorem distinctFields_iff :
    distinctFields fields = true ↔ ∀ field ∈ fields, field.2.distinct = true := by
  induction fields with
  | nil => simp [distinctFields]
  | cons field rest induction => simp [distinctFields, induction]

theorem nodup_of_distinct (distinct : (object fields).distinct = true) :
    (fields.map Prod.fst).Nodup := by
  rw [JsonValue.distinct, Bool.and_eq_true, decide_eq_true_iff] at distinct
  exact distinct.1

theorem Inside.distinct {child value : JsonValue Number} (inside : child.Inside value)
    (distinct : value.distinct = true) : child.distinct = true := by
  cases value with
  | null | boolean value | number value | string value => exact inside.elim
  | array elements =>
    exact distinctElements_iff.mp distinct child inside
  | object fields =>
    rcases inside with ⟨name, member⟩
    rw [JsonValue.distinct, Bool.and_eq_true] at distinct
    exact distinctFields_iff.mp distinct.2 (name, child) member

end JsonValue

variable {Value : Type*} {fields : List (String × Value)} {name : String} {value : Value}

theorem mem_of_lookup (found : fields.lookup name = some value) : (name, value) ∈ fields := by
  rcases List.lookup_eq_some_iff.mp found with ⟨before, after, rfl, _⟩
  exact List.mem_append_right _ List.mem_cons_self

theorem isSome_lookup_iff : (fields.lookup name).isSome = true ↔ name ∈ fields.map Prod.fst := by
  rw [List.lookup_isSome_iff]
  simp only [beq_iff_eq, List.mem_map]
  constructor
  · rintro ⟨field, member, rfl⟩
    exact ⟨field, member, rfl⟩
  · rintro ⟨field, member, rfl⟩
    exact ⟨field, member, rfl⟩

theorem lookup_of_mem (distinct : (fields.map Prod.fst).Nodup) (member : (name, value) ∈ fields) :
    fields.lookup name = some value := by
  induction fields with
  | nil => cases member
  | cons field rest induction =>
    rw [List.map_cons, List.nodup_cons] at distinct
    rcases List.mem_cons.mp member with rfl | later
    · simp
    · have different : name ≠ field.1 := by
        rintro rfl
        exact distinct.1 (List.mem_map.mpr ⟨_, later, rfl⟩)
      rw [List.lookup_cons, beq_false_of_ne different]
      exact induction distinct.2 later

variable {first second : List (String × Value)}

theorem isSome_lookup_eq (distinct : (first.map Prod.fst).Nodup)
    (length : first.length = second.length)
    (found : ∀ name left, (name, left) ∈ first → ∃ right, second.lookup name = some right)
    (name : String) : (first.lookup name).isSome = (second.lookup name).isSome := by
  have within : first.map Prod.fst ⊆ second.map Prod.fst := by
    intro name member
    rcases List.mem_map.mp member with ⟨⟨name, left⟩, here, rfl⟩
    rcases found name left here with ⟨right, there⟩
    exact List.mem_map.mpr ⟨_, mem_of_lookup there, rfl⟩
  have perm : (first.map Prod.fst).Perm (second.map Prod.fst) :=
    (distinct.subperm within).perm_of_length_le (by simp [length])
  rw [Bool.eq_iff_iff, isSome_lookup_iff, isSome_lookup_iff, perm.mem_iff]

theorem length_eq_of_names (distinct : (first.map Prod.fst).Nodup)
    (other : (second.map Prod.fst).Nodup)
    (names : ∀ name, (first.lookup name).isSome = (second.lookup name).isSome) :
    first.length = second.length := by
  have perm : (first.map Prod.fst).Perm (second.map Prod.fst) := by
    apply (List.perm_ext_iff_of_nodup distinct other).mpr
    intro name
    rw [← isSome_lookup_iff, ← isSome_lookup_iff, names]
  simpa using perm.length_eq

namespace JsonValue

variable {Number : Type}

/-- Equality as JSON defines it: the order of an object's fields does not matter. Numbers are
the same when they are read as the same. -/
inductive Same (reading : Number → Number) : JsonValue Number → JsonValue Number → Prop
  | null : Same reading .null .null
  | boolean (value : Bool) : Same reading (.boolean value) (.boolean value)
  | number {left right : Number} :
      reading left = reading right → Same reading (.number left) (.number right)
  | string (value : String) : Same reading (.string value) (.string value)
  | array {first second : List (JsonValue Number)} :
      first.length = second.length →
      (∀ (index : Nat) (left right : JsonValue Number), first[index]? = some left →
        second[index]? = some right → Same reading left right) →
      Same reading (.array first) (.array second)
  | object {first second : List (String × JsonValue Number)} :
      (∀ name, (first.lookup name).isSome = (second.lookup name).isSome) →
      (∀ name left right, first.lookup name = some left → second.lookup name = some right →
        Same reading left right) →
      Same reading (.object first) (.object second)

variable {reading : Number → Number}

theorem Same.read {left right : JsonValue Number} (same : Same id left right) :
    Same reading left right := by
  induction same with
  | null => exact .null
  | boolean value => exact .boolean value
  | number equal => exact .number (congrArg reading equal)
  | string value => exact .string value
  | array length _ each => exact .array length each
  | object names _ each => exact .object names each

theorem same_array_iff {first second : List (JsonValue Number)} :
    Same reading (.array first) (.array second) ↔
      first.length = second.length ∧ ∀ (index : Nat) (left right : JsonValue Number),
        first[index]? = some left → second[index]? = some right → Same reading left right := by
  constructor
  · intro same
    cases same with
    | array length each => exact ⟨length, each⟩
  · intro ⟨length, each⟩
    exact .array length each

variable {first second : List (String × JsonValue Number)}

theorem same_object_iff :
    Same reading (.object first) (.object second) ↔
      (∀ name, (first.lookup name).isSome = (second.lookup name).isSome) ∧
      ∀ name left right, first.lookup name = some left → second.lookup name = some right →
        Same reading left right := by
  constructor
  · intro same
    cases same with
    | object names each => exact ⟨names, each⟩
  · intro ⟨names, each⟩
    exact .object names each

variable [DecidableEq Number]

mutual
def deepEqual (reading : Number → Number) : JsonValue Number → JsonValue Number → Bool
  | .null, .null => true
  | .boolean left, .boolean right => left == right
  | .number left, .number right => reading left == reading right
  | .string left, .string right => left == right
  | .array first, .array second => elementsEqual reading first second
  | .object first, .object second =>
    first.length == second.length && fieldsEqual reading first second
  | _, _ => false

def elementsEqual (reading : Number → Number) :
    List (JsonValue Number) → List (JsonValue Number) → Bool
  | [], [] => true
  | left :: first, right :: second =>
    left.deepEqual reading right && elementsEqual reading first second
  | _, _ => false

def fieldsEqual (reading : Number → Number) :
    List (String × JsonValue Number) → List (String × JsonValue Number) → Bool
  | [], _ => true
  | (name, left) :: first, second =>
    (match second.lookup name with
      | some right => left.deepEqual reading right
      | none => false) && fieldsEqual reading first second
end

theorem elementsEqual_iff {first second : List (JsonValue Number)} :
    elementsEqual reading first second = true ↔
      first.length = second.length ∧ ∀ (index : Nat) (left right : JsonValue Number),
        first[index]? = some left → second[index]? = some right →
          left.deepEqual reading right = true := by
  induction first generalizing second with
  | nil => cases second <;> simp [elementsEqual]
  | cons left first induction =>
    cases second with
    | nil => simp [elementsEqual]
    | cons right second =>
      rw [elementsEqual, Bool.and_eq_true, induction]
      constructor
      · intro ⟨same, length, rest⟩
        refine ⟨congrArg (· + 1) length, ?_⟩
        intro index
        cases index with
        | zero => simpa using same
        | succ index => simpa using rest index
      · intro ⟨length, all⟩
        exact ⟨all 0 left right rfl rfl, Nat.succ.inj length,
          fun index => by simpa using all (index + 1)⟩

theorem fieldsEqual_iff :
    fieldsEqual reading first second = true ↔ ∀ name left, (name, left) ∈ first →
      ∃ right, second.lookup name = some right ∧ left.deepEqual reading right = true := by
  induction first with
  | nil => simp [fieldsEqual]
  | cons field first induction =>
    rcases field with ⟨name, left⟩
    rw [fieldsEqual, Bool.and_eq_true, induction]
    cases found : second.lookup name with
    | none =>
      refine iff_of_false (fun both => Bool.false_ne_true both.1) fun all => ?_
      rcases all name left List.mem_cons_self with ⟨right, present, _⟩
      rw [found] at present
      cases present
    | some right =>
      constructor
      · rintro ⟨same, rest⟩ other value member
        rcases List.mem_cons.mp member with equal | later
        · cases equal
          exact ⟨right, found, same⟩
        · exact rest other value later
      · intro all
        rcases all name left List.mem_cons_self with ⟨other, present, same⟩
        rw [found] at present
        cases present
        exact ⟨same, fun name value later => all name value (List.mem_cons_of_mem _ later)⟩

theorem deepEqual_object_iff (distinct : (first.map Prod.fst).Nodup)
    (other : (second.map Prod.fst).Nodup)
    (agree : ∀ name left right, first.lookup name = some left →
      second.lookup name = some right →
        (left.deepEqual reading right = true ↔ Same reading left right)) :
    (object first).deepEqual reading (object second) = true ↔
      Same reading (object first) (object second) := by
  rw [deepEqual, Bool.and_eq_true, beq_iff_eq, fieldsEqual_iff, same_object_iff]
  constructor
  · intro ⟨length, found⟩
    refine ⟨isSome_lookup_eq distinct length ?_, ?_⟩
    · intro name left here
      rcases found name left here with ⟨right, there, _⟩
      exact ⟨right, there⟩
    · intro name left right here there
      rcases found name left (mem_of_lookup here) with ⟨partner, found, same⟩
      cases there.symm.trans found
      exact (agree name left right here there).mp same
  · intro ⟨present, same⟩
    refine ⟨length_eq_of_names distinct other present, ?_⟩
    intro name left member
    have here := lookup_of_mem distinct member
    have found : (second.lookup name).isSome = true := by
      rw [← present name, here]
      rfl
    rcases Option.isSome_iff_exists.mp found with ⟨right, there⟩
    exact ⟨right, there, (agree name left right here there).mpr (same name left right here there)⟩

theorem deepEqual_iff_same {first second : JsonValue Number}
    (distinct : first.distinct = true) (other : second.distinct = true) :
    first.deepEqual reading second = true ↔ Same reading first second := by
  induction first using inside_induction generalizing second with
  | step first induction =>
    cases first with
    | null =>
      cases second with
      | null => exact iff_of_true (by simp [deepEqual]) .null
      | _ => exact iff_of_false (by simp [deepEqual]) (by rintro ⟨⟩)
    | boolean value =>
      cases second with
      | boolean right =>
        rw [deepEqual, beq_iff_eq]
        exact ⟨fun equal => equal ▸ .boolean value, by rintro ⟨⟩; rfl⟩
      | _ => exact iff_of_false (by simp [deepEqual]) (by rintro ⟨⟩)
    | number value =>
      cases second with
      | number right =>
        rw [deepEqual, beq_iff_eq]
        exact ⟨.number, by rintro ⟨⟩; assumption⟩
      | _ => exact iff_of_false (by simp [deepEqual]) (by rintro ⟨⟩)
    | string value =>
      cases second with
      | string right =>
        rw [deepEqual, beq_iff_eq]
        exact ⟨fun equal => equal ▸ .string value, by rintro ⟨⟩; rfl⟩
      | _ => exact iff_of_false (by simp [deepEqual]) (by rintro ⟨⟩)
    | array elements =>
      cases second with
      | array others =>
        rw [deepEqual, elementsEqual_iff, same_array_iff]
        apply and_congr_right
        intro _
        apply forall₃_congr
        intro index left right
        apply forall₂_congr
        intro here there
        have inside : left.Inside (array elements) := List.mem_of_getElem? here
        have within : right.Inside (array others) := List.mem_of_getElem? there
        exact induction left inside (inside.distinct distinct) (within.distinct other)
      | _ => exact iff_of_false (by simp [deepEqual]) (by rintro ⟨⟩)
    | object fields =>
      cases second with
      | object others =>
        apply deepEqual_object_iff (nodup_of_distinct distinct) (nodup_of_distinct other)
        intro name left right here there
        have inside : left.Inside (object fields) := ⟨name, mem_of_lookup here⟩
        have within : right.Inside (object others) := ⟨name, mem_of_lookup there⟩
        exact induction left inside (inside.distinct distinct) (within.distinct other)
      | _ => exact iff_of_false (by simp [deepEqual]) (by rintro ⟨⟩)

end JsonValue

end Parsec.Foundation
