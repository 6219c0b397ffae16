import Mathlib

/-! # Records under keys

Passes over all records of an association list, seen through the lookup of one key. -/

namespace Parsec.Foundation

abbrev Records (Value : Type*) := AList fun _ : String => Value

abbrev Record (Value : Type*) := Sigma fun _ : String => Value

namespace Records

variable {Value Item : Type*} {records : Records Value} {key : String} {value : Value}

theorem mem_entries : ⟨key, value⟩ ∈ records.entries ↔ records.lookup key = some value :=
  AList.mem_lookup_iff.symm

theorem lookup_reinsert (found : records.lookup key = some value) (other : String) :
    (records.insert key value).lookup other = records.lookup other := by
  by_cases same : other = key
  · rw [same, AList.lookup_insert, found]
  · rw [AList.lookup_insert_ne same]

variable {found : Value} {other : String}

theorem of_lookup_insert (stored : (records.insert key value).lookup other = some found) :
    other = key ∧ found = value ∨ other ≠ key ∧ records.lookup other = some found := by
  rcases eq_or_ne other key with rfl | different
  · rw [AList.lookup_insert] at stored
    exact .inl ⟨rfl, Option.some.inj stored.symm⟩
  · rw [AList.lookup_insert_ne different] at stored
    exact .inr ⟨different, stored⟩

theorem forall_lookup_insert {holds : String → Value → Prop}
    (kept : ∀ other found, records.lookup other = some found → holds other found)
    (own : holds key value) (other : String) (found : Value)
    (stored : (records.insert key value).lookup other = some found) : holds other found := by
  rcases of_lookup_insert stored with ⟨rfl, rfl⟩ | ⟨_, stored⟩
  · exact own
  · exact kept other found stored

theorem of_lookup_erase (stored : (records.erase key).lookup other = some found) :
    other ≠ key ∧ records.lookup other = some found := by
  rcases eq_or_ne other key with rfl | different
  · rw [AList.lookup_erase] at stored
    cases stored
  · rw [AList.lookup_erase_ne different] at stored
    exact ⟨different, stored⟩

variable (report : Value → Option Item)

theorem mem_report {item : Item} :
    item ∈ records.entries.filterMap (fun entry => report entry.2) ↔
      ∃ key value, records.lookup key = some value ∧ report value = some item := by
  rw [List.mem_filterMap]
  constructor
  · rintro ⟨⟨key, value⟩, member, reported⟩
    exact ⟨key, value, mem_entries.mp member, reported⟩
  · rintro ⟨key, value, found, reported⟩
    exact ⟨⟨key, value⟩, mem_entries.mpr found, reported⟩

def replaceRecord (replace : Value → Option Value) (entry : Record Value) : Option (Record Value) :=
  (replace entry.2).map fun value => ⟨entry.1, value⟩

variable (replace : Value → Option Value)

theorem keys_replaceRecord (entries : List (Record Value)) :
    (entries.filterMap (replaceRecord replace)).keys.Sublist entries.keys := by
  induction entries with
  | nil => exact .slnil
  | cons entry entries induction =>
    cases replaced : replace entry.2 with
    | none => simpa [replaceRecord, List.filterMap_cons, replaced] using induction.cons entry.1
    | some value =>
      simpa [replaceRecord, List.filterMap_cons, replaced] using induction.cons_cons entry.1

variable {entries : List (Record Value)}

theorem dlookup_replaceRecord (nodup : entries.NodupKeys) (key : String) :
    (entries.filterMap (replaceRecord replace)).dlookup key =
      (entries.dlookup key).bind replace := by
  induction entries with
  | nil => rfl
  | cons entry entries induction =>
    obtain ⟨first, value⟩ := entry
    obtain ⟨fresh, rest⟩ := List.nodupKeys_cons.mp nodup
    by_cases same : key = first
    · subst same
      have absent : (entries.filterMap (replaceRecord replace)).dlookup key = none := by
        rw [List.dlookup_eq_none]
        intro member
        exact fresh ((keys_replaceRecord replace entries).subset member)
      cases replaced : replace value with
      | none => simp [replaceRecord, replaced, absent]
      | some changed => simp [replaceRecord, replaced]
    · have later := induction rest
      cases replaced : replace value with
      | none | some changed => simp [replaceRecord, replaced, later, same]

def replaceAll (records : Records Value) : Records Value where
  entries := records.entries.filterMap (replaceRecord replace)
  nodupKeys := List.Nodup.sublist (keys_replaceRecord replace records.entries) records.nodupKeys

theorem lookup_replaceAll (records : Records Value) (key : String) :
    (replaceAll replace records).lookup key = (records.lookup key).bind replace :=
  dlookup_replaceRecord replace records.nodupKeys key

theorem filter_report (nodup : entries.NodupKeys) (chosen : Item → Bool)
    (named : ∀ entry ∈ entries, ∀ item, report entry.2 = some item →
      chosen item = decide (entry.1 = key)) :
    (entries.filterMap fun entry => report entry.2).filter chosen =
      ((entries.dlookup key).bind report).toList := by
  induction entries with
  | nil => rfl
  | cons entry entries induction =>
    obtain ⟨first, value⟩ := entry
    obtain ⟨fresh, rest⟩ := List.nodupKeys_cons.mp nodup
    have later := induction rest fun entry member =>
      named entry (List.mem_cons_of_mem _ member)
    have here := named ⟨first, value⟩ List.mem_cons_self
    by_cases same : first = key
    · subst same
      have absent : entries.dlookup first = none := List.dlookup_eq_none.mpr fresh
      cases reported : report value with
      | none => simp [reported, later, absent]
      | some item => simp [reported, later, absent, here item reported]
    · have other : key ≠ first := fun equal => same equal.symm
      cases reported : report value with
      | none => simp [reported, later, other]
      | some item => simp [reported, later, other, here item reported, same]

end Records

end Parsec.Foundation
