import Mathlib

/-! # Delimited text

Cutting a list at a delimiter: at its first occurrence, and at all of them. -/

namespace Parsec.Foundation

variable {α : Type*} [DecidableEq α] {delimiter : α}

variable {before : List α}

theorem span_delimited (absent : delimiter ∉ before) (after : List α) :
    (before ++ delimiter :: after).span (· ≠ delimiter) = (before, delimiter :: after) := by
  have inside : ∀ value ∈ before, decide (value ≠ delimiter) = true := by
    intro value member
    exact decide_eq_true fun equal => absent (equal ▸ member)
  rw [List.span_eq_takeWhile_dropWhile, List.takeWhile_append_of_pos inside,
    List.dropWhile_append_of_pos inside]
  simp

theorem span_undelimited {text : List α} (absent : delimiter ∉ text) :
    text.span (· ≠ delimiter) = (text, []) := by
  have inside : ∀ value ∈ text, decide (value ≠ delimiter) = true := by
    intro value member
    exact decide_eq_true fun equal => absent (equal ▸ member)
  rw [List.span_eq_takeWhile_dropWhile, List.takeWhile_eq_self_iff.mpr inside,
    List.dropWhile_eq_nil_iff.mpr inside]

theorem delimited_cases (delimiter : α) (text : List α) :
    delimiter ∉ text ∨
      ∃ before after, text = before ++ delimiter :: after ∧ delimiter ∉ before := by
  by_cases member : delimiter ∈ text
  · obtain ⟨before, after, split, absent⟩ := List.eq_append_cons_of_mem member
    exact .inr ⟨before, after, split, absent⟩
  · exact .inl member

section

variable (absent : delimiter ∉ before)
include absent

theorem delimited_inj {after before' after' : List α} (absent' : delimiter ∉ before')
    (same : before ++ delimiter :: after = before' ++ delimiter :: after') :
    before = before' ∧ after = after' := by
  have cuts := congrArg (List.span (· ≠ delimiter)) same
  rw [span_delimited absent, span_delimited absent'] at cuts
  simpa using cuts

theorem delimited_unique {after before' after' : List α} (absentAfter : delimiter ∉ after)
    (same : before ++ delimiter :: after = before' ++ delimiter :: after') :
    before = before' ∧ after = after' := by
  have once := congrArg (List.count delimiter) same
  simp only [List.count_append, List.count_cons_self, List.count_eq_zero_of_not_mem absent,
    List.count_eq_zero_of_not_mem absentAfter] at once
  have absent' : delimiter ∉ before' := List.count_eq_zero.mp (by omega)
  exact delimited_inj absent absent' same

theorem idxOf?_delimited (after : List α) :
    (before ++ delimiter :: after).idxOf? delimiter = some before.length := by
  induction before with
  | nil => simp [List.idxOf?_cons]
  | cons value before induction =>
    have different : value ≠ delimiter := fun equal => absent (by simp [equal])
    have rest := induction fun member => absent (List.mem_cons_of_mem value member)
    simp [List.idxOf?_cons, different, rest]

end

omit [DecidableEq α] in
theorem mem_of_mem_intercalate {value : α} {separator : List α} {parts : List (List α)}
    (member : value ∈ separator.intercalate parts) :
    value ∈ separator ∨ ∃ part ∈ parts, value ∈ part := by
  induction parts with
  | nil => simp at member
  | cons part parts induction =>
    cases parts with
    | nil => exact .inr ⟨part, by simp, by simpa using member⟩
    | cons next parts =>
      rw [List.intercalate_cons_cons, List.mem_append, List.mem_append] at member
      rcases member with (inPart | inSeparator) | later
      · exact .inr ⟨part, by simp, inPart⟩
      · exact .inl inSeparator
      · rcases induction later with inSeparator | ⟨other, listed, inOther⟩
        · exact .inl inSeparator
        · exact .inr ⟨other, List.mem_cons_of_mem part listed, inOther⟩

omit [DecidableEq α] in
theorem flatMap_intercalate {β : Type*} (encode : α → List β) (separator : List α)
    (parts : List (List α)) :
    (separator.intercalate parts).flatMap encode =
      (separator.flatMap encode).intercalate (parts.map (List.flatMap encode)) := by
  induction parts with
  | nil => simp
  | cons part parts induction =>
    cases parts with
    | nil => simp
    | cons next parts =>
      rw [List.intercalate_cons_cons, List.flatMap_append, List.flatMap_append, induction]
      simp [List.intercalate_cons_cons]

theorem splitOn_append_of_not_mem {start : List α} (absent : delimiter ∉ start)
    (text : List α) :
    (start ++ text).splitOn delimiter = (text.splitOn delimiter).modifyHead (start ++ ·) := by
  obtain ⟨first, rest, parts⟩ :=
    List.exists_cons_of_ne_nil (List.splitOn_ne_nil delimiter text)
  induction start with
  | nil => simp [parts]
  | cons value start induction =>
    have different : value ≠ delimiter := fun equal => absent (by simp [equal])
    have later := induction fun member => absent (List.mem_cons_of_mem value member)
    rw [List.cons_append, List.splitOn_cons_eq_if_modifyHead, later, parts]
    simp [different]

theorem not_mem_of_mem_splitOn {text part : List α}
    (listed : part ∈ text.splitOn delimiter) : delimiter ∉ part := by
  induction text generalizing part with
  | nil =>
    rw [List.splitOn_nil, List.mem_singleton] at listed
    simp [listed]
  | cons value text induction =>
    cases parts : text.splitOn delimiter with
    | nil => exact absurd parts (List.splitOn_ne_nil delimiter text)
    | cons first rest =>
      rw [List.splitOn_cons_eq_if_modifyHead, parts] at listed
      by_cases delimits : value = delimiter
      · rw [if_pos (by simpa using delimits), List.mem_cons] at listed
        rcases listed with rfl | later
        · exact List.not_mem_nil
        · exact induction (parts ▸ later)
      · rw [if_neg (by simpa using delimits), List.modifyHead_cons, List.mem_cons] at listed
        rcases listed with rfl | later
        · intro member
          rcases List.mem_cons.mp member with same | inFirst
          · exact delimits same.symm
          · exact induction (by simp [parts]) inFirst
        · exact induction (by simp [parts, later])

omit [DecidableEq α] in
theorem splitOnP_intercalate {isMark : α → Bool} {separator : α}
    (marks : isMark separator = true) {parts : List (List α)} (nonempty : parts ≠ [])
    (unmarked : ∀ part ∈ parts, ∀ value ∈ part, isMark value = false) :
    ([separator].intercalate parts).splitOnP isMark = parts := by
  induction parts with
  | nil => exact absurd rfl nonempty
  | cons part parts induction =>
    have first := unmarked part (by simp)
    cases parts with
    | nil => simpa using List.splitOnP_eq_singleton first
    | cons next parts =>
      have later := induction (by simp) fun other listed =>
        unmarked other (List.mem_cons_of_mem part listed)
      rw [List.intercalate_cons_cons, List.append_assoc, List.singleton_append,
        List.splitOnP_append_cons_of_forall_mem first separator marks, later]

theorem splitOn_flatMap {β : Type*} [DecidableEq β] {mark : β} {encode : α → List β}
    (marked : encode delimiter = [mark])
    (unmarked : ∀ value, value ≠ delimiter → mark ∉ encode value) (text : List α) :
    (text.flatMap encode).splitOn mark = (text.splitOn delimiter).map (List.flatMap encode) := by
  induction text with
  | nil => simp
  | cons value text induction =>
    rw [List.flatMap_cons, List.splitOn_cons_eq_if_modifyHead]
    by_cases equal : value = delimiter
    · rw [equal, marked, List.singleton_append, List.splitOn_cons_eq_if_modifyHead]
      simp [induction]
    · obtain ⟨first, rest, parts⟩ :=
        List.exists_cons_of_ne_nil (List.splitOn_ne_nil delimiter text)
      rw [splitOn_append_of_not_mem (unmarked value equal), induction]
      simp [equal, parts]

end Parsec.Foundation
