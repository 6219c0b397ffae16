import Parsec.Foundation.Delimited

/-! # UTF-16

The code units of a text, one for a character of the basic plane and a surrogate pair for
any other. -/

namespace Parsec.Foundation

abbrev CodeUnit := UInt16

def codeUnits (char : Char) : List CodeUnit :=
  if char.toNat < 0x10000 then [UInt16.ofNat char.toNat]
  else
    [UInt16.ofNat (0xd800 + (char.toNat - 0x10000) / 0x400),
      UInt16.ofNat (0xdc00 + (char.toNat - 0x10000) % 0x400)]

def utf16 (text : String) : List CodeUnit := text.toList.flatMap codeUnits

theorem scalar (char : Char) :
    char.toNat < 0xd800 ∨ 0xdfff < char.toNat ∧ char.toNat < 0x110000 := by
  rcases char.valid with low | high
  · exact .inl low
  · exact .inr high

variable {char : Char}

theorem codeUnits_basic (basic : char.toNat < 0x10000) :
    codeUnits char = [UInt16.ofNat char.toNat] := if_pos basic

theorem codeUnits_pair (beyond : ¬ char.toNat < 0x10000) :
    codeUnits char =
      [UInt16.ofNat (0xd800 + (char.toNat - 0x10000) / 0x400),
        UInt16.ofNat (0xdc00 + (char.toNat - 0x10000) % 0x400)] := if_neg beyond

theorem toNat_ofNat {number : Nat} (small : number < 0x10000) :
    (UInt16.ofNat number).toNat = number := by
  simpa using Nat.mod_eq_of_lt small

theorem ofNat_inj {left right : Nat} (leftSmall : left < 0x10000) (rightSmall : right < 0x10000)
    (same : UInt16.ofNat left = UInt16.ofNat right) : left = right := by
  rw [← toNat_ofNat leftSmall, same, toNat_ofNat rightSmall]

theorem mem_codeUnits {unit : CodeUnit} (low : unit.toNat < 0xd800) :
    unit ∈ codeUnits char ↔ char.toNat = unit.toNat := by
  have valid := scalar char
  by_cases basic : char.toNat < 0x10000
  · rw [codeUnits_basic basic, List.mem_singleton, ← UInt16.toNat_inj, toNat_ofNat basic]
    exact eq_comm
  · rw [codeUnits_pair basic]
    have large : ∀ number, 0xd800 ≤ number → number < 0x10000 → unit ≠ UInt16.ofNat number := by
      intro number atLeast small equal
      rw [equal, toNat_ofNat small] at low
      omega
    have high := large (0xd800 + (char.toNat - 0x10000) / 0x400) (by omega) (by omega)
    have trailing := large (0xdc00 + (char.toNat - 0x10000) % 0x400) (by omega) (by omega)
    simp only [List.mem_cons, List.not_mem_nil, high, trailing, or_false, false_iff]
    omega

theorem codeUnits_ne_nil (char : Char) : codeUnits char ≠ [] := by
  unfold codeUnits
  split <;> simp

theorem codeUnits_append_inj {left right : Char} {leftRest rightRest : List CodeUnit}
    (same : codeUnits left ++ leftRest = codeUnits right ++ rightRest) :
    left = right ∧ leftRest = rightRest := by
  have leftValid := scalar left
  have rightValid := scalar right
  have equal_of_toNat : left.toNat = right.toNat → left = right := Char.toNat_inj.mp
  by_cases leftBasic : left.toNat < 0x10000 <;> by_cases rightBasic : right.toNat < 0x10000
  · rw [codeUnits_basic leftBasic, codeUnits_basic rightBasic] at same
    simp only [List.singleton_append, List.cons.injEq] at same
    have codes := ofNat_inj leftBasic rightBasic same.1
    exact ⟨equal_of_toNat codes, same.2⟩
  · rw [codeUnits_basic leftBasic, codeUnits_pair rightBasic] at same
    simp only [List.cons_append, List.cons.injEq] at same
    have codes := ofNat_inj leftBasic (by omega) same.1
    omega
  · rw [codeUnits_pair leftBasic, codeUnits_basic rightBasic] at same
    simp only [List.cons_append, List.cons.injEq] at same
    have codes := ofNat_inj (by omega) rightBasic same.1
    omega
  · rw [codeUnits_pair leftBasic, codeUnits_pair rightBasic] at same
    simp only [List.cons_append, List.nil_append, List.cons.injEq] at same
    have high := ofNat_inj (by omega) (by omega) same.1
    have low := ofNat_inj (by omega) (by omega) same.2.1
    exact ⟨equal_of_toNat (by omega), same.2.2⟩

theorem utf16_injective : Function.Injective utf16 := by
  intro left right same
  apply String.toList_inj.mp
  unfold utf16 at same
  generalize left.toList = left at same
  generalize right.toList = right at same
  induction left generalizing right with
  | nil =>
    cases right with
    | nil => rfl
    | cons char right => simp [codeUnits_ne_nil] at same
  | cons char left induction =>
    cases right with
    | nil => simp [codeUnits_ne_nil] at same
    | cons other right =>
      obtain ⟨equal, rest⟩ := codeUnits_append_inj same
      rw [equal, induction right rest]

/-! ## Marks

A mark is a character whose one unit lies below the surrogates. -/

section Marks

variable {mark : Char} (low : mark.toNat < 0xd800)

include low

theorem codeUnits_mark : codeUnits mark = [UInt16.ofNat mark.toNat] :=
  codeUnits_basic (by omega)

theorem unmarked {char : Char} (different : char ≠ mark) :
    UInt16.ofNat mark.toNat ∉ codeUnits char := by
  have unit : (UInt16.ofNat mark.toNat).toNat = mark.toNat := toNat_ofNat (by omega)
  rw [mem_codeUnits (by omega), unit]
  intro same
  exact different (Char.toNat_inj.mp same)

theorem mem_utf16 {text : List Char} :
    UInt16.ofNat mark.toNat ∈ text.flatMap codeUnits ↔ mark ∈ text := by
  rw [List.mem_flatMap]
  constructor
  · rintro ⟨char, listed, member⟩
    by_cases same : char = mark
    · exact same ▸ listed
    · exact absurd member (unmarked low same)
  · intro listed
    exact ⟨mark, listed, by rw [codeUnits_mark low]; simp⟩

theorem splitOn_utf16 (text : List Char) :
    (text.flatMap codeUnits).splitOn (UInt16.ofNat mark.toNat) =
      (text.splitOn mark).map (List.flatMap codeUnits) :=
  splitOn_flatMap (codeUnits_mark low) (fun _ different => unmarked low different) text

end Marks

end Parsec.Foundation
