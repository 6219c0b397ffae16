import Mathlib

/-! # Numbers in base ten

The text of a number, reading it back, and cutting off trailing zeros. -/

namespace Parsec.Foundation

def spell (number : Int) : List Char := (toString number).toList

def digitsNumber (digits : List Char) : Option Nat :=
  if digits ≠ [] ∧ digits.all Char.isDigit then some (Nat.ofDigitChars 10 digits 0) else none

def readNumber : List Char → Option Int
  | '-' :: digits => (digitsNumber digits).map fun size : Nat => -(size : Int)
  | digits => (digitsNumber digits).map Int.ofNat

variable (number : Nat)

theorem digitsNumber_toDigits : digitsNumber (Nat.toDigits 10 number) = some number := by
  have digits : (Nat.toDigits 10 number).all Char.isDigit = true := by
    rw [List.all_eq_true]
    intro char member
    exact Nat.isDigit_of_mem_toDigits (by decide) (by decide) member
  rw [digitsNumber, if_pos ⟨Nat.toDigits_ne_nil, digits⟩, Nat.ofDigitChars_ten_toDigits]

theorem readNumber_toDigits : readNumber (Nat.toDigits 10 number) = some (number : Int) := by
  have read := digitsNumber_toDigits number
  have nonempty : Nat.toDigits 10 number ≠ [] := Nat.toDigits_ne_nil
  obtain ⟨first, rest, digits⟩ := List.exists_cons_of_ne_nil nonempty
  have isDigit : first.isDigit := by
    have member : first ∈ Nat.toDigits 10 number := by simp [digits]
    exact Nat.isDigit_of_mem_toDigits (by decide) (by decide) member
  rw [digits] at read ⊢
  unfold readNumber
  split
  · next minus =>
      -- a digit is no sign
      cases minus
      exact absurd isDigit (by decide)
  · rw [read]
    rfl

theorem spell_natCast : spell (number : Int) = Nat.toDigits 10 number := by
  exact Nat.toList_repr

theorem spell_neg {number : Int} (negative : number < 0) :
    spell number = '-' :: Nat.toDigits 10 number.natAbs := by
  have size : (-number).toNat = number.natAbs := by omega
  rw [spell, Int.toString_eq_repr, Int.repr_eq_if, if_neg (by omega), String.toList_append,
    Nat.toList_repr, size]
  rfl

@[simp] theorem readNumber_spell (number : Int) : readNumber (spell number) = some number := by
  by_cases negative : number < 0
  · have size : -(number.natAbs : Int) = number := by omega
    rw [spell_neg negative, readNumber, digitsNumber_toDigits, Option.map_some, size]
  · obtain ⟨size, rfl⟩ := Int.eq_ofNat_of_zero_le (not_lt.mp negative)
    rw [spell_natCast, readNumber_toDigits]

theorem toDigits_mul_pow (positive : 0 < number) (zeros : Nat) :
    Nat.toDigits 10 (number * 10 ^ zeros) = Nat.toDigits 10 number ++ List.replicate zeros '0' := by
  induction zeros with
  | zero => simp
  | succ zeros induction =>
    have larger : 0 < number * 10 ^ zeros := by positivity
    have next := Nat.toDigits_append_toDigits (b := 10) (d := 0) (by decide) larger (by decide)
    rw [pow_succ, ← mul_assoc, mul_comm _ 10, ← Nat.add_zero (10 * _), ← next, induction,
      List.append_assoc, List.replicate_succ', Nat.toDigits_zero]

variable {number : Nat}

theorem toDigits_split {places : Nat} (large : 10 ^ places ≤ number) :
    ∃ tail, tail.length = places ∧
      Nat.toDigits 10 number = Nat.toDigits 10 (number / 10 ^ places) ++ tail := by
  induction places with
  | zero => exact ⟨[], rfl, by simp⟩
  | succ places induction =>
    have power : 10 ^ (places + 1) = 10 ^ places * 10 := pow_succ 10 places
    have positive : 0 < 10 ^ places := by positivity
    rcases induction (by omega) with ⟨tail, length, digits⟩
    have ten : 10 ≤ number / 10 ^ places := (Nat.le_div_iff_mul_le positive).mpr (by omega)
    have last := Nat.toDigits_append_toDigits (b := 10) (n := number / 10 ^ places / 10)
      (d := number / 10 ^ places % 10) (by decide) (by omega) (by omega)
    rw [Nat.div_add_mod, Nat.div_div_eq_div_mul, ← power] at last
    refine ⟨Nat.toDigits 10 (number / 10 ^ places % 10) ++ tail, ?_, ?_⟩
    · rw [Nat.toDigits_of_lt_base (by omega), List.length_append, length]
      simp [Nat.add_comm]
    · rw [digits, ← last, List.append_assoc]

/-- Cutting places off the text of a number divides it and drops the rest. Of a number with no
more places than that, no number is left. -/
theorem tdiv_of_readNumber_take {number value : Int} {places : Nat} (positive : 0 < places)
    (read : readNumber ((spell number).take ((spell number).length - places)) = some value) :
    10 ^ places ≤ number.natAbs ∧ value = number.tdiv (10 ^ places) := by
  by_cases negative : number < 0
  · rw [spell_neg negative] at read
    by_cases large : 10 ^ places ≤ number.natAbs
    · rcases toDigits_split large with ⟨tail, length, digits⟩
      have cut : ('-' :: Nat.toDigits 10 number.natAbs).length - places =
          ('-' :: Nat.toDigits 10 (number.natAbs / 10 ^ places)).length := by
        simp only [digits, List.length_cons, List.length_append, length]
        omega
      rw [cut, digits, ← List.cons_append, List.take_left, readNumber,
        digitsNumber_toDigits] at read
      have size : number = -(number.natAbs : Int) := by omega
      refine ⟨large, ?_⟩
      rw [← Option.some.inj read, size, Int.neg_tdiv]
      simp [Int.tdiv_eq_ediv_of_nonneg]
    · have short := Nat.toDigits_length 10 number.natAbs places positive (not_le.mp large)
      -- the sign is left or nothing at all
      have few : ('-' :: Nat.toDigits 10 number.natAbs).length - places ≤ 1 := by
        rw [List.length_cons]
        omega
      rcases Nat.le_one_iff_eq_zero_or_eq_one.mp few with none | one
      · rw [none] at read
        cases read
      · rw [one] at read
        cases read
  · rcases Int.eq_ofNat_of_zero_le (not_lt.mp negative) with ⟨size, rfl⟩
    rw [spell_natCast] at read
    by_cases large : 10 ^ places ≤ size
    · rcases toDigits_split large with ⟨tail, length, digits⟩
      rw [digits, List.length_append, length, Nat.add_sub_cancel, List.take_left,
        readNumber_toDigits] at read
      refine ⟨large, ?_⟩
      rw [← Option.some.inj read]
      simp [Int.tdiv_eq_ediv_of_nonneg]
    · have short := Nat.toDigits_length 10 size places positive (not_le.mp large)
      rw [Nat.sub_eq_zero_of_le short] at read
      cases read

end Parsec.Foundation
