import Mathlib

/-! # Text encodings of byte strings

Hexadecimal and unpadded URL-safe base 64, as finite lists of bytes and
characters. -/

namespace Parsec.Foundation

abbrev Bytes := List UInt8

def hexDigit (value : Nat) : Char :=
  if value < 10 then Char.ofNat (48 + value) else Char.ofNat (87 + value)

def hexValue (digit : Char) : Option Nat :=
  if '0' ≤ digit ∧ digit ≤ '9' then some (digit.toNat - 48)
  else if 'a' ≤ digit ∧ digit ≤ 'f' then some (digit.toNat - 87)
  else if 'A' ≤ digit ∧ digit ≤ 'F' then some (digit.toNat - 55)
  else none

def hexDigits (bytes : Bytes) : List Char :=
  bytes.flatMap fun byte => [hexDigit (byte.toNat / 16), hexDigit (byte.toNat % 16)]

def hexEncode (bytes : Bytes) : String := String.ofList (hexDigits bytes)

def hexBytes : List Char → Option Bytes
  | [] => some []
  | [_] => none
  | high :: low :: rest => do
      let high ← hexValue high
      let low ← hexValue low
      let rest ← hexBytes rest
      return UInt8.ofNat (16 * high + low) :: rest

def hexDecode (text : String) : Option Bytes := hexBytes text.toList

theorem hexValue_hexDigit : ∀ value < 16, hexValue (hexDigit value) = some value := by
  decide

variable (bytes : Bytes)

theorem hexBytes_hexDigits : hexBytes (hexDigits bytes) = some bytes := by
  induction bytes with
  | nil => rfl
  | cons byte rest induction =>
    have bound := byte.toNat_lt
    have high := hexValue_hexDigit (byte.toNat / 16) (by omega)
    have low := hexValue_hexDigit (byte.toNat % 16) (by omega)
    have joined : 16 * (byte.toNat / 16) + byte.toNat % 16 = byte.toNat := by omega
    change hexBytes (hexDigit _ :: hexDigit _ :: hexDigits rest) = _
    simp only [hexBytes, high, low, induction, Option.bind_eq_bind, Option.bind_some,
      joined, UInt8.ofNat_toNat]
    rfl

theorem hexDecode_hexEncode : hexDecode (hexEncode bytes) = some bytes := by
  simp [hexDecode, hexEncode, hexBytes_hexDigits]

theorem hexEncode_length : (hexEncode bytes).length = 2 * bytes.length := by
  simp only [hexEncode, hexDigits, String.length_ofList]
  induction bytes with
  | nil => rfl
  | cons byte rest induction =>
    simp only [List.flatMap_cons, List.length_append, List.length_cons, List.length_nil, induction]
    omega

def base64Digit (value : Nat) : Char :=
  if value < 26 then Char.ofNat (65 + value)
  else if value < 52 then Char.ofNat (71 + value)
  else if value < 62 then Char.ofNat (value - 4)
  else if value = 62 then '-'
  else '_'

def base64Digits : Bytes → List Char
  | [] => []
  | [first] =>
    [base64Digit (first.toNat / 4), base64Digit (first.toNat % 4 * 16)]
  | [first, second] =>
    [base64Digit (first.toNat / 4),
      base64Digit (first.toNat % 4 * 16 + second.toNat / 16),
      base64Digit (second.toNat % 16 * 4)]
  | first :: second :: third :: rest =>
    base64Digit (first.toNat / 4) ::
      base64Digit (first.toNat % 4 * 16 + second.toNat / 16) ::
      base64Digit (second.toNat % 16 * 4 + third.toNat / 64) ::
      base64Digit (third.toNat % 64) :: base64Digits rest

def base64Encode (bytes : Bytes) : String := String.ofList (base64Digits bytes)

example : base64Encode [0xfb, 0xff, 0x41] = "-_9B" := by decide

theorem base64Digits_length : ∀ bytes : Bytes,
    (base64Digits bytes).length = (4 * bytes.length + 2) / 3
  | [] => rfl
  | [_] => by simp [base64Digits]
  | [_, _] => by simp [base64Digits]
  | _ :: _ :: _ :: rest => by
      simp only [base64Digits, List.length_cons, base64Digits_length rest]
      omega

theorem base64Encode_length : (base64Encode bytes).length = (4 * bytes.length + 2) / 3 := by
  rw [base64Encode, String.length_ofList, base64Digits_length]

abbrev Text := List Char

def base64Value (digit : Char) : Option Nat :=
  if 'A' ≤ digit ∧ digit ≤ 'Z' then some (digit.toNat - 65)
  else if 'a' ≤ digit ∧ digit ≤ 'z' then some (digit.toNat - 71)
  else if '0' ≤ digit ∧ digit ≤ '9' then some (digit.toNat + 4)
  else if digit = '-' then some 62
  else if digit = '_' then some 63
  else none

def base64Bytes : Text → Option Bytes
  | [] => some []
  | [_] => none
  | [first, second] => do
      let first ← base64Value first
      let second ← base64Value second
      return [UInt8.ofNat (first * 4 + second / 16)]
  | [first, second, third] => do
      let first ← base64Value first
      let second ← base64Value second
      let third ← base64Value third
      return [UInt8.ofNat (first * 4 + second / 16), UInt8.ofNat (second % 16 * 16 + third / 4)]
  | first :: second :: third :: fourth :: rest => do
      let first ← base64Value first
      let second ← base64Value second
      let third ← base64Value third
      let fourth ← base64Value fourth
      let rest ← base64Bytes rest
      return UInt8.ofNat (first * 4 + second / 16) ::
        UInt8.ofNat (second % 16 * 16 + third / 4) ::
        UInt8.ofNat (third % 4 * 64 + fourth) :: rest

def base64Decode (text : Text) : Option Bytes :=
  base64Bytes (text.filter fun digit => digit ≠ '\n' ∧ digit ≠ '\r')

theorem base64Value_base64Digit : ∀ value < 64, base64Value (base64Digit value) = some value := by
  decide

theorem base64Digit_plain (value : Nat) :
    base64Digit value ≠ '.' ∧ base64Digit value ≠ '\n' ∧ base64Digit value ≠ '\r' := by
  have small : ∀ value < 64, base64Digit value ≠ '.' ∧ base64Digit value ≠ '\n' ∧
      base64Digit value ≠ '\r' := by
    decide
  by_cases bound : value < 64
  · exact small value bound
  · have last : base64Digit value = '_' := by
      simp only [base64Digit]
      repeat rw [if_neg (by omega)]
    simp [last]

theorem base64Digits_plain :
    ∀ digit ∈ base64Digits bytes, digit ≠ '.' ∧ digit ≠ '\n' ∧ digit ≠ '\r' := by
  induction bytes using base64Digits.induct with
  | case1 => simp [base64Digits]
  | case2 first | case3 first second => simp [base64Digits, base64Digit_plain]
  | case4 first second third rest induction =>
    simp only [base64Digits, List.forall_mem_cons]
    exact ⟨base64Digit_plain _, base64Digit_plain _, base64Digit_plain _,
      base64Digit_plain _, induction⟩

theorem base64Bytes_base64Digits : base64Bytes (base64Digits bytes) = some bytes := by
  induction bytes using base64Digits.induct with
  | case1 => rfl
  | case2 first =>
    have bound := first.toNat_lt
    have joined : first.toNat / 4 * 4 + first.toNat % 4 * 16 / 16 = first.toNat := by omega
    simp (disch := omega) only [base64Digits, base64Bytes, base64Value_base64Digit,
      Option.bind_eq_bind, Option.bind_some, joined, UInt8.ofNat_toNat]
    rfl
  | case3 first second =>
    have firstBound := first.toNat_lt
    have secondBound := second.toNat_lt
    have joined : first.toNat / 4 * 4 + (first.toNat % 4 * 16 + second.toNat / 16) / 16 =
        first.toNat := by omega
    have joinedSecond : (first.toNat % 4 * 16 + second.toNat / 16) % 16 * 16 +
        second.toNat % 16 * 4 / 4 = second.toNat := by omega
    simp (disch := omega) only [base64Digits, base64Bytes, base64Value_base64Digit,
      Option.bind_eq_bind, Option.bind_some, joined, joinedSecond, UInt8.ofNat_toNat]
    rfl
  | case4 first second third rest induction =>
    have firstBound := first.toNat_lt
    have secondBound := second.toNat_lt
    have thirdBound := third.toNat_lt
    have joined : first.toNat / 4 * 4 + (first.toNat % 4 * 16 + second.toNat / 16) / 16 =
        first.toNat := by omega
    have joinedSecond : (first.toNat % 4 * 16 + second.toNat / 16) % 16 * 16 +
        (second.toNat % 16 * 4 + third.toNat / 64) / 4 = second.toNat := by omega
    have joinedThird : (second.toNat % 16 * 4 + third.toNat / 64) % 4 * 64 +
        third.toNat % 64 = third.toNat := by omega
    simp (disch := omega) only [base64Digits, base64Bytes, base64Value_base64Digit, induction,
      Option.bind_eq_bind, Option.bind_some, joined, joinedSecond, joinedThird,
      UInt8.ofNat_toNat]
    rfl

theorem base64Decode_base64Digits : base64Decode (base64Digits bytes) = some bytes := by
  have kept : (base64Digits bytes).filter (fun digit => digit ≠ '\n' ∧ digit ≠ '\r') =
      base64Digits bytes := by
    rw [List.filter_eq_self]
    intro digit member
    simpa using (base64Digits_plain bytes digit member).2
  rw [base64Decode, kept, base64Bytes_base64Digits]

def bigEndian : Nat → Nat → Bytes
  | 0, _ => []
  | width + 1, number => bigEndian width (number / 256) ++ [UInt8.ofNat (number % 256)]

def ofBigEndian (bytes : Bytes) : Nat :=
  bytes.foldl (fun number byte => number * 256 + byte.toNat) 0

theorem bigEndian_length (width number : Nat) : (bigEndian width number).length = width := by
  induction width generalizing number with
  | zero => rfl
  | succ width induction => simp [bigEndian, induction]

theorem ofBigEndian_bigEndian {width number : Nat} (fits : number < 256 ^ width) :
    ofBigEndian (bigEndian width number) = number := by
  induction width generalizing number with
  | zero =>
    have zero : number = 0 := by simpa using fits
    rw [zero]
    rfl
  | succ width induction =>
    have high : number / 256 < 256 ^ width := by exact Nat.div_lt_of_lt_mul (by omega)
    have low : (UInt8.ofNat (number % 256)).toNat = number % 256 := by simp
    have split : ofBigEndian (bigEndian (width + 1) number) =
        ofBigEndian (bigEndian width (number / 256)) * 256 + number % 256 := by
      simp only [ofBigEndian, bigEndian, List.foldl_append, List.foldl_cons, List.foldl_nil, low]
    rw [split, induction high]
    omega

example : ofBigEndian (bigEndian 4 65537) = 65537 := by decide

end Parsec.Foundation
