import Parsec.Auth.JWKS

/-! # The bytes of an ECDSA signature

The two numbers are converted without leading zeros and copied to the ends of their halves. -/

namespace Parsec.Auth

open Foundation

/-- `copy` into a part of `out` that is as long as what is copied. -/
def copyAt (out : Bytes) (start : Nat) (source : Bytes) : Bytes :=
  out.take start ++ source ++ out.drop (start + source.length)

/-- A number that is too long makes the start of its slice negative, and Go panics. -/
def encodeSignature (coordSize r s : Nat) : Option Bytes :=
  let rb := bigIntBytes r
  let sb := bigIntBytes s
  if rb.length ≤ coordSize ∧ sb.length ≤ 2 * coordSize then
    let out := copyAt (List.replicate (2 * coordSize) 0) (coordSize - rb.length) rb
    some (copyAt out (2 * coordSize - sb.length) sb)
  else none

def decodeSignature (coordSize : Nat) (signature : Bytes) : Option (Nat × Nat) :=
  if signature.length ≠ 2 * coordSize then none
  else some (ofBigEndian (signature.take coordSize), ofBigEndian (signature.drop coordSize))

variable {width number : Nat}

theorem bigEndian_zero (width : Nat) : bigEndian width 0 = List.replicate width 0 := by
  induction width with
  | zero => rfl
  | succ width induction =>
    rw [bigEndian, Nat.zero_div, induction, List.replicate_succ']
    rfl

theorem bigEndian_padded (fits : number < 256 ^ width) (zeros : Nat) :
    bigEndian (zeros + width) number = List.replicate zeros 0 ++ bigEndian width number := by
  induction width generalizing number with
  | zero =>
    have zero : number = 0 := by simpa using fits
    rw [zero, Nat.add_zero, bigEndian_zero, bigEndian, List.append_nil]
  | succ width induction =>
    have high : number / 256 < 256 ^ width := by exact Nat.div_lt_of_lt_mul (by omega)
    rw [← Nat.add_assoc, bigEndian, induction high, bigEndian, List.append_assoc]

theorem length_bigIntBytes_le (fits : number < 256 ^ width) :
    (bigIntBytes number).length ≤ width := by
  have bits : number.size ≤ 8 * width := by
    rw [Nat.size_le, pow_mul]
    exact fits
  rw [bigIntBytes, bigEndian_length]
  omega

theorem bigIntBytes_fits (number : Nat) : number < 256 ^ ((number.size + 7) / 8) := by
  calc number < 2 ^ number.size := Nat.lt_size_self number
    _ ≤ 2 ^ (8 * ((number.size + 7) / 8)) := Nat.pow_le_pow_right (by decide) (by omega)
    _ = 256 ^ ((number.size + 7) / 8) := by norm_num [pow_mul]

private theorem padded_bigIntBytes (fits : number < 256 ^ width) :
    List.replicate (width - (bigIntBytes number).length) 0 ++ bigIntBytes number =
      bigEndian width number := by
  have short := length_bigIntBytes_le fits
  have padded := bigEndian_padded (bigIntBytes_fits number) (width - (bigIntBytes number).length)
  rw [bigIntBytes, bigEndian_length] at short padded ⊢
  rw [← padded, Nat.sub_add_cancel short]

private theorem encodeSignature_eq {r s : Nat} (rFits : r < 256 ^ width) (sFits : s < 256 ^ width) :
    encodeSignature width r s = some (bigEndian width r ++ bigEndian width s) := by
  have rShort := length_bigIntBytes_le rFits
  have sShort := length_bigIntBytes_le sFits
  have first : copyAt (List.replicate (2 * width) 0) (width - (bigIntBytes r).length)
      (bigIntBytes r) = bigEndian width r ++ List.replicate width 0 := by
    rw [copyAt, List.take_replicate, List.drop_replicate, min_eq_left (by omega),
      padded_bigIntBytes rFits]
    congr 2
    omega
  have second : copyAt (bigEndian width r ++ List.replicate width 0)
      (2 * width - (bigIntBytes s).length) (bigIntBytes s) =
        bigEndian width r ++ bigEndian width s := by
    have start : 2 * width - (bigIntBytes s).length =
        (bigEndian width r).length + (width - (bigIntBytes s).length) := by
      rw [bigEndian_length]
      omega
    have nothing : (bigEndian width r ++ List.replicate width 0).drop
        (2 * width - (bigIntBytes s).length + (bigIntBytes s).length) = [] := by
      apply List.drop_eq_nil_of_le
      rw [List.length_append, bigEndian_length, List.length_replicate]
      omega
    rw [copyAt, nothing, List.append_nil, start, List.take_length_add_append,
      List.take_replicate, min_eq_left (by omega), List.append_assoc, padded_bigIntBytes sFits]
  simp only [encodeSignature]
  rw [if_pos ⟨rShort, by omega⟩, first, second]

theorem decodeSignature_eq {r s : Nat} (rFits : r < 256 ^ width) (sFits : s < 256 ^ width) :
    decodeSignature width (bigEndian width r ++ bigEndian width s) = some (r, s) := by
  have length := bigEndian_length width r
  rw [decodeSignature, if_neg (by simp [bigEndian_length, two_mul]), List.take_left' length,
    List.drop_left' length, ofBigEndian_bigEndian rFits, ofBigEndian_bigEndian sFits]

/-- Signing and verifying agree on the bytes of every two numbers that fit. -/
theorem signature_lossless (alg : Alg) {r s : Nat} (rFits : r < 256 ^ coordSize alg)
    (sFits : s < 256 ^ coordSize alg) :
    ∃ signature, encodeSignature (coordSize alg) r s = some signature ∧
      signature.length = 2 * coordSize alg ∧
      decodeSignature (coordSize alg) signature = some (r, s) ∧
      ∀ r' s', r' < 256 ^ coordSize alg → s' < 256 ^ coordSize alg →
        encodeSignature (coordSize alg) r' s' = some signature → r' = r ∧ s' = s := by
  have decoded := decodeSignature_eq rFits sFits
  refine ⟨_, encodeSignature_eq rFits sFits, ?_, decoded, ?_⟩
  · rw [List.length_append, bigEndian_length, bigEndian_length, two_mul]
  · intro r' s' rFits' sFits' same
    rw [encodeSignature_eq rFits' sFits', Option.some.injEq] at same
    rw [← same, decodeSignature_eq rFits' sFits'] at decoded
    simpa using decoded

theorem short_numbers_restored :
    ∃ signature, encodeSignature (coordSize .es256) 1 0 = some signature ∧
      decodeSignature (coordSize .es256) signature = some (1, 0) := by
  obtain ⟨signature, encoded, -, decoded, -⟩ :=
    signature_lossless .es256 (show 1 < 256 ^ 32 by decide) (show 0 < 256 ^ 32 by decide)
  exact ⟨signature, encoded, decoded⟩

end Parsec.Auth
