import Parsec.Foundation.Clock

/-! # Rounding to float64

Numbers are exact rationals, and an operation on float64 rounds its result to 53 bits. The
seconds of a duration are such a result. -/

namespace Parsec.Foundation

def roundEven (number : ℚ) : ℤ :=
  let below := ⌊number⌋
  if number - below < 1 / 2 ∨ number - below = 1 / 2 ∧ below % 2 = 0 then below else below + 1

def fractionBits (number : ℚ) : ℕ := (52 - Int.log 2 |number|).toNat

/-- The nearest float64 of a number below `2 ^ 53`, where whole numbers stay as they are. -/
def float64 (number : ℚ) : ℚ :=
  roundEven (number * 2 ^ fractionBits number) / 2 ^ fractionBits number

def truncate (number : ℚ) : ℤ := if 0 ≤ number then ⌊number⌋ else ⌈number⌉

variable {number : ℚ} {limit : ℤ}

theorem floor_le_roundEven (number : ℚ) : ⌊number⌋ ≤ roundEven number := by
  simp only [roundEven]
  split <;> omega

theorem roundEven_intCast (number : ℤ) : roundEven number = number := by
  simp [roundEven]

theorem roundEven_le (number : ℚ) : (roundEven number : ℚ) ≤ number + 1 / 2 := by
  have below := Int.floor_le number
  simp only [roundEven]
  split
  · linarith
  · rename_i above
    have half : 1 / 2 ≤ number - ⌊number⌋ := by
      by_contra less
      exact above (.inl (not_le.mp less))
    push_cast
    linarith

theorem le_roundEven_iff (even : limit % 2 = 0) :
    limit ≤ roundEven number ↔ (limit : ℚ) - 1 / 2 ≤ number := by
  constructor
  · intro reached
    have reached : (limit : ℚ) ≤ roundEven number := by exact_mod_cast reached
    linarith [roundEven_le number]
  · intro near
    have above := Int.lt_floor_add_one number
    have least : limit ≤ ⌊number⌋ + 1 := by
      have : (limit : ℚ) < ⌊number⌋ + 2 := by linarith
      have : limit < ⌊number⌋ + 2 := by exact_mod_cast this
      omega
    rcases least.lt_or_eq with less | rfl
    · exact (Int.lt_add_one_iff.mp less).trans (floor_le_roundEven number)
    · simp only [roundEven]
      rw [if_neg]
      push_cast at near
      rintro (small | ⟨_, even'⟩)
      · linarith
      · omega

theorem float64_intCast (number : ℤ) : float64 number = number := by
  have scaled : (number : ℚ) * 2 ^ fractionBits number =
      ((number * 2 ^ fractionBits number : ℤ) : ℚ) := by
    push_cast
    rfl
  rw [float64, scaled, roundEven_intCast]
  push_cast
  field_simp

theorem float64_nonneg (nonneg : 0 ≤ number) : 0 ≤ float64 number := by
  have scaled : 0 ≤ number * 2 ^ fractionBits number := by positivity
  have rounded : (0 : ℚ) ≤ roundEven (number * 2 ^ fractionBits number) := by
    exact_mod_cast (Int.floor_nonneg.mpr scaled).trans (floor_le_roundEven _)
  unfold float64
  positivity

theorem fractionBits_of_one_le (large : 1 ≤ number) :
    fractionBits number = 52 - Nat.log 2 ⌊number⌋₊ := by
  rw [fractionBits, abs_of_pos (by linarith), Int.log_of_one_le_right 2 large]
  omega

theorem le_fractionBits (positive : 0 < number) (small : number < 1) :
    53 ≤ fractionBits number := by
  have negative : Int.log 2 number < 0 := by
    apply (Int.lt_zpow_iff_log_lt one_lt_two positive).mp
    simpa using small
  rw [fractionBits, abs_of_pos positive]
  omega

theorem fractionBits_of_half_le (half : 1 / 2 ≤ number) (small : number < 1) :
    fractionBits number = 53 := by
  have positive : 0 < number := by linarith
  have least : -1 ≤ Int.log 2 number := by
    apply (Int.zpow_le_iff_le_log one_lt_two positive).mp
    norm_num
    linarith
  have := le_fractionBits positive small
  rw [fractionBits, abs_of_pos positive] at this ⊢
  omega

theorem float64_le (nonneg : 0 ≤ number) (small : number < 1) :
    float64 number ≤ number + 1 / 2 ^ 54 := by
  rcases nonneg.eq_or_lt with rfl | positive
  · have zero := float64_intCast 0
    push_cast at zero
    rw [zero]
    norm_num
  · have bound := roundEven_le (number * 2 ^ fractionBits number)
    have many : (2 : ℚ) ^ 53 ≤ 2 ^ fractionBits number :=
      pow_le_pow_right₀ one_le_two (le_fractionBits positive small)
    have scale : (0 : ℚ) < 2 ^ fractionBits number := by positivity
    rw [float64, div_le_iff₀ scale]
    have unit : 1 / 2 ≤ 1 / 2 ^ 54 * (2 : ℚ) ^ fractionBits number := by
      calc (1 : ℚ) / 2 = 1 / 2 ^ 54 * 2 ^ 53 := by norm_num
        _ ≤ _ := by gcongr
    linarith

/-- Where a float64 has a digit after the point, a number is rounded up to the next whole one
exactly if it is at most half of the last digit away from it. -/
theorem floor_float64 (bits : 1 ≤ fractionBits number) :
    ⌊float64 number⌋ = if ⌊number⌋ + 1 - number ≤ 1 / 2 ^ (fractionBits number + 1)
      then ⌊number⌋ + 1 else ⌊number⌋ := by
  obtain ⟨digits, enough⟩ := Nat.exists_eq_add_of_le bits
  have scale : (0 : ℚ) < 2 ^ fractionBits number := by positivity
  have whole (limit : ℤ) : limit ≤ ⌊float64 number⌋ ↔
      limit * 2 ^ fractionBits number ≤ roundEven (number * 2 ^ fractionBits number) := by
    rw [Int.le_floor, float64, le_div_iff₀ scale]
    exact_mod_cast Iff.rfl
  have reached (limit : ℤ) : limit ≤ ⌊float64 number⌋ ↔
      limit - number ≤ 1 / 2 ^ (fractionBits number + 1) := by
    have even : (limit * 2 ^ fractionBits number) % 2 = 0 := by
      rw [enough, pow_add, pow_one]
      exact Int.emod_eq_zero_of_dvd ⟨limit * 2 ^ digits, by ring⟩
    rw [whole, le_roundEven_iff even, le_div_iff₀ (by positivity), pow_succ]
    push_cast
    constructor <;> intro bound <;> linarith
  have below := Int.floor_le number
  have above := Int.lt_floor_add_one number
  have small : (1 : ℚ) / 2 ^ (fractionBits number + 1) < 1 := by
    rw [div_lt_one (by positivity)]
    exact one_lt_pow₀ one_lt_two (by omega)
  have tiny : (0 : ℚ) < 1 / 2 ^ (fractionBits number + 1) := by positivity
  split
  · rename_i near
    apply le_antisymm
    · by_contra more
      have := (reached (⌊number⌋ + 2)).mp (by omega)
      push_cast at this
      linarith
    · apply (reached _).mpr
      push_cast
      exact near
  · rename_i far
    apply le_antisymm
    · by_contra more
      have := (reached (⌊number⌋ + 1)).mp (by omega)
      push_cast at this
      exact far this
    · exact (reached _).mpr (by linarith)

/-- `int64(ttl.Seconds())`, which goes through a float64. -/
def wholeSeconds (ttl : Int) : Int :=
  truncate (float64 (ttl.tdiv second + float64 (ttl.tmod second / second)))

theorem wholeSeconds_mul {ttl : Int} (whole : second ∣ ttl) : wholeSeconds ttl * second = ttl := by
  rcases whole with ⟨seconds, rfl⟩
  have none : float64 ((0 : ℤ) : ℚ) = (0 : ℤ) := float64_intCast 0
  have exactly : ((seconds : ℚ) + float64 (((second * seconds).tmod second : ℤ) / second)) =
      (seconds : ℤ) := by
    rw [Int.mul_tmod_right]
    simpa using none
  rw [wholeSeconds, Int.mul_tdiv_cancel_left _ (by decide), exactly, float64_intCast, truncate]
  split <;> simp [mul_comm]

def RoundsUp (ttl : Int) : Prop :=
  (second - ttl % second) * 2 ^ 53 ≤ second * 2 ^ Nat.log 2 (ttl / second).toNat

instance (ttl : Int) : Decidable (RoundsUp ttl) := inferInstanceAs (Decidable (_ ≤ _))

section Seconds

variable {ttl : Int}

theorem log_seconds (range : ttl < 2 ^ 63) : Nat.log 2 (ttl / second).toNat ≤ 33 := by
  have bound : (ttl / second).toNat < 2 ^ 34 := by
    rw [second]
    omega
  exact Nat.lt_succ_iff.mp (Nat.log_lt_of_lt_pow' (by decide) bound)

theorem fraction_bounds (ttl : Int) :
    0 ≤ ((ttl % second : ℤ) : ℚ) / second ∧
      ((ttl % second : ℤ) : ℚ) / second ≤ 1 - 1 / 10 ^ 9 := by
  have positive : (0 : ℚ) < (second : ℤ) := by norm_num [second]
  have least : (0 : ℚ) ≤ ((ttl % second : ℤ) : ℚ) := by
    exact_mod_cast Int.emod_nonneg ttl (by decide)
  have most : ((ttl % second : ℤ) : ℚ) ≤ (second - 1 : ℤ) := by
    exact_mod_cast Int.le_sub_one_of_lt (Int.emod_lt_of_pos ttl (by decide))
  refine ⟨by positivity, ?_⟩
  rw [div_le_iff₀ positive]
  refine most.trans ?_
  norm_num [second]

theorem float64_fraction_bounds (ttl : Int) :
    0 ≤ float64 ((ttl % second : ℤ) / second) ∧
      float64 ((ttl % second : ℤ) / second) ≤ 1 - 1 / 10 ^ 10 := by
  rcases fraction_bounds ttl with ⟨least, most⟩
  refine ⟨float64_nonneg least, ?_⟩
  have rounded := float64_le least (by linarith)
  norm_num at rounded most ⊢
  linarith

private theorem not_across {missing : ℤ} {exponent : ℕ} (few : exponent ≤ 33)
    (almost : missing * 2 ^ 54 ≤ second * 2 ^ (exponent + 1) + second) :
    missing * 2 ^ 53 ≤ second * 2 ^ exponent := by
  rw [second] at almost ⊢
  interval_cases exponent <;> norm_num at almost ⊢ <;> omega

theorem fraction_near_iff (range : ttl < 2 ^ 63) :
    1 - float64 ((ttl % second : ℤ) / second) ≤
        1 / 2 ^ (53 - Nat.log 2 (ttl / second).toNat) ↔ RoundsUp ttl := by
  have few := log_seconds range
  rcases fraction_bounds ttl with ⟨least, most⟩
  have small : ((ttl % second : ℤ) : ℚ) / second < 1 := by linarith
  unfold RoundsUp
  generalize Nat.log 2 (ttl / second).toNat = exponent at few ⊢
  generalize ttl % second = nanos at least most small ⊢
  have scaled : (1 : ℚ) / 2 ^ (53 - exponent) = 2 ^ exponent / 2 ^ 53 := by
    rw [div_eq_div_iff (by positivity) (by positivity), one_mul, ← pow_add,
      Nat.add_sub_cancel' (by omega)]
  have exactly : (second - nanos) * 2 ^ 53 ≤ second * 2 ^ exponent ↔
      1 - (nanos : ℚ) / second ≤ 2 ^ exponent / 2 ^ 53 := by
    rw [le_div_iff₀ (by positivity), ← Int.cast_le (R := ℚ)]
    push_cast [second]
    constructor <;> intro bound <;> linarith
  rw [scaled]
  constructor
  · intro near
    have rounded := float64_le least small
    have almost : ((second - nanos) * 2 ^ 54 : ℤ) ≤ second * 2 ^ (exponent + 1) + second := by
      rw [← Int.cast_le (R := ℚ)]
      push_cast [second] at *
      rw [pow_succ]
      linarith
    exact not_across few almost
  · intro near
    have near := exactly.mp near
    have half : 1 / 2 ≤ (nanos : ℚ) / second := by
      have : (2 : ℚ) ^ exponent ≤ 2 ^ 33 := pow_le_pow_right₀ one_le_two few
      linarith
    have reached : (2 ^ 53 - 2 ^ exponent : ℤ) ≤ roundEven ((nanos : ℚ) / second * 2 ^ 53) := by
      refine le_trans ?_ (floor_le_roundEven _)
      rw [Int.le_floor]
      push_cast
      linarith
    have reached := Int.cast_le (R := ℚ).mpr reached
    push_cast at reached
    rw [float64, fractionBits_of_half_le half small]
    linarith

theorem wholeSeconds_eq (nonneg : 0 ≤ ttl) (range : ttl < 2 ^ 63) :
    wholeSeconds ttl = if RoundsUp ttl then ttl / second + 1 else ttl / second := by
  rcases float64_fraction_bounds ttl with ⟨least, most⟩
  have less : float64 ((ttl % second : ℤ) / second) < 1 := by linarith
  have near := fraction_near_iff range
  have few := log_seconds range
  rw [wholeSeconds, Int.tdiv_eq_ediv_of_nonneg nonneg, Int.tmod_eq_emod_of_nonneg nonneg]
  have seconds : 0 ≤ ttl / second := Int.ediv_nonneg nonneg (by decide)
  generalize float64 ((ttl % second : ℤ) / second) = fraction at *
  have cast : (0 : ℚ) ≤ (ttl / second : ℤ) := by exact_mod_cast seconds
  have whole : ⌊((ttl / second : ℤ) : ℚ) + fraction⌋ = ttl / second := by
    rw [Int.floor_intCast_add, Int.floor_eq_zero_iff.mpr ⟨least, less⟩, add_zero]
  rw [truncate, if_pos (float64_nonneg (by linarith))]
  rcases seconds.eq_or_lt with zero | positive
  · have rounded := float64_le least less
    have down : ¬ RoundsUp ttl := by
      rw [← near, ← zero]
      norm_num at most ⊢
      linarith
    rw [if_neg down, ← zero, Int.cast_zero, zero_add, Int.floor_eq_zero_iff]
    refine ⟨float64_nonneg least, ?_⟩
    norm_num at most rounded ⊢
    linarith
  · have large : 1 ≤ ((ttl / second : ℤ) : ℚ) + fraction := by
      have : (1 : ℚ) ≤ (ttl / second : ℤ) := by exact_mod_cast positive
      linarith
    have bits : fractionBits ((ttl / second : ℤ) + fraction) =
        52 - Nat.log 2 (ttl / second).toNat := by
      rw [fractionBits_of_one_le large, ← Int.floor_toNat, whole]
    rw [floor_float64 (by omega), whole, bits]
    congr 1
    rw [← near, show 52 - Nat.log 2 (ttl / second).toNat + 1 =
      53 - Nat.log 2 (ttl / second).toNat by omega]
    apply propext
    constructor <;> intro bound <;> linarith

theorem wholeSeconds_nonneg (nonneg : 0 ≤ ttl) : 0 ≤ wholeSeconds ttl := by
  rcases float64_fraction_bounds ttl with ⟨least, _⟩
  have seconds : (0 : ℚ) ≤ (ttl / second : ℤ) :=
    Int.cast_nonneg (Int.ediv_nonneg nonneg (by decide))
  have nonneg' := float64_nonneg (add_nonneg seconds least)
  rw [wholeSeconds, Int.tdiv_eq_ediv_of_nonneg nonneg, Int.tmod_eq_emod_of_nonneg nonneg,
    truncate, if_pos nonneg']
  exact Int.floor_nonneg.mpr nonneg'

end Seconds

end Parsec.Foundation
