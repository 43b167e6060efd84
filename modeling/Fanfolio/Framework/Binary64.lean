import Mathlib.Algebra.Order.Floor.Ring
import Mathlib.Data.Int.Log
import Mathlib.Data.Rat.Floor
import Mathlib.Tactic.Linarith
import Mathlib.Tactic.NormNum
import Mathlib.Tactic.Ring

/-!
# Doubles

A double has 53 significant bits. The operations on doubles round the exact result to the nearest
one, and a tie to the even one. Only numbers that are not negative and in the normal range occur.
-/

namespace Framework

/-- The nearest integer, or the even one of two that are equally near. -/
def roundHalfEven (q : ℚ) : ℤ :=
  if q - ⌊q⌋ < 1 / 2 ∨ (q - ⌊q⌋ = 1 / 2 ∧ Even ⌊q⌋) then ⌊q⌋ else ⌊q⌋ + 1

/-- The distance between the doubles around a number. -/
def ulp (q : ℚ) : ℚ := 2 ^ (Int.log 2 q - 52)

/-- The double that is nearest to a number. -/
def toDouble (q : ℚ) : ℚ := roundHalfEven (q / ulp q) * ulp q

variable {q q' : ℚ}

theorem roundHalfEven_intCast (n : ℤ) : roundHalfEven n = n := by
  simp [roundHalfEven]

theorem floor_le_roundHalfEven : ⌊q⌋ ≤ roundHalfEven q := by
  unfold roundHalfEven
  split <;> omega

theorem roundHalfEven_le_floor : roundHalfEven q ≤ ⌊q⌋ + 1 := by
  unfold roundHalfEven
  split <;> omega

theorem roundHalfEven_mono (h : q ≤ q') : roundHalfEven q ≤ roundHalfEven q' := by
  rcases (Int.floor_mono h).lt_or_eq with hlt | heq
  · exact roundHalfEven_le_floor.trans ((Int.add_one_le_iff.mpr hlt).trans floor_le_roundHalfEven)
  · unfold roundHalfEven
    rw [heq]
    split
    · split <;> omega
    · rename_i hup
      rw [if_neg]
      rintro (hlow | ⟨htie, heven⟩)
      · exact hup (.inl (by linarith))
      · rcases (sub_le_sub_right h (⌊q'⌋ : ℚ)).lt_or_eq with hlow | hsame
        · exact hup (.inl (by linarith))
        · exact hup (.inr ⟨by linarith, heven⟩)

/-- A number is rounded up to an even integer from half below it. -/
theorem even_le_roundHalfEven {n : ℤ} (hn : Even n) : n ≤ roundHalfEven q ↔ (n : ℚ) - 1 / 2 ≤ q := by
  have hodd : ¬Even (n - 1) := by
    rw [Int.even_sub_one, not_not]
    exact hn
  have hhalf : roundHalfEven ((n : ℚ) - 1 / 2) = n := by
    have hfloor : ⌊(n : ℚ) - 1 / 2⌋ = n - 1 := by
      rw [Int.floor_eq_iff]
      push_cast
      constructor <;> linarith
    rw [roundHalfEven, hfloor, if_neg]
    · omega
    · push_cast
      rintro (hlow | ⟨-, heven⟩)
      · linarith
      · exact hodd heven
  constructor
  · intro hle
    by_contra hlt
    rw [not_le] at hlt
    have hfloor : ⌊q⌋ < n := by
      rw [Int.floor_lt]
      linarith
    rw [roundHalfEven] at hle
    split at hle
    · omega
    · rename_i hup
      have heq : ⌊q⌋ = n - 1 := by omega
      refine hup (.inl ?_)
      rw [heq]
      push_cast
      linarith
  · intro hle
    have hmono := roundHalfEven_mono hle
    rw [hhalf] at hmono
    exact hmono

theorem ulp_pos : 0 < ulp q := zpow_pos (by norm_num) _

/-- A double is not below the power of two below the number. -/
theorem zpow_log_le_toDouble (h : 0 < q) : (2 : ℚ) ^ Int.log 2 q ≤ toDouble q := by
  have hlow : (2 : ℚ) ^ Int.log 2 q ≤ q := by
    exact_mod_cast Int.zpow_log_le_self (b := 2) (by decide) h
  have hbits : (2 : ℚ) ^ Int.log 2 q = ((2 ^ 52 : ℤ) : ℚ) * ulp q := by
    rw [ulp, zpow_sub₀ (by norm_num)]
    norm_num
    ring
  have hround : (2 ^ 52 : ℤ) ≤ roundHalfEven (q / ulp q) := by
    rw [← roundHalfEven_intCast (2 ^ 52)]
    apply roundHalfEven_mono
    rw [le_div_iff₀ ulp_pos, ← hbits]
    exact hlow
  rw [hbits, toDouble]
  exact mul_le_mul_of_nonneg_right (by exact_mod_cast hround) ulp_pos.le

/-- A double is not above the next power of two. -/
theorem toDouble_le_zpow_log : toDouble q ≤ (2 : ℚ) ^ (Int.log 2 q + 1) := by
  have hhigh : q < (2 : ℚ) ^ (Int.log 2 q + 1) := by
    exact_mod_cast Int.lt_zpow_succ_log_self (b := 2) (by decide) q
  have hbits : (2 : ℚ) ^ (Int.log 2 q + 1) = ((2 ^ 53 : ℤ) : ℚ) * ulp q := by
    rw [ulp, zpow_sub₀ (by norm_num), zpow_add₀ (by norm_num)]
    norm_num
    ring
  have hround : roundHalfEven (q / ulp q) ≤ 2 ^ 53 := by
    rw [← roundHalfEven_intCast (2 ^ 53)]
    apply roundHalfEven_mono
    rw [div_le_iff₀ ulp_pos, ← hbits]
    exact hhigh.le
  rw [hbits, toDouble]
  exact mul_le_mul_of_nonneg_right (by exact_mod_cast hround) ulp_pos.le

theorem toDouble_mono (h0 : 0 < q) (h : q ≤ q') : toDouble q ≤ toDouble q' := by
  rcases (Int.log_mono_right (b := 2) h0 h).lt_or_eq with hlt | heq
  · calc toDouble q ≤ (2 : ℚ) ^ (Int.log 2 q + 1) := toDouble_le_zpow_log
      _ ≤ (2 : ℚ) ^ Int.log 2 q' := zpow_le_zpow_right₀ (by norm_num) (Int.add_one_le_iff.mpr hlt)
      _ ≤ toDouble q' := zpow_log_le_toDouble (h0.trans_le h)
  · have hulp : ulp q = ulp q' := by rw [ulp, ulp, heq]
    rw [toDouble, toDouble, hulp]
    have hround := roundHalfEven_mono (div_le_div_of_nonneg_right h (ulp_pos (q := q')).le)
    exact mul_le_mul_of_nonneg_right (by exact_mod_cast hround) ulp_pos.le

example : toDouble (toDouble (199 / 200) * 100) = 199 / 2 := by decide +kernel

end Framework
