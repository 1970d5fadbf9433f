import Mathlib.Algebra.Order.Field.Power
import Mathlib.Data.Rat.Cast.Order
import Mathlib.Tactic.GCongr
import Mathlib.Tactic.Linarith
import Mathlib.Tactic.Positivity
import Mathlib.Tactic.Ring
import DocReview.Number.Binary64
/-!
# Rounding — how far a double is from the ratio it stands for

A finite double is an integer times a power of two (`magnitude`).  A ratio is scaled so that its integer part has 53 bits
(`exponentOf_spec`) and then rounded to an integer, which is off by a half at most (`roundDiv_near`).  So a ratio within
range becomes a finite double that is off by one part in `2^53`, or by half the least double (`ofRatio_near`).  Products and
decimals of doubles are ratios that are rounded in this way.
-/
namespace DocReview

theorem roundDiv_bounds (n : Nat) {d : Nat} (hd : 0 < d) :
    2 * (roundDiv n d * d) ≤ 2 * n + d ∧ 2 * n ≤ 2 * (roundDiv n d * d) + d := by
  have hn : d * (n / d) + n % d = n := Nat.div_add_mod n d
  have hlt : n % d < d := Nat.mod_lt n hd
  rw [Nat.mul_comm] at hn
  unfold roundDiv
  dsimp only
  split
  · omega
  · split
    · rw [Nat.add_mul, Nat.one_mul]
      omega
    · -- a half: the even neighbour is as near as the other
      rcases Nat.mod_two_eq_zero_or_one (n / d) with h | h
      · rw [h, Nat.add_zero]
        omega
      · rw [h, Nat.add_mul, Nat.one_mul]
        omega

theorem roundDiv_near (n : Nat) {d : Nat} (hd : 0 < d) : |(roundDiv n d : ℚ) - n / d| ≤ 1 / 2 := by
  have hd' : (0 : ℚ) < d := by exact_mod_cast hd
  obtain ⟨hle, hge⟩ := roundDiv_bounds n hd
  have hle' : 2 * ((roundDiv n d : ℚ) * d) ≤ 2 * n + d := by exact_mod_cast hle
  have hge' : 2 * (n : ℚ) ≤ 2 * (roundDiv n d * d) + d := by exact_mod_cast hge
  have hn : (n : ℚ) / d * d = n := div_mul_cancel₀ _ hd'.ne'
  rw [abs_le]
  constructor
  · nlinarith
  · nlinarith

namespace Binary64

theorem zpow_of_nonneg {e : Int} (h : 0 ≤ e) : (2 : ℚ) ^ e = 2 ^ e.toNat := by
  rw [← zpow_natCast, Int.toNat_of_nonneg h]

theorem zpow_of_neg {e : Int} (h : ¬0 ≤ e) : (2 : ℚ) ^ e = (2 ^ (-e).toNat)⁻¹ := by
  rw [← zpow_natCast, Int.toNat_of_nonneg (by omega), zpow_neg, inv_inv]

/-- The number that a finite double of no sign is. -/
def magnitude (mant : Nat) (exp : Int) : ℚ := mant * 2 ^ exp

theorem ratio_value (mant : Nat) (exp : Int) :
    0 < (ratio mant exp).2 ∧ ((ratio mant exp).1 : ℚ) / (ratio mant exp).2 = magnitude mant exp := by
  unfold ratio magnitude
  split
  · rename_i h
    refine ⟨Nat.one_pos, ?_⟩
    rw [zpow_of_nonneg h]
    push_cast
    simp
  · rename_i h
    refine ⟨Nat.pow_pos (by decide), ?_⟩
    rw [zpow_of_neg h, div_eq_mul_inv]
    push_cast
    simp

theorem scaleRatio_value (num : Nat) {den : Nat} (hden : 0 < den) (e : Int) :
    0 < (scaleRatio num den e).2 ∧
      ((scaleRatio num den e).1 : ℚ) / (scaleRatio num den e).2 = num / den / 2 ^ e := by
  unfold scaleRatio
  split
  · rename_i h
    refine ⟨Nat.mul_pos hden (Nat.pow_pos (by decide)), ?_⟩
    rw [zpow_of_nonneg h, div_div]
    push_cast
    simp
  · rename_i h
    refine ⟨hden, ?_⟩
    rw [zpow_of_neg h, div_inv_eq_mul, div_mul_eq_mul_div]
    push_cast
    simp

theorem log2_bounds {n : Nat} (h : n ≠ 0) : (2 : ℚ) ^ (n.log2 : Int) ≤ n ∧ (n : ℚ) < 2 ^ ((n.log2 : Int) + 1) := by
  constructor
  · rw [zpow_natCast]
    exact_mod_cast Nat.log2_self_le h
  · have hlt : n < 2 ^ (n.log2 + 1) := Nat.lt_log2_self
    have hlt' : (n : ℚ) < 2 ^ (n.log2 + 1) := by exact_mod_cast hlt
    calc (n : ℚ) < 2 ^ (n.log2 + 1) := hlt'
      _ = 2 ^ ((n.log2 : Int) + 1) := by rw [← zpow_natCast]; push_cast; rfl

/-- The logarithms give an integer part of 53 bits or 54. -/
theorem estimate_le {num den : Nat} (hnum : num ≠ 0) (hden : den ≠ 0) :
    (2 : ℚ) ^ 52 * 2 ^ ((num.log2 : Int) - (den.log2 : Int) - 53) ≤ num / den := by
  obtain ⟨hnumLe, -⟩ := log2_bounds hnum
  obtain ⟨-, hdenLt⟩ := log2_bounds hden
  have hden' : (0 : ℚ) < den := by exact_mod_cast Nat.pos_of_ne_zero hden
  obtain ⟨e, he⟩ : ∃ e : Int, (num.log2 : Int) - (den.log2 : Int) - 53 = e := ⟨_, rfl⟩
  rw [he, le_div_iff₀ hden']
  calc (2 : ℚ) ^ 52 * 2 ^ e * den ≤ 2 ^ 52 * 2 ^ e * 2 ^ ((den.log2 : Int) + 1) := by gcongr
    _ = 2 ^ (num.log2 : Int) := by
      rw [← zpow_natCast (2 : ℚ) 52, ← zpow_add₀ two_ne_zero, ← zpow_add₀ two_ne_zero]
      congr 1
      push_cast
      omega
    _ ≤ num := hnumLe

theorem le_ratio_of_bits (num : Nat) {den : Nat} (hden : den ≠ 0) {e : Int}
    (h : 2 ^ 53 * (scaleRatio num den e).2 ≤ (scaleRatio num den e).1) : (2 : ℚ) ^ 52 * 2 ^ (e + 1) ≤ num / den := by
  obtain ⟨hscaled, hvalue⟩ := scaleRatio_value num (Nat.pos_of_ne_zero hden) e
  have hscaled' : (0 : ℚ) < (scaleRatio num den e).2 := by exact_mod_cast hscaled
  have hpow : (0 : ℚ) < 2 ^ e := by positivity
  have h' : (2 : ℚ) ^ 53 * (scaleRatio num den e).2 ≤ (scaleRatio num den e).1 := by exact_mod_cast h
  rw [← le_div_iff₀ hscaled', hvalue, le_div_iff₀ hpow] at h'
  calc (2 : ℚ) ^ 52 * 2 ^ (e + 1) = 2 ^ 53 * 2 ^ e := by
        rw [zpow_add_one₀ two_ne_zero]
        ring
    _ ≤ (num : ℚ) / den := h'

/-- **The exponent gives the integer part of a ratio 53 bits**, unless it is the least one and there are fewer. -/
theorem exponentOf_spec {num den : Nat} (hnum : num ≠ 0) (hden : den ≠ 0) :
    exponentOf num den = minExp ∨ (2 : ℚ) ^ 52 * 2 ^ exponentOf num den ≤ num / den := by
  have hlow := estimate_le hnum hden
  unfold exponentOf
  dsimp only
  generalize (num.log2 : Int) - (den.log2 : Int) - 53 = e at hlow ⊢
  rcases le_total minExp (if Nat.pow 2 53 * (scaleRatio num den e).2 ≤ (scaleRatio num den e).1 then e + 1 else e) with h | h
  · right
    rw [max_eq_right h]
    split
    · rename_i hbits
      exact le_ratio_of_bits num hden hbits
    · exact hlow
  · exact Or.inl (max_eq_left h)

theorem exponentOf_lt {num den : Nat} (hnum : num ≠ 0) (hden : den ≠ 0) (hrange : (num : ℚ) / den ≤ 2 ^ 1000) :
    exponentOf num den < maxExp := by
  rcases exponentOf_spec hnum hden with hleast | hbits
  · rw [hleast]
    decide
  · have hle : (2 : ℚ) ^ (52 + exponentOf num den) ≤ 2 ^ (1000 : Int) := by
      rw [zpow_add₀ two_ne_zero]
      exact_mod_cast hbits.trans hrange
    have hlog := (zpow_le_zpow_iff_right₀ one_lt_two).1 hle
    unfold maxExp
    omega

/-- Half the least double. -/
def halfLeast : ℚ := 2 ^ (minExp - 1)

theorem halfLeast_pos : 0 < halfLeast := by
  unfold halfLeast
  positivity

/-- Half a unit in the last place of a ratio is small beside it. -/
theorem half_exponentOf_le {num den : Nat} (hnum : num ≠ 0) (hden : den ≠ 0) :
    (2 : ℚ) ^ exponentOf num den / 2 ≤ num / den / 2 ^ 53 + halfLeast := by
  have hpos := halfLeast_pos
  rcases exponentOf_spec hnum hden with hleast | hbits
  · have hhalf : halfLeast = 2 ^ exponentOf num den / 2 := by
      rw [halfLeast, hleast, zpow_sub_one₀ two_ne_zero, div_eq_mul_inv]
    have hnonneg : (0 : ℚ) ≤ num / den / 2 ^ 53 := by positivity
    linarith
  · linarith

/-- A scaled ratio is rounded by half a unit at most. -/
theorem scaled_near (num : Nat) {den : Nat} (hden : den ≠ 0) (e : Int) :
    |(roundDiv (scaleRatio num den e).1 (scaleRatio num den e).2 : ℚ) * 2 ^ e - num / den| ≤ 2 ^ e / 2 := by
  obtain ⟨hscaled, hvalue⟩ := scaleRatio_value num (Nat.pos_of_ne_zero hden) e
  have hround := roundDiv_near (scaleRatio num den e).1 hscaled
  rw [hvalue] at hround
  generalize roundDiv (scaleRatio num den e).1 (scaleRatio num den e).2 = m at hround ⊢
  have hpow : (0 : ℚ) < 2 ^ e := by positivity
  calc |(m : ℚ) * 2 ^ e - num / den| = |((m : ℚ) - num / den / 2 ^ e) * 2 ^ e| := by
        rw [sub_mul, div_mul_cancel₀ _ hpow.ne']
    _ = |(m : ℚ) - num / den / 2 ^ e| * 2 ^ e := by rw [abs_mul, abs_of_pos hpow]
    _ ≤ 1 / 2 * 2 ^ e := by gcongr
    _ = 2 ^ e / 2 := by ring

theorem magnitude_carry (e : Int) : magnitude (2 ^ 52) (e + 1) = 2 ^ 53 * 2 ^ e := by
  rw [magnitude, zpow_add_one₀ two_ne_zero]
  push_cast
  ring

/-- **A ratio becomes a double that is near to it**, if it is not beyond the range. -/
theorem ofRatio_near (neg : Bool) (num : Nat) {den : Nat} (hden : den ≠ 0) (hrange : (num : ℚ) / den ≤ 2 ^ 1000) :
    ∃ mant exp, ofRatio neg num den = .finite neg mant exp ∧
      |magnitude mant exp - num / den| ≤ num / den / 2 ^ 53 + halfLeast := by
  by_cases hnum : num = 0
  · subst hnum
    refine ⟨0, minExp, rfl, ?_⟩
    simp [magnitude, halfLeast_pos.le]
  · have hexp := exponentOf_lt hnum hden hrange
    have hnear := (scaled_near num hden _).trans (half_exponentOf_le hnum hden)
    unfold ofRatio
    rw [if_neg hnum]
    dsimp only
    generalize exponentOf num den = e at hexp hnear ⊢
    generalize roundDiv (scaleRatio num den e).1 (scaleRatio num den e).2 = m at hnear ⊢
    split
    · -- the bits of the ratio are all ones and it is rounded up
      rename_i hcarry
      have hpower : (m : ℚ) = 2 ^ 53 := by exact_mod_cast hcarry
      rw [hpower, ← magnitude_carry] at hnear
      rw [if_neg (by omega)]
      exact ⟨_, _, rfl, hnear⟩
    · rw [if_neg (by omega)]
      exact ⟨_, _, rfl, hnear⟩

/-- The product of two doubles is that of their numbers, rounded. -/
theorem mul_finite (neg₁ neg₂ : Bool) (m₁ m₂ : Nat) (e₁ e₂ : Int) : ∃ num den, den ≠ 0 ∧
    mul (.finite neg₁ m₁ e₁) (.finite neg₂ m₂ e₂) = ofRatio (neg₁ != neg₂) num den ∧
      (num : ℚ) / den = magnitude m₁ e₁ * magnitude m₂ e₂ := by
  obtain ⟨hd₁, hv₁⟩ := ratio_value m₁ e₁
  obtain ⟨hd₂, hv₂⟩ := ratio_value m₂ e₂
  refine ⟨(ratio m₁ e₁).1 * (ratio m₂ e₂).1, (ratio m₁ e₁).2 * (ratio m₂ e₂).2, (Nat.mul_pos hd₁ hd₂).ne', rfl, ?_⟩
  rw [← hv₁, ← hv₂, div_mul_div_comm]
  push_cast
  rfl

/-- A double that is rounded to decimals is a number of the least of them, off by a half at most, and rounded again. -/
theorem roundPlaces_finite (places : Nat) (neg : Bool) (mant : Nat) (exp : Int) : ∃ count : Nat,
    roundPlaces places (.finite neg mant exp) = ofRatio neg count (10 ^ places) ∧
      |(count : ℚ) - magnitude mant exp * 10 ^ places| ≤ 1 / 2 := by
  obtain ⟨hd, hv⟩ := ratio_value mant exp
  refine ⟨_, rfl, ?_⟩
  have hround := roundDiv_near ((ratio mant exp).1 * 10 ^ places) hd
  rw [Nat.cast_mul, mul_div_right_comm, hv, Nat.cast_pow, Nat.cast_ofNat] at hround
  exact hround

end Binary64
end DocReview
