import DocReview.Coverage.Basic
import DocReview.Proofs.Number.Rounding
/-!
# Percent — what a percentage is

A percentage is rounded three times: as a share, as a hundred times the share, and to two decimals.  The first two hardly
move it, so that it is a number of hundredths, written as the nearest double, which is off by half a hundredth at most but
for what the first two lose (`isPercentage_percent`).  Where it need not be rounded to hundredths it is exact
(`percent_of_hundredths`).
-/
namespace DocReview
namespace Coverage

open Binary64

/-- A double is a part of a whole in percent, rounded to hundredths. -/
def IsPercentage (x : Binary64) (part whole : Nat) : Prop :=
  ∃ hundredths : Nat, x = ofRatio false hundredths 100 ∧
    |(hundredths : ℚ) / 100 - 100 * (part / whole)| ≤ 1 / 200 + 1 / 10 ^ 13

theorem halfLeast_le : halfLeast ≤ 1 / 2 ^ 53 := by
  have hpow : (1 : ℚ) / 2 ^ 53 = 2 ^ (-53 : Int) := by
    rw [zpow_neg, one_div]
    norm_cast
  rw [hpow, halfLeast]
  exact zpow_le_zpow_right₀ one_le_two (by decide)

/-- **The percentage of a part of a whole is that part in percent**, rounded to hundredths. -/
theorem isPercentage_percent {part whole : Nat} (hle : part ≤ whole) (hwhole : whole ≠ 0) :
    IsPercentage (percent part whole) part whole := by
  have hleast := halfLeast_le
  have hwhole' : (0 : ℚ) < whole := by exact_mod_cast Nat.pos_of_ne_zero hwhole
  have hle' : (part : ℚ) ≤ whole := by exact_mod_cast hle
  obtain ⟨x, hx⟩ : ∃ x : ℚ, (part : ℚ) / whole = x := ⟨_, rfl⟩
  have hx1 : x ≤ 1 := hx ▸ (div_le_one hwhole').2 hle'
  have hrange : ∀ y : ℚ, y ≤ 200 → y ≤ 2 ^ 1000 := by
    intro y hy
    calc y ≤ 2 ^ 8 := hy.trans (by norm_num)
      _ ≤ 2 ^ 1000 := pow_le_pow_right₀ one_le_two (by decide)
  -- the share
  obtain ⟨m₁, e₁, h₁, hnear₁⟩ := ofRatio_near false part hwhole (hrange _ (by linarith))
  rw [hx, abs_le] at hnear₁
  -- a hundred times the share
  have hhundred : ofInt 100 = .finite false (100 * 2 ^ 46) (-46) := by decide
  have hvalue : magnitude (100 * 2 ^ 46) (-46) = 100 := by
    rw [magnitude, zpow_neg]
    norm_num
  obtain ⟨num, den, hden, hmul, hratio⟩ := mul_finite false false m₁ (100 * 2 ^ 46) e₁ (-46)
  rw [hvalue] at hratio
  obtain ⟨m₂, e₂, h₂, hnear₂⟩ := ofRatio_near (false != false) num hden (hrange _ (by rw [hratio]; linarith))
  rw [hratio, abs_le] at hnear₂
  -- two decimals of it
  obtain ⟨count, hcount, hnear⟩ := roundPlaces_finite 2 (false != false) m₂ e₂
  refine ⟨count, ?_, ?_⟩
  · rw [percent, h₁, hhundred, hmul, h₂, hcount]
    rfl
  · rw [hx]
    rw [abs_le] at hnear ⊢
    constructor <;> linarith

/-- **A part that is a number of hundredths of a percent is given exactly**: so all of some items are a hundred percent. -/
theorem percent_of_hundredths {part whole hundredths : Nat} (hle : part ≤ whole) (hwhole : whole ≠ 0)
    (h : 10000 * part = hundredths * whole) : percent part whole = ofRatio false hundredths 100 := by
  obtain ⟨count, hcount, hnear⟩ := isPercentage_percent hle hwhole
  have hwhole' : (whole : ℚ) ≠ 0 := by exact_mod_cast hwhole
  have hexact : (100 : ℚ) * (part / whole) = hundredths / 100 := by
    have h' : (10000 : ℚ) * part = hundredths * whole := by exact_mod_cast h
    rw [← mul_div_assoc, div_eq_iff hwhole']
    linarith
  rw [hexact, abs_le] at hnear
  have hlt : (count : ℚ) < hundredths + 1 := by linarith
  have hgt : (hundredths : ℚ) < count + 1 := by linarith
  have heq : count = hundredths := by
    have hlt' : count < hundredths + 1 := by exact_mod_cast hlt
    have hgt' : hundredths < count + 1 := by exact_mod_cast hgt
    omega
  rw [hcount, heq]

end Coverage
end DocReview
