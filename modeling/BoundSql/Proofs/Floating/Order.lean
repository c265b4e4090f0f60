import BoundSql.Floating.Format
import Mathlib.Algebra.Order.Field.Power
import Mathlib.Data.Rat.Cast.Order
import Mathlib.Tactic.FieldSimp
import Mathlib.Tactic.Lemma
import Mathlib.Tactic.Linarith
import Mathlib.Tactic.NormNum
import Mathlib.Tactic.Positivity
import Mathlib.Tactic.Ring

/-!
# The order of patterns

Patterns of magnitudes are ordered as the numbers they denote, and rounding to the nearest pattern
keeps the order.

* `roundQuotient_mono` — rounding to a whole number.
* `leadingExponent_bounds` — the exponent of the leading bit.
* **`magnitudeBits_mono`**, `scaledBits_mono` — rounding to a pattern.
* `Format.valueOf` — the number of a pattern, and **`valueOf_succ`**, the step to the next one.
* `datum_eq_finite` — it is the number that the pattern is read as.
-/

namespace BoundSql.Floating

/-! ## Rounding to a whole number -/

/-- **A rounded quotient is within a half of the quotient**, and even if it is a half away. -/
lemma roundQuotient_bounds (num : Nat) {den : Nat} (hden : 0 < den) :
    (2 * (den * roundQuotient num den) ≤ 2 * num + den ∧
        2 * num ≤ 2 * (den * roundQuotient num den) + den) ∧
      (2 * (den * roundQuotient num den) = 2 * num + den ∨
          2 * num = 2 * (den * roundQuotient num den) + den → roundQuotient num den % 2 = 0) := by
  have hdiv := Nat.div_add_mod num den
  have hrest := Nat.mod_lt num hden
  simp only [roundQuotient]
  split
  · omega
  split
  · rw [Nat.mul_add, Nat.mul_one]
    omega
  · have heven := Nat.mod_two_eq_zero_or_one (num / den)
    rcases heven with heven | hodd
    · rw [heven, Nat.add_zero]
      omega
    · rw [hodd, Nat.mul_add, Nat.mul_one]
      omega

/-- **A greater quotient is not rounded to less.** -/
lemma roundQuotient_mono {a b c d : Nat} (hb : 0 < b) (hd : 0 < d) (h : a * d ≤ c * b) :
    roundQuotient a b ≤ roundQuotient c d := by
  obtain ⟨⟨hupper, -⟩, heven⟩ := roundQuotient_bounds a hb
  obtain ⟨⟨-, hlower⟩, heven'⟩ := roundQuotient_bounds c hd
  by_contra hlt
  generalize roundQuotient a b = r at *
  generalize roundQuotient c d = r' at *
  -- The two would be neighbours, each a half away from the same quotient, and both even.
  have hchain : 2 * (b * d) * r ≤ 2 * (b * d) * (r' + 1) := by nlinarith
  have hr : r = r' + 1 := by
    have hle := Nat.le_of_mul_le_mul_left hchain (by positivity)
    omega
  subst hr
  have hfirst : 2 * (b * (r' + 1)) = 2 * a + b := by nlinarith
  have hsecond : 2 * c = 2 * (d * r') + d := by nlinarith
  have := heven (.inl hfirst)
  have := heven' (.inr hsecond)
  omega

/-! ## The exponent of the leading bit -/

/-- A power with either sign of its exponent, as a quotient of two whole numbers. -/
lemma zpow_eq_div {b : ℚ} (hb : b ≠ 0) (e : ℤ) : b ^ e = b ^ e.toNat / b ^ (-e).toNat := by
  rw [eq_div_iff (pow_ne_zero _ hb), ← zpow_natCast, ← zpow_natCast, ← zpow_add₀ hb]
  congr 1
  omega

lemma cast_shiftLeft (n k : Nat) : ((n <<< k : Nat) : ℚ) = n * 2 ^ k := by
  rw [Nat.shiftLeft_eq]
  push_cast
  rfl

section Rounding

variable {num den num' den' : Nat}

lemma reaches_iff (hden : 0 < den) (e : ℤ) :
    Format.reaches num den e = true ↔ (2 : ℚ) ^ e ≤ num / den := by
  have hpos : (0 : ℚ) < den := by exact_mod_cast hden
  rw [Format.reaches, decide_eq_true_eq, zpow_eq_div two_ne_zero,
    div_le_div_iff₀ (by positivity) hpos, ← Nat.cast_le (α := ℚ), cast_shiftLeft, cast_shiftLeft,
    mul_comm]

/-- **The leading bit of a quotient.** -/
lemma leadingExponent_bounds (hnum : 0 < num) (hden : 0 < den) :
    (2 : ℚ) ^ Format.leadingExponent num den ≤ num / den ∧
      (num / den : ℚ) < 2 ^ (Format.leadingExponent num den + 1) := by
  have hpos : (0 : ℚ) < den := by exact_mod_cast hden
  have hnumLow : (2 : ℚ) ^ num.log2 ≤ num := by exact_mod_cast Nat.log2_self_le hnum.ne'
  have hnumHigh : (num : ℚ) < 2 ^ (num.log2 + 1) := by exact_mod_cast Nat.lt_log2_self
  have hdenLow : (2 : ℚ) ^ den.log2 ≤ den := by exact_mod_cast Nat.log2_self_le hden.ne'
  have hdenHigh : (den : ℚ) < 2 ^ (den.log2 + 1) := by exact_mod_cast Nat.lt_log2_self
  rw [Format.leadingExponent]
  split
  · rename_i hreaches
    refine ⟨(reaches_iff hden _).mp hreaches, ?_⟩
    rw [div_lt_iff₀ hpos]
    calc (num : ℚ) < 2 ^ (num.log2 + 1) := hnumHigh
      _ = 2 ^ ((num.log2 : ℤ) - den.log2 + 1) * 2 ^ den.log2 := by
          rw [← zpow_natCast, ← zpow_natCast, ← zpow_add₀ two_ne_zero]
          congr 1
          push_cast
          ring
      _ ≤ _ := mul_le_mul_of_nonneg_left hdenLow (by positivity)
  · rename_i hreaches
    rw [reaches_iff hden, not_le] at hreaches
    refine ⟨?_, by rwa [sub_add_cancel]⟩
    rw [le_div_iff₀ hpos]
    calc (2 : ℚ) ^ ((num.log2 : ℤ) - den.log2 - 1) * den
        ≤ 2 ^ ((num.log2 : ℤ) - den.log2 - 1) * 2 ^ (den.log2 + 1) :=
          mul_le_mul_of_nonneg_left hdenHigh.le (by positivity)
      _ = 2 ^ num.log2 := by
          rw [← zpow_natCast, ← zpow_natCast, ← zpow_add₀ two_ne_zero]
          congr 1
          push_cast
          ring
      _ ≤ num := hnumLow

/-! ## Rounding to a pattern -/

lemma roundQuotient_mono_of_div_le (hden : 0 < den) (hden' : 0 < den')
    (h : (num / den : ℚ) ≤ num' / den') : roundQuotient num den ≤ roundQuotient num' den' := by
  have hpos : (0 : ℚ) < den := by exact_mod_cast hden
  have hpos' : (0 : ℚ) < den' := by exact_mod_cast hden'
  rw [div_le_div_iff₀ hpos hpos'] at h
  exact roundQuotient_mono hden hden' (by exact_mod_cast h)

/-- The quotient of which a significand is rounded. -/
lemma scaled_div (num den : Nat) (e : ℤ) :
    ((num <<< (-e).toNat : Nat) / (den <<< e.toNat : Nat) : ℚ) = num / den / 2 ^ e := by
  rw [cast_shiftLeft, cast_shiftLeft, zpow_eq_div two_ne_zero]
  field_simp

lemma scaled_den_pos (hden : 0 < den) (e : ℤ) : 0 < den <<< e.toNat := by
  rw [Nat.shiftLeft_eq]
  positivity

/-- The exponent of the significand to which a quotient is rounded. -/
def Format.roundingExponent (f : Format) (num den : Nat) : ℤ :=
  max f.unitExponent (Format.leadingExponent num den - f.fractionBits)

/-- The significand to which a quotient is rounded. -/
def Format.roundedSignificand (f : Format) (num den : Nat) : Nat :=
  roundQuotient (num <<< (-f.roundingExponent num den).toNat)
    (den <<< (f.roundingExponent num den).toNat)

lemma Format.magnitudeBits_of_pos (f : Format) (hnum : 0 < num) :
    f.magnitudeBits num den = min f.infinityBits
      ((f.roundingExponent num den - f.unitExponent).toNat <<< f.fractionBits +
        f.roundedSignificand num den) :=
  if_neg hnum.ne'

/-- **A significand has one bit more than the fraction at most**, or it is the next power of two. -/
lemma Format.roundedSignificand_le (f : Format) (hnum : 0 < num) (hden : 0 < den) :
    f.roundedSignificand num den ≤ 2 ^ (f.fractionBits + 1) := by
  have hbounds := (leadingExponent_bounds hnum hden).2
  have hexponent : Format.leadingExponent num den + 1 ≤
      f.roundingExponent num den + (f.fractionBits + 1) := by
    rw [roundingExponent]
    omega
  have hwhole : roundQuotient (2 ^ (f.fractionBits + 1) * 1) 1 = 2 ^ (f.fractionBits + 1) :=
    roundQuotient_mul_right _ 1 one_pos
  rw [roundedSignificand, ← hwhole]
  apply roundQuotient_mono_of_div_le (scaled_den_pos hden _) one_pos
  rw [scaled_div, div_le_iff₀ (by positivity)]
  refine hbounds.le.trans ((zpow_le_zpow_right₀ one_le_two hexponent).trans_eq ?_)
  rw [zpow_add₀ two_ne_zero, mul_comm]
  push_cast
  rw [← zpow_natCast]
  simp

/-- **A significand has a leading bit**, unless its exponent is the least. -/
lemma Format.le_roundedSignificand (f : Format) (hnum : 0 < num) (hden : 0 < den)
    (hexponent : f.unitExponent < f.roundingExponent num den) :
    2 ^ f.fractionBits ≤ f.roundedSignificand num den := by
  have hbounds := (leadingExponent_bounds hnum hden).1
  have hleading : f.roundingExponent num den + f.fractionBits =
      Format.leadingExponent num den := by
    rw [roundingExponent] at hexponent ⊢
    omega
  have hwhole : roundQuotient (2 ^ f.fractionBits * 1) 1 = 2 ^ f.fractionBits :=
    roundQuotient_mul_right _ 1 one_pos
  rw [roundedSignificand, ← hwhole]
  apply roundQuotient_mono_of_div_le one_pos (scaled_den_pos hden _)
  rw [scaled_div, le_div_iff₀ (by positivity)]
  rw [← hleading, zpow_add₀ two_ne_zero, mul_comm, zpow_natCast] at hbounds
  simpa using hbounds

/-- **A greater quotient is not rounded to a lesser pattern.** -/
theorem Format.magnitudeBits_mono (f : Format) (hden : 0 < den) (hden' : 0 < den')
    (h : (num / den : ℚ) ≤ num' / den') : f.magnitudeBits num den ≤ f.magnitudeBits num' den' := by
  rcases Nat.eq_zero_or_pos num with rfl | hnum
  · exact Nat.zero_le _
  have hpos : (0 : ℚ) < num / den := by positivity
  have hnum' : 0 < num' := by
    rw [pos_iff_ne_zero]
    rintro rfl
    rw [Nat.cast_zero, zero_div] at h
    exact absurd hpos (not_lt.mpr h)
  have hleading : Format.leadingExponent num den ≤ Format.leadingExponent num' den' := by
    have hlt : (2 : ℚ) ^ Format.leadingExponent num den <
        2 ^ (Format.leadingExponent num' den' + 1) :=
      ((leadingExponent_bounds hnum hden).1.trans h).trans_lt (leadingExponent_bounds hnum' hden').2
    have := (zpow_lt_zpow_iff_right₀ one_lt_two).mp hlt
    omega
  have hexponent : f.roundingExponent num den ≤ f.roundingExponent num' den' :=
    max_le_max le_rfl (by omega)
  rw [f.magnitudeBits_of_pos hnum, f.magnitudeBits_of_pos hnum']
  refine min_le_min le_rfl ?_
  rcases hexponent.eq_or_lt with heq | hlt
  · -- Both significands count the same unit.
    have hsignificand : f.roundedSignificand num den ≤ f.roundedSignificand num' den' := by
      rw [roundedSignificand, roundedSignificand, ← heq]
      apply roundQuotient_mono_of_div_le (scaled_den_pos hden _) (scaled_den_pos hden' _)
      rw [scaled_div, scaled_div]
      exact div_le_div_of_nonneg_right h (by positivity)
    rw [heq]
    omega
  · -- The greater one has a leading bit, and the lesser one reaches the next power at most.
    have hupper := f.roundedSignificand_le hnum hden
    have hunit : f.unitExponent ≤ f.roundingExponent num den := le_max_left _ _
    have hlower := f.le_roundedSignificand hnum' hden' (hunit.trans_lt hlt)
    obtain ⟨k, hk⟩ : ∃ k, (f.roundingExponent num' den' - f.unitExponent).toNat =
        (f.roundingExponent num den - f.unitExponent).toNat + 1 + k :=
      Nat.exists_eq_add_of_le (by omega)
    rw [hk, Nat.shiftLeft_eq, Nat.shiftLeft_eq, Nat.add_mul, Nat.add_mul, Nat.one_mul]
    rw [Nat.pow_succ] at hupper
    omega

/-- **A greater number is not rounded to a lesser pattern.** -/
lemma Format.scaledBits_mono (f : Format) {m m' : Nat} {e e' : ℤ}
    (h : (m * 2 ^ e : ℚ) ≤ m' * 2 ^ e') : f.scaledBits m e ≤ f.scaledBits m' e' := by
  have hquotient (m : Nat) (e : ℤ) :
      ((m <<< e.toNat : Nat) / (1 <<< (-e).toNat : Nat) : ℚ) = m * 2 ^ e := by
    rw [cast_shiftLeft, cast_shiftLeft, zpow_eq_div two_ne_zero]
    field_simp
    simp
  apply f.magnitudeBits_mono
  · exact scaled_den_pos one_pos (-e)
  · exact scaled_den_pos one_pos (-e')
  · rwa [hquotient, hquotient]

end Rounding

/-! ## The number of a pattern -/

namespace Format

variable (f : Format)

/-- The significand of a pattern, sign apart. -/
def significandOf (magnitude : Nat) : Nat :=
  if magnitude / 2 ^ f.fractionBits = 0 then magnitude % 2 ^ f.fractionBits
  else 2 ^ f.fractionBits + magnitude % 2 ^ f.fractionBits

/-- The exponent of a pattern, sign apart. -/
def exponentOf (magnitude : Nat) : ℤ :=
  f.unitExponent + (magnitude / 2 ^ f.fractionBits - 1 : Nat)

/-- **The number of a pattern**, sign apart. -/
def valueOf (magnitude : Nat) : ℚ := f.significandOf magnitude * 2 ^ f.exponentOf magnitude

/-- **The next pattern is one unit greater**, also where the exponent moves on. -/
lemma valueOf_succ (magnitude : Nat) :
    f.valueOf (magnitude + 1) = f.valueOf magnitude + 2 ^ f.exponentOf magnitude := by
  have hpos : 0 < 2 ^ f.fractionBits := by positivity
  have hdiv := Nat.div_add_mod magnitude (2 ^ f.fractionBits)
  have hmod := Nat.mod_lt magnitude hpos
  rcases Nat.lt_or_ge (magnitude % 2 ^ f.fractionBits + 1) (2 ^ f.fractionBits) with hroom | hfull
  · obtain ⟨hfield, hfraction⟩ :
        (magnitude + 1) / 2 ^ f.fractionBits = magnitude / 2 ^ f.fractionBits ∧
          (magnitude + 1) % 2 ^ f.fractionBits = magnitude % 2 ^ f.fractionBits + 1 :=
      (Nat.div_mod_unique hpos).mpr ⟨by omega, hroom⟩
    rw [valueOf, valueOf, exponentOf, exponentOf, significandOf, significandOf, hfield, hfraction]
    split
    · push_cast; ring
    · push_cast; ring
  · obtain ⟨hfield, hfraction⟩ :
        (magnitude + 1) / 2 ^ f.fractionBits = magnitude / 2 ^ f.fractionBits + 1 ∧
          (magnitude + 1) % 2 ^ f.fractionBits = 0 :=
      (Nat.div_mod_unique hpos).mpr ⟨by rw [Nat.mul_add]; omega, hpos⟩
    have hlast : magnitude % 2 ^ f.fractionBits = 2 ^ f.fractionBits - 1 := by omega
    rw [valueOf, valueOf, exponentOf, exponentOf, significandOf, significandOf, hfield, hfraction,
      hlast, if_neg (Nat.succ_ne_zero _)]
    rcases Nat.eq_zero_or_pos (magnitude / 2 ^ f.fractionBits) with hzero | hfieldPos
    · rw [hzero, if_pos rfl]
      push_cast [Nat.one_le_two_pow]
      ring
    · obtain ⟨field, hfieldEq⟩ := Nat.exists_eq_add_of_le' hfieldPos
      rw [hfieldEq, if_neg (Nat.succ_ne_zero _), Nat.add_sub_cancel, Nat.add_sub_cancel]
      push_cast [Nat.one_le_two_pow]
      rw [← add_assoc f.unitExponent, zpow_add_one₀ two_ne_zero]
      ring

lemma valueOf_mono : Monotone f.valueOf := by
  apply monotone_nat_of_le_succ
  intro magnitude
  rw [valueOf_succ]
  have : (0 : ℚ) < 2 ^ f.exponentOf magnitude := by positivity
  linarith

lemma datum_eq_infinite {bits : Nat} (h : bits % f.signBit = f.infinityBits) :
    f.datum bits = .infinite (decide (f.signBit ≤ bits)) :=
  if_pos h

/-- **A pattern below infinity is read as its number.** -/
lemma datum_eq_finite {bits : Nat} (h : bits % f.signBit < f.infinityBits) :
    f.datum bits = .finite (decide (f.signBit ≤ bits)) (f.significandOf (bits % f.signBit))
      (f.exponentOf (bits % f.signBit)) := by
  simp only [datum, significandOf, exponentOf, Nat.shiftRight_eq_div_pow, Nat.one_shiftLeft]
  rw [if_neg h.ne, if_neg (not_lt.mpr h.le)]
  split
  · rename_i hfield
    rw [hfield]
    simp
  · rfl

end Format

end BoundSql.Floating
