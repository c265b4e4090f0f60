import BoundSql.Floating.Basic
import BoundSql.Proofs.Floating.Order

/-!
# Finite numbers and powers of ten

A quotient by a power of ten is finite, and so is a product if it is not beyond the greatest number.
Both steps round twice, so a product just below the greatest number may still be infinite, but none
is that lies below the middle between the two greatest.

* `Binary64.IsFinite`, `Binary64.value` — the finite numbers, and what they are, sign apart.
* `half_above_le` — half a unit above a number is not beyond the middle between the two greatest.
* `isFinite_ofInt` — the numbers of whole ones.
* **`isFinite_overPower`** — quotients.
* `isFinite_timesPower_mono` — products, from the product of greater factors.
* **`isFinite_timesPower_of_le`** — products that are not beyond that middle.
-/

namespace BoundSql.Floating.Binary64

/-- The pattern of a number, sign apart. -/
def magnitude (x : Binary64) : Nat := x.bits.toNat % binary64Format.signBit

/-- **A finite number.** -/
def IsFinite (x : Binary64) : Prop := x.magnitude < binary64Format.infinityBits

/-- The absolute value of a finite number. -/
def value (x : Binary64) : ℚ := binary64Format.valueOf x.magnitude

/-! ## Patterns -/

lemma infinityBits_lt_signBit : binary64Format.infinityBits < binary64Format.signBit := by decide

variable {x y : Binary64}

lemma datum_of_isFinite (h : x.IsFinite) :
    x.datum = .finite (decide (binary64Format.signBit ≤ x.bits.toNat))
      (binary64Format.significandOf x.magnitude) (binary64Format.exponentOf x.magnitude) :=
  binary64Format.datum_eq_finite h

lemma magnitude_ofMagnitude (negative : Bool) {n : Nat} (h : n ≤ binary64Format.infinityBits) :
    (ofMagnitude negative n).magnitude = n := by
  have hsign : binary64Format.signBit = 2 ^ 63 := by decide
  have hinfinity := infinityBits_lt_signBit
  have hbits : (ofMagnitude negative n).bits.toNat = binary64Format.withSign negative n := by
    simp only [ofMagnitude, Nat.toUInt64, UInt64.toNat_ofNat']
    apply Nat.mod_eq_of_lt
    rw [Format.withSign]
    split <;> omega
  rw [magnitude, hbits, Format.withSign]
  split
  · rw [Nat.add_mod_left, Nat.mod_eq_of_lt (by omega)]
  · exact Nat.mod_eq_of_lt (by omega)

lemma magnitudeBits_le (num den : Nat) :
    binary64Format.magnitudeBits num den ≤ binary64Format.infinityBits := by
  rw [Format.magnitudeBits]
  split
  · exact Nat.zero_le _
  · exact min_le_left _ _

lemma magnitude_ofRatio (negative : Bool) (num den : Nat) :
    (ofRatio negative num den).magnitude = binary64Format.magnitudeBits num den :=
  magnitude_ofMagnitude negative (magnitudeBits_le num den)

/-- An infinite number is not finite, and what is neither is NaN. -/
lemma isInfinite_eq_false (h : x.IsFinite) : x.isInfinite = false := by
  rw [isInfinite, datum_of_isFinite h]

lemma isFinite_of_isInfinite_eq_false (hle : x.magnitude ≤ binary64Format.infinityBits)
    (h : x.isInfinite = false) : x.IsFinite := by
  rcases hle.lt_or_eq with hlt | heq
  · exact hlt
  · rw [isInfinite, datum, binary64Format.datum_eq_infinite heq] at h
    cases h

/-! ## Whole numbers and powers of ten -/

lemma value_ofRatio_mono {num den num' den' : Nat} (hden : 0 < den) (hden' : 0 < den')
    (h : (num / den : ℚ) ≤ num' / den') :
    (ofRatio false num den).value ≤ (ofRatio false num' den').value := by
  rw [value, value, magnitude_ofRatio, magnitude_ofRatio]
  exact binary64Format.valueOf_mono (binary64Format.magnitudeBits_mono hden hden' h)

lemma isFinite_of_le {num den num' den' : Nat} {negative negative' : Bool} (hden : 0 < den)
    (hden' : 0 < den') (h : (num / den : ℚ) ≤ num' / den')
    (hfinite : (ofRatio negative' num' den').IsFinite) : (ofRatio negative num den).IsFinite := by
  rw [IsFinite, magnitude_ofRatio] at hfinite ⊢
  exact (binary64Format.magnitudeBits_mono hden hden' h).trans_lt hfinite

/-! ## The greatest number -/

/-- The greatest finite number. -/
@[irreducible]
def greatest : Nat := (2 ^ 53 - 1) * 2 ^ 971

/-- The pattern of the greatest finite number. -/
def greatestBits : Nat := 2 ^ 52 * 2046 + (2 ^ 52 - 1)

/-- A pattern with a whole number of units is this number. -/
lemma valueOf_eq_cast {magnitude m k : Nat} (hm : binary64Format.significandOf magnitude = m)
    (hk : binary64Format.exponentOf magnitude = k) :
    binary64Format.valueOf magnitude = ((m * 2 ^ k : Nat) : ℚ) := by
  rw [Format.valueOf, hm, hk, zpow_natCast, Nat.cast_mul, Nat.cast_pow]
  rfl

lemma valueOf_greatestBits : binary64Format.valueOf greatestBits = greatest := by
  have hsignificand : binary64Format.significandOf greatestBits = 2 ^ 53 - 1 := by decide
  have hexponent : binary64Format.exponentOf greatestBits = (971 : Nat) := by decide
  unfold greatest
  exact valueOf_eq_cast hsignificand hexponent

lemma magnitude_le_greatestBits (h : x.IsFinite) : x.magnitude ≤ greatestBits := by
  have hinfinity : binary64Format.infinityBits = greatestBits + 1 := by decide
  rw [IsFinite] at h
  omega

lemma value_le_greatest (h : x.IsFinite) : x.value ≤ greatest := by
  rw [value, ← valueOf_greatestBits]
  exact binary64Format.valueOf_mono (magnitude_le_greatestBits h)

/-- **The significand and the exponent of a finite number.** -/
lemma significand_exponent_bounds (h : x.IsFinite) :
    binary64Format.significandOf x.magnitude < 2 ^ 53 ∧
      -1074 ≤ binary64Format.exponentOf x.magnitude ∧
      binary64Format.exponentOf x.magnitude ≤ 971 := by
  have hbits : binary64Format.fractionBits = 52 := rfl
  have hunit : binary64Format.unitExponent = -1074 := by decide
  have hlast : greatestBits = 2 ^ 52 * 2046 + (2 ^ 52 - 1) := rfl
  have hle := magnitude_le_greatestBits h
  rw [Format.significandOf, Format.exponentOf, hbits, hunit]
  refine ⟨?_, ?_, ?_⟩
  · split <;> omega
  · omega
  · omega

/-- The finite number before the greatest. -/
@[irreducible]
def secondGreatest : Nat := (2 ^ 53 - 2) * 2 ^ 971

lemma valueOf_secondGreatest : binary64Format.valueOf (greatestBits - 1) = secondGreatest := by
  have hsignificand : binary64Format.significandOf (greatestBits - 1) = 2 ^ 53 - 2 := by decide
  have hexponent : binary64Format.exponentOf (greatestBits - 1) = (971 : Nat) := by decide
  unfold secondGreatest
  exact valueOf_eq_cast hsignificand hexponent

/-- The middle between the two greatest numbers. -/
@[irreducible]
def halfBelowGreatest : Nat := 2 ^ 1024 - 3 * 2 ^ 970

/-- **These numbers against each other**, against powers of ten and against the numbers of eight
bytes. -/
lemma constants_spec :
    secondGreatest + greatest = 2 * halfBelowGreatest ∧
      (Decimal.tenTo 308 ≤ greatest ∧ halfBelowGreatest < Decimal.tenTo 309) ∧
      (2 ^ 64 ≤ greatest ∧ (2 ^ 64 - 1) * Decimal.tenTo 288 ≤ halfBelowGreatest) ∧
      binary64Format.magnitudeBits greatest 1 < binary64Format.infinityBits := by
  decide +kernel

/-- **Half a unit above a number** is half way to the next one, so it is not beyond that middle. -/
lemma half_above_le (h : x.IsFinite) (hne : x.magnitude ≠ greatestBits) :
    ((binary64Format.significandOf x.magnitude : ℚ) + 1 / 2) *
      2 ^ binary64Format.exponentOf x.magnitude ≤ halfBelowGreatest := by
  have hlt : x.magnitude ≤ greatestBits - 1 := by
    have := magnitude_le_greatestBits h
    omega
  have hfirst := binary64Format.valueOf_mono hlt
  have hsecond := binary64Format.valueOf_mono (Nat.add_le_add_right hlt 1)
  have hnext : greatestBits - 1 + 1 = greatestBits := rfl
  rw [hnext, valueOf_greatestBits, binary64Format.valueOf_succ] at hsecond
  rw [valueOf_secondGreatest] at hfirst
  have hmiddle : (secondGreatest + greatest : ℚ) = 2 * halfBelowGreatest := by
    exact_mod_cast constants_spec.1
  have hvalue : binary64Format.valueOf x.magnitude =
      binary64Format.significandOf x.magnitude * 2 ^ binary64Format.exponentOf x.magnitude := rfl
  generalize (secondGreatest : ℚ) = second at *
  generalize (greatest : ℚ) = first at *
  generalize (halfBelowGreatest : ℚ) = middle at *
  rw [hvalue] at hfirst hsecond
  linarith

/-! ## Whole numbers and their powers -/

lemma isFinite_ofRatio_of_le {num den : Nat} (negative : Bool) (hden : 0 < den)
    (h : (num / den : ℚ) ≤ greatest) : (ofRatio negative num den).IsFinite := by
  have hgreatest : (ofRatio false greatest 1).IsFinite := by
    rw [IsFinite, magnitude_ofRatio]
    exact constants_spec.2.2.2
  rw [← div_one (greatest : ℚ), ← Nat.cast_one] at h
  exact isFinite_of_le hden one_pos h hgreatest

lemma tenTo_mono {j k : Nat} (h : j ≤ k) : Decimal.tenTo j ≤ Decimal.tenTo k :=
  Nat.pow_le_pow_right (by decide) h

/-- The middle has three hundred and nine digits. -/
lemma halfBelowGreatest_lt {k : Nat} (h : 309 ≤ k) : halfBelowGreatest < Decimal.tenTo k :=
  constants_spec.2.1.2.trans_le (tenTo_mono h)

lemma isFinite_powerOfTen {k : Nat} (h : k ≤ 308) : (powerOfTen k).IsFinite := by
  have hpower : Decimal.tenTo k ≤ greatest := (tenTo_mono h).trans constants_spec.2.1.1
  apply isFinite_ofRatio_of_le false one_pos
  simpa using hpower

/-- The numbers of powers of ten ascend, and the first of them is one. -/
lemma value_powerOfTen_mono {j k : Nat} (h : j ≤ k) :
    (powerOfTen j).value ≤ (powerOfTen k).value := by
  apply value_ofRatio_mono one_pos one_pos
  simpa using tenTo_mono h

lemma one_le_value_powerOfTen (k : Nat) : 1 ≤ (powerOfTen k).value := by
  refine le_trans ?_ (value_powerOfTen_mono (Nat.zero_le k))
  have hmagnitude : (powerOfTen 0).magnitude = 2 ^ 52 * 1023 := by decide
  have hsignificand : binary64Format.significandOf (2 ^ 52 * 1023) = 2 ^ 52 := by decide
  have hexponent : binary64Format.exponentOf (2 ^ 52 * 1023) = -52 := by decide
  rw [value, hmagnitude, Format.valueOf, hsignificand, hexponent]
  norm_num

/-! ## Quotients and products -/

/-- **A quotient by a power of ten is finite**, as it is not greater than the number. -/
lemma isFinite_overPower (hx : x.IsFinite) {k : Nat} (hk : k ≤ 308) : (x.overPower k).IsFinite := by
  have hpower := isFinite_powerOfTen hk
  have hone := one_le_value_powerOfTen k
  have hgreatest := value_le_greatest hx
  simp only [overPower, datum_of_isFinite hx, datum_of_isFinite hpower]
  rw [value, Format.valueOf] at hone hgreatest
  generalize binary64Format.significandOf (powerOfTen k).magnitude = m' at *
  generalize binary64Format.exponentOf (powerOfTen k).magnitude = e' at *
  generalize binary64Format.significandOf x.magnitude = m at *
  generalize binary64Format.exponentOf x.magnitude = e at *
  have hpos : 0 < m' := by
    rw [pos_iff_ne_zero]
    rintro rfl
    norm_num at hone
  have hquotient := scaled_div m m' (-(e - e'))
  rw [neg_neg] at hquotient
  apply isFinite_ofRatio_of_le _ (scaled_den_pos hpos _)
  rw [hquotient]
  calc (m / m' / 2 ^ (-(e - e')) : ℚ) = m * 2 ^ e / (m' * 2 ^ e') := by
        rw [zpow_neg, zpow_sub₀ two_ne_zero]
        field_simp
    _ ≤ m * 2 ^ e :=
        div_le_self (mul_nonneg (Nat.cast_nonneg m) (zpow_nonneg zero_le_two e)) hone
    _ ≤ greatest := hgreatest

/-- The product with a power of ten is rounded once more. -/
lemma magnitude_timesPower (hx : x.IsFinite) {k : Nat} (hk : k ≤ 308) :
    (x.timesPower k).magnitude = binary64Format.scaledBits
      (binary64Format.significandOf x.magnitude *
        binary64Format.significandOf (powerOfTen k).magnitude)
      (binary64Format.exponentOf x.magnitude +
        binary64Format.exponentOf (powerOfTen k).magnitude) := by
  simp only [timesPower, datum_of_isFinite hx, datum_of_isFinite (isFinite_powerOfTen hk)]
  exact magnitude_ofMagnitude _ (magnitudeBits_le _ _)

/-- **A product is finite if that of greater factors is.** -/
lemma isFinite_timesPower_mono {j k : Nat} (hx : x.IsFinite) (hy : y.IsFinite)
    (hvalue : x.value ≤ y.value) (hjk : j ≤ k) (hk : k ≤ 308)
    (hfinite : (y.timesPower k).IsFinite) : (x.timesPower j).IsFinite := by
  have hproduct (x : Binary64) (k : Nat) : ((binary64Format.significandOf x.magnitude *
      binary64Format.significandOf (powerOfTen k).magnitude : Nat) : ℚ) *
        2 ^ (binary64Format.exponentOf x.magnitude +
          binary64Format.exponentOf (powerOfTen k).magnitude) =
      x.value * (powerOfTen k).value := by
    rw [value, value, Format.valueOf, Format.valueOf, zpow_add₀ two_ne_zero]
    push_cast
    ring
  rw [IsFinite, magnitude_timesPower hy hk] at hfinite
  rw [IsFinite, magnitude_timesPower hx (hjk.trans hk)]
  refine lt_of_le_of_lt (binary64Format.scaledBits_mono ?_) hfinite
  rw [hproduct, hproduct]
  have hone := one_le_value_powerOfTen j
  have hnonneg : 0 ≤ y.value := by
    rw [value, Format.valueOf]
    positivity
  exact mul_le_mul hvalue (value_powerOfTen_mono hjk) (by linarith) hnonneg

/-! ## Products not beyond the middle -/

lemma magnitude_negate (x : Binary64) : x.negate.magnitude = x.magnitude := by
  have hsign : binary64Format.signBit = 2 ^ 63 := by decide
  rw [magnitude, magnitude, negate, hsign, UInt64.toNat_xor, Nat.xor_mod_two_pow]
  exact Nat.xor_zero _

lemma isFinite_negate (h : x.IsFinite) : x.negate.IsFinite := by
  rwa [IsFinite, magnitude_negate]

/-- The whole numbers of eight bytes are finite. -/
lemma isFinite_ofInt {n : Nat} (h : n < 2 ^ 64) : (ofInt n).IsFinite := by
  apply isFinite_ofRatio_of_le _ one_pos
  rw [Nat.cast_one, div_one, Int.natAbs_natCast]
  exact Nat.cast_le.mpr (h.le.trans constants_spec.2.2.1.1)

/-- The greatest number of eight bytes whose product with a power of ten is not beyond the
middle. -/
def greatestFactor (k : Nat) : Nat := min (2 ^ 64 - 1) (halfBelowGreatest / Decimal.tenTo k)

lemma greatestFactor_lt (k : Nat) : greatestFactor k < 2 ^ 64 :=
  (min_le_left _ _).trans_lt (by decide)

lemma isFinite_greatestFactor_timesPower {k : Nat} (hlow : 288 ≤ k) (hhigh : k ≤ 308) :
    ((ofInt (greatestFactor k)).timesPower k).IsFinite := by
  have hall : ∀ i ∈ List.range 21,
      ((ofInt (greatestFactor (288 + i))).timesPower (288 + i)).magnitude <
        binary64Format.infinityBits := by
    decide +kernel
  have hk := hall (k - 288) (List.mem_range.mpr (by omega))
  rwa [Nat.add_sub_cancel' hlow] at hk

/-- **A product that is not beyond the middle between the two greatest numbers is finite**, in spite
of the two roundings. -/
theorem isFinite_timesPower_of_le {n k : Nat} (hn : n < 2 ^ 64) (hk : k ≤ 308)
    (h : n * 10 ^ k ≤ halfBelowGreatest) : ((ofInt n).timesPower k).IsFinite := by
  have hpos {k : Nat} : 0 < Decimal.tenTo k := Nat.pow_pos (by decide)
  have hfactor : n ≤ greatestFactor (max k 288) := by
    rcases Nat.le_total k 288 with hsmall | hlarge
    · rw [Nat.max_eq_right hsmall]
      have hword : n ≤ 2 ^ 64 - 1 := by omega
      exact le_min hword (hword.trans ((Nat.le_div_iff_mul_le hpos).mpr constants_spec.2.2.1.2))
    · rw [Nat.max_eq_left hlarge]
      exact le_min (by omega) ((Nat.le_div_iff_mul_le hpos).mpr h)
  have hfinite := isFinite_greatestFactor_timesPower (le_max_right k 288) (by omega)
  refine isFinite_timesPower_mono (isFinite_ofInt hn) (isFinite_ofInt (greatestFactor_lt _)) ?_
    (le_max_left k 288) (by omega) hfinite
  · have hsign (m : Nat) : ofInt m = ofRatio false m 1 := by
      rw [ofInt, Int.natAbs_natCast, decide_eq_false (by omega)]
    rw [hsign, hsign]
    apply value_ofRatio_mono one_pos one_pos
    simpa using hfactor

end BoundSql.Floating.Binary64
