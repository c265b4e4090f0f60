import BoundSql.Floating.Shortest
import BoundSql.Proofs.Floating.Order

/-!
# The shortest decimal lies in the rounding interval

On the last grid the step is less than a quarter of a unit, so there is a decimal in the interval
and the search ends with one.  It is not zero, and dropping zeros does not change it.

* `contains_bounds`, `contains_of_lt` — the interval in terms of its ends.
* `leadingPlace_le` — the first grid is not beyond the number.
* `exists_pick` — a grid that is fine enough has a decimal in the interval.
* **`contains_search`** — so the search ends with a decimal of the interval.
* **`shortestDecimal_bounds`** — the shortest decimal is positive and half a unit above the number
  at most.
-/

namespace BoundSql.Floating

open Decimal

/-! ## The interval -/

namespace Spread

variable {s : Spread}

lemma cast_tenTo (k : Nat) : ((tenTo k : Nat) : ℚ) = 10 ^ k := Nat.cast_pow 10 k

lemma contains_iff (hden : 0 < s.den) (n : Nat) (g : ℤ) :
    s.contains n g = true ↔
      if s.closed then (s.low / s.den : ℚ) ≤ n * 10 ^ g ∧ (n : ℚ) * 10 ^ g ≤ s.high / s.den
      else (s.low / s.den : ℚ) < n * 10 ^ g ∧ (n : ℚ) * 10 ^ g < s.high / s.den := by
  have hpos : (0 : ℚ) < s.den := by exact_mod_cast hden
  have hscale : (0 : ℚ) < 10 ^ (-g).toNat := by positivity
  rw [zpow_eq_div (by norm_num), ← mul_div_assoc, div_le_div_iff₀ hpos hscale,
    div_le_div_iff₀ hscale hpos, div_lt_div_iff₀ hpos hscale, div_lt_div_iff₀ hscale hpos, contains]
  simp only [← cast_tenTo, ← Nat.cast_mul, Nat.cast_le, Nat.cast_lt]
  split
  · rw [Bool.and_eq_true, decide_eq_true_eq, decide_eq_true_eq]
  · rw [Bool.and_eq_true, decide_eq_true_eq, decide_eq_true_eq]

lemma contains_bounds (hden : 0 < s.den) {n : Nat} {g : ℤ} (h : s.contains n g = true) :
    (s.low / s.den : ℚ) ≤ n * 10 ^ g ∧ (n : ℚ) * 10 ^ g ≤ s.high / s.den := by
  rw [contains_iff hden] at h
  split at h
  · exact h
  · exact ⟨h.1.le, h.2.le⟩

lemma contains_of_lt (hden : 0 < s.den) {n : Nat} {g : ℤ} (hlow : (s.low / s.den : ℚ) < n * 10 ^ g)
    (hhigh : (n : ℚ) * 10 ^ g < s.high / s.den) : s.contains n g = true := by
  rw [contains_iff hden]
  split
  · exact ⟨hlow.le, hhigh.le⟩
  · exact ⟨hlow, hhigh⟩

/-! ## Grids -/

/-- Only decimals of the interval are picked. -/
lemma contains_of_pick {tie : Tie} {g : ℤ} {n : Nat} (h : s.pick tie g = some n) :
    s.contains n g = true := by
  have hcandidates (a b : Nat) (h : (if s.contains a g then some a
      else if s.contains b g then some b else none) = some n) : s.contains n g = true := by
    split at h
    · rename_i ha
      rwa [← Option.some.inj h]
    · split at h
      · rename_i hb
        rwa [← Option.some.inj h]
      · cases h
  exact hcandidates _ _ h

/-- One of two neighbours is picked, if the lower one lies in the interval. -/
lemma exists_pick_of_contains {tie : Tie} {g : ℤ}
    (h : s.contains (s.mid * tenTo (-g).toNat / (s.den * tenTo g.toNat)) g = true) :
    ∃ n, s.pick tie g = some n := by
  have hcandidates (preferred below : Nat) (h : s.contains below g = true) :
      ∃ n, (if s.contains preferred g then some preferred
        else if s.contains (if preferred = below then below + 1 else below) g
          then some (if preferred = below then below + 1 else below) else none) = some n := by
    by_cases hpreferred : s.contains preferred g = true
    · exact ⟨_, if_pos hpreferred⟩
    · have hne : preferred ≠ below := by
        rintro rfl
        exact hpreferred h
      rw [if_neg hpreferred, if_neg hne, if_pos h]
      exact ⟨_, rfl⟩
  exact hcandidates _ _ h

/-- **A grid whose step is not wider than the lower half has a decimal in the interval.** -/
lemma exists_pick (hden : 0 < s.den) (hhigh : s.mid < s.high) {g : ℤ}
    (hstep : (10 : ℚ) ^ g ≤ s.mid / s.den - s.low / s.den) (tie : Tie) :
    ∃ n, s.pick tie g = some n := by
  apply exists_pick_of_contains
  have hpos : (0 : ℚ) < s.den := by exact_mod_cast hden
  have hten : (0 : ℚ) < 10 ^ g := by positivity
  have hgrid : 0 < s.den * tenTo g.toNat := Nat.mul_pos hden (Nat.pow_pos (by decide))
  have hquotient : ((s.mid * tenTo (-g).toNat : Nat) / (s.den * tenTo g.toNat : Nat) : ℚ) * 10 ^ g =
      s.mid / s.den := by
    rw [zpow_eq_div (by norm_num), Nat.cast_mul, Nat.cast_mul, cast_tenTo, cast_tenTo]
    field_simp
  generalize s.mid * tenTo (-g).toNat = num at *
  generalize s.den * tenTo g.toNat = den at *
  have hdenPos : (0 : ℚ) < den := by exact_mod_cast hgrid
  have hbelow : ((num / den : Nat) : ℚ) ≤ num / den := by
    rw [le_div_iff₀ hdenPos]
    exact_mod_cast Nat.div_mul_le_self num den
  have habove : (num / den : ℚ) < (num / den : Nat) + 1 := by
    rw [div_lt_iff₀ hdenPos]
    exact_mod_cast Nat.lt_mul_of_div_lt (Nat.lt_succ_self (num / den)) hgrid
  have hmid : (s.mid / s.den : ℚ) < s.high / s.den :=
    div_lt_div_of_pos_right (by exact_mod_cast hhigh) hpos
  apply contains_of_lt hden
  · nlinarith
  · nlinarith

/-! ## The search -/

/-- **The search ends with a decimal of the interval**, if there is one on the last grid. -/
lemma contains_search {tie : Tie} {fuel : Nat} {g : ℤ} (h : ∃ n, s.pick tie (g - fuel) = some n) :
    s.contains (s.search tie fuel g).1 (s.search tie fuel g).2 = true := by
  induction fuel generalizing g with
  | zero =>
      obtain ⟨n, hn⟩ := h
      rw [Nat.cast_zero, sub_zero] at hn
      rw [search, hn]
      exact contains_of_pick hn
  | succ fuel ih =>
      rw [search]
      cases hpick : s.pick tie g with
      | none =>
          apply ih
          rwa [Nat.cast_succ, add_comm, ← sub_sub] at h
      | some n => exact contains_of_pick hpick

end Spread

/-! ## The interval of a number -/

section Number

variable (f : Format) {m : Nat} (e : ℤ)

lemma quarter_div (n : Nat) :
    ((n <<< (e - 2).toNat : Nat) / (1 <<< (-(e - 2)).toNat : Nat) : ℚ) = n / 4 * 2 ^ e := by
  have hquotient := scaled_div n 1 (-(e - 2))
  rw [neg_neg] at hquotient
  rw [hquotient, neg_sub, zpow_sub₀ two_ne_zero]
  push_cast
  field_simp

/-- The upper end is half a unit above the number. -/
lemma high_ofFinite (m : Nat) :
    ((Spread.ofFinite f m e).high / (Spread.ofFinite f m e).den : ℚ) = (m + 1 / 2) * 2 ^ e := by
  rw [Spread.ofFinite, quarter_div]
  push_cast
  ring

lemma mid_ofFinite (m : Nat) :
    ((Spread.ofFinite f m e).mid / (Spread.ofFinite f m e).den : ℚ) = m * 2 ^ e := by
  rw [Spread.ofFinite, quarter_div]
  push_cast
  ring

/-- **The lower end is a quarter of a unit below the number or more**, and above zero. -/
lemma low_ofFinite (hm : 0 < m) :
    (0 : ℚ) < (Spread.ofFinite f m e).low / (Spread.ofFinite f m e).den ∧
      ((Spread.ofFinite f m e).low / (Spread.ofFinite f m e).den : ℚ) ≤ (m - 1 / 4) * 2 ^ e := by
  have hone : (1 : ℚ) ≤ m := by exact_mod_cast hm
  have hunit : (0 : ℚ) < 2 ^ e := by positivity
  simp only [Spread.ofFinite]
  rw [quarter_div]
  split
  · rw [Nat.cast_sub (by omega)]
    push_cast
    constructor
    · nlinarith
    · linarith
  · rw [Nat.cast_sub (by omega)]
    push_cast
    constructor
    · nlinarith
    · nlinarith

end Number

/-! ## The first grid -/

/-- **The estimate of the first place is one too large at most**, for all powers of two that
occur. -/
lemma estimate_le {k : ℤ} (hlow : -1100 ≤ k) (hhigh : k ≤ 1100) :
    (10 : ℚ) ^ (k * 30103 / 100000 - 1) ≤ 2 ^ k := by
  have hall : ∀ i ∈ List.range 2201,
      10 ^ (((i : ℤ) - 1100) * 30103 / 100000 - 1).toNat * 2 ^ (-((i : ℤ) - 1100)).toNat ≤
        2 ^ ((i : ℤ) - 1100).toNat * 10 ^ (-(((i : ℤ) - 1100) * 30103 / 100000 - 1)).toNat := by
    decide +kernel
  have hk := hall (k + 1100).toNat (List.mem_range.mpr (by omega))
  rw [show ((k + 1100).toNat : ℤ) - 1100 = k by omega] at hk
  rw [zpow_eq_div (by norm_num), zpow_eq_div two_ne_zero,
    div_le_div_iff₀ (by positivity) (by positivity)]
  exact_mod_cast hk

/-- **The first grid is not beyond the number.** -/
lemma leadingPlace_le {s : Spread} (hmid : 0 < s.mid) (hden : 0 < s.den)
    (hlow : (2 : ℚ) ^ (-1074 : ℤ) ≤ s.mid / s.den) (hhigh : (s.mid / s.den : ℚ) < 2 ^ (1024 : ℤ)) :
    (10 : ℚ) ^ s.leadingPlace ≤ s.mid / s.den := by
  have hreaches {k : ℤ} (h : decide (s.den * tenTo k.toNat ≤ s.mid * tenTo (-k).toNat) = true) :
      (10 : ℚ) ^ k ≤ s.mid / s.den := by
    rw [decide_eq_true_eq] at h
    rw [zpow_eq_div (by norm_num), div_le_div_iff₀ (by positivity) (by exact_mod_cast hden),
      ← Spread.cast_tenTo, ← Spread.cast_tenTo, mul_comm]
    exact_mod_cast h
  rw [Spread.leadingPlace]
  split
  · rename_i h
    exact hreaches h
  split
  · rename_i h
    exact hreaches h
  split
  · rename_i h
    exact hreaches h
  · -- The last resort is not checked, but the estimate is one too large at most.
    obtain ⟨hleadingLow, hleadingHigh⟩ := leadingExponent_bounds hmid hden
    have hguess : Format.leadingExponent s.mid s.den ≤ (s.mid.log2 : ℤ) - s.den.log2 ∧
        (s.mid.log2 : ℤ) - s.den.log2 - 1 ≤ Format.leadingExponent s.mid s.den := by
      rw [Format.leadingExponent]
      split
      · omega
      · omega
    have hleast := (zpow_lt_zpow_iff_right₀ one_lt_two).mp (hlow.trans_lt hleadingHigh)
    have hgreatest := (zpow_lt_zpow_iff_right₀ one_lt_two).mp (hleadingLow.trans_lt hhigh)
    calc (10 : ℚ) ^ (((s.mid.log2 : ℤ) - s.den.log2 - 1) * 30103 / 100000 - 1)
        ≤ 2 ^ ((s.mid.log2 : ℤ) - s.den.log2 - 1) := estimate_le (by omega) (by omega)
      _ ≤ 2 ^ Format.leadingExponent s.mid s.den := zpow_le_zpow_right₀ one_le_two hguess.2
      _ ≤ s.mid / s.den := hleadingLow

/-! ## The shortest decimal -/

/-- **Dropping zeros does not change a decimal.** -/
lemma dropZeros_value (n : Nat) (g : ℤ) :
    ((dropZeros n g).1 : ℚ) * 10 ^ (dropZeros n g).2 = n * 10 ^ g := by
  induction n, g using dropZeros.induct with
  | case1 n g h ih =>
      have hten : n = n / 10 * 10 := by omega
      rw [dropZeros, dif_pos h, ih, zpow_add_one₀ (by norm_num)]
      conv_rhs => rw [hten]
      push_cast
      ring
  | case2 n g h => rw [dropZeros, dif_neg h]

/-- **The shortest decimal of a number** is positive and at most half a unit above it. -/
theorem shortestDecimal_bounds (f : Format) (tie : Tie) {m : Nat} {e : ℤ} (hm : 0 < m)
    (hprecision : m < 2 ^ 53) (he : -1074 ≤ e ∧ e ≤ 971) :
    0 < (shortestDecimal f tie m e).1 ∧
      ((shortestDecimal f tie m e).1 : ℚ) * 10 ^ (shortestDecimal f tie m e).2 ≤
        (m + 1 / 2) * 2 ^ e := by
  have hone : (1 : ℚ) ≤ m := by exact_mod_cast hm
  have hunit : (0 : ℚ) < 2 ^ e := by positivity
  have hmidEq := mid_ofFinite f e m
  have hhighEq := high_ofFinite f e m
  obtain ⟨hlowPos, hlowLe⟩ := low_ofFinite f e hm
  have hden : 0 < (Spread.ofFinite f m e).den := scaled_den_pos one_pos _
  have hdenPos : (0 : ℚ) < (Spread.ofFinite f m e).den := by exact_mod_cast hden
  have hroom : (m : ℚ) * 2 ^ e < 2 ^ 53 * 2 ^ e :=
    mul_lt_mul_of_pos_right (by exact_mod_cast hprecision) hunit
  have hmid : 0 < (Spread.ofFinite f m e).mid := by
    simp only [Spread.ofFinite, Nat.shiftLeft_eq]
    positivity
  have hplace : (10 : ℚ) ^ (Spread.ofFinite f m e).leadingPlace ≤ m * 2 ^ e := by
    rw [← hmidEq]
    apply leadingPlace_le hmid hden
    · rw [hmidEq]
      have hleast : (2 : ℚ) ^ (-1074 : ℤ) ≤ 2 ^ e := zpow_le_zpow_right₀ one_le_two he.1
      nlinarith
    · rw [hmidEq]
      calc (m : ℚ) * 2 ^ e < 2 ^ 53 * 2 ^ e := hroom
        _ ≤ 2 ^ 53 * 2 ^ (971 : ℤ) :=
            mul_le_mul_of_nonneg_left (zpow_le_zpow_right₀ one_le_two he.2) (by positivity)
        _ = 2 ^ (1024 : ℤ) := by
            rw [← zpow_natCast, ← zpow_add₀ two_ne_zero]
            norm_num
  have hpick : ∃ n, (Spread.ofFinite f m e).pick tie
      ((Spread.ofFinite f m e).leadingPlace - (17 : Nat)) = some n := by
    apply Spread.exists_pick hden
    · simp only [Spread.ofFinite, Nat.shiftLeft_eq]
      exact Nat.mul_lt_mul_of_pos_right (by omega) (by positivity)
    · -- Seventeen places more are finer than a number of fifty-three bits.
      have hstep : (10 : ℚ) ^ ((Spread.ofFinite f m e).leadingPlace - (17 : Nat)) =
          10 ^ (Spread.ofFinite f m e).leadingPlace / 10 ^ 17 := by
        rw [zpow_sub₀ (by norm_num), zpow_natCast]
      rw [hstep, hmidEq]
      linarith
  obtain ⟨hlower, hupper⟩ := Spread.contains_bounds hden (Spread.contains_search hpick)
  have hvalue := dropZeros_value
    ((Spread.ofFinite f m e).search tie 17 (Spread.ofFinite f m e).leadingPlace).1
    ((Spread.ofFinite f m e).search tie 17 (Spread.ofFinite f m e).leadingPlace).2
  rw [← hvalue] at hlower hupper
  refine ⟨?_, hupper.trans_eq hhighEq⟩
  rw [pos_iff_ne_zero]
  intro hzero
  rw [shortestDecimal] at hzero
  rw [hzero, Nat.cast_zero, zero_mul] at hlower
  linarith

end BoundSql.Floating
