import BoundSql.Json.Parser
import BoundSql.Proofs.Decimal.Integer
import BoundSql.Proofs.Floating.Finite

/-!
# What number literals denote

A literal denotes a finite number, if it denotes a number at all.  It does if it is not beyond the
middle between the two greatest numbers: the digits that are dropped only make it less.

* `Number.IsFinite` — the numbers of documents.
* **`number?_isFinite`** — what a literal denotes is finite.
* `NumberLiteral.decimalValue` — the decimal that a literal stands for.
* `absorb_eq` — the digits taken in are the first ones.
* **`exists_real?`** — a literal that is not beyond the middle denotes a number.
-/

namespace BoundSql.Json

open Decimal Floating

/-- A finite number. -/
def Number.IsFinite : Number → Prop
  | .whole _ => True
  | .real x => x.IsFinite

/-! ## Powers of ten -/

section Scale

variable {x y : Binary64} {e : Int}

/-- **What is scaled stays finite.** -/
lemma isFinite_of_scale? (hx : x.IsFinite) (h : scale? x e = some y) : y.IsFinite := by
  induction x, e using scale?.induct with
  | case1 x e hgreat hzero =>
      rw [scale?, if_pos hgreat, if_pos hzero] at h
      cases h
      exact hx
  | case2 x e hgreat hzero =>
      rw [scale?, if_pos hgreat, if_neg hzero] at h
      cases h
  | case3 x e hgreat hpositive z hinfinite =>
      rw [scale?, if_neg hgreat, if_pos hpositive] at h
      simp only [z, hinfinite, if_true] at h
      cases h
  | case4 x e hgreat hpositive z hinfinite =>
      rw [scale?, if_neg hgreat, if_pos hpositive] at h
      simp only [z, hinfinite] at h
      cases h
      apply Binary64.isFinite_of_isInfinite_eq_false
      · rw [Binary64.magnitude_timesPower hx (by omega)]
        exact Binary64.magnitudeBits_le _ _
      · simpa using hinfinite
  | case5 x e hgreat hpositive hstep =>
      rw [scale?, if_neg hgreat, if_neg hpositive, if_pos hstep] at h
      cases h
      exact Binary64.isFinite_overPower hx (by omega)
  | case6 x e hgreat hpositive hstep hzero =>
      rw [scale?, if_neg hgreat, if_neg hpositive, if_neg hstep, if_pos hzero] at h
      cases h
      exact hx
  | case7 x e hgreat hpositive hstep hzero ih =>
      rw [scale?, if_neg hgreat, if_neg hpositive, if_neg hstep, if_neg hzero] at h
      exact ih (Binary64.isFinite_overPower hx (by omega)) h

/-- A quotient is always a number. -/
lemma exists_scale?_of_neg (x : Binary64) (he : e < 0) : ∃ y, scale? x e = some y := by
  induction x, e using scale?.induct with
  | case1 x e hgreat hzero => omega
  | case2 x e hgreat hzero => omega
  | case3 x e hgreat hpositive z hinfinite => omega
  | case4 x e hgreat hpositive z hinfinite => omega
  | case5 x e hgreat hpositive hstep =>
      rw [scale?, if_neg hgreat, if_neg hpositive, if_pos hstep]
      exact ⟨_, rfl⟩
  | case6 x e hgreat hpositive hstep hzero =>
      rw [scale?, if_neg hgreat, if_neg hpositive, if_neg hstep, if_pos hzero]
      exact ⟨_, rfl⟩
  | case7 x e hgreat hpositive hstep hzero ih =>
      rw [scale?, if_neg hgreat, if_neg hpositive, if_neg hstep, if_neg hzero]
      exact ih (by omega)

/-- **A product that is not beyond the middle between the two greatest numbers is a number.** -/
lemma exists_scale? {n : Nat} (hn : n ≤ greatestWord)
    (h : (n : ℚ) * 10 ^ e ≤ Binary64.halfBelowGreatest) : ∃ y, scale? (.ofInt n) e = some y := by
  rcases lt_or_ge e 0 with hneg | hnonneg
  · exact exists_scale?_of_neg _ hneg
  obtain ⟨k, rfl⟩ := Int.eq_ofNat_of_zero_le hnonneg
  rw [zpow_natCast] at h
  have hproduct : n * 10 ^ k ≤ Binary64.halfBelowGreatest := by exact_mod_cast h
  rw [scale?]
  split
  · -- Only zero is scaled so far.
    rename_i hgreat
    have hzero : n = 0 := by
      by_contra hne
      have hpower : tenTo k ≤ n * 10 ^ k := Nat.le_mul_of_pos_left _ (Nat.pos_of_ne_zero hne)
      have hless : Binary64.halfBelowGreatest < tenTo k := Binary64.halfBelowGreatest_lt (by omega)
      exact absurd (hpower.trans hproduct) (not_le.mpr hless)
    subst hzero
    exact ⟨_, if_pos (by decide)⟩
  · rename_i hsmall
    have hfinite := Binary64.isFinite_timesPower_of_le (Nat.lt_succ_of_le hn) (by omega) hproduct
    simp only [Int.toNat_natCast, Binary64.isInfinite_eq_false hfinite]
    exact ⟨_, rfl⟩

end Scale

/-! ## Digits taken in -/

/-- **The digits taken in are the first ones**, and their number fits in eight bytes. -/
lemma absorb_eq {acc : Nat} (hacc : acc ≤ greatestWord) (cs : List Char) :
    ∃ taken, cs = taken ++ (absorb acc cs).2 ∧
      (absorb acc cs).1 = acc * 10 ^ taken.length + value taken ∧
      (absorb acc cs).1 ≤ greatestWord := by
  induction cs generalizing acc with
  | nil => exact ⟨[], rfl, by simp [absorb, value], hacc⟩
  | cons c rest ih =>
      rw [absorb]
      split
      · rename_i hfits
        obtain ⟨taken, hrest, hvalue, hle⟩ := ih hfits
        refine ⟨c :: taken, by rw [List.cons_append, ← hrest], ?_, hle⟩
        rw [hvalue, value_cons, List.length_cons, Nat.pow_succ]
        ring
      · exact ⟨[], rfl, by simp [value], hacc⟩

/-- **All digits are taken in if their number fits.** -/
lemma absorb_of_le {acc : Nat} {cs : List Char}
    (h : acc * 10 ^ cs.length + value cs ≤ greatestWord) :
    absorb acc cs = (acc * 10 ^ cs.length + value cs, []) := by
  induction cs generalizing acc with
  | nil => simp [absorb, value]
  | cons c rest ih =>
      have hnext : acc * 10 ^ (c :: rest).length + value (c :: rest) =
          (acc * 10 + digitValue c) * 10 ^ rest.length + value rest := by
        rw [value_cons, List.length_cons, Nat.pow_succ]
        ring
      rw [hnext] at h ⊢
      have hfits : acc * 10 + digitValue c ≤ greatestWord :=
        (Nat.le_mul_of_pos_right _ (Nat.pow_pos (by decide))).trans
          ((Nat.le_add_right _ (value rest)).trans h)
      rw [absorb, if_pos hfits, ih h]

/-! ## Literals -/

namespace NumberLiteral

variable {l : NumberLiteral}

/-- The power of ten that a literal names. -/
def power (l : NumberLiteral) : Int :=
  match l.exponent with
  | none => 0
  | some (negative, ds) => if negative then -(value ds) else value ds

/-- **The decimal that a literal stands for**, sign apart. -/
def decimalValue (l : NumberLiteral) : ℚ :=
  value (l.whole ++ l.fraction) * 10 ^ (l.power - l.fraction.length)

/-- The digits of a literal that are taken in. -/
def significand (l : NumberLiteral) : Nat := (absorb (absorb 0 l.whole).1 l.fraction).1

/-- The place of the last digit that is taken in, before the power is counted. -/
def place (l : NumberLiteral) : Int :=
  (absorb 0 l.whole).2.length -
    (l.fraction.length - (absorb (absorb 0 l.whole).1 l.fraction).2.length : Nat)

/-- **The number of a literal is scaled once**, by its place and its power together. -/
lemma real?_eq (l : NumberLiteral) : l.real? =
    (if greatestExponent < l.power.natAbs then
        if l.significand ≠ 0 ∧ 0 < l.power then none else some (.ofInt 0)
      else scale? (.ofInt l.significand) (l.place + l.power)).map
    fun x => if l.negative then x.negate else x := by
  cases hexponent : l.exponent with
  | none =>
      simp only [real?, power, hexponent]
      rw [if_neg (by decide), add_zero]
      rfl
  | some e =>
      obtain ⟨negative, ds⟩ := e
      simp only [real?, power, hexponent]
      by_cases hgreat : greatestExponent < value ds
      · cases negative with
        | true => simp [hgreat]
        | false =>
            have hpos : 0 < value ds := by omega
            simp [hgreat, hpos, significand]
      · cases negative with
        | true => simp [hgreat, significand, place, sub_eq_add_neg]
        | false => simp [hgreat, significand, place]

lemma significand_le (l : NumberLiteral) : l.significand ≤ greatestWord := by
  obtain ⟨-, -, -, hlead⟩ := absorb_eq (Nat.zero_le _) l.whole
  obtain ⟨-, -, -, hle⟩ := absorb_eq hlead l.fraction
  exact hle

/-- A floating-point number that a literal denotes is finite. -/
lemma real?_isFinite {x : Binary64} (h : l.real? = some x) : x.IsFinite := by
  rw [real?_eq] at h
  obtain ⟨y, hy, rfl⟩ := Option.map_eq_some_iff.mp h
  have hfinite : y.IsFinite := by
    split at hy
    · split at hy
      · cases hy
      · cases hy
        exact Binary64.isFinite_ofInt (by decide)
    · exact isFinite_of_scale? (Binary64.isFinite_ofInt (Nat.lt_succ_of_le l.significand_le)) hy
  split
  · exact Binary64.isFinite_negate hfinite
  · exact hfinite

/-- **What a literal denotes is finite.** -/
theorem number?_isFinite {n : Number} (h : l.number? = some n) : n.IsFinite := by
  rw [number?] at h
  split at h
  · obtain ⟨x, hx, rfl⟩ := Option.map_eq_some_iff.mp h
    exact real?_isFinite hx
  · rename_i hword
    have hle : value l.whole ≤ greatestWord := by
      by_contra hgreat
      simp [hgreat] at hword
    split at h
    · cases h
      trivial
    split at h
    · cases h
      exact Binary64.isFinite_negate (Binary64.isFinite_ofInt (Nat.lt_succ_of_le hle))
    · cases h
      trivial

/-- The digits taken in are not beyond the literal: those that count for nothing only add to it. -/
lemma significand_le_decimalValue (hwhole : value l.whole ≤ greatestWord) :
    (l.significand : ℚ) * 10 ^ (l.place + l.power) ≤ l.decimalValue := by
  have hlead : absorb 0 l.whole = (value l.whole, []) := by
    have hall : absorb 0 l.whole = (0 * 10 ^ l.whole.length + value l.whole, []) :=
      absorb_of_le (by omega)
    rwa [Nat.zero_mul, Nat.zero_add] at hall
  obtain ⟨taken, hfraction, hvalue, -⟩ := absorb_eq hwhole l.fraction
  have hsignificand : l.significand = value (l.whole ++ taken) := by
    rw [significand, hlead, hvalue, value_append]
  rw [decimalValue, place, hlead, hsignificand]
  generalize (absorb (value l.whole) l.fraction).2 = ignored at *
  have hplace : (([] : List Char).length : Int) - (l.fraction.length - ignored.length : Nat) +
      l.power = l.power - l.fraction.length + ignored.length := by
    rw [hfraction, List.length_append]
    push_cast
    simp
    omega
  have hdigits :
      value (l.whole ++ taken) * 10 ^ ignored.length ≤ value (l.whole ++ l.fraction) := by
    rw [hfraction, ← List.append_assoc, value_append (l.whole ++ taken)]
    exact Nat.le_add_right _ _
  rw [hplace, zpow_add₀ (by norm_num), zpow_natCast, mul_left_comm, mul_comm]
  exact mul_le_mul_of_nonneg_right (by exact_mod_cast hdigits) (by positivity)

/-- **A literal that is not beyond the middle between the two greatest numbers denotes a number.**
One whose power is far below zero counts as zero. -/
theorem exists_real? (hwhole : value l.whole ≤ greatestWord) (hpower : l.power ≤ greatestExponent)
    (h : l.decimalValue ≤ Binary64.halfBelowGreatest) : ∃ x, l.real? = some x := by
  rw [real?_eq]
  rcases Nat.lt_or_ge greatestExponent l.power.natAbs with hgreat | hsmall
  · have hneg : ¬ (l.significand ≠ 0 ∧ 0 < l.power) := by omega
    rw [if_pos hgreat, if_neg hneg]
    exact ⟨_, rfl⟩
  · obtain ⟨y, hy⟩ := exists_scale? l.significand_le ((significand_le_decimalValue hwhole).trans h)
    rw [if_neg (not_lt.mpr hsmall), hy]
    exact ⟨_, rfl⟩

end NumberLiteral

end BoundSql.Json
