import BoundSql.Floating.Layout
import BoundSql.Proofs.Floating.Shortest
import BoundSql.Proofs.Json.Literal
import BoundSql.Proofs.Json.Reading

/-!
# Floating-point numbers that are written and read

What is written for a finite number is a literal, and the literal denotes a number again: it is at
most half a unit beyond the number, so it is not beyond the middle between the two greatest numbers.
The greatest number itself is the one exception, and its own text is read.

* `NumberLiteral.write`, `NumberLiteral.Grammatical` — the text of a literal.
* `readNumber_write` — the text of a literal is read as the literal.
* `NumberLiteral.Renders` — a literal as the text of a decimal.
* **`exists_renders_decimal`** — a decimal is written as a literal.
* **`exists_literal`** — a finite number is written as a literal that denotes a number.
-/

namespace BoundSql.Json

open Decimal Floating

/-! ## The text of a literal -/

/-- The text of an exponent. -/
def exponentText : Option (Bool × List Char) → List Char
  | none => []
  | some (negative, ds) => 'e' :: (if negative then '-' else '+') :: ds

namespace NumberLiteral

/-- The text of a literal, sign apart. -/
def write (l : NumberLiteral) : List Char :=
  l.whole ++ ((if l.fraction = [] then [] else '.' :: l.fraction) ++ exponentText l.exponent)

/-- **A literal as the grammar has it.** -/
structure Grammatical (l : NumberLiteral) : Prop where
  whole_ne_nil : l.whole ≠ []
  whole : allDigits l.whole = true
  lead : l.whole.head? = some '0' → l.whole.length = 1
  fraction : allDigits l.fraction = true
  exponent : ∀ e ∈ l.exponent, e.2 ≠ [] ∧ allDigits e.2 = true

end NumberLiteral

section Ending

variable {rest : List Char}

lemma takeWhile_exponentText (hends : Ends rest) (e : Option (Bool × List Char)) :
    (exponentText e ++ rest).takeWhile Char.isDigit = [] := by
  cases e with
  | none => exact hends.takeWhile_isDigit
  | some e => rfl

lemma dropWhile_exponentText (hends : Ends rest) (e : Option (Bool × List Char)) :
    (exponentText e ++ rest).dropWhile Char.isDigit = exponentText e ++ rest := by
  cases e with
  | none => exact hends.dropWhile_isDigit
  | some e => rfl

/-- Neither an exponent nor what follows a value starts with a point. -/
lemma exponentText_ne_point (hends : Ends rest) (e : Option (Bool × List Char)) (cs : List Char) :
    exponentText e ++ rest ≠ '.' :: cs := by
  intro h
  cases e with
  | none =>
      have hpoint : rest = '.' :: cs := h
      subst hpoint
      exact absurd (hends '.' rfl) (by decide)
  | some e => exact absurd (List.cons.inj h).1 (by decide)

lemma takeWhile_digits (hends : Ends rest) {ds : List Char} (hds : allDigits ds = true)
    (e : Option (Bool × List Char)) :
    (ds ++ (exponentText e ++ rest)).takeWhile Char.isDigit = ds ∧
      (ds ++ (exponentText e ++ rest)).dropWhile Char.isDigit = exponentText e ++ rest := by
  have hdigits := allDigits_iff.mp hds
  rw [List.takeWhile_append_of_pos hdigits, List.dropWhile_append_of_pos hdigits,
    takeWhile_exponentText hends, dropWhile_exponentText hends, List.append_nil]
  exact ⟨rfl, rfl⟩

lemma readExponent_exponentText (hends : Ends rest) {e : Option (Bool × List Char)}
    (h : ∀ p ∈ e, p.2 ≠ [] ∧ allDigits p.2 = true) :
    readExponent (exponentText e ++ rest) = some (e, rest) := by
  cases e with
  | none =>
      cases rest with
      | nil => rfl
      | cons c rest => rcases hends c rfl with rfl | rfl | rfl <;> rfl
  | some e =>
      obtain ⟨negative, ds⟩ := e
      obtain ⟨hne, hds⟩ := h _ rfl
      have hspan := takeWhile_digits hends hds none
      rw [exponentText, List.nil_append] at hspan
      have hempty : ds.isEmpty = false := List.isEmpty_eq_false_iff.mpr hne
      cases negative with
      | true => simp [exponentText, readExponent, hspan, hempty]
      | false => simp [exponentText, readExponent, hspan, hempty]

/-- **The text of a literal is read as the literal.** -/
lemma readNumber_write (hends : Ends rest) {l : NumberLiteral} (h : l.Grammatical) :
    readNumber l.negative (l.write ++ rest) = some (l, rest) := by
  have hne : l.whole.isEmpty = false := List.isEmpty_eq_false_iff.mpr h.whole_ne_nil
  have hlead : (l.whole.head? == some '0' && l.whole.length ≠ 1) = false := by
    by_cases hzero : l.whole.head? = some '0'
    · simp [h.lead hzero]
    · simp [hzero]
  obtain ⟨negative, whole, fraction, exponent⟩ := l
  have hexponent := readExponent_exponentText hends h.exponent
  have hdigits := allDigits_iff.mp h.whole
  rw [NumberLiteral.write, readNumber]
  cases fraction with
  | nil =>
      obtain ⟨htake, hdrop⟩ := takeWhile_digits hends h.whole exponent
      simp only [if_true, List.nil_append, List.append_assoc, htake, hdrop, hne, hlead]
      simp only [Bool.or_self, Bool.false_eq_true, if_false]
      split
      · rename_i tail heq
        exact absurd heq (exponentText_ne_point hends exponent tail)
      · rw [hexponent]
        rfl
  | cons c fraction =>
      obtain ⟨htake, hdrop⟩ := takeWhile_digits hends h.fraction exponent
      have hpoint (tail : List Char) : ('.' :: tail).takeWhile Char.isDigit = [] := rfl
      have hpoint' (tail : List Char) : ('.' :: tail).dropWhile Char.isDigit = '.' :: tail := rfl
      simp only [reduceCtorEq, if_false, List.append_assoc, List.cons_append,
        List.takeWhile_append_of_pos hdigits, List.dropWhile_append_of_pos hdigits, hpoint, hpoint',
        List.append_nil, hne, hlead]
      rw [List.cons_append] at htake hdrop
      simp only [Bool.or_self, Bool.false_eq_true, if_false, htake, hdrop, hexponent]
      rfl

end Ending

/-! ## Decimals -/

/-- **A literal that is the text of a decimal**, and is no whole number by its form. -/
structure NumberLiteral.Renders (l : NumberLiteral) (cs : List Char) (decimal : ℚ) : Prop where
  write : l.write = cs
  grammatical : l.Grammatical
  decimalValue : l.decimalValue = decimal
  whole_length : l.whole.length ≤ 16
  real : l.fraction ≠ [] ∨ l.exponent ≠ none

section Decimal

variable {n : Nat} {g : Int}

/-- Digits with a point between them. -/
lemma renders_point (negative : Bool) (whole fraction : List Char) (k : Nat) (hne : whole ≠ [])
    (hdigits : allDigits (whole ++ fraction) = true)
    (hlead : whole.head? = some '0' → whole.length = 1) (hlength : whole.length ≤ 16)
    (hfraction : fraction ≠ []) (hvalue : value (whole ++ fraction) = n * 10 ^ k)
    (hplace : g = k - fraction.length) :
    NumberLiteral.Renders ⟨negative, whole, fraction, none⟩ (whole ++ '.' :: fraction)
      (n * 10 ^ g) := by
  rw [allDigits_append, Bool.and_eq_true] at hdigits
  refine ⟨?_, ⟨hne, hdigits.1, hlead, hdigits.2, nofun⟩, ?_, hlength, .inl hfraction⟩
  · rw [NumberLiteral.write, if_neg hfraction, exponentText, List.append_nil]
  · have hpower : g = k + ((0 : Int) - fraction.length) := by omega
    rw [NumberLiteral.decimalValue, hvalue, NumberLiteral.power, hpower, zpow_add₀ (by norm_num)]
    push_cast
    rw [zpow_natCast, mul_assoc]

/-- **Digits with a point are a literal**: below one, as a whole number, and with the point between
the digits. -/
lemma exists_renders_pointed (negative : Bool) (hn : 0 < n)
    (hplace : g + (digits n).length - 1 ≤ 15) :
    ∃ l : NumberLiteral, l.negative = negative ∧ l.exponent = none ∧
      l.Renders (Layout.pointed true (digits n) (g + (digits n).length - 1)) (n * 10 ^ g) := by
  have hne := digits_ne_nil n
  have hdigits := allDigits_digits n
  have hlead := head?_digits_ne hn.ne'
  have hvalue := value_digits n
  have hlength := List.length_pos_iff.mpr hne
  generalize digits n = cs at *
  rw [Layout.pointed]
  split
  · refine ⟨_, rfl, rfl, renders_point negative ['0'] _ 0 ?_ ?_ ?_ ?_ ?_ ?_ ?_⟩
    · exact List.cons_ne_nil _ _
    · rw [allDigits_append, allDigits_append, allDigits_replicate_zero, hdigits]
      rfl
    · exact fun _ => rfl
    · exact Nat.le_of_ble_eq_true rfl
    · exact List.append_ne_nil_of_right_ne_nil _ hne
    · have hzero := value_replicate_zero_append 1 (List.replicate
        ((-(g + cs.length - 1)).toNat - 1) '0' ++ cs)
      rw [List.replicate_one, value_replicate_zero_append, hvalue] at hzero
      rw [hzero, Nat.pow_zero, Nat.mul_one]
    · rw [List.length_append, List.length_replicate]
      omega
  simp only [if_true]
  split
  · refine ⟨_, rfl, rfl, renders_point negative _ ['0']
      ((g + cs.length - 1).toNat + 1 - cs.length + 1) ?_ ?_ ?_ ?_ ?_ ?_ ?_⟩
    · exact List.append_ne_nil_of_left_ne_nil hne _
    · rw [allDigits_append, allDigits_append, allDigits_replicate_zero, hdigits]
      rfl
    · rw [List.head?_append_of_ne_nil _ hne]
      exact fun h => absurd h hlead
    · rw [List.length_append, List.length_replicate]
      omega
    · exact List.cons_ne_nil _ _
    · rw [List.append_assoc, ← List.replicate_one, List.replicate_append_replicate,
        value_append_replicate_zero, hvalue]
    · rw [List.length_singleton]
      omega
  · rename_i hlong
    obtain ⟨c, rest, rfl⟩ := List.exists_cons_of_ne_nil hne
    refine ⟨_, rfl, rfl, renders_point negative _ _ 0 ?_ ?_ ?_ ?_ ?_ ?_ ?_⟩
    · exact List.cons_ne_nil _ _
    · rwa [List.take_append_drop]
    · exact fun h => absurd h hlead
    · rw [List.length_take]
      omega
    · rw [ne_eq, List.drop_eq_nil_iff]
      exact hlong
    · rw [List.take_append_drop, hvalue, Nat.pow_zero, Nat.mul_one]
    · rw [List.length_drop]
      omega

/-- **Digits with an exponent are a literal.** -/
lemma exists_renders_scientific (negative : Bool) (n : Nat) (g : Int) :
    ∃ l : NumberLiteral, l.negative = negative ∧ l.power = g + (digits n).length - 1 ∧
      l.Renders (Layout.scientific true (digits n) (g + (digits n).length - 1)) (n * 10 ^ g) := by
  have hne := digits_ne_nil n
  have hdigits := allDigits_digits n
  have hvalue := value_digits n
  generalize digits n = cs at *
  obtain ⟨c, rest, rfl⟩ := List.exists_cons_of_ne_nil hne
  rw [allDigits_cons, Bool.and_eq_true] at hdigits
  generalize hplace : g + (c :: rest).length - 1 = place
  have hpower : (if decide (place < 0) then -(value (digits place.natAbs) : Int)
      else value (digits place.natAbs)) = place := by
    simp only [value_digits, decide_eq_true_eq]
    split <;> omega
  refine ⟨⟨negative, [c], rest, some (decide (place < 0), digits place.natAbs)⟩, rfl, hpower, ?_,
    ⟨List.cons_ne_nil _ _, ?_, fun _ => rfl, hdigits.2, ?_⟩, ?_, ?_, .inr (Option.some_ne_none _)⟩
  · have hsign : (if place < 0 then ['-'] else ['+']) = [if place < 0 then '-' else '+'] := by
      split <;> rfl
    simp only [NumberLiteral.write, exponentText, Layout.scientific, if_true, hsign]
    cases rest with
    | nil => simp
    | cons d rest => simp
  · rw [allDigits_cons, hdigits.1]
    rfl
  · rintro e ⟨⟩
    exact ⟨digits_ne_nil _, allDigits_digits _⟩
  · have hlast : place - rest.length = g := by
      rw [List.length_cons] at hplace
      omega
    rw [NumberLiteral.decimalValue, NumberLiteral.power]
    simp only [hpower]
    rw [hlast, List.singleton_append, hvalue]
  · exact Nat.le_of_ble_eq_true rfl

/-- **A decimal is written as a literal**, whose power is not greater than the place of the first
digit. -/
theorem exists_renders_decimal (negative : Bool) (hn : 0 < n) (g : Int) :
    ∃ l : NumberLiteral, l.negative = negative ∧ l.power ≤ max 0 (g + (digits n).length - 1) ∧
      l.Renders (Layout.document.decimal n g) (n * 10 ^ g) := by
  have hdecimal : Layout.document.decimal n g =
      if decide (-5 ≤ g + (digits n).length - 1) && decide (g + (digits n).length - 1 ≤ 15) then
        Layout.pointed true (digits n) (g + (digits n).length - 1)
      else Layout.scientific true (digits n) (g + (digits n).length - 1) := rfl
  rw [hdecimal, ← Bool.decide_and]
  split
  · rename_i hpositional
    rw [decide_eq_true_eq] at hpositional
    obtain ⟨l, hnegative, hexponent, hrenders⟩ := exists_renders_pointed negative hn hpositional.2
    refine ⟨l, hnegative, le_max_of_le_left ?_, hrenders⟩
    rw [NumberLiteral.power, hexponent]
  · obtain ⟨l, hnegative, hpower, hrenders⟩ := exists_renders_scientific negative n g
    exact ⟨l, hnegative, hpower.le.trans (le_max_right _ _), hrenders⟩

/-- The first digit of a number counts its power of ten once at least. -/
lemma pow_length_digits_le (hn : 0 < n) : 10 ^ ((digits n).length - 1) ≤ n := by
  by_contra hless
  rcases Nat.eq_zero_or_pos ((digits n).length - 1) with hone | hmore
  · rw [hone] at hless
    omega
  · have hlength := length_digits_le hmore (not_le.mp hless)
    omega

end Decimal

/-- **A decimal that is not beyond the middle between the two greatest numbers is read as a
number.** -/
lemma NumberLiteral.Renders.exists_real {l : NumberLiteral} {cs : List Char} {decimal : ℚ}
    (h : l.Renders cs decimal) (hpower : l.power ≤ greatestExponent)
    (hdecimal : decimal ≤ Binary64.halfBelowGreatest) : ∃ y, l.number? = some (.real y) := by
  have hwhole : value l.whole ≤ greatestWord := by
    have hlt := value_lt h.grammatical.whole
    have hle : 10 ^ l.whole.length ≤ 10 ^ 16 := Nat.pow_le_pow_right (by decide) h.whole_length
    rw [greatestWord]
    omega
  have hreal : (!l.fraction.isEmpty || l.exponent.isSome || decide (greatestWord < value l.whole)) =
      true := by
    rcases h.real with hfraction | hexponent
    · rw [List.isEmpty_eq_false_iff.mpr hfraction]
      rfl
    · rw [Option.isSome_iff_ne_none.mpr hexponent, Bool.or_true, Bool.true_or]
  obtain ⟨y, hy⟩ := exists_real? hwhole hpower (h.decimalValue.trans_le hdecimal)
  rw [number?, if_pos hreal, hy]
  exact ⟨y, rfl⟩

/-! ## Finite numbers -/

/-- The text of a positive number other than the greatest. -/
lemma exists_literal_of_bounds (negative : Bool) {n : Nat} {g : Int} (hn : 0 < n)
    (hle : (n : ℚ) * 10 ^ g ≤ Binary64.halfBelowGreatest) :
    ∃ l : NumberLiteral, l.negative = negative ∧ l.Grammatical ∧
      l.write = Layout.document.decimal n g ∧ ∃ y, l.number? = some (.real y) := by
  obtain ⟨l, hnegative, hpower, hrenders⟩ := exists_renders_decimal negative hn g
  refine ⟨l, hnegative, hrenders.grammatical, hrenders.write, hrenders.exists_real ?_ hle⟩
  -- The first digit is at the three hundred and ninth place at most, as that of the middle is.
  have hlength := List.length_pos_iff.mpr (digits_ne_nil n)
  by_contra hgreat
  obtain ⟨k, hk⟩ : ∃ k : Nat, g + ((digits n).length - 1 : Nat) = k :=
    Int.eq_ofNat_of_zero_le (by omega)
  have hplace : 309 ≤ k := by
    rw [greatestExponent] at hgreat
    omega
  have hfirst : ((10 ^ ((digits n).length - 1) : Nat) : ℚ) ≤ n :=
    Nat.cast_le.mpr (pow_length_digits_le hn)
  have hproduct : ((tenTo k : Nat) : ℚ) ≤ n * 10 ^ g := by
    rw [Spread.cast_tenTo, ← zpow_natCast, ← hk, zpow_add₀ (by norm_num), zpow_natCast, mul_comm]
    rw [Nat.cast_pow] at hfirst
    exact mul_le_mul_of_nonneg_right hfirst (by positivity)
  have hmiddle : tenTo k ≤ Binary64.halfBelowGreatest := Nat.cast_le.mp (hproduct.trans hle)
  exact absurd hmiddle (not_le.mpr (Binary64.halfBelowGreatest_lt hplace))

/-- The literal of the greatest number. -/
def greatestLiteral (negative : Bool) : NumberLiteral :=
  ⟨negative, ['1'], "7976931348623157".toList, some (false, ['3', '0', '8'])⟩

/-- **The greatest number is written as this literal**, and the product that the literal names is
finite. -/
lemma greatestLiteral_spec :
    shortestDecimal binary64Format .toEven (2 ^ 53 - 1) 971 = (17976931348623157, 292) ∧
      (∀ negative, (greatestLiteral negative).write =
        Layout.document.decimal 17976931348623157 292) ∧
      ((Binary64.ofInt 17976931348623157).timesPower 292).isInfinite = false := by
  decide +kernel

lemma grammatical_greatestLiteral (negative : Bool) : (greatestLiteral negative).Grammatical := by
  refine ⟨List.cons_ne_nil _ _, rfl, fun _ => rfl, ?_, ?_⟩
  · cases negative <;> decide
  · rintro e ⟨⟩
    exact ⟨List.cons_ne_nil _ _, rfl⟩

/-- **The literal of the greatest number denotes a number**, although it is beyond the middle. -/
lemma exists_number?_greatestLiteral (negative : Bool) :
    ∃ y, (greatestLiteral negative).number? = some (.real y) := by
  have hscale : ∃ y, scale? (.ofInt 17976931348623157) 292 = some y := by
    rw [scale?, if_neg (by decide), if_pos (by decide)]
    exact ⟨_, if_neg (by simpa using greatestLiteral_spec.2.2)⟩
  obtain ⟨y, hy⟩ := hscale
  have hsignificand : (greatestLiteral negative).significand = 17976931348623157 := by
    cases negative <;> decide
  have hplace : (greatestLiteral negative).place + (greatestLiteral negative).power = 292 := by
    cases negative <;> decide
  have hpower : ¬ greatestExponent < (greatestLiteral negative).power.natAbs := by
    cases negative <;> decide
  have hreal : (greatestLiteral negative).real? =
      some (if (greatestLiteral negative).negative then y.negate else y) := by
    rw [NumberLiteral.real?_eq, if_neg hpower, hsignificand, hplace]
    exact congrArg _ hy
  have hform : (greatestLiteral negative).exponent.isSome = true := rfl
  rw [NumberLiteral.number?, hform, Bool.or_true, Bool.true_or, if_pos rfl, hreal]
  exact ⟨_, rfl⟩

lemma exists_literal_zero (negative : Bool) :
    ∃ l : NumberLiteral, l.negative = negative ∧ l.Grammatical ∧
      l.write = Layout.pointed true ['0'] 0 ∧ ∃ y, l.number? = some (.real y) := by
  have hrenders : NumberLiteral.Renders ⟨negative, ['0'], ['0'], none⟩ ['0', '.', '0']
      ((0 : Nat) * 10 ^ (-1 : Int)) :=
    renders_point negative ['0'] ['0'] 0 (List.cons_ne_nil _ _) rfl (fun _ => rfl)
      (Nat.le_of_ble_eq_true rfl) (List.cons_ne_nil _ _) rfl rfl
  refine ⟨_, rfl, hrenders.grammatical, hrenders.write, hrenders.exists_real ?_ ?_⟩
  · exact Int.natCast_nonneg greatestExponent
  · rw [Nat.cast_zero, zero_mul]
    exact Nat.cast_nonneg _

/-- **A finite number is written as a literal that denotes a number.** -/
theorem exists_literal {x : Binary64} (hx : x.IsFinite) : ∃ l : NumberLiteral, l.Grammatical ∧
    Layout.document.write x = (if l.negative then '-' :: l.write else l.write) ∧
      ∃ y, l.number? = some (.real y) := by
  have hdatum := Binary64.datum_of_isFinite hx
  obtain ⟨hprecision, hexponent⟩ := Binary64.significand_exponent_bounds hx
  have hhalf := Binary64.half_above_le hx
  generalize hm : binary64Format.significandOf x.magnitude = m at *
  generalize he : binary64Format.exponentOf x.magnitude = e at *
  generalize decide (binary64Format.signBit ≤ x.bits.toNat) = negative at *
  suffices h : ∃ l : NumberLiteral, l.negative = negative ∧ l.Grammatical ∧
      l.write = (if m = 0 then Layout.pointed true ['0'] 0
        else Layout.document.decimal (shortestDecimal binary64Format .toEven m e).1
          (shortestDecimal binary64Format .toEven m e).2) ∧ ∃ y, l.number? = some (.real y) by
    obtain ⟨l, hnegative, hgrammatical, hwrite, hnumber⟩ := h
    refine ⟨l, hgrammatical, ?_, hnumber⟩
    rw [hnegative, hwrite]
    simp only [Layout.write, hdatum]
    rfl
  split
  · exact exists_literal_zero negative
  · rename_i hne
    by_cases hgreatest : x.magnitude = Binary64.greatestBits
    · have hlast : m = 2 ^ 53 - 1 ∧ e = 971 := by
        rw [← hm, ← he, hgreatest]
        decide
      rw [hlast.1, hlast.2, greatestLiteral_spec.1]
      exact ⟨greatestLiteral negative, rfl, grammatical_greatestLiteral negative,
        greatestLiteral_spec.2.1 negative, exists_number?_greatestLiteral negative⟩
    · obtain ⟨hpos, hle⟩ := shortestDecimal_bounds binary64Format .toEven (Nat.pos_of_ne_zero hne)
        hprecision hexponent
      exact exists_literal_of_bounds negative hpos (hle.trans (hhalf hgreatest))

end BoundSql.Json
