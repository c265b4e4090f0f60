import BoundSql.Proofs.Wire.Numeric.Number
import BoundSql.Proofs.Wire.Numeric.Stored
import Mathlib.Data.Rat.Floor
import Mathlib.Tactic.Linarith

/-!
# What is shown of a number

A payload says how many places are shown of its number, and the digits behind them are cut off.  The
weight, the number of digits and the scale are independent of each other: zeros are implied on both
sides of the digits, and the cut may lie inside a digit, behind all of them or in front of them.

* `cutTo` — a number cut off behind so many decimal places, towards zero.
* **`weighed_digitsFrom`** — the digits down to an exponent tell the number up to a unit of the last
  of them, whatever the weight.
* `cutTo_of_value` — cutting digits off the text cuts the number off.
* **`value_write_parts`** — so the two parts of a written payload denote its number, cut off.
* `Payload.ShownAs` — all of this, with the sign and the zeros in front.
* **`decode_shown`** — what is read from the bytes of a payload is shown in this way.
-/

namespace BoundSql.Wire.Numeric

open Decimal Payload Literal

/-! ## Cutting off -/

/-- **A number cut off** behind so many decimal places, towards zero. -/
def cutTo (places : Nat) (q : ℚ) : ℚ :=
  (if 0 ≤ q then ⌊q * 10 ^ places⌋ else ⌈q * 10 ^ places⌉ : ℤ) / 10 ^ places

/-- **Cutting off does not look at the sign.** -/
lemma cutTo_signFactor_mul (minus : Bool) (places : Nat) {q : ℚ} (h : 0 ≤ q) :
    cutTo places (signFactor minus * q) = signFactor minus * cutTo places q := by
  cases minus with
  | false => simp [signFactor]
  | true =>
      rcases h.eq_or_lt with rfl | hpos
      · simp [cutTo]
      · have hneg : ¬ 0 ≤ -q := by linarith
        simp [signFactor, cutTo, h, hneg, Int.ceil_neg, neg_div]

/-- A number between `n` and `n + 1` units of the last place is cut off to `n` of them. -/
lemma cutTo_eq {places n : Nat} {q : ℚ} (hle : n ≤ q * 10 ^ places)
    (hlt : q * 10 ^ places < n + 1) : cutTo places q = n / 10 ^ places := by
  have hq : 0 ≤ q := by
    have hn : (0 : ℚ) ≤ n := n.cast_nonneg
    exact nonneg_of_mul_nonneg_left (hn.trans hle) (by positivity)
  have hfloor : ⌊q * 10 ^ places⌋ = n := by
    rw [Int.floor_eq_iff]
    exact_mod_cast And.intro hle hlt
  simp [cutTo, hq, hfloor]

/-- **Cutting digits off cuts the number off**, up to a unit of the last digit. -/
lemma cutTo_of_value {a b c : List Char} (hc : allDigits c = true) {q : ℚ}
    (hle : value (a ++ b ++ c) ≤ q * 10 ^ (b.length + c.length))
    (hlt : q * 10 ^ (b.length + c.length) < value (a ++ b ++ c) + 1) :
    cutTo b.length q = value a + value b / 10 ^ b.length := by
  have hpos : (0 : ℚ) < 10 ^ c.length := by positivity
  have hcut : (value c + 1 : ℚ) ≤ 10 ^ c.length := by exact_mod_cast value_lt hc
  rw [value_append, pow_add, ← mul_assoc] at hle hlt
  push_cast at hle hlt
  rw [value_div_eq]
  apply cutTo_eq
  · have hnonneg : (0 : ℚ) ≤ value c := by positivity
    exact le_of_mul_le_mul_right (by linarith) hpos
  · exact lt_of_mul_lt_mul_right (by linarith) hpos.le

/-! ## Digits down to an exponent -/

/-- **Digits denote what is written for them**, counted in units of the last one. -/
lemma weighed_eq_value {gs : List Int} (h : ∀ g ∈ gs, IsDigit g) (top : Int) :
    weighed top gs = value (gs.flatMap writeDigit) * 10000 ^ (top + 1 - gs.length) := by
  have hlength := length_flatMap_writeDigit h
  have hgroups := weighed_groups (Dvd.intro _ hlength.symm) top
  rw [groups_flatMap_writeDigit h, hlength, ← ten_thousand_pow] at hgroups
  rw [hgroups, zpow_sub₀ (by norm_num), zpow_natCast, mul_div_assoc]

section Digits

variable {weight : Int} {digits : List Int}

/-- **The digits down to an exponent tell the number** up to a unit of the last of them.  They may
start above the weight, and they may end above the last digit that is held or below it. -/
lemma weighed_digitsFrom (h : ∀ d ∈ digits, IsDigit d) {top : Int} (htop : weight ≤ top)
    (count : Nat) : weighed top (digitsFrom weight digits top count) ≤ weighed weight digits ∧
      weighed weight digits <
        weighed top (digitsFrom weight digits top count) + 10000 ^ (top - count + 1) := by
  obtain ⟨front, hfront⟩ := Int.eq_ofNat_of_zero_le (Int.sub_nonneg_of_le htop)
  have hweight : top - front = weight := by omega
  have hcount : front + digits.length + count = count + (front + digits.length) := by omega
  -- the digits that are held, between zeros: first those asked for, then the others
  have hall := digitsFrom_eq_padding top digits front count
  rw [hweight, hcount, digitsFrom_add] at hall
  have hnumber := weighed_padding top front count digits
  rw [← hall, weighed_append, length_digitsFrom, hweight] at hnumber
  have hothers := isDigit_of_mem_digitsFrom weight h (top - count) (front + digits.length)
  have hnonneg := weighed_nonneg hothers (top - count)
  have hlt := weighed_lt hothers (top - count)
  constructor
  · linarith
  · linarith

/-- What is written for these digits tells the number as well. -/
lemma value_flatMap_digitsFrom (h : ∀ d ∈ digits, IsDigit d) {before : Nat}
    (hbefore : weight < before) (behind : Nat) :
    (value ((digitsFrom weight digits (before - 1) (before + behind)).flatMap writeDigit) : ℚ) ≤
        weighed weight digits * 10 ^ (4 * behind) ∧
      weighed weight digits * 10 ^ (4 * behind) <
        value ((digitsFrom weight digits (before - 1) (before + behind)).flatMap writeDigit) + 1 := by
  have hdigits := isDigit_of_mem_digitsFrom weight h (before - 1) (before + behind)
  have hlast : (before - 1 + 1 - (before + behind : Nat) : Int) = -behind := by omega
  have hunit : (before - 1 - (before + behind : Nat) + 1 : Int) = -behind := by omega
  have hpos : (0 : ℚ) < 10 ^ (4 * behind) := by positivity
  obtain ⟨hle, hlt⟩ := weighed_digitsFrom h (by omega : weight ≤ before - 1) (before + behind)
  rw [weighed_eq_value hdigits, length_digitsFrom, hlast, zpow_neg, zpow_natCast,
    ten_thousand_pow, ← div_eq_mul_inv] at hle hlt
  rw [hunit, zpow_neg, zpow_natCast, ten_thousand_pow, ← one_div, ← add_div] at hlt
  exact ⟨(div_le_iff₀ hpos).mp hle, (lt_div_iff₀ hpos).mp hlt⟩

/-! ## The two parts of a written payload -/

/-- The part before the point denotes the digits down to the point. -/
lemma value_writeWhole (h : ∀ d ∈ digits, IsDigit d) :
    value (writeWhole weight digits.toArray) =
      value ((digitsFrom weight digits ((weight + 1).toNat - 1) (weight + 1).toNat).flatMap
        writeDigit) := by
  by_cases hweight : weight < 0
  · have hcount : (weight + 1).toNat = 0 := by omega
    rw [writeWhole, if_pos hweight, hcount]
    rfl
  · obtain ⟨w, rfl⟩ := Int.eq_ofNat_of_zero_le (Int.not_lt.mp hweight)
    have hcount : ((w : Int) + 1).toNat = w + 1 := by omega
    have htop : ((w + 1 : Nat) : Int) - 1 = w := by omega
    have hfirst := isDigit_digitAt w h w
    rw [hcount, htop, digitsFrom_succ, List.flatMap_cons, writeDigit_of_isDigit hfirst, padded,
      List.append_assoc, value_replicate_zero_append, writeWhole_of_nonneg, integer,
      if_neg (by have := hfirst.1; omega)]

/-- **The two parts of a written payload denote its number, cut off** behind the places it shows. -/
theorem value_write_parts (h : ∀ d ∈ digits, IsDigit d) (scale : Nat) :
    (value (writeWhole weight digits.toArray) +
        value (writeFraction weight digits.toArray scale) / 10 ^ scale : ℚ) =
      cutTo scale (weighed weight digits) := by
  have hpoint : ((weight + 1).toNat - 1 - (weight + 1).toNat : Int) = -1 := by omega
  have hbehind := isDigit_of_mem_digitsFrom weight h (-1) ((scale + 3) / 4)
  have hwritten := length_flatMap_writeDigit hbehind
  have hshown := length_writeFraction weight h scale
  have hdigits := allDigits_flatMap_writeDigit hbehind
  obtain ⟨hle, hlt⟩ := value_flatMap_digitsFrom h
    (by omega : weight < (weight + 1).toNat) ((scale + 3) / 4)
  rw [digitsFrom_add, hpoint, List.flatMap_append] at hle hlt
  rw [writeFraction_eq] at hshown ⊢
  rw [length_digitsFrom] at hwritten
  generalize (digitsFrom weight digits (-1) ((scale + 3) / 4)).flatMap writeDigit = behind at *
  -- whole groups are written, and of the last one only what the scale covers is shown
  have hcount : 4 * ((scale + 3) / 4) = (behind.take scale).length + (behind.drop scale).length := by
    rw [← List.length_append, List.take_append_drop, hwritten]
  rw [← List.take_append_drop scale behind, allDigits_append, Bool.and_eq_true] at hdigits
  rw [← List.take_append_drop scale behind, ← List.append_assoc, hcount] at hle hlt
  have hcut := cutTo_of_value hdigits.2 hle hlt
  rw [hshown] at hcut
  rw [value_writeWhole h, hcut]

/-- **There is no superfluous zero in front** if the first digit is not zero. -/
lemma writeWhole_eq_zero (h : ∀ d ∈ digits, IsDigit d) {first : Int}
    (hfirst : digits.head? = some first) (hne : first ≠ 0)
    (hzero : (writeWhole weight digits.toArray).head? = some '0') :
    writeWhole weight digits.toArray = ['0'] := by
  by_cases hweight : weight < 0
  · rw [writeWhole, if_pos hweight]
  · obtain ⟨w, rfl⟩ := Int.eq_ofNat_of_zero_le (Int.not_lt.mp hweight)
    obtain ⟨rest, rfl⟩ := List.head?_eq_some_iff.mp hfirst
    have hdigit := h first List.mem_cons_self
    have hat : digitAt w (first :: rest).toArray w = first := by simp [digitAt]
    rw [writeWhole_of_nonneg, hat, integer, if_neg (by have := hdigit.1; omega),
      List.head?_append_of_ne_nil _ (digits_ne_nil _)] at hzero
    exact absurd hzero (head?_digits_ne (Int.natAbs_ne_zero.mpr hne))

end Digits

/-! ## Reading a payload -/

/-- **What is shown of a payload**: a minus sign if it is negative and holds any digit, the digits
before the point and those behind it, as many as it has places.  They denote its number, cut off
behind these places. -/
structure Payload.ShownAs (p : Payload) (minus : Bool) (whole fraction : List Char) : Prop where
  before : whole ≠ [] ∧ allDigits whole = true
  behind : fraction.length = p.scale ∧ allDigits fraction = true
  sign : minus = true ↔ p.sign = negative ∧ p.digits ≠ []
  number : number? (.decimal minus whole fraction) = some (cutTo p.scale p.number)
  unpadded : ∀ first, p.digits.head? = some first → first ≠ 0 → whole.head? = some '0' →
    whole = ['0']

section Payload

variable {p : Payload}

/-- The sign is lost only where there is no digit. -/
lemma number_eq_signFactor_mul (p : Payload) :
    p.number = signFactor (decide (p.sign = negative ∧ p.digits ≠ [])) *
      weighed p.weight p.digits := by
  by_cases hempty : p.digits = []
  · simp [number, hempty, weighed_nil]
  · simp [number, hempty]

lemma shownAs_write_parts (h : ∀ d ∈ p.digits, IsDigit d) :
    p.ShownAs (decide (p.sign = negative ∧ p.digits ≠ [])) (writeWhole p.weight p.digits.toArray)
      (writeFraction p.weight p.digits.toArray p.scale) where
  before := writeWhole_ne_nil p.weight h
  behind := ⟨length_writeFraction p.weight h p.scale, allDigits_writeFraction p.weight h p.scale⟩
  sign := decide_eq_true_iff
  number := by
    rw [number?, length_writeFraction p.weight h, value_write_parts h, number_eq_signFactor_mul,
      cutTo_signFactor_mul _ _ (weighed_nonneg h p.weight)]
  unpadded _ hfirst hne hzero := writeWhole_eq_zero h hfirst hne hzero

/-- The bytes of a payload are read as its text, whatever follows them. -/
lemma decode_append {bytes : List UInt8} (h : Holds bytes p) (hsign : p.sign ≠ notANumber)
    (rest : List UInt8) : decode (bytes ++ rest) = some p.write := by
  have hread := ofBytes?_bytes h.fits fun hnan => absurd hnan hsign
  rw [← h.bytes_eq] at hread
  rw [decode, ofBytes?_append hread rest, Option.map_some]

/-- **What is read from the bytes of a payload shows its exact number**, cut off behind as many
places as it says: whatever the weight and the number of digits, also if there are zeros at their
ends, and whatever follows the digits. -/
theorem decode_shown {bytes : List UInt8} (h : Holds bytes p) (hdigits : ∀ d ∈ p.digits, IsDigit d)
    (hsign : p.sign = positive ∨ p.sign = negative) (rest : List UInt8) :
    ∃ text minus whole fraction, decode (bytes ++ rest) = some text ∧
      text = (if minus then ['-'] else []) ++
        (whole ++ if p.scale = 0 then [] else '.' :: fraction) ∧
      Spells text (.decimal minus whole fraction) ∧ p.ShownAs minus whole fraction := by
  have hne : p.sign ≠ notANumber := by
    rcases hsign with hword | hword
    · rw [hword]; decide
    · rw [hword]; decide
  have hspells := spells_write_parts p.weight hdigits p.scale
    (decide (p.sign = negative ∧ p.digits ≠ []))
  refine ⟨p.write, _, _, _, decode_append h hne rest, ?_, ?_, shownAs_write_parts hdigits⟩
  · simp only [write, if_neg hne, decide_eq_true_eq]
  · simpa only [write, if_neg hne, decide_eq_true_eq] using hspells

/-- Nothing but zeros is left of a negative number that is cut off behind two places, and a byte
follows it. -/
theorem decode_shown_zeros :
    decode ([0, 2, 255, 255, 64, 0, 0, 2, 0, 9, 34, 61] ++ [7]) = some "-0.00".toList ∧
      cutTo 2 (Payload.number ⟨-1, negative, 2, [9, 8765]⟩) = 0 := by
  have hholds : Holds [0, 2, 255, 255, 64, 0, 0, 2, 0, 9, 34, 61] ⟨-1, negative, 2, [9, 8765]⟩ :=
    ⟨by decide, by decide, by decide, by decide, by decide, by decide⟩
  obtain ⟨text, minus, whole, fraction, hread, -, hspells, hshown⟩ :=
    decode_shown hholds (by decide) (.inr rfl) [7]
  have htext : decode ([0, 2, 255, 255, 64, 0, 0, 2, 0, 9, 34, 61] ++ [7]) =
      some "-0.00".toList := by
    decide +kernel
  obtain rfl := Option.some.inj (hread.symm.trans htext)
  have hliteral : Spells "-0.00".toList (.decimal true "0".toList "00".toList) :=
    ofText?_eq_some_iff.mp (by decide)
  have hnumber := hshown.number
  rw [hspells.unique hliteral] at hnumber
  have hzero : number? (.decimal true "0".toList "00".toList) = some 0 := by
    simp [number?, value, digitValue]
  exact ⟨htext, Option.some.inj (hnumber.symm.trans hzero)⟩

end Payload

end BoundSql.Wire.Numeric
