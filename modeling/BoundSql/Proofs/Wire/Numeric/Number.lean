import BoundSql.Proofs.Wire.Numeric.Written
import Mathlib.Algebra.Order.Field.Power
import Mathlib.Data.Rat.Cast.Order
import Mathlib.Tactic.FieldSimp
import Mathlib.Tactic.Lemma
import Mathlib.Tactic.Linarith
import Mathlib.Tactic.NormNum
import Mathlib.Tactic.Positivity
import Mathlib.Tactic.Ring

/-!
# The number of a payload

A payload denotes a number, and so does a literal.  Sending a literal keeps its number.

* `weighed` — the sum of digits that count powers of ten thousand.
* `weighed_padding` — zeros around digits only move them.
* **`weighed_groups`** — groups of characters denote what the characters denote.
* `Payload.number`, `Literal.number?`, `Literal.places` — what is denoted, and how precisely.
* **`number_of_payload`** — the payload of a literal denotes the number of the literal.
-/

namespace BoundSql.Wire.Numeric

open Decimal Payload Literal

/-! ## Weighed digits -/

/-- **The number that digits denote**, of which the one at index `i` counts
`10000 ^ (weight - i)`. -/
def weighed (weight : Int) (digits : List Int) : ℚ :=
  (digits.mapIdx fun (i : Nat) (d : Int) => (d : ℚ) * 10000 ^ (weight - i)).sum

lemma weighed_nil (weight : Int) : weighed weight [] = 0 := rfl

lemma weighed_cons (weight d : Int) (rest : List Int) :
    weighed weight (d :: rest) = d * 10000 ^ weight + weighed (weight - 1) rest := by
  have hindex (i : Nat) : weight - (i + 1 : Nat) = weight - 1 - i := by
    push_cast
    ring
  rw [weighed, weighed, List.mapIdx_cons, List.sum_cons, Nat.cast_zero, sub_zero]
  simp only [hindex]

lemma weighed_append (weight : Int) (before behind : List Int) :
    weighed weight (before ++ behind) =
      weighed weight before + weighed (weight - before.length) behind := by
  induction before generalizing weight with
  | nil => simp [weighed_nil]
  | cons d rest ih =>
      have hindex : weight - (d :: rest).length = weight - 1 - rest.length := by
        rw [List.length_cons]
        push_cast
        ring
      rw [List.cons_append, weighed_cons, weighed_cons, ih, hindex, add_assoc]

lemma weighed_replicate_zero (weight : Int) (n : Nat) :
    weighed weight (List.replicate n 0) = 0 := by
  induction n generalizing weight with
  | zero => rfl
  | succ n ih => rw [List.replicate_succ, weighed_cons, ih, Int.cast_zero, zero_mul, add_zero]

/-- **Zeros around digits only move them.** -/
lemma weighed_padding (weight : Int) (front back : Nat) (core : List Int) :
    weighed weight (List.replicate front 0 ++ core ++ List.replicate back 0) =
      weighed (weight - front) core := by
  rw [weighed_append, weighed_append, weighed_replicate_zero, weighed_replicate_zero,
    List.length_replicate, zero_add, add_zero]

lemma ten_thousand_pow (n : Nat) : (10000 : ℚ) ^ n = 10 ^ (4 * n) := by
  rw [pow_mul]
  norm_num

/-- **Groups of characters denote what the characters denote.** -/
lemma weighed_groups {cs : List Char} (h : 4 ∣ cs.length) (weight : Int) :
    weighed weight (groups cs) = value cs * 10000 ^ (weight + 1) / 10 ^ cs.length := by
  revert weight
  refine group_induction (motive := fun cs => ∀ weight, weighed weight (groups cs) =
    value cs * 10000 ^ (weight + 1) / 10 ^ cs.length) ?nil ?group h
  case nil =>
    intro weight
    simp [groups, weighed_nil, value]
  case group =>
    intro a b c d rest ih weight
    have hvalue : value (a :: b :: c :: d :: rest) =
        value [a, b, c, d] * 10 ^ rest.length + value rest := value_append [a, b, c, d] rest
    have hlength : (a :: b :: c :: d :: rest).length = rest.length + 4 := rfl
    have hstep : (10000 : ℚ) ^ (weight + 1) = 10000 ^ weight * 10000 :=
      zpow_add_one₀ (by simp) weight
    rw [groups, weighed_cons, ih, hvalue, hlength, sub_add_cancel, hstep, pow_add]
    push_cast
    field_simp
    ring

lemma weighed_nonneg {digits : List Int} (h : ∀ d ∈ digits, IsDigit d) (weight : Int) :
    0 ≤ weighed weight digits := by
  induction digits generalizing weight with
  | nil => rfl
  | cons d rest ih =>
      have hfirst : (0 : ℚ) ≤ d := by exact_mod_cast (h d List.mem_cons_self).1
      have hrest := ih (fun d hd => h d (List.mem_cons_of_mem _ hd)) (weight - 1)
      rw [weighed_cons]
      positivity

lemma weighed_lt {digits : List Int} (h : ∀ d ∈ digits, IsDigit d) (weight : Int) :
    weighed weight digits < 10000 ^ (weight + 1) := by
  induction digits generalizing weight with
  | nil => simpa [weighed_nil] using zpow_pos (by norm_num : (0 : ℚ) < 10000) (weight + 1)
  | cons d rest ih =>
      have hd : (d : ℚ) ≤ 9999 := by exact_mod_cast (h d List.mem_cons_self).2
      have hrest := ih (fun d hd => h d (List.mem_cons_of_mem _ hd)) (weight - 1)
      have hpos := zpow_pos (by norm_num : (0 : ℚ) < 10000) weight
      rw [sub_add_cancel] at hrest
      rw [weighed_cons, zpow_add_one₀ (by norm_num)]
      nlinarith

/-- **Digits of which the first is not zero** reach the power of ten thousand that it counts. -/
lemma pow_le_weighed {digits : List Int} (h : ∀ d ∈ digits, IsDigit d)
    (hhead : digits.head? ≠ some 0) (hne : digits ≠ []) (weight : Int) :
    10000 ^ weight ≤ weighed weight digits := by
  obtain ⟨d, rest, rfl⟩ := List.exists_cons_of_ne_nil hne
  have hfirst : (1 : ℚ) ≤ d := by
    have hlow := (h d List.mem_cons_self).1
    have hnonzero : d ≠ 0 := by simpa using hhead
    exact_mod_cast (by omega : 1 ≤ d)
  have hrest := weighed_nonneg (fun e he => h e (List.mem_cons_of_mem _ he)) (weight - 1)
  have hpos := zpow_pos (by norm_num : (0 : ℚ) < 10000) weight
  rw [weighed_cons]
  nlinarith

lemma weighed_pos {digits : List Int} (h : ∀ d ∈ digits, IsDigit d) (hhead : digits.head? ≠ some 0)
    (hne : digits ≠ []) (weight : Int) : 0 < weighed weight digits :=
  (zpow_pos (by norm_num) weight).trans_le (pow_le_weighed h hhead hne weight)

/-! ## The numbers of payloads and literals -/

/-- The factor of a sign; `true` is minus. -/
def signFactor (minus : Bool) : ℚ := if minus then -1 else 1

/-- **The number that a payload denotes.** -/
def Payload.number (p : Payload) : ℚ :=
  signFactor (decide (p.sign = negative)) * weighed p.weight p.digits

lemma signFactor_ne_zero (minus : Bool) : signFactor minus ≠ 0 := by
  cases minus <;> simp [signFactor]

namespace Literal

/-- **The number that a literal denotes**, if it does: the digits behind the point count tenths,
hundredths and so on. -/
def number? : Literal → Option ℚ
  | .nan => none
  | .decimal minus whole fraction =>
    some (signFactor minus * (value whole + value fraction / 10 ^ fraction.length))

/-- How many digits a literal has behind the point. -/
def places : Literal → Nat
  | .nan => 0
  | .decimal _ _ fraction => fraction.length

end Literal

lemma value_div_eq (whole fraction : List Char) :
    (value whole + value fraction / 10 ^ fraction.length : ℚ) =
      value (whole ++ fraction) / 10 ^ fraction.length := by
  rw [value_append]
  push_cast
  field_simp

/-- Two numbers with signs are the same if their magnitudes are, and their signs unless they are
zero. -/
lemma signFactor_mul_eq_iff {minus minus' : Bool} {m n : Nat} :
    signFactor minus * m = signFactor minus' * n ↔ m = n ∧ (m = 0 ∨ minus = minus') := by
  have hopposite (a b : Nat) : (a : ℚ) = -b ↔ a = b ∧ a = 0 := by
    rw [eq_neg_iff_add_eq_zero]
    norm_cast
    omega
  cases minus with
  | false =>
      cases minus' with
      | false => simp [signFactor]
      | true => simp [signFactor, hopposite]
  | true =>
      cases minus' with
      | false => simp [signFactor, neg_eq_iff_eq_neg, hopposite]
      | true => simp [signFactor]

/-! ## Sending a literal -/

lemma value_filling_append (cs : List Char) :
    value (filling (cs.dropWhile (· == '0')) ++ cs.dropWhile (· == '0')) = value cs := by
  obtain ⟨n, hrun⟩ := exists_replicate_append '0' cs
  rw [filling, value_replicate_zero_append]
  conv_rhs => rw [hrun, value_replicate_zero_append]

lemma weighed_wholeGroups {whole : List Char} (h : allDigits whole = true) :
    weighed ((wholeGroups whole).length - 1) (wholeGroups whole) = value whole := by
  have hlength := length_groups (dvd_length_filling_append _) (allDigits_filling_append h)
  have hgroups := weighed_groups (dvd_length_filling_append (whole.dropWhile (· == '0')))
    ((wholeGroups whole).length - 1)
  rw [← wholeGroups] at hlength hgroups
  rw [hgroups, value_filling_append, ← hlength, sub_add_cancel, zpow_natCast, ten_thousand_pow,
    mul_div_cancel_right₀ _ (by positivity)]

lemma weighed_fractionGroups (fraction : List Char) :
    weighed (-1) (fractionGroups fraction) = value fraction / 10 ^ fraction.length := by
  rw [fractionGroups, weighed_groups (dvd_length_append_filling _), filling,
    value_append_replicate_zero, List.length_append, List.length_replicate, pow_add]
  push_cast
  field_simp

/-- **The groups of both parts denote what the digits denote.** -/
lemma weighed_wholeGroups_append {whole : List Char} (h : allDigits whole = true)
    (fraction : List Char) :
    weighed ((wholeGroups whole).length - 1) (wholeGroups whole ++ fractionGroups fraction) =
      value whole + value fraction / 10 ^ fraction.length := by
  have hpoint : ((wholeGroups whole).length - 1 - (wholeGroups whole).length : Int) = -1 := by omega
  rw [weighed_append, weighed_wholeGroups h, hpoint, weighed_fractionGroups]

/-- **Sending a literal keeps its number.** -/
theorem number_of_payload {literal : Literal} {p : Payload} (hform : literal.WellFormed)
    (hnan : literal ≠ .nan) (h : literal.payload = .ok p) : literal.number? = some p.number := by
  cases literal with
  | nan => exact absurd rfl hnan
  | decimal minus whole fraction =>
      obtain ⟨hwhole, hfraction⟩ := hform
      obtain ⟨-, front, core, back, hgroups, hcore, hp⟩ := exists_groups_of_payload h
      have hweighed := weighed_wholeGroups_append hwhole fraction
      rw [hgroups, weighed_padding] at hweighed
      rw [number?, ← hweighed]
      rcases hp with ⟨rfl, rfl⟩ | ⟨-, -, rfl⟩
      · simp [number, weighed_nil]
      · simp [number, signWord_eq_negative_iff]

end BoundSql.Wire.Numeric
