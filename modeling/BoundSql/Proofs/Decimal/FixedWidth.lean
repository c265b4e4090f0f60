import BoundSql.Decimal.Digits
import BoundSql.Proofs.Decimal.Padding
import Mathlib.Data.List.Basic
import Mathlib.Data.List.Induction
import Mathlib.Tactic.Lemma
import Mathlib.Tactic.Ring

/-!
# Digits of a fixed width

A number below a power of ten has one text of that many digits: its own digits with zeros in front.

* `value_append`, `value_lt` — the number that digits denote, in terms of their places.
* `eq_of_value_eq` — two texts of digits of one length that denote one number are the same.
* **`padded_value`**, `value_padded` — writing with a width and reading undo each other.
* `dropWhile_padded_append`, `dropWhile_zeros` — without the zeros in front there are the digits of
  the number.
-/

namespace BoundSql.Decimal

/-! ## Texts of digits -/

lemma allDigits_append (a b : List Char) :
    allDigits (a ++ b) = (allDigits a && allDigits b) := List.all_append

lemma allDigits_cons (c : Char) (rest : List Char) :
    allDigits (c :: rest) = (c.isDigit && allDigits rest) := rfl

lemma allDigits_replicate_zero (n : Nat) : allDigits (List.replicate n '0') = true := by
  induction n with
  | zero => rfl
  | succ n ih => rw [List.replicate_succ, allDigits_cons, ih]; rfl

lemma allDigits_iff {cs : List Char} : allDigits cs = true ↔ ∀ c ∈ cs, c.isDigit = true :=
  List.all_eq_true

lemma isDigit_iff {c : Char} : c.isDigit = true ↔ 48 ≤ c.toNat ∧ c.toNat ≤ 57 := by
  simp only [Char.isDigit, ge_iff_le, Bool.and_eq_true, decide_eq_true_eq,
    UInt32.le_iff_toNat_le]
  rfl

lemma digitValue_lt {c : Char} (h : c.isDigit = true) : digitValue c < 10 := by
  rw [isDigit_iff] at h
  rw [digitValue]
  omega

lemma eq_of_digitValue_eq {c d : Char} (hc : c.isDigit = true) (hd : d.isDigit = true)
    (h : digitValue c = digitValue d) : c = d := by
  rw [isDigit_iff] at hc hd
  rw [digitValue, digitValue] at h
  exact Char.toNat_inj.mp (by omega)

/-! ## The number that digits denote -/

lemma value_append (a b : List Char) : value (a ++ b) = value a * 10 ^ b.length + value b := by
  induction b using List.reverseRecOn with
  | nil => simp [value]
  | append_singleton b c ih =>
      rw [← List.append_assoc, value_append_singleton, value_append_singleton, ih,
        List.length_append, List.length_singleton, Nat.pow_succ]
      ring

lemma value_lt {cs : List Char} (h : allDigits cs = true) : value cs < 10 ^ cs.length := by
  induction cs using List.reverseRecOn with
  | nil => simp [value]
  | append_singleton cs c ih =>
      rw [allDigits_append, Bool.and_eq_true, allDigits_cons, Bool.and_eq_true] at h
      have hprev := ih h.1
      have hc := digitValue_lt h.2.1
      rw [value_append_singleton, List.length_append, List.length_singleton, Nat.pow_succ]
      omega

/-- **Texts of digits of one length are told apart by the numbers they denote.** -/
lemma eq_of_value_eq {a b : List Char} (ha : allDigits a = true) (hb : allDigits b = true)
    (hlength : a.length = b.length) (hvalue : value a = value b) : a = b := by
  induction a using List.reverseRecOn generalizing b with
  | nil => exact (List.length_eq_zero_iff.mp hlength.symm).symm
  | append_singleton a c ih =>
      cases b using List.reverseRecOn with
      | nil => simp at hlength
      | append_singleton b d =>
          rw [allDigits_append, Bool.and_eq_true, allDigits_cons, Bool.and_eq_true] at ha hb
          rw [value_append_singleton, value_append_singleton] at hvalue
          have hc := digitValue_lt ha.2.1
          have hd := digitValue_lt hb.2.1
          have hab := ih ha.1 hb.1 (by simpa using hlength) (by omega)
          have hcd := eq_of_digitValue_eq ha.2.1 hb.2.1 (by omega)
          rw [hab, hcd]

lemma value_replicate_zero_append (n : Nat) (cs : List Char) :
    value (List.replicate n '0' ++ cs) = value cs := by
  induction n with
  | zero => rfl
  | succ n ih =>
      rw [List.replicate_succ, List.cons_append, ← List.singleton_append, value_append, ih]
      simp [value, digitValue]

lemma value_replicate_zero (n : Nat) : value (List.replicate n '0') = 0 := by
  have happend := value_replicate_zero_append n []
  rwa [List.append_nil] at happend

lemma value_append_replicate_zero (cs : List Char) (k : Nat) :
    value (cs ++ List.replicate k '0') = value cs * 10 ^ k := by
  rw [value_append, value_replicate_zero, List.length_replicate, Nat.add_zero]

/-- **Digits behind a fixed place are told by the number**, and so is the number in front of them. -/
lemma value_append_inj {a b c d : List Char} (hb : allDigits b = true) (hd : allDigits d = true)
    (hlength : b.length = d.length) (h : value (a ++ b) = value (c ++ d)) :
    value a = value c ∧ b = d := by
  have hquotient (n : Nat) {r : Nat} (hr : r < 10 ^ b.length) :
      (n * 10 ^ b.length + r) / 10 ^ b.length = n := by
    rw [Nat.mul_comm, Nat.mul_add_div (Nat.pow_pos (by decide)), Nat.div_eq_of_lt hr, Nat.add_zero]
  rw [value_append, value_append, ← hlength] at h
  have hfront : value a = value c := by
    rw [← hquotient (value a) (value_lt hb), h, hquotient _ (by rw [hlength]; exact value_lt hd)]
  refine ⟨hfront, eq_of_value_eq hb hd hlength ?_⟩
  rw [hfront] at h
  exact Nat.add_left_cancel h

lemma value_eq_zero_iff {cs : List Char} (h : allDigits cs = true) :
    value cs = 0 ↔ ∀ c ∈ cs, c = '0' := by
  rw [← List.eq_replicate_length]
  constructor
  · intro hzero
    exact eq_of_value_eq h (allDigits_replicate_zero _) (by simp)
      (hzero.trans (value_replicate_zero _).symm)
  · intro hzeros
    rw [hzeros, value_replicate_zero]

/-! ## Zeros in front -/

lemma length_digits_le {n width : Nat} (hwidth : 0 < width) (h : n < 10 ^ width) :
    (digits n).length ≤ width := by
  induction width generalizing n with
  | zero => omega
  | succ width ih =>
      rw [digits]
      split
      · simp
      · rename_i hten
        cases width with
        | zero => omega
        | succ width =>
            have hdiv : n / 10 < 10 ^ (width + 1) := by
              rw [Nat.pow_succ] at h
              omega
            have hprev := ih (by omega) hdiv
            rw [List.length_append, List.length_singleton]
            omega

lemma head?_digits_ne {n : Nat} (h : n ≠ 0) : (digits n).head? ≠ some '0' := by
  induction n using Nat.strongRecOn with
  | ind n ih =>
      rw [digits]
      split
      · rename_i hten
        intro hzero
        have hchar := Option.some.inj hzero
        have hvalue := digitValue_digitChar hten
        rw [hchar] at hvalue
        exact h hvalue.symm
      · rename_i hten
        rw [List.head?_append_of_ne_nil _ (digits_ne_nil _)]
        exact ih (n / 10) (by omega) (by omega)

lemma value_padded (width n : Nat) : value (padded width n) = n := by
  rw [padded, value_replicate_zero_append, value_digits]

lemma allDigits_padded (width n : Nat) : allDigits (padded width n) = true := by
  rw [padded, allDigits_append, allDigits_replicate_zero, allDigits_digits]
  rfl

lemma le_length_padded (width n : Nat) : width ≤ (padded width n).length := by
  rw [padded, List.length_append, List.length_replicate]
  omega

lemma length_padded {n width : Nat} (hwidth : 0 < width) (h : n < 10 ^ width) :
    (padded width n).length = width := by
  have hle := length_digits_le hwidth h
  rw [padded, List.length_append, List.length_replicate]
  omega

/-- **Digits are what the number they denote is written as**, in the width that they have. -/
theorem padded_value {cs : List Char} (hne : cs ≠ []) (h : allDigits cs = true) :
    padded cs.length (value cs) = cs := by
  have hpos : 0 < cs.length := List.length_pos_iff.mpr hne
  exact eq_of_value_eq (allDigits_padded _ _) h (length_padded hpos (value_lt h))
    (value_padded _ _)

/-- **Without the zeros in front there are the digits of the number.** -/
lemma dropWhile_padded_append (width : Nat) {n : Nat} (h : n ≠ 0) (rest : List Char) :
    (padded width n ++ rest).dropWhile (· == '0') = digits n ++ rest := by
  rw [padded, List.append_assoc, dropWhile_replicate_append]
  apply dropWhile_eq_self_of_head
  rw [List.head?_append_of_ne_nil _ (digits_ne_nil n)]
  exact head?_digits_ne h

/-- **What is left without the zeros in front is told by the number**, and nothing is left of zero.
-/
lemma dropWhile_zeros {cs : List Char} (h : allDigits cs = true) :
    cs.dropWhile (· == '0') = if value cs = 0 then [] else digits (value cs) := by
  split
  · rename_i hzero
    rw [value_eq_zero_iff h] at hzero
    rw [List.dropWhile_eq_nil_iff]
    exact fun c hc => beq_iff_eq.mpr (hzero c hc)
  · rename_i hvalue
    have hne : cs ≠ [] := by
      rintro rfl
      exact hvalue rfl
    have hdropped := dropWhile_padded_append cs.length hvalue []
    rwa [List.append_nil, List.append_nil, padded_value hne h] at hdropped

end BoundSql.Decimal
