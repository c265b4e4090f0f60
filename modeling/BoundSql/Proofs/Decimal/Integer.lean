import BoundSql.Decimal.Reader
import BoundSql.Proofs.Decimal.FixedWidth
import Mathlib.Algebra.Order.Ring.Int
import Mathlib.Tactic.Linarith

/-!
# Whole numbers as text and back

The text of a whole number is read as this number, if it lies between the bounds, and refused
otherwise.

* `value_cons` — the number that digits denote, from the first of them.
* `readDigits_upwards_eq`, `readDigits_downwards_eq` — what digits are read as, the bound included.
* **`readInteger_integer`** — what the text of a number is read as.
-/

namespace BoundSql.Decimal

lemma value_cons (c : Char) (cs : List Char) :
    value (c :: cs) = digitValue c * 10 ^ cs.length + value cs := by
  rw [← List.singleton_append, value_append]
  simp [value]

variable {least greatest : Int} {cs : List Char}

/-- **Digits read upwards** give the number they continue to, unless it is too large.  A number on
the way that is too large only grows. -/
lemma readDigits_upwards_eq (h : allDigits cs = true) {acc : Int}
    (hacc : 0 ≤ acc ∧ acc ≤ greatest) :
    readDigits false least greatest acc cs =
      if acc * 10 ^ cs.length + value cs ≤ greatest then .ok (acc * 10 ^ cs.length + value cs)
      else .error .tooLarge := by
  induction cs generalizing acc with
  | nil => simp [readDigits, value, hacc.2]
  | cons c rest ih =>
      rw [allDigits_cons, Bool.and_eq_true] at h
      have hnext : (acc * 10 + digitValue c) * 10 ^ rest.length + value rest =
          acc * 10 ^ (c :: rest).length + value (c :: rest) := by
        rw [value_cons, List.length_cons, pow_succ]
        push_cast
        ring
      simp only [readDigits, h.1, Bool.not_true, Bool.false_eq_true, if_false]
      split
      · rename_i hlarge
        have hgrows : acc * 10 + digitValue c ≤
            (acc * 10 + digitValue c) * 10 ^ rest.length + value rest := by
          have hpow : (1 : Int) ≤ 10 ^ rest.length := one_le_pow₀ (by decide)
          nlinarith
        rw [if_neg (by omega)]
      · rename_i hsmall
        rw [ih h.2 ⟨by omega, by omega⟩, hnext]

/-- **Digits read downwards** give the number they continue to, unless it is too small. -/
lemma readDigits_downwards_eq (h : allDigits cs = true) {acc : Int} (hacc : least ≤ acc ∧ acc ≤ 0) :
    readDigits true least greatest acc cs =
      if least ≤ acc * 10 ^ cs.length - value cs then .ok (acc * 10 ^ cs.length - value cs)
      else .error .tooSmall := by
  induction cs generalizing acc with
  | nil => simp [readDigits, value, hacc.1]
  | cons c rest ih =>
      rw [allDigits_cons, Bool.and_eq_true] at h
      have hnext : (acc * 10 - digitValue c) * 10 ^ rest.length - value rest =
          acc * 10 ^ (c :: rest).length - value (c :: rest) := by
        rw [value_cons, List.length_cons, pow_succ]
        push_cast
        ring
      simp only [readDigits, h.1, Bool.not_true, Bool.false_eq_true, if_false, if_true]
      split
      · rename_i hsmall
        have hfalls : (acc * 10 - digitValue c) * 10 ^ rest.length - value rest ≤
            acc * 10 - digitValue c := by
          have hpow : (1 : Int) ≤ 10 ^ rest.length := one_le_pow₀ (by decide)
          nlinarith
        rw [if_neg (by omega)]
      · rename_i hlarge
        rw [ih h.2 ⟨by omega, by omega⟩, hnext]

/-- A text that starts with no sign is read as digits. -/
lemma readInteger_of_isDigit {c : Char} (hc : c.isDigit = true) (rest : List Char) :
    readInteger least greatest (c :: rest) = readDigits false least greatest 0 (c :: rest) := by
  unfold readInteger
  split
  case h_6 => rfl
  all_goals
    rename_i heq
    cases heq
    try exact absurd hc (by decide)

/-- **The text of a number is read as the number**, if it lies between the bounds. -/
theorem readInteger_integer (hleast : least < 0) (hgreatest : 0 ≤ greatest) (n : Int) :
    readInteger least greatest (integer n) =
      if n < least then .error .tooSmall
      else if greatest < n then .error .tooLarge
      else .ok n := by
  have hdigits := allDigits_digits n.natAbs
  have hvalue := value_digits n.natAbs
  obtain ⟨c, rest, hcons⟩ := List.exists_cons_of_ne_nil (digits_ne_nil n.natAbs)
  rw [integer]
  split
  · rename_i hnegative
    have hread : readInteger least greatest ('-' :: digits n.natAbs) =
        readDigits true least greatest 0 (digits n.natAbs) := by
      rw [hcons, readInteger, if_pos hleast]
      exact nofun
    rw [hread, readDigits_downwards_eq hdigits ⟨hleast.le, le_rfl⟩, hvalue]
    have hn : 0 * 10 ^ (digits n.natAbs).length - (n.natAbs : Int) = n := by omega
    rw [hn]
    grind
  · rename_i hnegative
    have hc : c.isDigit = true := by
      rw [hcons, allDigits_cons, Bool.and_eq_true] at hdigits
      exact hdigits.1
    have hread : readInteger least greatest (digits n.natAbs) =
        readDigits false least greatest 0 (digits n.natAbs) := by
      rw [hcons]
      exact readInteger_of_isDigit hc rest
    rw [hread, readDigits_upwards_eq hdigits ⟨le_rfl, hgreatest⟩, hvalue]
    have hn : 0 * 10 ^ (digits n.natAbs).length + (n.natAbs : Int) = n := by omega
    rw [hn]
    grind

end BoundSql.Decimal
