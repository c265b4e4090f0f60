/-!
# Decimal digits

Whole numbers and their decimal text, on lists of characters.

* **`digits`** — the digits of a natural number, with no superfluous zero.
* **`value`** — the number a list of digits denotes.
* **`value_digits`** — reading the digits of a number gives the number.
* **`integer`** — the text of a whole number of either sign.
* **`padded`** — a number written with at least the given count of digits.
* **`tenTo`** — the powers of ten.
-/

namespace BoundSql.Decimal

/-- The character of a digit below ten. -/
def digitChar (d : Nat) : Char := Char.ofNat (48 + d)

/-- The number a digit character stands for. -/
def digitValue (c : Char) : Nat := c.toNat - 48

/-- **The digits of a number**, most significant first; zero has the one digit `0`. -/
def digits (n : Nat) : List Char :=
  if n < 10 then [digitChar n] else digits (n / 10) ++ [digitChar (n % 10)]

/-- **The number a list of digits denotes**; the empty list denotes zero. -/
def value (cs : List Char) : Nat := cs.foldl (fun acc c => acc * 10 + digitValue c) 0

/-- **The text of a whole number**: a minus sign when it is negative, and the digits of its
magnitude. -/
def integer (n : Int) : List Char :=
  if n < 0 then '-' :: digits n.natAbs else digits n.natAbs

/-- The digits of `n`, with zeros in front up to `width` characters. -/
def padded (width n : Nat) : List Char :=
  let cs := digits n
  List.replicate (width - cs.length) '0' ++ cs

/-- The power of ten. -/
def tenTo (k : Nat) : Nat := Nat.pow 10 k

/-- Whether every character is an ASCII digit. -/
def allDigits (cs : List Char) : Bool := cs.all Char.isDigit

theorem digitValue_digitChar {d : Nat} (h : d < 10) : digitValue (digitChar d) = d := by
  match d, h with
  | 0, _ | 1, _ | 2, _ | 3, _ | 4, _ | 5, _ | 6, _ | 7, _ | 8, _ | 9, _ => rfl

theorem isDigit_digitChar {d : Nat} (h : d < 10) : (digitChar d).isDigit = true := by
  match d, h with
  | 0, _ | 1, _ | 2, _ | 3, _ | 4, _ | 5, _ | 6, _ | 7, _ | 8, _ | 9, _ => rfl

theorem value_append_singleton (cs : List Char) (c : Char) :
    value (cs ++ [c]) = value cs * 10 + digitValue c := by
  simp [value]

/-- Reading the digits of a number gives the number. -/
theorem value_digits (n : Nat) : value (digits n) = n := by
  induction n using Nat.strongRecOn with
  | ind n ih =>
    rw [digits]
    split
    · rename_i h; simp [value, digitValue_digitChar h]
    · rename_i h
      rw [value_append_singleton, ih (n / 10) (by omega), digitValue_digitChar (by omega)]
      omega

/-- Nothing but digits is written. -/
theorem allDigits_digits (n : Nat) : allDigits (digits n) = true := by
  induction n using Nat.strongRecOn with
  | ind n ih =>
    rw [digits]
    split
    · rename_i h; simp [allDigits, isDigit_digitChar h]
    · rename_i h
      have := ih (n / 10) (by omega)
      simp only [allDigits] at this
      simp [allDigits, this, isDigit_digitChar (Nat.mod_lt n (by omega))]

/-- The text of a number is never empty. -/
theorem digits_ne_nil (n : Nat) : digits n ≠ [] := by
  rw [digits]; split <;> simp

end BoundSql.Decimal
