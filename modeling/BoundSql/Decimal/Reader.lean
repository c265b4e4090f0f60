import BoundSql.Decimal.Digits

/-!
# Reading whole numbers

A whole number is an optional sign and ASCII digits, and it lies between two bounds.  The text is
read from the left and the first fault decides: a character that is no digit, or a digit with which
the number leaves the bounds.

* **`IntegerFault`** — why a text is not a number within the bounds.
* **`readInteger`** — the number.
-/

namespace BoundSql.Decimal

/-- **Why a text is not a number within the bounds.** -/
inductive IntegerFault where
  | empty
  | invalidDigit
  | tooLarge
  | tooSmall
  deriving DecidableEq, Repr

/-- The text of a fault. -/
def IntegerFault.message : IntegerFault → String
  | .empty => "cannot parse integer from empty string"
  | .invalidDigit => "invalid digit found in string"
  | .tooLarge => "number too large to fit in target type"
  | .tooSmall => "number too small to fit in target type"

/-- Takes in digits, upwards to the greatest number or downwards to the least. -/
def readDigits (negative : Bool) (least greatest acc : Int) :
    List Char → Except IntegerFault Int
  | [] => .ok acc
  | c :: rest =>
    if !c.isDigit then .error .invalidDigit
    else if negative then
      let next := acc * 10 - digitValue c
      if next < least then .error .tooSmall else readDigits negative least greatest next rest
    else
      let next := acc * 10 + digitValue c
      if greatest < next then .error .tooLarge else readDigits negative least greatest next rest

/-- **Reads a number between the bounds.**  A minus sign is accepted only where negative numbers
are. -/
def readInteger (least greatest : Int) (cs : List Char) : Except IntegerFault Int :=
  match cs with
  | [] => .error .empty
  | ['+'] | ['-'] => .error .invalidDigit
  | '+' :: rest => readDigits false least greatest 0 rest
  | '-' :: rest =>
    if least < 0 then readDigits true least greatest 0 rest else .error .invalidDigit
  | rest => readDigits false least greatest 0 rest

end BoundSql.Decimal
