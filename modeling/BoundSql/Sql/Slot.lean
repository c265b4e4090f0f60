import BoundSql.Decimal.Digits

/-!
# Placeholders and the slots behind them

The text of a statement never contains a value.  Where a value belongs the text has a placeholder,
`$` and a number, and the statement keeps a slot: the place from which the value is read.  Placeholder
`$i` stands for the value of slot `i`, counted from one over all that is bound so far.

* **`Slot`** — where a bound value comes from.
* **`Rendered`** — a text and the slots of its placeholders.
* **`Fragment`** — a piece of a statement, given how many values are bound before it.
* **`Fragment.text`**, **`Fragment.bind`**, **`Fragment.append`**, **`Fragment.commas`** — how pieces are
  put together.
-/

namespace BoundSql.Sql

open Decimal

/-- **Where a bound value comes from.** -/
inductive Slot where
  /-- The number of rows to return. -/
  | limit
  /-- The number of rows to pass over. -/
  | offset
  /-- A named parameter. -/
  | parameter (name : String)
  /-- A column of a record. -/
  | column (name : String)
  /-- The key of a row. -/
  | id
  deriving DecidableEq, Repr

/-- **A text and the slots of its placeholders**, in the order in which they were bound. -/
structure Rendered where
  text : List Char
  slots : List Slot
  deriving DecidableEq, Repr

/-- **A piece of a statement**, which depends on how many values are bound before it. -/
abbrev Fragment := Nat → Rendered

/-- The text of the `n`-th placeholder. -/
def placeholder (n : Nat) : List Char := '$' :: digits n

namespace Fragment

/-- A piece that binds nothing. -/
def text (cs : List Char) : Fragment := fun _ => ⟨cs, []⟩

/-- A placeholder for the next value. -/
def bind (slot : Slot) : Fragment := fun bound => ⟨placeholder (bound + 1), [slot]⟩

/-- **Two pieces after each other.**  The second goes on counting where the first stopped. -/
def append (f g : Fragment) : Fragment := fun bound =>
  let first := f bound
  let second := g (bound + first.slots.length)
  ⟨first.text ++ second.text, first.slots ++ second.slots⟩

instance : Append Fragment := ⟨append⟩

/-- The empty piece. -/
def empty : Fragment := text []

/-- Pieces with a comma and a space between them. -/
def commas : List Fragment → Fragment
  | [] => empty
  | [f] => f
  | f :: g :: rest => f ++ text [',', ' '] ++ commas (g :: rest)

@[simp] theorem text_apply (cs : List Char) (bound : Nat) : text cs bound = ⟨cs, []⟩ := rfl

@[simp] theorem bind_apply (slot : Slot) (bound : Nat) :
    bind slot bound = ⟨placeholder (bound + 1), [slot]⟩ := rfl

theorem append_apply (f g : Fragment) (bound : Nat) :
    (f ++ g) bound =
      ⟨(f bound).text ++ (g (bound + (f bound).slots.length)).text,
        (f bound).slots ++ (g (bound + (f bound).slots.length)).slots⟩ := rfl

end Fragment

end BoundSql.Sql
