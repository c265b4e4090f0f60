/-!
# Blanks

Blanks around a literal are dropped.  They are the characters of the Unicode property `White_Space`.

* **`isBlank`** — the character class.
* **`trim`** — a text without the blanks at its two ends.
-/

namespace BoundSql.Text

/-- Whether a character is white space. -/
def isBlank (c : Char) : Bool :=
  let n := c.toNat
  (decide (0x9 ≤ n) && decide (n ≤ 0xD)) || n == 0x20 || n == 0x85 || n == 0xA0 || n == 0x1680 ||
    (decide (0x2000 ≤ n) && decide (n ≤ 0x200A)) || n == 0x2028 || n == 0x2029 || n == 0x202F ||
    n == 0x205F || n == 0x3000

/-- **A text without the blanks in front.** -/
def trimStart (cs : List Char) : List Char := cs.dropWhile isBlank

/-- **A text without the blanks at its two ends.** -/
def trim (cs : List Char) : List Char := (trimStart (trimStart cs).reverse).reverse

/-- Nothing is dropped from a text without blanks. -/
theorem trim_eq_self {cs : List Char} (h : ∀ c ∈ cs, isBlank c = false) : trim cs = cs := by
  have drop : ∀ ds : List Char, (∀ c ∈ ds, isBlank c = false) → trimStart ds = ds := by
    intro ds hd
    cases ds with
    | nil => rfl
    | cons c rest => simp [trimStart, hd c (by simp)]
  rw [trim, drop cs h, drop cs.reverse (by simpa using h), List.reverse_reverse]

end BoundSql.Text
