import BoundSql.Sql.Slot
import BoundSql.Text.Alphanumeric

/-!
# Named parameters

In a statement `:name` stands for a named parameter.  The text is scanned once from the left.  At a
colon the longest known name that follows it is taken, unless a letter, a digit or an underscore
follows the name directly: then it is only the front of a longer word.  Two colons are a cast and
never start a name.  All else is copied.

* **`Item`** — what the scan finds, and **`Item.source`**, the text it was found in.
* **`longestName`** — the name taken at a colon.
* **`scan`** — the items of a text.
* **`substitute`** — the text with a fresh placeholder for each named parameter in it.
* **`flatMap_source_scan`** — the items are the text, cut into pieces.
-/

namespace BoundSql.Sql.NamedParameter

open Text

/-- **What the scan finds.** -/
inductive Item where
  /-- A character other than a colon. -/
  | char (c : Char)
  /-- Two colons. -/
  | cast
  /-- A colon that no known name follows. -/
  | colon
  /-- A colon and a known name. -/
  | token (name : List Char)
  deriving DecidableEq, Repr

/-- The text of an item as it was found. -/
def Item.source : Item → List Char
  | .char c => [c]
  | .cast => [':', ':']
  | .colon => [':']
  | .token name => ':' :: name

/-- Whether a character continues a name. -/
def isNameChar (c : Char) : Bool := isAlphanumeric c || c == '_'

/-- Whether a text goes on with a character that continues a name. -/
def continuesName : List Char → Bool
  | [] => false
  | c :: _ => isNameChar c

/-- **Whether a name may be taken** in front of a text: it is not empty, the text starts with it, and
what follows does not continue it. -/
def eligible (text name : List Char) : Bool :=
  !name.isEmpty && name.isPrefixOf text && !continuesName (text.drop name.length)

/-- The longer of two names. -/
def longer (best : Option (List Char)) (name : List Char) : Option (List Char) :=
  match best with
  | none => some name
  | some b => if b.length ≤ name.length then some name else some b

/-- **The name taken in front of a text**: the longest that may be taken. -/
def longestName (names : List (List Char)) (text : List Char) : Option (List Char) :=
  (names.filter (eligible text)).foldl longer none

/-- **The items of a text**, from left to right. -/
def scan (names : List (List Char)) : List Char → List Item
  | [] => []
  | ':' :: ':' :: rest => .cast :: scan names rest
  | ':' :: rest =>
    match longestName names rest with
    | some name => .token name :: scan names (rest.drop name.length)
    | none => .colon :: scan names rest
  | c :: rest => .char c :: scan names rest
termination_by text => text.length
decreasing_by all_goals simp only [List.length_cons, List.length_drop]; omega

/-- The text of items, each token replaced by the next placeholder. -/
def render (bound : Nat) : List Item → Rendered
  | [] => ⟨[], []⟩
  | .token name :: rest =>
    let tail := render (bound + 1) rest
    ⟨placeholder (bound + 1) ++ tail.text, .parameter (String.ofList name) :: tail.slots⟩
  | item :: rest =>
    let tail := render bound rest
    ⟨item.source ++ tail.text, tail.slots⟩

/-- **A text with a fresh placeholder for each named parameter in it**, also where one name stands
twice.  Without names the text is not scanned. -/
def substitute (names : List String) (text : List Char) : Fragment := fun bound =>
  if names.isEmpty then ⟨text, []⟩ else render bound (scan (names.map String.toList) text)

/-! ## What the scan keeps -/

theorem longer_eq_some {best : Option (List Char)} {name : List Char} :
    ∃ b, longer best name = some b ∧ (b = name ∨ best = some b) := by
  cases best with
  | none => exact ⟨name, rfl, .inl rfl⟩
  | some b =>
    by_cases h : b.length ≤ name.length
    · exact ⟨name, by simp [longer, h], .inl rfl⟩
    · exact ⟨b, by simp [longer, h], .inr rfl⟩

theorem foldl_longer_mem {names : List (List Char)} {best : Option (List Char)}
    {name : List Char} (h : names.foldl longer best = some name) :
    name ∈ names ∨ best = some name := by
  induction names generalizing best with
  | nil => exact .inr h
  | cons n rest ih =>
    rw [List.foldl_cons] at h
    rcases ih h with hm | hb
    · exact .inl (List.mem_cons_of_mem _ hm)
    · obtain ⟨b, hb', hor⟩ := @longer_eq_some best n
      rw [hb', Option.some.injEq] at hb
      subst hb
      rcases hor with rfl | hbest
      · exact .inl List.mem_cons_self
      · exact .inr hbest

/-- The name taken is known and may be taken. -/
theorem longestName_eligible {names : List (List Char)} {text name : List Char}
    (h : longestName names text = some name) : name ∈ names ∧ eligible text name = true := by
  rcases foldl_longer_mem h with hm | hb
  · exact List.mem_filter.1 hm
  · simp at hb

/-- The text starts with a name that may be taken. -/
theorem append_drop_of_eligible {text name : List Char} (h : eligible text name = true) :
    name ++ text.drop name.length = text := by
  simp only [eligible, Bool.and_eq_true, List.isPrefixOf_iff_prefix] at h
  obtain ⟨rest, rfl⟩ := h.1.2
  simp

/-- **The items are the text, cut into pieces**: nothing is lost, added or moved. -/
theorem flatMap_source_scan (names : List (List Char)) (text : List Char) :
    (scan names text).flatMap Item.source = text := by
  fun_induction scan names text with
  | case1 => rfl
  | case2 _ ih => simp [Item.source, ih]
  | case3 rest _ name hname ih =>
    simp [Item.source, ih, append_drop_of_eligible (longestName_eligible hname).2]
  | case4 rest _ _ ih => simp [Item.source, ih]
  | case5 c rest _ _ ih => simp [Item.source, ih]

end BoundSql.Sql.NamedParameter
