import BoundSql.Query.Rendering
import Mathlib.Logic.ExistsUnique
import Mathlib.Tactic.Lemma

/-!
# The one tokenisation of a text

What named parameters stand in a text is said here without the scan: a text is cut into items, and
each item must be allowed where it stands.

* `Eligible`, `Longest` — when a name may be taken in front of a text, and when it is the one taken.
* `Tokenises` — the items of a text, one rule for each kind of item.
* **`tokenises_iff`** — the items that `scan` finds are a tokenisation, and there is no other.
* `tokens`, `numbered` — the names that the items mention, and the items as text with the `j`-th
  of these names replaced by the `j`-th placeholder after those already there.
* `render_eq` — what `render` makes of items, in these terms.
* **`existsUnique_tokenises`** — substitution is the numbering of the only tokenisation, and the
  values it pushes are those of the names mentioned.

The tokenisation is unique because the rules never overlap: the first character and the one behind
it decide between them, and two eligible names of one length are the same piece of the text.
-/

namespace BoundSql.Sql.NamedParameter

open Text Decimal

/-! ## Eligible names -/

/-- **A name is eligible** in front of a text: it is not empty, the text starts with it, and no
letter, digit or underscore follows it there. -/
def Eligible (text name : List Char) : Prop :=
  name ≠ [] ∧ ∃ rest, text = name ++ rest ∧
    ∀ c, rest.head? = some c → ¬ (isAlphanumeric c = true ∨ c = '_')

/-- **The longest eligible name** among those known. -/
structure Longest (names : List (List Char)) (text name : List Char) : Prop where
  known : name ∈ names
  eligible : Eligible text name
  le : ∀ other ∈ names, Eligible text other → other.length ≤ name.length

lemma continuesName_eq_false_iff (text : List Char) :
    continuesName text = false ↔
      ∀ c, text.head? = some c → ¬ (isAlphanumeric c = true ∨ c = '_') := by
  cases text with
  | nil => simp [continuesName]
  | cons d rest =>
      simp only [continuesName, isNameChar, List.head?_cons, Option.some.injEq]
      constructor
      · rintro h c rfl
        simpa using h
      · intro h
        simpa using h d rfl

/-- The test of the scan decides eligibility. -/
lemma eligible_iff {text name : List Char} : eligible text name = true ↔ Eligible text name := by
  simp only [eligible, Bool.and_eq_true, Bool.not_eq_true', List.isEmpty_eq_false_iff,
    List.isPrefixOf_iff_prefix, Eligible]
  constructor
  · rintro ⟨⟨hne, rest, rfl⟩, hrest⟩
    rw [List.drop_left, continuesName_eq_false_iff] at hrest
    exact ⟨hne, rest, rfl, hrest⟩
  · rintro ⟨hne, rest, rfl, hrest⟩
    refine ⟨⟨hne, List.prefix_append _ _⟩, ?_⟩
    rw [List.drop_left, continuesName_eq_false_iff]
    exact hrest

/-- Two eligible names of one length are the same piece of the text. -/
lemma Eligible.eq_of_length_eq {text a b : List Char} (ha : Eligible text a) (hb : Eligible text b)
    (h : a.length = b.length) : a = b := by
  obtain ⟨-, ra, hra, -⟩ := ha
  obtain ⟨-, rb, hrb, -⟩ := hb
  exact (List.append_inj (hra.symm.trans hrb) h).1

lemma Longest.unique {names : List (List Char)} {text a b : List Char}
    (ha : Longest names text a) (hb : Longest names text b) : a = b := by
  have hab : a.length ≤ b.length := hb.le a ha.known ha.eligible
  have hba : b.length ≤ a.length := ha.le b hb.known hb.eligible
  exact ha.eligible.eq_of_length_eq hb.eligible (Nat.le_antisymm hab hba)

/-! ## The name the scan takes -/

/-- Folding never gives up a name, and never a longer one for a shorter. -/
lemma foldl_longer_some (names : List (List Char)) (best : List Char) :
    ∃ b, names.foldl longer (some best) = some b ∧ best.length ≤ b.length ∧
      ∀ name ∈ names, name.length ≤ b.length := by
  induction names generalizing best with
  | nil => exact ⟨best, rfl, Nat.le_refl _, by simp⟩
  | cons n rest ih =>
      rw [List.foldl_cons]
      -- of two names of one length the later is taken, so the bound cannot be strict
      by_cases h : best.length ≤ n.length
      · obtain ⟨b, hb, hn, hrest⟩ := ih n
        refine ⟨b, by rw [← hb]; simp [longer, h], Nat.le_trans h hn, ?_⟩
        intro name hname
        rcases List.mem_cons.mp hname with rfl | hname
        · exact hn
        · exact hrest name hname
      · obtain ⟨b, hb, hbest, hrest⟩ := ih best
        refine ⟨b, by rw [← hb]; simp [longer, h], hbest, ?_⟩
        intro name hname
        rcases List.mem_cons.mp hname with rfl | hname
        · omega
        · exact hrest name hname

lemma longestName_eq_none_iff {names : List (List Char)} {text : List Char} :
    longestName names text = none ↔ ∀ name ∈ names, ¬ Eligible text name := by
  rw [longestName]
  cases h : names.filter (eligible text) with
  | nil =>
      simp only [List.filter_eq_nil_iff, eligible_iff] at h
      simpa using h
  | cons n rest =>
      obtain ⟨b, hb, -⟩ := foldl_longer_some rest n
      have hn : n ∈ names.filter (eligible text) := by rw [h]; exact List.mem_cons_self
      rw [List.mem_filter, eligible_iff] at hn
      simp only [List.foldl_cons, longer, hb, reduceCtorEq, false_iff]
      intro hnone
      exact hnone n hn.1 hn.2

lemma longest_of_longestName {names : List (List Char)} {text name : List Char}
    (h : longestName names text = some name) : Longest names text name := by
  obtain ⟨hmem, helig⟩ := longestName_eligible h
  refine ⟨hmem, eligible_iff.mp helig, ?_⟩
  intro other hother hel
  have hin : other ∈ names.filter (eligible text) :=
    List.mem_filter.mpr ⟨hother, eligible_iff.mpr hel⟩
  rw [longestName] at h
  cases hf : names.filter (eligible text) with
  | nil => rw [hf] at hin; simp at hin
  | cons n rest =>
      rw [hf, List.foldl_cons] at h
      rw [hf] at hin
      obtain ⟨b, hb, hn, hrest⟩ := foldl_longer_some rest n
      have hbn : b = name := Option.some.inj (hb.symm.trans h)
      subst hbn
      rcases List.mem_cons.mp hin with rfl | hin
      · exact hn
      · exact hrest other hin

/-- **The name taken is the longest eligible one.** -/
lemma longestName_eq_some_iff {names : List (List Char)} {text name : List Char} :
    longestName names text = some name ↔ Longest names text name := by
  constructor
  · exact longest_of_longestName
  · intro h
    cases hl : longestName names text with
    | none => exact absurd h.eligible (longestName_eq_none_iff.mp hl name h.known)
    | some found => rw [(longest_of_longestName hl).unique h]

/-! ## Tokenisations -/

/-- **The items of a text.**  Each rule takes one kind of item off the front of the text; what is
left is tokenised in the same way. -/
inductive Tokenises (names : List (List Char)) : List Char → List Item → Prop where
  /-- The end of the text. -/
  | nil : Tokenises names [] []
  /-- A character other than a colon. -/
  | char {c : Char} {rest : List Char} {items : List Item} :
      c ≠ ':' → Tokenises names rest items → Tokenises names (c :: rest) (.char c :: items)
  /-- Two colons. -/
  | cast {rest : List Char} {items : List Item} :
      Tokenises names rest items → Tokenises names (':' :: ':' :: rest) (.cast :: items)
  /-- A colon without a second one, where no name is eligible. -/
  | colon {rest : List Char} {items : List Item} :
      rest.head? ≠ some ':' → (∀ name ∈ names, ¬ Eligible rest name) →
      Tokenises names rest items → Tokenises names (':' :: rest) (.colon :: items)
  /-- A colon without a second one, and the longest eligible name. -/
  | token {name rest : List Char} {items : List Item} :
      (name ++ rest).head? ≠ some ':' → Longest names (name ++ rest) name →
      Tokenises names rest items → Tokenises names (':' :: (name ++ rest)) (.token name :: items)

section Scan

variable {names : List (List Char)}

lemma head?_ne_colon_iff {text : List Char} :
    text.head? ≠ some ':' ↔ ∀ rest, text = ':' :: rest → False := by
  rw [ne_eq, List.head?_eq_some_iff, not_exists]

@[simp] lemma scan_nil : scan names [] = [] := by
  rw [scan]

lemma scan_char {c : Char} (hc : c ≠ ':') (rest : List Char) :
    scan names (c :: rest) = .char c :: scan names rest := by
  rw [scan]
  · intro r h; exact absurd h hc
  · intro h; exact absurd h hc

@[simp] lemma scan_cast (rest : List Char) :
    scan names (':' :: ':' :: rest) = .cast :: scan names rest := by
  rw [scan]

lemma scan_colon {rest : List Char} (hrest : rest.head? ≠ some ':')
    (hnone : longestName names rest = none) :
    scan names (':' :: rest) = .colon :: scan names rest := by
  rw [scan, hnone]
  exact head?_ne_colon_iff.mp hrest

lemma scan_token {name rest : List Char} (hrest : (name ++ rest).head? ≠ some ':')
    (hname : longestName names (name ++ rest) = some name) :
    scan names (':' :: (name ++ rest)) = .token name :: scan names rest := by
  rw [scan, hname]
  · simp only [List.drop_left]
  · exact head?_ne_colon_iff.mp hrest

/-- The scan tokenises. -/
lemma tokenises_scan (names : List (List Char)) (text : List Char) :
    Tokenises names text (scan names text) := by
  fun_induction scan names text with
  | case1 => exact .nil
  | case2 rest ih => exact .cast ih
  | case3 rest hrest name hname ih =>
      have hdrop : name ++ rest.drop name.length = rest :=
        append_drop_of_eligible (longestName_eligible hname).2
      have hhead : rest.head? ≠ some ':' := head?_ne_colon_iff.mpr hrest
      have hlongest : Longest names (name ++ rest.drop name.length) name := by
        rw [hdrop]; exact longest_of_longestName hname
      have htoken := Tokenises.token (by rw [hdrop]; exact hhead) hlongest ih
      rw [hdrop] at htoken
      exact htoken
  | case4 rest hrest hnone ih =>
      exact .colon (head?_ne_colon_iff.mpr hrest) (longestName_eq_none_iff.mp hnone) ih
  | case5 c rest _ hc ih => exact .char hc ih

/-- Whatever tokenises a text is what the scan finds: at each place at most one rule applies. -/
lemma Tokenises.eq_scan {text : List Char} {items : List Item} (h : Tokenises names text items) :
    items = scan names text := by
  induction h with
  | nil => rw [scan_nil]
  | char hc _ ih => rw [scan_char hc, ih]
  | cast _ ih => rw [scan_cast, ih]
  | colon hrest hnone _ ih => rw [scan_colon hrest (longestName_eq_none_iff.mpr hnone), ih]
  | token hrest hname _ ih => rw [scan_token hrest (longestName_eq_some_iff.mpr hname), ih]

/-- **The scan finds the tokenisation of a text, and there is no other.** -/
theorem tokenises_iff {text : List Char} {items : List Item} :
    Tokenises names text items ↔ items = scan names text :=
  ⟨Tokenises.eq_scan, fun h => h ▸ tokenises_scan names text⟩

end Scan

/-! ## What becomes of the items -/

/-- The names that items mention, in their order and as often as they are mentioned. -/
def tokens (items : List Item) : List (List Char) :=
  items.filterMap fun
    | .token name => some name
    | _ => none

/-- What is written for an item: the placeholder of the given number for a name, and the item itself
for everything else. -/
def Item.written (number : Nat) : Item → List Char
  | .token _ => placeholder number
  | item => item.source

/-- **The items as text after `bound` values.**  A name that is the `j`-th one mentioned becomes
placeholder `bound + j`; everything else is copied. -/
def numbered (bound : Nat) (items : List Item) : List Char :=
  (items.mapIdx fun i item =>
    item.written (bound + (tokens (items.take (i + 1))).length)).flatten

@[simp] lemma tokens_nil : tokens [] = [] := rfl

@[simp] lemma tokens_token (name : List Char) (items : List Item) :
    tokens (.token name :: items) = name :: tokens items := rfl

lemma tokens_cons_of_ne {item : Item} (h : ∀ name, item ≠ .token name) (items : List Item) :
    tokens (item :: items) = tokens items := by
  cases item with
  | token name => exact absurd rfl (h name)
  | _ => rfl

lemma numbered_token (bound : Nat) (name : List Char) (items : List Item) :
    numbered bound (.token name :: items) = placeholder (bound + 1) ++ numbered (bound + 1) items := by
  have hshift (i : Nat) : bound + (tokens ((Item.token name :: items).take (i + 1 + 1))).length =
      bound + 1 + (tokens (items.take (i + 1))).length := by
    rw [List.take_succ_cons, tokens_token, List.length_cons]
    omega
  rw [numbered, numbered, List.mapIdx_cons, List.flatten_cons]
  simp only [hshift]
  rfl

lemma numbered_cons_of_ne {item : Item} (h : ∀ name, item ≠ .token name) (bound : Nat)
    (items : List Item) : numbered bound (item :: items) = item.source ++ numbered bound items := by
  have hwritten (number : Nat) : item.written number = item.source := by
    cases item with
    | token name => exact absurd rfl (h name)
    | _ => rfl
  simp only [numbered, List.mapIdx_cons, List.flatten_cons, List.take_succ_cons,
    tokens_cons_of_ne h, hwritten]

/-- Items that mention no name stay as they were. -/
lemma numbered_eq_flatMap_source {items : List Item} (h : tokens items = []) (bound : Nat) :
    numbered bound items = items.flatMap Item.source := by
  induction items generalizing bound with
  | nil => rfl
  | cons item rest ih =>
      have hne (name : List Char) : item ≠ .token name := by
        rintro rfl
        simp at h
      rw [tokens_cons_of_ne hne] at h
      rw [numbered_cons_of_ne hne, List.flatMap_cons, ih h]

lemma render_cons_of_ne {item : Item} (h : ∀ name, item ≠ .token name) (bound : Nat)
    (items : List Item) : render bound (item :: items) =
      ⟨item.source ++ (render bound items).text, (render bound items).slots⟩ := by
  cases item with
  | token name => exact absurd rfl (h name)
  | _ => rfl

/-- **What `render` makes of items**: their numbered text, and a slot for each name mentioned. -/
lemma render_eq (bound : Nat) (items : List Item) :
    render bound items =
      ⟨numbered bound items, (tokens items).map fun name => .parameter (String.ofList name)⟩ := by
  induction items generalizing bound with
  | nil => rfl
  | cons item rest ih =>
      by_cases hitem : ∃ name, item = .token name
      · obtain ⟨name, rfl⟩ := hitem
        simp only [render, ih, numbered_token, tokens_token, List.map_cons]
      · have hne (name : List Char) : item ≠ .token name := fun h => hitem ⟨name, h⟩
        rw [render_cons_of_ne hne, numbered_cons_of_ne hne, tokens_cons_of_ne hne, ih]

section Tokenised

variable {names : List (List Char)} {text : List Char} {items : List Item}

/-- The items of a tokenisation are the text, cut into pieces. -/
lemma Tokenises.flatMap_source (h : Tokenises names text items) :
    items.flatMap Item.source = text := by
  rw [h.eq_scan, flatMap_source_scan]

/-- A name in a tokenisation is a known one. -/
lemma Tokenises.mem_of_mem_tokens (h : Tokenises names text items) {name : List Char} (hname : name ∈ tokens items) :
    name ∈ names := by
  induction h with
  | nil => simp at hname
  | char _ _ ih => exact ih hname
  | cast _ ih => exact ih hname
  | colon _ _ _ ih => exact ih hname
  | token _ hlongest _ ih =>
      rw [tokens_token] at hname
      rcases List.mem_cons.mp hname with rfl | hname
      · exact hlongest.known
      · exact ih hname

/-- Where no name is known, none is mentioned. -/
lemma Tokenises.tokens_eq_nil (h : Tokenises [] text items) : tokens items = [] :=
  List.eq_nil_iff_forall_not_mem.mpr fun _ hname => List.not_mem_nil (h.mem_of_mem_tokens hname)

end Tokenised

/-! ## Substitution -/

/-- **Substitution, read off any tokenisation.** -/
lemma substitute_eq {names : List String} {text : List Char} {items : List Item}
    (h : Tokenises (names.map String.toList) text items) (bound : Nat) :
    substitute names text bound =
      ⟨numbered bound items, (tokens items).map fun name => .parameter (String.ofList name)⟩ := by
  cases names with
  | nil =>
      rw [h.tokens_eq_nil, numbered_eq_flatMap_source h.tokens_eq_nil, h.flatMap_source]
      rfl
  | cons name rest => rw [h.eq_scan, ← render_eq]; rfl

/-- The values read for the names of a tokenisation are those that the parameters give them. -/
lemma map_read_tokens (q : Query) {text : List Char} {items : List Item}
    (h : Tokenises (q.params.names.map String.toList) text items) :
    ((tokens items).map fun name => some (q.read (.parameter (String.ofList name)))) =
      (tokens items).map fun name => q.params.get? (String.ofList name) := by
  apply List.map_congr_left
  intro name hname
  obtain ⟨known, hknown, rfl⟩ := List.mem_map.mp (h.mem_of_mem_tokens hname)
  obtain ⟨value, hvalue⟩ := Record.exists_get?_of_mem hknown
  simp [Query.read, hvalue]

/-- **A text has exactly one tokenisation, and substitution follows it.**  Its items are the text,
cut into pieces.  The `j`-th name that it mentions becomes placeholder `k + j`, where `k` values are
already bound, and everything else is copied; the values pushed are those of the names mentioned, in
their order and once for each mention. -/
theorem existsUnique_tokenises (q : Query) (text : List Char) (bound : List Value) :
    ∃ items,
      (∀ other, Tokenises (q.params.names.map String.toList) text other ↔ other = items) ∧
      items.flatMap Item.source = text ∧
      (substitute q.params.names text bound.length).text = numbered bound.length items ∧
      ((substitute q.params.names text bound.length).slots.map q.read).map some =
        (tokens items).map fun name => q.params.get? (String.ofList name) := by
  have hscan := tokenises_scan (q.params.names.map String.toList) text
  refine ⟨scan (q.params.names.map String.toList) text, fun other => tokenises_iff,
    hscan.flatMap_source, ?_, ?_⟩
  · rw [substitute_eq hscan]
  · rw [substitute_eq hscan, List.map_map, List.map_map, ← map_read_tokens q hscan]
    rfl

/-- A cast hides a name, a longer name goes before a shorter one, and a name that goes on is none. -/
example : scan ["id".toList, "id2".toList] ":id2::id :id3".toList =
    [.token "id2".toList, .cast, .char 'i', .char 'd', .char ' ', .colon, .char 'i', .char 'd',
      .char '3'] := by
  cbv

end BoundSql.Sql.NamedParameter
