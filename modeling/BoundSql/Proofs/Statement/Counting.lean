import BoundSql.Proofs.Sql.Concatenation
import BoundSql.Proofs.Statement.Numbering

/-!
# A count and the query it counts

The rows of a query are counted by a statement of its own, which leaves out the order and the
limit.  What is left is scanned in another place and numbered from another number, so it has to be
shown that both statements ask for the same rows.

* `parameterSlots`, `fragment_of_tokenises` — a query in three parts, each with its own items.
* `Query.Counts` — what a count and its query have in common.
* **`exists_counts`** — every count has it in common with its query, if no name has a space in it
  and no text a dollar sign.

A space stands in front of the order and of the limit, so a name at the end of the condition ends
there in the query as it does at the end of the text that is counted.
-/

namespace BoundSql

open Sql Decimal NamedParameter

namespace Query

/-! ## The parts of a query -/

/-- The names of parameters, as the scan compares them. -/
def names (q : Query) : List (List Char) := q.params.names.map String.toList

/-- The slots of the names that items mention. -/
def parameterSlots (items : List Item) : List Slot :=
  (tokens items).map fun name => .parameter (String.ofList name)

/-- The text that limits the rows, with nothing bound in front of it. -/
def pagingText (q : Query) : List Char :=
  (if q.paging.1.isSome then " LIMIT ".toList ++ placeholder 1 else []) ++
    if q.paging.2.isSome then " OFFSET ".toList ++ placeholder q.pagingSlots.length else []

/-- The values that limit the rows. -/
def pagingValues (q : Query) : List Value :=
  q.paging.1.toList.map .int64 ++ q.paging.2.toList.map .int64

lemma pagingFragment_zero (q : Query) : q.pagingFragment 0 = ⟨q.pagingText, q.pagingSlots⟩ := by
  rw [pagingFragment_apply, pagingText]
  simp only [Nat.zero_add]

lemma map_read_pagingSlots (q : Query) : q.pagingSlots.map q.read = q.pagingValues := by
  rw [pagingSlots, pagingValues, List.map_append]
  congr 1
  · cases h : q.paging.1 with
    | none => rfl
    | some n => simp [read, h]
  · cases h : q.paging.2 with
    | none => rfl
    | some n => simp [read, h]

lemma colon_not_mem_pagingText (q : Query) : ':' ∉ q.pagingText := by
  rw [pagingText, List.mem_append, not_or]
  constructor
  · split_ifs
    · simp [colon_not_mem_placeholder]
    · simp
  · split_ifs
    · simp [colon_not_mem_placeholder]
    · simp

section Parts

variable {q : Query}

lemma breaks_ordering (hspace : ∀ name ∈ q.names, ' ' ∉ name) : Breaks q.names q.ordering := by
  rw [ordering]
  split_ifs
  · exact breaks_nil _
  · exact breaks_space hspace _

lemma breaks_pagingText (hspace : ∀ name ∈ q.names, ' ' ∉ name) : Breaks q.names q.pagingText := by
  rw [pagingText]
  split_ifs
  · exact breaks_space hspace _
  · exact breaks_space hspace _
  · exact breaks_space hspace _
  · exact breaks_nil _

/-- **A query in three parts**: what is selected, the order, and the limit, which is numbered first
and written last. -/
lemma fragment_of_tokenises (hspace : ∀ name ∈ q.names, ' ' ∉ name) {selected ordered : List Item}
    (hselected : Tokenises q.names q.selection selected)
    (hordered : Tokenises q.names q.ordering ordered) :
    q.fragment 0 =
      ⟨numbered q.pagingSlots.length selected ++
          numbered (q.pagingSlots.length + (tokens selected).length) ordered ++ q.pagingText,
        q.pagingSlots ++ (parameterSlots selected ++ parameterSlots ordered)⟩ := by
  have hbody : Tokenises q.names (q.selection ++ q.ordering) (selected ++ ordered) :=
    hselected.append (breaks_ordering hspace) hordered
  have hall := hbody.append (breaks_pagingText hspace)
    (tokenises_of_not_mem q.colon_not_mem_pagingText)
  rw [fragment, pagingFragment_zero, Nat.zero_add, substitute_eq hall]
  simp only [numbered_append, tokens_append, numbered_map_char, tokens_map_char, List.append_nil,
    List.map_append, parameterSlots]

/-- **What is counted** is the first part alone. -/
lemma unpaged_fragment_of_tokenises (hspace : ∀ name ∈ q.names, ' ' ∉ name) {selected : List Item}
    (hselected : Tokenises q.names q.selection selected) :
    q.unpaged.fragment 0 = ⟨numbered 0 selected, parameterSlots selected⟩ := by
  have hparts := fragment_of_tokenises (q := q.unpaged) hspace hselected .nil
  simpa [pagingSlots, pagingText, paging, unpaged, numbered, parameterSlots] using hparts

/-- Two queries read the same for names that are the same in both. -/
lemma map_read_parameterSlots {p q : Query} {items : List Item}
    (h : ∀ name ∈ tokens items,
      p.params.get? (String.ofList name) = q.params.get? (String.ofList name)) :
    (parameterSlots items).map p.read = (parameterSlots items).map q.read := by
  rw [parameterSlots, List.map_map, List.map_map]
  apply List.map_congr_left
  intro name hname
  simp only [Function.comp_apply, read, h name hname]

lemma map_read_of_tokenises {text : List Char} {items : List Item}
    (h : Tokenises q.names text items) :
    ((parameterSlots items).map q.read).map some =
      (tokens items).map fun name => q.params.get? (String.ofList name) := by
  rw [← map_read_tokens q h, parameterSlots, List.map_map, List.map_map]
  rfl

end Parts

/-! ## Counts -/

/-- **What a count and its query have in common.**  The count asks for the rows of `counted` and
binds `filter`.  The query asks for the same rows, its numbers raised by the number of values that
limit them; these come first among its values, then come those of `filter`, and then those that its
order mentions. -/
structure Counts (q : Query) (counted order : List Char) (filter later : List Value) : Prop where
  count : (Statement.count q).compile =
    ⟨String.ofList ("SELECT COUNT(*) AS count FROM (".toList ++ counted ++ ") AS T".toList), filter⟩
  query : q.compile =
    ⟨String.ofList (raised q.pagingValues.length counted ++ order ++ q.pagingText),
      q.pagingValues ++ filter ++ later⟩
  /-- The text that is counted has the placeholders of the values that the count binds. -/
  markers_counted : (markers counted).Perm ((List.range' 1 filter.length).map digits)
  /-- The order has the placeholders of the values that come last. -/
  markers_order : (markers order).Perm
    ((List.range' (q.pagingValues.length + filter.length + 1) later.length).map digits)
  /-- What is counted is what the query selects, each name replaced. -/
  counted_eq : ∃ items, Tokenises q.names q.selection items ∧ counted = numbered 0 items ∧
    filter.map some = (tokens items).map fun name => q.params.get? (String.ofList name)
  /-- The order is that of the query, each name replaced. -/
  order_eq : ∃ items, Tokenises q.names q.ordering items ∧
    order = numbered (q.pagingValues.length + filter.length) items ∧
    later.map some = (tokens items).map fun name => q.params.get? (String.ofList name)

variable {q : Query}

/-- The count binds what the selection mentions. -/
lemma compile_count (hspace : ∀ name ∈ q.names, ' ' ∉ name) {selected : List Item}
    (hselected : Tokenises q.names q.selection selected) :
    (Statement.count q).compile =
      ⟨String.ofList ("SELECT COUNT(*) AS count FROM (".toList ++ numbered 0 selected ++
          ") AS T".toList), (parameterSlots selected).map q.read⟩ := by
  have hcount : q.countFragment 0 =
      ⟨"SELECT COUNT(*) AS count FROM (".toList ++ numbered 0 selected ++ ") AS T".toList,
        parameterSlots selected⟩ := by
    simp [countFragment, Fragment.append_apply, unpaged_fragment_of_tokenises hspace hselected]
  have hread : (parameterSlots selected).map q.unpaged.read =
      (parameterSlots selected).map q.read := map_read_parameterSlots fun _ _ => rfl
  simp only [Statement.compile, Statement.serialize, Statement.fragment, Statement.read,
    List.length_nil, hcount, hread, List.nil_append]

/-- The query binds its limit, then what the selection mentions, then what the order mentions. -/
lemma compile_of_tokenises (hspace : ∀ name ∈ q.names, ' ' ∉ name) {selected ordered : List Item}
    (hselected : Tokenises q.names q.selection selected)
    (hordered : Tokenises q.names q.ordering ordered) :
    q.compile =
      ⟨String.ofList (numbered q.pagingSlots.length selected ++
          numbered (q.pagingSlots.length + (tokens selected).length) ordered ++ q.pagingText),
        q.pagingValues ++ (parameterSlots selected).map q.read ++
          (parameterSlots ordered).map q.read⟩ := by
  simp only [Query.compile, Statement.compile, Statement.serialize, Statement.fragment,
    Statement.read, List.length_nil, fragment_of_tokenises hspace hselected hordered,
    List.map_append, map_read_pagingSlots, List.nil_append, List.append_assoc]

/-- **A count covers the rows of its query with the same values.**  There is one text whose
placeholders are those of the count; in the query it stands with all numbers raised by the number
of values that limit the rows, in front of the order and the limit. -/
theorem exists_counts (q : Query) (hspace : ∀ name ∈ q.params.names, ' ' ∉ name.toList)
    (hdollar : ∀ text ∈ q.texts, '$' ∉ text.toList) :
    ∃ counted order filter later, q.Counts counted order filter later := by
  have hspaces : ∀ name ∈ q.names, ' ' ∉ name := by
    intro name hname
    obtain ⟨known, hknown, rfl⟩ := List.mem_map.mp hname
    exact hspace known hknown
  have hdollars : ∀ name ∈ q.names, '$' ∉ name := by
    intro name hname
    obtain ⟨known, hknown, rfl⟩ := List.mem_map.mp hname
    exact hdollar known (by simp [texts, hknown])
  have hselected := tokenises_scan q.names q.selection
  have hordered := tokenises_scan q.names q.ordering
  generalize scan q.names q.selection = selected at hselected
  generalize scan q.names q.ordering = ordered at hordered
  have hpaging : q.pagingValues.length = q.pagingSlots.length := by
    rw [← q.map_read_pagingSlots, List.length_map]
  have hlength (items : List Item) :
      ((parameterSlots items).map q.read).length = (tokens items).length := by
    rw [List.length_map, parameterSlots, List.length_map]
  have hmarkers {text : List Char} (htext : '$' ∉ text) {items : List Item}
      (h : Tokenises q.names text items) (bound : Nat) :
      (markers (numbered bound items)).Perm
        ((List.range' (bound + 1) (tokens items).length).map digits) := by
    have hperm := markers_numbered hdollars h bound
    rwa [markers_of_not_mem htext, List.nil_append] at hperm
  refine ⟨numbered 0 selected, numbered (q.pagingSlots.length + (tokens selected).length) ordered,
    (parameterSlots selected).map q.read, (parameterSlots ordered).map q.read, ?_⟩
  constructor
  case count => exact compile_count hspaces hselected
  case query =>
    rw [compile_of_tokenises hspaces hselected hordered, hpaging,
      raised_numbered hselected (dollar_not_mem_selection hdollar), Nat.zero_add]
  case markers_counted =>
    rw [hlength]
    exact hmarkers (dollar_not_mem_selection hdollar) hselected 0
  case markers_order =>
    rw [hpaging, hlength, hlength]
    exact hmarkers (dollar_not_mem_ordering hdollar) hordered _
  case counted_eq => exact ⟨selected, hselected, rfl, map_read_of_tokenises hselected⟩
  case order_eq =>
    exact ⟨ordered, hordered, by rw [hpaging, hlength], map_read_of_tokenises hordered⟩

/-- One page of rows: the condition ends in a name, and the order mentions one too. -/
theorem exists_counts_page :
    let q := ((((Query.ofTable "t").filter "a::int = :a2 OR b = :a").sorted ["c = :a|DESC", "d"]).page
      2 10).param "a" (.text "1") |>.param "a2" .null
    (∀ name ∈ q.params.names, ' ' ∉ name.toList) ∧ (∀ text ∈ q.texts, '$' ∉ text.toList) ∧
      ∃ counted order filter later, q.Counts counted order filter later := by
  intro q
  have hspace : ∀ name ∈ q.params.names, ' ' ∉ name.toList := by decide
  have hdollar : ∀ text ∈ q.texts, '$' ∉ text.toList := by decide
  exact ⟨hspace, hdollar, exists_counts q hspace hdollar⟩

end Query

end BoundSql
