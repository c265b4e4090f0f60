import BoundSql.Json.Printer
import BoundSql.Proofs.Decimal.FixedWidth
import BoundSql.Proofs.Json.Document

/-!
# Documents that are written and read

What is written for a document without floating-point numbers is read as this document.  The grammar
does not look behind a value, so it is enough that the value ends there.

* `readString_quoted`, `readNumber_digits` — texts and numbers.
* `Json.ReadsAs` — what is written for a document is read as a draft, whatever follows it.
* `readItems_writeItems`, `readMembers_writeMembers` — lists and objects, from what they hold.
* `Json.ReadsBack` — it is the draft of the document itself.
* **`ofText?_write`** — the text of a document is read as its draft.
* **`ofText?_text`** — and as the document itself, if it is as documents are kept.
* **`ofText?_kept`** — no text is read as anything else than such a document.
-/

namespace BoundSql.Json

open Decimal Text

/-! ## Texts -/

lemma hexValue?_hexDigit {d : Nat} (h : d < 16) : hexValue? (hexDigit d) = some d := by
  revert d
  decide

/-- Four digits are read as the number of a character below the space. -/
lemma hexQuad?_control {c : Char} (h : c.toNat < 0x20) :
    hexQuad? '0' '0' (hexDigit (c.toNat / 16)) (hexDigit (c.toNat % 16)) = some c.toNat := by
  have hzero : hexValue? '0' = some 0 := by decide
  rw [hexQuad?, hzero, hexValue?_hexDigit (by omega), hexValue?_hexDigit (by omega)]
  simp only [Option.bind_eq_bind, Option.bind_some, Option.pure_def, Option.some.injEq]
  omega

lemma ofNat_toNat_control {c : Char} (h : c.toNat < 0x20) : Unit16.ofNat c.toNat = .char c := by
  rw [Unit16.ofNat, if_neg (by omega), Char.ofNat_toNat]

/-- **What stands for a character is read as this character.** -/
lemma readPieces_escapedChar (done : List Unit16) (c : Char) (rest : List Char) :
    readPieces done (escapedChar c ++ rest) = readPieces (.char c :: done) rest := by
  rw [escapedChar]
  split
  · subst_vars; rfl
  split
  · subst_vars; rfl
  split
  · subst_vars; rfl
  split
  · subst_vars; rfl
  split
  · subst_vars; rfl
  split
  · rename_i hbackspace
    obtain rfl : c = Char.ofNat 8 := Char.toNat_inj.mp hbackspace
    rfl
  split
  · rename_i hfeed
    obtain rfl : c = Char.ofNat 12 := Char.toNat_inj.mp hfeed
    rfl
  split
  · rename_i hcontrol
    simp only [List.cons_append, List.nil_append, readPieces, hexQuad?_control hcontrol,
      ofNat_toNat_control hcontrol]
  · rename_i hquote hslash _ _ _ _ _ hcontrol
    simp only [List.cons_append, List.nil_append]
    rw [readPieces, if_neg hcontrol]
    · exact hquote
    · exact fun _ _ _ _ _ h _ => hslash h
    · exact fun _ _ h _ => hslash h

lemma readPieces_flatMap (done : List Unit16) (cs rest : List Char) :
    readPieces done (cs.flatMap escapedChar ++ '"' :: rest) =
      some (done.reverse ++ cs.map .char, rest) := by
  induction cs generalizing done with
  | nil => simp [readPieces]
  | cons c cs ih =>
      rw [List.flatMap_cons, List.append_assoc, readPieces_escapedChar, ih]
      simp

lemma joinHalves_map_char (cs : List Char) : joinHalves (cs.map .char) = some cs := by
  induction cs with
  | nil => rfl
  | cons c cs ih => rw [List.map_cons, joinHalves, ih, Option.map_some]

/-- **A text in quotes is read as the text.** -/
lemma readString_quoted (s : String) (rest : List Char) :
    readString (s.toList.flatMap escapedChar ++ '"' :: rest) = some (some s, rest) := by
  simp only [readString, readPieces_flatMap, List.reverse_nil, List.nil_append, Option.map_some,
    joinHalves_map_char, String.ofList_toList]

/-! ## Numbers -/

/-- **What may follow a value**: nothing, a comma or what closes a list or an object. -/
def Ends (rest : List Char) : Prop := ∀ c ∈ rest.head?, c = ',' ∨ c = ']' ∨ c = '\x7d'

section Ending

variable {rest : List Char}

lemma ends_nil : Ends [] := nofun

lemma ends_cons {c : Char} (h : c = ',' ∨ c = ']' ∨ c = '\x7d') : Ends (c :: rest) := by
  intro d hd
  rwa [← Option.some.inj hd]

lemma Ends.takeWhile_isDigit (h : Ends rest) : rest.takeWhile Char.isDigit = [] := by
  cases rest with
  | nil => rfl
  | cons c rest => rcases h c rfl with rfl | rfl | rfl <;> rfl

lemma Ends.dropWhile_isDigit (h : Ends rest) : rest.dropWhile Char.isDigit = rest := by
  cases rest with
  | nil => rfl
  | cons c rest => rcases h c rfl with rfl | rfl | rfl <;> rfl

lemma Ends.skipSpace (h : Ends rest) : skipSpace rest = rest := by
  cases rest with
  | nil => rfl
  | cons c rest => rcases h c rfl with rfl | rfl | rfl <;> rfl

lemma isDigit_of_digits_eq_cons {n : Nat} {c : Char} {cs : List Char} (h : digits n = c :: cs) :
    c.isDigit = true :=
  allDigits_iff.mp (allDigits_digits n) c (by rw [h]; exact List.mem_cons_self)

/-- The digits of a number start with no superfluous zero. -/
lemma digits_lead (n : Nat) :
    ((digits n).isEmpty || ((digits n).head? == some '0' && (digits n).length ≠ 1)) = false := by
  have hne : (digits n).isEmpty = false := List.isEmpty_eq_false_iff.mpr (digits_ne_nil n)
  rw [hne, Bool.false_or]
  by_cases hzero : n = 0
  · subst hzero
    rw [digits]
    rfl
  · rw [beq_eq_false_iff_ne.mpr (head?_digits_ne hzero), Bool.false_and]

/-- **The digits of a number are read as this number**, without point or exponent. -/
lemma readNumber_digits (h : Ends rest) (negative : Bool) (n : Nat) :
    readNumber negative (digits n ++ rest) = some (⟨negative, digits n, [], none⟩, rest) := by
  have hdigits := allDigits_iff.mp (allDigits_digits n)
  simp only [readNumber, List.takeWhile_append_of_pos hdigits, List.dropWhile_append_of_pos hdigits,
    h.takeWhile_isDigit, h.dropWhile_isDigit, List.append_nil, digits_lead]
  cases rest with
  | nil => rfl
  | cons c rest => rcases h c rfl with rfl | rfl | rfl <;> rfl

end Ending

lemma number?_digits {n : Nat} (h : n ≤ greatestWord) :
    NumberLiteral.number? ⟨false, digits n, [], none⟩ = some (.whole n) := by
  simp only [NumberLiteral.number?, value_digits]
  rw [if_neg (by simpa using h)]
  rfl

lemma number?_digits_negative {n : Nat} (hpos : n ≠ 0) (h : n ≤ 0x8000000000000000) :
    NumberLiteral.number? ⟨true, digits n, [], none⟩ = some (.whole (-n)) := by
  have hword : ¬ greatestWord < n := by rw [greatestWord]; omega
  simp only [NumberLiteral.number?, value_digits]
  simp [hword, hpos]
  omega

/-! ## Drafts -/

lemma skipSpace_cons {c : Char} (h : isSpace c = false) (cs : List Char) :
    skipSpace (c :: cs) = c :: cs :=
  List.dropWhile_cons_of_neg (by rw [h]; exact Bool.false_ne_true)

lemma isSpace_of_isDigit {c : Char} (h : c.isDigit = true) : isSpace c = false := by
  rw [isDigit_iff] at h
  have hne : ∀ d : Char, d.toNat < 48 → c ≠ d := by
    rintro d hd rfl
    omega
  simp [isSpace, hne]

/-- What starts with a digit is read as a number. -/
lemma readDraft_digit {c : Char} (hc : c.isDigit = true) (fuel : Nat) (cs : List Char) :
    readDraft (fuel + 1) (c :: cs) =
      (readNumber false (c :: cs)).map fun (l, rest) => (.number l.number?, rest) := by
  rw [readDraft, skipSpace_cons (isSpace_of_isDigit hc)]
  split
  case h_8 => rfl
  -- Everything else that is read starts with a character that is no digit.
  all_goals
    rename_i heq
    rw [List.cons.injEq] at heq
    rw [heq.1] at hc
    exact absurd hc (by decide)

/-- **What is written for a document is read as a draft**, if the steps are enough and the value
ends there. -/
def ReadsAs (v : Json) (d : Draft) : Prop :=
  ∀ (fuel : Nat) (rest : List Char), 2 * v.write.length ≤ fuel → Ends rest →
    readDraft fuel (v.write ++ rest) = some (d, rest)

/-- **What is written for a document is read as its draft**, if the steps are enough and the value
ends there. -/
def ReadsBack (v : Json) : Prop :=
  ∀ (fuel : Nat) (rest : List Char), 2 * v.write.length ≤ fuel → Ends rest →
    readDraft fuel (v.write ++ rest) = some (v.draft, rest)

/-- A member is read under its name. -/
def MemberReadsAs (m : String × Json) (d : Option String × Draft) : Prop :=
  d.1 = some m.1 ∧ m.2.ReadsAs d.2

/-- **A document opens** with no blank, and not with what closes a list. -/
def Opens (v : Json) : Prop := ∃ c cs, v.write = c :: cs ∧ isSpace c = false ∧ c ≠ ']'

lemma readsAs_whole {n : Int} (h : (Number.whole n).Fits) :
    ReadsAs (.number (.whole n)) (.number (some (.whole n))) := by
  intro fuel rest hfuel hends
  have hlow : -0x8000000000000000 ≤ n := h.1
  have hhigh : n ≤ 0xFFFFFFFFFFFFFFFF := h.2
  obtain ⟨c, cs, hdigits⟩ := List.exists_cons_of_ne_nil (digits_ne_nil n.natAbs)
  have hc : c.isDigit = true := isDigit_of_digits_eq_cons hdigits
  rw [write, Number.write, integer] at hfuel ⊢
  split
  · rename_i hnegative
    rw [if_pos hnegative, List.length_cons] at hfuel
    obtain ⟨fuel, rfl⟩ : ∃ k, fuel = k + 1 := ⟨fuel - 1, by omega⟩
    have habs : (-(n.natAbs : Int)) = n := by omega
    rw [List.cons_append, readDraft, skipSpace_cons rfl]
    simp only [readNumber_digits hends, Option.map_some,
      number?_digits_negative (n := n.natAbs) (by omega) (by omega), habs]
  · rename_i hnegative
    rw [if_neg hnegative, hdigits, List.length_cons] at hfuel
    obtain ⟨fuel, rfl⟩ : ∃ k, fuel = k + 1 := ⟨fuel - 1, by omega⟩
    have habs : (n.natAbs : Int) = n := by omega
    rw [hdigits, List.cons_append, readDraft_digit hc, ← List.cons_append, ← hdigits]
    simp only [readNumber_digits hends, Option.map_some,
      number?_digits (n := n.natAbs) (by rw [greatestWord]; omega), habs]

lemma readsAs_string (s : String) : ReadsAs (.string s) (.string (some s)) := by
  intro fuel rest hfuel _
  rw [write, quote, List.length_cons] at hfuel
  obtain ⟨fuel, rfl⟩ : ∃ k, fuel = k + 1 := ⟨fuel - 1, by omega⟩
  rw [write, quote, List.cons_append, List.append_assoc, readDraft, skipSpace_cons rfl]
  simp only [List.singleton_append, readString_quoted, Option.map_some]

/-- A digit is no blank and closes nothing. -/
lemma opens_of_isDigit {v : Json} {c : Char} {cs : List Char} (h : v.write = c :: cs)
    (hc : c.isDigit = true) : v.Opens := by
  refine ⟨c, cs, h, isSpace_of_isDigit hc, ?_⟩
  rintro rfl
  exact absurd hc (by decide)

/-- Only floating-point numbers may open in another way. -/
lemma opens {v : Json} (hreal : ∀ x, v = .number (.real x) → v.Opens) : v.Opens := by
  cases v with
  | null => exact ⟨_, _, rfl, rfl, by decide⟩
  | bool b => cases b <;> exact ⟨_, _, rfl, rfl, by decide⟩
  | number n =>
      cases n with
      | real x => exact hreal x rfl
      | whole n =>
          obtain ⟨c, cs, hdigits⟩ := List.exists_cons_of_ne_nil (digits_ne_nil n.natAbs)
          by_cases hnegative : n < 0
          · exact ⟨_, _, if_pos hnegative, rfl, by decide⟩
          · have hwrite : write (.number (.whole n)) = c :: cs := by
              rw [write, Number.write, integer, if_neg hnegative, hdigits]
            exact opens_of_isDigit hwrite (isDigit_of_digits_eq_cons hdigits)
  | string s => exact ⟨_, _, rfl, rfl, by decide⟩
  | array items => exact ⟨_, _, rfl, rfl, by decide⟩
  | object members => exact ⟨_, _, rfl, rfl, by decide⟩

lemma opens_of_floatFree {v : Json} (h : v.FloatFree) : v.Opens := by
  apply opens
  rintro x rfl
  cases h with
  | number hwhole => exact hwhole.elim

/-- **Items are read one after the other.** -/
lemma readItems_writeItems {items : List Json} {drafts : List Draft} (hne : items ≠ [])
    (hreads : List.Forall₂ ReadsAs items drafts) {fuel : Nat} (rest : List Char)
    (hfuel : 2 * (writeItems items).length + 1 ≤ fuel) :
    readItems fuel (writeItems items ++ ']' :: rest) = some (drafts, rest) := by
  induction hreads generalizing fuel with
  | nil => exact absurd rfl hne
  | @cons v d items drafts hv hitems ih =>
      obtain ⟨fuel, rfl⟩ : ∃ k, fuel = k + 1 := ⟨fuel - 1, by omega⟩
      cases hitems with
      | nil =>
          rw [writeItems] at hfuel ⊢
          have hread := hv fuel (']' :: rest) (by omega) (ends_cons (.inr (.inl rfl)))
          simp only [readItems, hread, (ends_cons (.inr (.inl rfl))).skipSpace]
      | @cons w d' items drafts hw hitems =>
          rw [writeItems, List.length_append, List.length_cons] at hfuel
          have hends : Ends (',' :: (writeItems (w :: items) ++ ']' :: rest)) :=
            ends_cons (.inl rfl)
          have hread := hv fuel _ (by omega) hends
          have hothers : readItems fuel (writeItems (w :: items) ++ ']' :: rest) = _ :=
            ih (List.cons_ne_nil _ _) (by omega)
          rw [writeItems, List.append_assoc, List.cons_append]
          simp only [readItems, hread, hends.skipSpace, hothers, Option.map_some]

lemma readsAs_array {items : List Json} {drafts : List Draft} (hopens : ∀ v ∈ items, v.Opens)
    (hreads : List.Forall₂ ReadsAs items drafts) : ReadsAs (.array items) (.array drafts) := by
  intro fuel rest hfuel _
  rw [write, List.length_cons, List.length_append, List.length_singleton] at hfuel
  obtain ⟨fuel, rfl⟩ : ∃ k, fuel = k + 1 := ⟨fuel - 1, by omega⟩
  rw [write, List.cons_append, List.append_assoc, List.singleton_append, readDraft,
    skipSpace_cons rfl]
  cases items with
  | nil =>
      cases hreads
      rfl
  | cons v items =>
      obtain ⟨c, cs, hwrite, hspace, hclose⟩ := hopens v List.mem_cons_self
      have hitems := readItems_writeItems (List.cons_ne_nil v items) hreads rest
        (show 2 * (writeItems (v :: items)).length + 1 ≤ fuel by omega)
      obtain ⟨cs', hcs'⟩ : ∃ cs', writeItems (v :: items) = c :: cs' := by
        cases items with
        | nil => exact ⟨cs, by rw [writeItems, hwrite]⟩
        | cons w items => exact ⟨_, by rw [writeItems, hwrite, List.cons_append]⟩
      -- The list is not empty, so it is read item by item: what follows the bracket does not
      -- close it.
      simp only [hcs', List.cons_append, skipSpace_cons hspace]
      rw [hcs', List.cons_append] at hitems
      split
      · rename_i heq
        rw [List.cons.injEq] at heq
        exact absurd heq.1 hclose
      · rw [hitems, Option.map_some]

/-- **Members are read one after the other.** -/
lemma readMembers_writeMembers {members : List (String × Json)}
    {drafts : List (Option String × Draft)} (hne : members ≠ [])
    (hreads : List.Forall₂ MemberReadsAs members drafts) {fuel : Nat} (rest : List Char)
    (hfuel : 2 * (writeMembers members).length + 1 ≤ fuel) :
    readMembers fuel (writeMembers members ++ '\x7d' :: rest) = some (drafts, rest) := by
  induction hreads generalizing fuel with
  | nil => exact absurd rfl hne
  | @cons m d members drafts hm hmembers ih =>
      obtain ⟨n, v⟩ := m
      obtain ⟨name, d⟩ := d
      obtain ⟨hname, hv⟩ := hm
      obtain rfl : name = some n := hname
      obtain ⟨fuel, rfl⟩ : ∃ k, fuel = k + 1 := ⟨fuel - 1, by omega⟩
      cases hmembers with
      | nil =>
          rw [writeMembers, List.length_append, List.length_cons] at hfuel
          have hends : Ends ('\x7d' :: rest) := ends_cons (.inr (.inr rfl))
          have hread : readDraft fuel (v.write ++ _) = _ :=
            hv fuel _ (show 2 * v.write.length ≤ fuel by omega) hends
          rw [writeMembers, quote, List.cons_append, List.cons_append, readMembers,
            skipSpace_cons rfl]
          simp only [List.append_assoc, List.cons_append, List.nil_append, readString_quoted,
            skipSpace_cons (show isSpace ':' = false from rfl), hread, hends.skipSpace]
      | @cons m' d' members drafts hm' hmembers =>
          rw [writeMembers, List.length_append, List.length_cons, List.length_append,
            List.length_cons] at hfuel
          have hends : Ends (',' :: (writeMembers (m' :: members) ++ '\x7d' :: rest)) :=
            ends_cons (.inl rfl)
          have hread : readDraft fuel (v.write ++ _) = _ :=
            hv fuel _ (show 2 * v.write.length ≤ fuel by omega) hends
          have hothers : readMembers fuel (writeMembers (m' :: members) ++ '\x7d' :: rest) = _ :=
            ih (List.cons_ne_nil _ _) (by omega)
          rw [writeMembers, quote, List.cons_append, List.cons_append, readMembers,
            skipSpace_cons rfl]
          simp only [List.append_assoc, List.cons_append, List.nil_append, readString_quoted,
            skipSpace_cons (show isSpace ':' = false from rfl), hread, hends.skipSpace, hothers,
            Option.map_some]

lemma readsAs_object {members : List (String × Json)} {drafts : List (Option String × Draft)}
    (hreads : List.Forall₂ MemberReadsAs members drafts) :
    ReadsAs (.object members) (.object drafts) := by
  intro fuel rest hfuel _
  rw [write, List.length_cons, List.length_append, List.length_singleton] at hfuel
  obtain ⟨fuel, rfl⟩ : ∃ k, fuel = k + 1 := ⟨fuel - 1, by omega⟩
  rw [write, List.cons_append, List.append_assoc, List.singleton_append, readDraft,
    skipSpace_cons rfl]
  cases members with
  | nil =>
      cases hreads
      rfl
  | cons m members =>
      have hmembers := readMembers_writeMembers (List.cons_ne_nil m members) hreads rest
        (show 2 * (writeMembers (m :: members)).length + 1 ≤ fuel by omega)
      obtain ⟨cs, hcs⟩ : ∃ cs, writeMembers (m :: members) = '"' :: cs := by
        cases members with
        | nil => exact ⟨_, rfl⟩
        | cons m' members => exact ⟨_, rfl⟩
      simp only [hcs, List.cons_append, skipSpace_cons (show isSpace '"' = false from rfl)]
      rw [hcs, List.cons_append] at hmembers
      split
      · rename_i heq
        rw [List.cons.injEq] at heq
        exact absurd heq.1 (by decide)
      · rw [hmembers, Option.map_some]

lemma readsAs_null : ReadsAs .null .null := by
  intro fuel rest hfuel _
  have hlength : 2 * 4 ≤ fuel := hfuel
  obtain ⟨fuel, rfl⟩ : ∃ k, fuel = k + 1 := ⟨fuel - 1, by omega⟩
  rfl

lemma readsAs_bool (b : Bool) : ReadsAs (.bool b) (.bool b) := by
  intro fuel rest hfuel _
  have hlength : 2 * 4 ≤ fuel := by
    cases b with
    | true => exact hfuel
    | false => exact Nat.le_trans (by decide) hfuel
  obtain ⟨fuel, rfl⟩ : ∃ k, fuel = k + 1 := ⟨fuel - 1, by omega⟩
  cases b <;> rfl

/-! ## Documents without floating-point numbers -/

lemma forall₂_draftItems {items : List Json} (h : ∀ v ∈ items, v.ReadsBack) :
    List.Forall₂ ReadsAs items (draftItems items) := by
  induction items with
  | nil => exact .nil
  | cons v items ih =>
      rw [List.forall_mem_cons] at h
      exact .cons h.1 (ih h.2)

lemma forall₂_draftMembers {members : List (String × Json)} (h : ∀ m ∈ members, m.2.ReadsBack) :
    List.Forall₂ MemberReadsAs members (draftMembers members) := by
  induction members with
  | nil => exact .nil
  | cons m members ih =>
      rw [List.forall_mem_cons] at h
      exact .cons ⟨rfl, h.1⟩ (ih h.2)

/-- **What is written for a document without floating-point numbers is read as its draft.** -/
theorem FloatFree.readsBack {j : Json} (hfree : j.FloatFree) (hfits : j.AllNumbers Number.Fits) :
    j.ReadsBack := by
  induction hfree with
  | null => exact readsAs_null
  | bool b => exact readsAs_bool b
  | @number n hwhole =>
      cases n with
      | real x => exact hwhole.elim
      | whole n =>
          cases hfits with
          | number hn => exact readsAs_whole hn
  | string s => exact readsAs_string s
  | array hfree ih =>
      cases hfits with
      | array hall =>
          exact readsAs_array (fun v hv => opens_of_floatFree (hfree v hv))
            (forall₂_draftItems fun v hv => ih v hv (hall v hv))
  | object _ ih =>
      cases hfits with
      | object hall => exact readsAs_object (forall₂_draftMembers fun m hm => ih m hm (hall m hm))

/-! ## Whole texts -/

/-- **The text of a document without floating-point numbers is read as its draft.** -/
theorem ofText?_write {j : Json} (hfree : j.FloatFree) (hfits : j.AllNumbers Number.Fits) :
    Draft.ofText? j.write = some j.draft := by
  have hread := hfree.readsBack hfits (2 * j.write.length + 2) [] (by omega) ends_nil
  rw [List.append_nil] at hread
  simp only [Draft.ofText?, hread]
  rfl

/-- **The text of a document is read as the document itself**, if it is without floating-point
numbers, as documents are kept, and not nested beyond the limit. -/
theorem ofText?_text {j : Json} (hfree : j.FloatFree) (hwell : j.WellFormed)
    (hdepth : j.depth ≤ nestingLimit) : ofText? j.text = some j := by
  rw [ofText?, text, String.toList_ofList, ofText?_write hfree hwell.allNumbers, Option.bind_some,
    toJson?_draft hwell hdepth]

/-! ## What texts are read as -/

/-- A whole number that is read fits. -/
lemma number?_fits (l : NumberLiteral) : ∀ n ∈ l.number?, n.Fits := by
  intro n hn
  rw [NumberLiteral.number?] at hn
  split at hn
  · obtain ⟨x, -, rfl⟩ := Option.map_eq_some_iff.mp hn
    trivial
  · rename_i hsmall
    have hword : value l.whole ≤ greatestWord := by
      simp only [Bool.or_eq_true, decide_eq_true_eq, not_or, Nat.not_lt] at hsmall
      exact hsmall.2
    rw [greatestWord] at hword
    split at hn
    · cases hn
      exact ⟨by omega, by omega⟩
    · split at hn
      · cases hn
        trivial
      · cases hn
        exact ⟨by omega, by omega⟩

/-- **The numbers of all that is read in so many steps have a property.** -/
structure ReadsAll (p : Number → Prop) (fuel : Nat) : Prop where
  draft {cs rest : List Char} {d : Draft} : readDraft fuel cs = some (d, rest) → d.AllNumbers p
  items {cs rest : List Char} {items : List Draft} :
    readItems fuel cs = some (items, rest) → ∀ d ∈ items, d.AllNumbers p
  members {cs rest : List Char} {members : List (Option String × Draft)} :
    readMembers fuel cs = some (members, rest) → ∀ m ∈ members, m.2.AllNumbers p

section Numbers

variable {p : Number → Prop} {fuel : Nat}

lemma ReadsAll.draft_succ (hp : ∀ l : NumberLiteral, ∀ n ∈ l.number?, p n) (ih : ReadsAll p fuel)
    {cs rest : List Char} {d : Draft} (h : readDraft (fuel + 1) cs = some (d, rest)) :
    d.AllNumbers p := by
  rw [readDraft] at h
  split at h
  case h_1 =>
    obtain ⟨read, -, hread⟩ := Option.map_eq_some_iff.mp h
    cases hread
    exact .string _
  case h_2 =>
    split at h
    · cases h
      exact .array (List.forall_mem_nil _)
    · obtain ⟨read, hitems, hread⟩ := Option.map_eq_some_iff.mp h
      cases hread
      exact .array (ih.items hitems)
  case h_3 =>
    split at h
    · cases h
      exact .object (List.forall_mem_nil _)
    · obtain ⟨read, hmembers, hread⟩ := Option.map_eq_some_iff.mp h
      cases hread
      exact .object (ih.members hmembers)
  case h_4 =>
    obtain ⟨read, -, hread⟩ := Option.map_eq_some_iff.mp h
    cases hread
    exact .null
  case h_5 | h_6 =>
    obtain ⟨read, -, hread⟩ := Option.map_eq_some_iff.mp h
    cases hread
    exact .bool _
  case h_7 | h_8 =>
    obtain ⟨read, -, hread⟩ := Option.map_eq_some_iff.mp h
    cases hread
    exact .number (hp _)

lemma ReadsAll.items_succ (ih : ReadsAll p fuel) {cs rest : List Char} {items : List Draft}
    (h : readItems (fuel + 1) cs = some (items, rest)) : ∀ d ∈ items, d.AllNumbers p := by
  rw [readItems] at h
  split at h
  · cases h
  · rename_i v rest' hv
    split at h
    · cases h
      exact List.forall_mem_singleton.mpr (ih.draft hv)
    · obtain ⟨read, hitems, hread⟩ := Option.map_eq_some_iff.mp h
      cases hread
      exact List.forall_mem_cons.mpr ⟨ih.draft hv, ih.items hitems⟩
    · cases h

lemma ReadsAll.members_succ (ih : ReadsAll p fuel) {cs rest : List Char}
    {members : List (Option String × Draft)}
    (h : readMembers (fuel + 1) cs = some (members, rest)) : ∀ m ∈ members, m.2.AllNumbers p := by
  rw [readMembers] at h
  split at h
  · split at h
    · cases h
    · split at h
      · split at h
        · cases h
        · rename_i v rest' hv
          split at h
          · cases h
            exact List.forall_mem_singleton.mpr (ih.draft hv)
          · obtain ⟨read, hmembers, hread⟩ := Option.map_eq_some_iff.mp h
            cases hread
            exact List.forall_mem_cons.mpr ⟨ih.draft hv, ih.members hmembers⟩
          · cases h
      · cases h
  · cases h

/-- Nothing is read without steps, and one step more reads with what the steps before it read. -/
lemma readsAll (hp : ∀ l : NumberLiteral, ∀ n ∈ l.number?, p n) (fuel : Nat) :
    ReadsAll p fuel := by
  induction fuel with
  | zero => exact ⟨nofun, nofun, nofun⟩
  | succ fuel ih => exact ⟨ih.draft_succ hp, ih.items_succ, ih.members_succ⟩

/-- **The numbers of a draft are those of its literals.** -/
lemma ofText?_allNumbers (hp : ∀ l : NumberLiteral, ∀ n ∈ l.number?, p n) {cs : List Char}
    {d : Draft} (h : Draft.ofText? cs = some d) : d.AllNumbers p := by
  rw [Draft.ofText?] at h
  split at h
  · rename_i d' rest hread
    split at h
    · cases h
      exact (readsAll hp _).draft hread
    · cases h
  · cases h

end Numbers

/-- **Every document that is read is as documents are kept**, and not nested beyond the limit. -/
theorem ofText?_kept {s : String} {j : Json} (h : ofText? s = some j) :
    j.WellFormed ∧ j.depth ≤ nestingLimit := by
  obtain ⟨d, hdraft, hj⟩ := Option.bind_eq_some_iff.mp h
  exact toJson?_kept (ofText?_allNumbers number?_fits hdraft) hj

end BoundSql.Json
