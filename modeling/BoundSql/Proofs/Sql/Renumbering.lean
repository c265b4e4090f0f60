import BoundSql.Proofs.Sql.Concatenation
import BoundSql.Proofs.Sql.Fragment

/-!
# Fragments after more values

A fragment that stands after more values should be the same fragment with higher numbers.  For a
text with placeholders of its own that is then scanned for names, this is not clear from the start:
the scan sees other numbers, and other numbers may have more digits.

* `raised_append` — texts put together are raised each by itself.
* `Longest.raised` — raising a text changes nothing about the names that can be taken in it.
* **`Tokenises.exists_raised`** — the scan of the raised text finds the same names, and what becomes
  of it is what became of the text before, raised.
* `Fragment.Relocates` — a fragment that only changes its numbers; `relocates_text`,
  `Relocates.append`, `Relocates.commas` and the others build such fragments.

Names have no dollar sign here, so a name that is taken ends in front of the next placeholder.
-/

namespace BoundSql.Sql

open Text Decimal NamedParameter

/-! ## Raised texts -/

lemma raised_of_not_mem (shift : Nat) {text : List Char} (h : '$' ∉ text) :
    raised shift text = text := by
  have happend := raised_append_of_not_mem shift h []
  rwa [List.append_nil, raised_nil, List.append_nil] at happend

lemma takeWhile_dropWhile_isDigit (text : List Char) :
    (text.dropWhile Char.isDigit).takeWhile Char.isDigit = [] := by
  induction text with
  | nil => rfl
  | cons c rest ih =>
      cases hc : c.isDigit with
      | true => rwa [List.dropWhile_cons_of_pos hc]
      | false =>
          rw [List.dropWhile_cons_of_neg (by simp [hc]), List.takeWhile_cons_of_neg (by simp [hc])]

lemma dropWhile_isDigit_append {b : List Char} (hb : b.takeWhile Char.isDigit = [])
    (a : List Char) : (a ++ b).dropWhile Char.isDigit = a.dropWhile Char.isDigit ++ b := by
  have hwhole := List.takeWhile_append_dropWhile (p := Char.isDigit) (l := a ++ b)
  have hfirst := List.takeWhile_append_dropWhile (p := Char.isDigit) (l := a)
  rw [takeWhile_isDigit_append hb] at hwhole
  have hboth : a.takeWhile Char.isDigit ++ (a ++ b).dropWhile Char.isDigit =
      a.takeWhile Char.isDigit ++ (a.dropWhile Char.isDigit ++ b) := by
    rw [hwhole, ← List.append_assoc, hfirst]
  exact List.append_cancel_left hboth

/-- **Texts put together are raised each by itself**, unless the second goes on with a digit. -/
lemma raised_append (shift : Nat) (a : List Char) {b : List Char}
    (hb : b.takeWhile Char.isDigit = []) :
    raised shift (a ++ b) = raised shift a ++ raised shift b := by
  fun_induction raised shift a with
  | case1 => rfl
  | case2 rest number hnumber ih =>
      rw [List.cons_append, raised]
      simp only [takeWhile_isDigit_append hb, number, hnumber, if_true, ih, List.cons_append]
  | case3 rest number hnumber ih =>
      rw [List.cons_append, raised]
      simp only [takeWhile_isDigit_append hb, dropWhile_isDigit_append hb, number, hnumber,
        if_false, ih, List.append_assoc]
  | case4 c rest hc ih => rw [List.cons_append, raised_cons_of_ne shift hc, ih, List.cons_append]

lemma raised_placeholder (shift n : Nat) :
    raised shift (placeholder n) = placeholder (n + shift) := by
  have h := @raised_placeholder_append shift n [] rfl
  rwa [List.append_nil, raised_nil, List.append_nil] at h

/-- What a dollar sign and the digits behind it become. -/
def raisedMark (shift : Nat) (number : List Char) : List Char :=
  if number = [] then ['$'] else placeholder (value number + shift)

lemma raised_dollar_append (shift : Nat) {number rest : List Char}
    (hnumber : ∀ c ∈ number, Char.isDigit c = true) (hrest : rest.takeWhile Char.isDigit = []) :
    raised shift ('$' :: (number ++ rest)) = raisedMark shift number ++ raised shift rest := by
  have htake : (number ++ rest).takeWhile Char.isDigit = number := by
    rw [List.takeWhile_append_of_pos hnumber, hrest, List.append_nil]
  have hdrop : (number ++ rest).dropWhile Char.isDigit = rest := by
    have hsplit := List.takeWhile_append_dropWhile (p := Char.isDigit) (l := number ++ rest)
    rw [htake] at hsplit
    exact List.append_cancel_left hsplit
  rw [raised, raisedMark]
  simp only [htake, hdrop]
  split
  · rename_i hnil
    rw [hnil]
    rfl
  · rfl

lemma colon_not_mem_raisedMark (shift : Nat) (number : List Char) :
    ':' ∉ raisedMark shift number := by
  rw [raisedMark]
  split
  · decide
  · exact colon_not_mem_placeholder _

/-- A raised text starts with what the text starts with. -/
lemma head?_raised (shift : Nat) (text : List Char) : (raised shift text).head? = text.head? := by
  cases text with
  | nil => rw [raised_nil]
  | cons c rest =>
      by_cases hc : c = '$'
      · subst hc
        rw [raised]
        split <;> rfl
      · rw [raised_cons_of_ne shift hc]
        rfl

end BoundSql.Sql

namespace BoundSql.Sql.NamedParameter

open Text Decimal

/-! ## Names in a raised text -/

section Names

variable {names : List (List Char)} {text name : List Char} {shift : Nat}

/-- What a raised text starts with, as far as it has no dollar sign, the text started with. -/
lemma exists_append_of_raised {a b : List Char} (ha : '$' ∉ a) (h : raised shift text = a ++ b) :
    ∃ rest, text = a ++ rest ∧ raised shift rest = b := by
  induction a generalizing text with
  | nil => exact ⟨text, rfl, h⟩
  | cons c a ih =>
      rw [List.mem_cons, not_or] at ha
      have hhead : text.head? = some c := by
        rw [← head?_raised shift, h]
        rfl
      obtain ⟨tail, rfl⟩ := List.head?_eq_some_iff.mp hhead
      rw [raised_cons_of_ne shift (Ne.symm ha.1), List.cons_append] at h
      obtain ⟨rest, rfl, hrest⟩ := ih ha.2 (List.cons.inj h).2
      exact ⟨rest, rfl, hrest⟩

lemma eligible_raised_iff (hname : '$' ∉ name) :
    Eligible (raised shift text) name ↔ Eligible text name := by
  constructor
  · rintro ⟨hne, after, heq, hafter⟩
    obtain ⟨rest, rfl, rfl⟩ := exists_append_of_raised hname heq
    rw [head?_raised] at hafter
    exact ⟨hne, rest, rfl, hafter⟩
  · rintro ⟨hne, rest, rfl, hrest⟩
    refine ⟨hne, raised shift rest, raised_append_of_not_mem shift hname rest, ?_⟩
    rwa [head?_raised]

/-- **The longest name in front of a raised text** is the one in front of the text. -/
lemma Longest.raised (hnames : ∀ known ∈ names, '$' ∉ known) (h : Longest names text name)
    (shift : Nat) : Longest names (raised shift text) name where
  known := h.known
  eligible := (eligible_raised_iff (hnames name h.known)).mpr h.eligible
  le other hother heligible :=
    h.le other hother ((eligible_raised_iff (hnames other hother)).mp heligible)

/-- A beginning without a colon is cut into its characters. -/
lemma Tokenises.exists_of_append {a b : List Char} {items : List Item} (ha : ':' ∉ a)
    (h : Tokenises names (a ++ b) items) :
    ∃ rest, items = a.map .char ++ rest ∧ Tokenises names b rest := by
  have hb := tokenises_scan names b
  refine ⟨scan names b, ?_, hb⟩
  rw [h.eq_scan]
  clear h
  induction a with
  | nil => rfl
  | cons c a ih =>
      rw [List.mem_cons, not_or] at ha
      rw [List.cons_append, scan_char (Ne.symm ha.1), ih ha.2]
      rfl

lemma Tokenises.map_char_append {a b : List Char} {items : List Item} (ha : ':' ∉ a)
    (h : Tokenises names b items) : Tokenises names (a ++ b) (a.map .char ++ items) := by
  induction a with
  | nil => exact h
  | cons c a ih =>
      rw [List.mem_cons, not_or] at ha
      exact .char (Ne.symm ha.1) (ih ha.2)

lemma tokens_map_char_append (front : List Char) (items : List Item) :
    tokens (front.map .char ++ items) = tokens items := by
  rw [tokens_append, tokens_map_char, List.nil_append]

lemma numbered_map_char_append (bound : Nat) (front : List Char) (items : List Item) :
    numbered bound (front.map .char ++ items) = front ++ numbered bound items := by
  rw [numbered_append, numbered_map_char, tokens_map_char]
  rfl

/-- **Raising a text and then replacing its names is replacing its names and then raising the
result.**  The scan of the raised text finds the same names in the same order. -/
theorem Tokenises.exists_raised (hnames : ∀ known ∈ names, '$' ∉ known) {items : List Item}
    (h : Tokenises names text items) (shift : Nat) :
    ∃ items', Tokenises names (raised shift text) items' ∧ tokens items' = tokens items ∧
      ∀ bound, numbered (bound + shift) items' = raised shift (numbered bound items) := by
  -- behind a dollar sign a whole number is raised at once, so the induction is on the length
  induction hlength : text.length using Nat.strongRecOn generalizing text items with
  | ind n ih =>
    subst hlength
    cases h with
    | nil => exact ⟨[], by simpa using .nil, rfl, fun bound => (raised_nil shift).symm⟩
    | @char c rest items hc hrest =>
        by_cases hdollar : c = '$'
        · subst hdollar
          have hdigits : ∀ c ∈ rest.takeWhile Char.isDigit, Char.isDigit c = true :=
            List.all_eq_true.mp List.all_takeWhile
          have hle := (List.dropWhile_suffix Char.isDigit (l := rest)).length_le
          have hstart : (rest.dropWhile Char.isDigit).takeWhile Char.isDigit = [] :=
            takeWhile_dropWhile_isDigit rest
          have hsplit := List.takeWhile_append_dropWhile (p := Char.isDigit) (l := rest)
          generalize rest.takeWhile Char.isDigit = number at hdigits hsplit
          generalize rest.dropWhile Char.isDigit = after at hle hstart hsplit
          subst hsplit
          have hcolon : ':' ∉ number := fun h => absurd (hdigits ':' h) (by decide)
          obtain ⟨items, rfl, hitems⟩ := hrest.exists_of_append hcolon
          obtain ⟨items', hitems', htokens, hnumbered⟩ :=
            ih _ (by rw [List.length_cons]; omega) hitems rfl
          refine ⟨(raisedMark shift number).map .char ++ items', ?_, ?_, fun bound => ?_⟩
          · rw [raised_dollar_append shift hdigits hstart]
            exact hitems'.map_char_append (colon_not_mem_raisedMark shift number)
          · rw [tokens_map_char_append, tokens_cons_of_ne (by simp), tokens_map_char_append, htokens]
          · have hstart' : (numbered bound items).takeWhile Char.isDigit = [] := by
              rw [takeWhile_numbered hitems, hstart]
            rw [numbered_map_char_append, hnumbered, numbered_cons_of_ne (by simp),
              numbered_map_char_append, Item.source, List.singleton_append,
              raised_dollar_append shift hdigits hstart']
        · obtain ⟨items', hitems', htokens, hnumbered⟩ :=
            ih _ (by rw [List.length_cons]; omega) hrest rfl
          refine ⟨.char c :: items', ?_, ?_, fun bound => ?_⟩
          · rw [raised_cons_of_ne shift hdollar]
            exact .char hc hitems'
          · rw [tokens_cons_of_ne (by simp), tokens_cons_of_ne (by simp), htokens]
          · rw [numbered_cons_of_ne (by simp), numbered_cons_of_ne (by simp), Item.source,
              List.singleton_append, List.singleton_append, raised_cons_of_ne shift hdollar,
              hnumbered]
    | @cast rest items hrest =>
        obtain ⟨items', hitems', htokens, hnumbered⟩ :=
          ih _ (by simp only [List.length_cons]; omega) hrest rfl
        refine ⟨.cast :: items', ?_, ?_, fun bound => ?_⟩
        · rw [raised_cons_of_ne shift (by decide), raised_cons_of_ne shift (by decide)]
          exact .cast hitems'
        · rw [tokens_cons_of_ne (by simp), tokens_cons_of_ne (by simp), htokens]
        · rw [numbered_cons_of_ne (by simp), numbered_cons_of_ne (by simp),
            raised_append_of_not_mem shift (by decide), hnumbered]
    | @colon rest items hhead hnone hrest =>
        obtain ⟨items', hitems', htokens, hnumbered⟩ :=
          ih _ (by rw [List.length_cons]; omega) hrest rfl
        refine ⟨.colon :: items', ?_, ?_, fun bound => ?_⟩
        · rw [raised_cons_of_ne shift (by decide)]
          refine .colon (by rwa [head?_raised]) (fun name hname heligible => ?_) hitems'
          exact hnone name hname ((eligible_raised_iff (hnames name hname)).mp heligible)
        · rw [tokens_cons_of_ne (by simp), tokens_cons_of_ne (by simp), htokens]
        · rw [numbered_cons_of_ne (by simp), numbered_cons_of_ne (by simp),
            raised_append_of_not_mem shift (by decide), hnumbered]
    | @token name rest items hhead hname hrest =>
        obtain ⟨items', hitems', htokens, hnumbered⟩ :=
          ih _ (by rw [List.length_cons, List.length_append]; omega) hrest rfl
        have hdollar : '$' ∉ name := hnames name hname.known
        have hlongest := hname.raised hnames shift
        rw [raised_append_of_not_mem shift hdollar] at hlongest
        refine ⟨.token name :: items', ?_, ?_, fun bound => ?_⟩
        · rw [raised_cons_of_ne shift (by decide), raised_append_of_not_mem shift hdollar]
          refine .token ?_ hlongest hitems'
          rwa [← raised_append_of_not_mem shift hdollar, head?_raised]
        · rw [tokens_token, tokens_token, htokens]
        · have hstart : (numbered (bound + 1) items).takeWhile Char.isDigit = [] := by
            rw [takeWhile_numbered hrest, takeWhile_isDigit_of_eligible hname.eligible]
          rw [numbered_token, numbered_token, raised_placeholder_append shift _ hstart,
            Nat.add_right_comm bound shift 1, hnumbered]

end Names

end BoundSql.Sql.NamedParameter

namespace BoundSql.Sql.Fragment

open Decimal NamedParameter

/-! ## Fragments that only change their numbers -/

/-- **A fragment that only changes its numbers** where more values are bound in front of it. -/
def Relocates (f : Fragment) : Prop :=
  ∀ bound shift, f (bound + shift) = ⟨raised shift (f bound).text, (f bound).slots⟩

lemma relocates_text {cs : List Char} (h : '$' ∉ cs) : Relocates (text cs) := by
  intro bound shift
  rw [text_apply, text_apply, raised_of_not_mem shift h]

lemma relocates_bind (slot : Slot) : Relocates (bind slot) := by
  intro bound shift
  rw [bind_apply, bind_apply, raised_placeholder, Nat.add_right_comm]

section Append

variable {f g : Fragment}

/-- A text in front of a fragment ends no number. -/
lemma Relocates.text_append {cs : List Char} (h : '$' ∉ cs) (hg : Relocates g) :
    Relocates (text cs ++ g) := by
  intro bound shift
  simp only [append_apply, text_apply, List.length_nil, Nat.add_zero, List.nil_append]
  rw [hg bound shift, raised_append_of_not_mem shift h]

/-- **Two fragments after each other**, of which the second does not go on with a digit. -/
lemma Relocates.append (hf : Relocates f) (hg : Relocates g)
    (hstart : ∀ bound, (g bound).text.takeWhile Char.isDigit = []) : Relocates (f ++ g) := by
  intro bound shift
  simp only [append_apply, hf bound shift]
  rw [Nat.add_right_comm bound shift, hg _ shift, raised_append shift _ (hstart _)]

lemma append_assoc (f g h : Fragment) : f ++ g ++ h = f ++ (g ++ h) := by
  funext bound
  simp only [append_apply, List.length_append, List.append_assoc, Nat.add_assoc]

lemma Relocates.commas {fs : List Fragment} (h : ∀ f ∈ fs, Relocates f) :
    Relocates (commas fs) := by
  induction fs with
  | nil => exact relocates_text (by simp)
  | cons f rest ih =>
      have hf := h f List.mem_cons_self
      have hrest := ih fun g hg => h g (List.mem_cons_of_mem _ hg)
      cases rest with
      | nil => exact hf
      | cons g rest =>
          rw [commas_cons_cons, append_assoc]
          exact hf.append (hrest.text_append (by decide)) fun bound => rfl

/-- **A text whose names are replaced**, when the text itself only changes its numbers. -/
lemma relocates_substitute {names : List String} (hnames : ∀ name ∈ names, '$' ∉ name.toList)
    (text : List Char) (bound shift : Nat) :
    substitute names (raised shift text) (bound + shift) =
      ⟨raised shift (substitute names text bound).text, (substitute names text bound).slots⟩ := by
  have hknown : ∀ known ∈ names.map String.toList, '$' ∉ known := by
    intro known hmem
    obtain ⟨name, hname, rfl⟩ := List.mem_map.mp hmem
    exact hnames name hname
  have hscan := tokenises_scan (names.map String.toList) text
  obtain ⟨items', hraised, htokens, hnumbered⟩ := hscan.exists_raised hknown shift
  rw [substitute_eq hraised, substitute_eq hscan, htokens, hnumbered]

end Append

end BoundSql.Sql.Fragment
