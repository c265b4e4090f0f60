import BoundSql.Proofs.Wire.Numeric.Group

/-!
# Literals

A number is written as an optional sign and digits with at most one point among them, or as `nan`.

* `Spells` — which text is which literal, one rule for each kind.
* **`ofText?_eq_some_iff`** — reading finds the literal that a text spells, and there is no other.
* `Literal.canonical` — the text of a literal without anything superfluous.
* **`payload_decimal`** — the payload of a literal, from its groups with the zeros around them.
-/

namespace BoundSql.Wire.Numeric

open Decimal Payload Literal

/-! ## The texts of literals -/

/-- A sign in front of the digits; `true` is minus. -/
inductive SpellsSign : List Char → Bool → Prop where
  | none : SpellsSign [] false
  | plus : SpellsSign ['+'] false
  | minus : SpellsSign ['-'] true

/-- What follows the digits before the point: nothing, or the point and more digits. -/
inductive SpellsFraction : List Char → List Char → Prop where
  | none : SpellsFraction [] []
  | point {fraction : List Char} : allDigits fraction = true →
      SpellsFraction ('.' :: fraction) fraction

/-- **The literal that a text spells.** -/
inductive Spells : List Char → Literal → Prop where
  /-- The three letters in any case. -/
  | nan {cs : List Char} : cs.map Char.toLower = ['n', 'a', 'n'] → Spells cs .nan
  /-- A sign and digits with at most one point, and at least one digit. -/
  | decimal {negative : Bool} {sign whole tail fraction : List Char} :
      SpellsSign sign negative → allDigits whole = true → SpellsFraction tail fraction →
      (whole ≠ [] ∨ fraction ≠ []) →
      Spells (sign ++ whole ++ tail) (.decimal negative whole fraction)

/-! ## Reading -/

lemma toLower_of_toNat_lt {c : Char} (h : c.toNat < 65) : c.toLower = c := by
  apply dif_neg
  rintro ⟨hlow, -⟩
  have hle : 65 ≤ c.toNat := UInt32.le_iff_toNat_le.mp hlow
  omega

/-- The characters of a number lie between the plus sign and the letters. -/
lemma toNat_of_isDigit {c : Char} (h : c.isDigit = true) : 43 ≤ c.toNat ∧ c.toNat < 65 := by
  rw [isDigit_iff] at h
  omega

lemma toNat_of_spells_decimal {cs : List Char} {negative : Bool} {whole fraction : List Char}
    (h : Spells cs (.decimal negative whole fraction)) :
    ∀ c ∈ cs, 43 ≤ c.toNat ∧ c.toNat < 65 := by
  cases h with
  | @decimal _ sign _ tail _ hsign hwhole htail _ =>
      intro c hc
      rw [List.mem_append, List.mem_append] at hc
      rcases hc with (hc | hc) | hc
      · cases hsign with
        | none => simp at hc
        | plus => rw [List.mem_singleton.mp hc]; decide
        | minus => rw [List.mem_singleton.mp hc]; decide
      · exact toNat_of_isDigit (allDigits_iff.mp hwhole c hc)
      · cases htail with
        | none => simp at hc
        | point hfraction =>
            rcases List.mem_cons.mp hc with rfl | hc
            · decide
            · exact toNat_of_isDigit (allDigits_iff.mp hfraction c hc)

/-- A number is not `nan`, since nothing in it is a letter. -/
lemma map_toLower_ne_nan {cs : List Char} (h : ∀ c ∈ cs, c.toNat < 65) :
    cs.map Char.toLower ≠ ['n', 'a', 'n'] := by
  intro hnan
  have hsame : cs.map Char.toLower = cs := by
    rw [List.map_congr_left fun c hc => toLower_of_toNat_lt (h c hc), List.map_id']
  rw [hsame] at hnan
  subst hnan
  exact absurd (h 'n' (by simp)) (by decide)

lemma point_not_mem {cs : List Char} (h : allDigits cs = true) : '.' ∉ cs := by
  intro hpoint
  exact absurd (allDigits_iff.mp h '.' hpoint) (by decide)

lemma span_point {whole tail fraction : List Char} (hwhole : allDigits whole = true)
    (htail : SpellsFraction tail fraction) :
    (whole ++ tail).takeWhile (· != '.') = whole ∧
      ((whole ++ tail).dropWhile (· != '.')).drop 1 = fraction := by
  have hbefore : ∀ c ∈ whole, (c != '.') = true := by
    intro c hc
    rw [bne_iff_ne]
    rintro rfl
    exact point_not_mem hwhole hc
  rw [List.takeWhile_append_of_pos hbefore, List.dropWhile_append_of_pos hbefore]
  cases htail with
  | none => exact ⟨List.append_nil whole, rfl⟩
  | point _ =>
      rw [List.takeWhile_cons_of_neg (by decide), List.dropWhile_cons_of_neg (by decide)]
      exact ⟨List.append_nil whole, rfl⟩

lemma splitSign_append {negative : Bool} {sign rest : List Char} (hsign : SpellsSign sign negative)
    (hrest : ∀ c, rest.head? = some c → c.isDigit = true ∨ c = '.') :
    splitSign (sign ++ rest) = (negative, rest) := by
  cases hsign with
  | plus => rfl
  | minus => rfl
  | none =>
      rw [List.nil_append]
      unfold splitSign
      split
      · exact absurd (hrest '-' rfl) (by decide)
      · exact absurd (hrest '+' rfl) (by decide)
      · rfl

/-- **A text that spells a literal is read as it.** -/
lemma ofText?_of_spells {cs : List Char} {literal : Literal} (h : Spells cs literal) :
    ofText? cs = some literal := by
  cases h with
  | nan hnan => rw [ofText?, if_pos hnan]
  | @decimal negative sign whole tail fraction hsign hwhole htail hsome =>
      have hletters := fun c hc =>
        (toNat_of_spells_decimal (.decimal hsign hwhole htail hsome) c hc).2
      have hfraction : allDigits fraction = true := by
        cases htail with
        | none => rfl
        | point h => exact h
      have hhead : ∀ c, (whole ++ tail).head? = some c → c.isDigit = true ∨ c = '.' := by
        intro c hc
        cases whole with
        | cons d rest =>
            obtain rfl := Option.some.inj hc
            exact .inl (allDigits_iff.mp hwhole _ List.mem_cons_self)
        | nil =>
            cases htail with
            | none => simp at hc
            | point _ => exact .inr (Option.some.inj hc).symm
      obtain ⟨htake, hdrop⟩ := span_point hwhole htail
      have hdigits : ((whole.isEmpty && fraction.isEmpty) || !allDigits whole ||
          !allDigits fraction) = false := by
        rw [hwhole, hfraction]
        rcases hsome with hne | hne
        · simp [List.isEmpty_eq_false_iff.mpr hne]
        · simp [List.isEmpty_eq_false_iff.mpr hne]
      rw [ofText?, if_neg (map_toLower_ne_nan hletters), List.append_assoc,
        splitSign_append hsign hhead]
      simp only [htake, hdrop, hdigits, Bool.false_eq_true, if_false]

lemma exists_splitSign (cs : List Char) :
    ∃ sign, SpellsSign sign (splitSign cs).1 ∧ sign ++ (splitSign cs).2 = cs := by
  unfold splitSign
  split
  · exact ⟨_, .minus, rfl⟩
  · exact ⟨_, .plus, rfl⟩
  · exact ⟨_, .none, rfl⟩

/-- **What is read is what the text spells.** -/
lemma spells_of_ofText? {cs : List Char} {literal : Literal} (h : ofText? cs = some literal) :
    Spells cs literal := by
  rw [ofText?] at h
  split at h
  · rename_i hnan
    obtain rfl := Option.some.inj h
    exact .nan hnan
  · obtain ⟨sign, hsign, hsplit⟩ := exists_splitSign cs
    generalize splitSign cs = parts at h hsign hsplit
    obtain ⟨negative, unsigned⟩ := parts
    simp only at h hsign hsplit
    generalize hwhole : unsigned.takeWhile (· != '.') = whole at h
    generalize htail : unsigned.dropWhile (· != '.') = tail at h
    split at h
    · simp at h
    · rename_i hdigits
      obtain rfl := Option.some.inj h
      simp only [Bool.or_eq_true, Bool.not_eq_true', not_or, Bool.not_eq_false, Bool.and_eq_true,
        List.isEmpty_iff, not_and_or] at hdigits
      obtain ⟨⟨hsome, hwholeDigits⟩, hfraction⟩ := hdigits
      have hunsigned : whole ++ tail = unsigned := by
        rw [← hwhole, ← htail, List.takeWhile_append_dropWhile]
      have hspells : SpellsFraction tail (tail.drop 1) := by
        cases tail with
        | nil => exact .none
        | cons c rest =>
            have hc : (unsigned.dropWhile (· != '.')).head? = some c := by rw [htail]; rfl
            have hpoint := List.head?_dropWhile_not (· != '.') unsigned
            rw [hc] at hpoint
            obtain rfl : c = '.' := by simpa using hpoint
            exact .point hfraction
      rw [← hsplit, ← hunsigned, ← List.append_assoc]
      exact .decimal hsign hwholeDigits hspells hsome

/-- **Reading finds the literal that a text spells, and there is no other.** -/
theorem ofText?_eq_some_iff {cs : List Char} {literal : Literal} :
    ofText? cs = some literal ↔ Spells cs literal :=
  ⟨spells_of_ofText?, ofText?_of_spells⟩

/-- **A text spells one literal.** -/
lemma Spells.unique {cs : List Char} {literal literal' : Literal} (h : Spells cs literal)
    (h' : Spells cs literal') : literal = literal' :=
  Option.some.inj ((ofText?_of_spells h).symm.trans (ofText?_of_spells h'))

/-! ## Canonical texts -/

namespace Literal

/-- **The text of a literal without anything superfluous**: a minus sign only in front of a number
other than zero, no zeros in front, and all digits behind the point. -/
def canonical : Literal → List Char
  | .nan => ['N', 'a', 'N']
  | .decimal minus whole fraction =>
    (if minus && (whole ++ fraction).any (· != '0') then ['-'] else []) ++
      (wholeText whole ++ if fraction = [] then [] else '.' :: fraction)

/-- How many digits a literal has before the point, zeros in front not counted. -/
def wholeDigits : Literal → Nat
  | .nan => 0
  | .decimal _ whole _ => (whole.dropWhile (· == '0')).length

/-! ## Payloads -/

/-- The word that is sent for a sign; `true` is minus. -/
def signWord (minus : Bool) : Nat := if minus then negative else positive

lemma signWord_lt (minus : Bool) : signWord minus < 65536 := by
  cases minus <;> decide

lemma signWord_ne_notANumber (minus : Bool) : signWord minus ≠ notANumber := by
  cases minus <;> decide

lemma signWord_eq_or (minus : Bool) : signWord minus = positive ∨ signWord minus = negative := by
  cases minus <;> decide

lemma signWord_eq_negative_iff (minus : Bool) : signWord minus = negative ↔ minus = true := by
  cases minus <;> decide

/-- The groups of a literal before the point. -/
def wholeGroups (whole : List Char) : List Int :=
  groups (filling (whole.dropWhile (· == '0')) ++ whole.dropWhile (· == '0'))

/-- Its groups behind the point. -/
def fractionGroups (fraction : List Char) : List Int := groups (fraction ++ filling fraction)

/-- **The payload of a literal**, from its groups with the zeros around them: the zeros in front
lower the weight, and without any other digit there is neither weight nor sign. -/
lemma payload_decimal {minus : Bool} {whole fraction : List Char} {front back : Nat}
    {core : List Int} (hscale : fraction.length ≤ 65535)
    (hgroups : wholeGroups whole ++ fractionGroups fraction =
      List.replicate front 0 ++ core ++ List.replicate back 0)
    (hcore : IsCore 0 core) :
    payload (.decimal minus whole fraction) =
      if core = [] then .ok ⟨0, positive, fraction.length, []⟩
      else if 32767 < core.length then .error .tooLong
      else .ok ⟨(wholeGroups whole).length - 1 - front, signWord minus, fraction.length, core⟩ := by
  rw [wholeGroups, fractionGroups] at hgroups
  rw [payload, if_neg (by omega)]
  simp only [hgroups, trim_padding hcore, List.isEmpty_iff]
  split
  · rfl
  · rename_i hne
    split
    · rfl
    · have hfront : front + core.length + back - (core.length + back) = front := by omega
      simp only [dropWhile_padding hcore hne, List.length_append, List.length_replicate, hfront]
      rfl

lemma payload_of_length_lt {minus : Bool} {whole fraction : List Char}
    (h : 65535 < fraction.length) : payload (.decimal minus whole fraction) = .error .tooLong := by
  rw [payload, if_pos h]

/-- **What a literal with a payload looks like**: it is short enough, and the digits of the payload
are its groups without the zeros around them. -/
lemma exists_groups_of_payload {minus : Bool} {whole fraction : List Char} {p : Payload}
    (h : payload (.decimal minus whole fraction) = .ok p) :
    fraction.length ≤ 65535 ∧ ∃ front core back,
      wholeGroups whole ++ fractionGroups fraction =
        List.replicate front 0 ++ core ++ List.replicate back 0 ∧ IsCore 0 core ∧
      (core = [] ∧ p = ⟨0, positive, fraction.length, []⟩ ∨
        core ≠ [] ∧ core.length ≤ 32767 ∧
          p = ⟨(wholeGroups whole).length - 1 - front, signWord minus, fraction.length, core⟩) := by
  have hscale : fraction.length ≤ 65535 := by
    by_contra hlong
    rw [payload_of_length_lt (by omega)] at h
    cases h
  obtain ⟨front, core, back, hgroups, hcore⟩ :=
    exists_padding 0 (wholeGroups whole ++ fractionGroups fraction)
  refine ⟨hscale, front, core, back, hgroups, hcore, ?_⟩
  rw [payload_decimal hscale hgroups hcore] at h
  split at h
  · rename_i hempty
    exact .inl ⟨hempty, (Except.ok.inj h).symm⟩
  · rename_i hne
    split at h
    · cases h
    · rename_i hshort
      exact .inr ⟨hne, Nat.le_of_not_lt hshort, (Except.ok.inj h).symm⟩

end Literal

end BoundSql.Wire.Numeric
