import BoundSql.Proofs.Wire.Numeric.Number

/-!
# Which texts are sent as a number

A text is sent if it spells a literal that is short enough for the header: there is room for the
number of places, and for the number of digits in base ten thousand.  These are the digits of the
number itself, however it was written.

* `Expands` — the digits that a number has in base ten thousand, without zeros at their ends.
* **`Expands.unique`** — they are determined by the number.
* `Literal.Sendable` — the literals that are short enough.
* **`exists_payload_iff`** — a literal has a payload if and only if it is.
* **`encodeTo_accepts`** — so this is what is accepted, and nothing is written of anything else.
-/

namespace BoundSql.Wire.Numeric

open Decimal Text Payload Literal

/-! ## The digits of a number -/

/-- **The digits that a number has in base ten thousand**, without zeros at their ends; the first of
them counts `10000 ^ weight`. -/
structure Expands (q : ℚ) (weight : Int) (digits : List Int) : Prop where
  isDigit : ∀ d ∈ digits, IsDigit d
  core : IsCore 0 digits
  number : weighed weight digits = q

section Digits

variable {a b : List Int}

/-- Digits of which the last is not zero do not denote zero either. -/
lemma weighed_pos_of_last (h : ∀ d ∈ a, IsDigit d) (hlast : a.getLast? ≠ some 0) (hne : a ≠ [])
    (weight : Int) : 0 < weighed weight a := by
  induction a generalizing weight with
  | nil => exact absurd rfl hne
  | cons d rest ih =>
      cases rest with
      | nil => exact weighed_pos h (by simpa using hlast) hne weight
      | cons e rest =>
          have hd : (0 : ℚ) ≤ d := by exact_mod_cast (h d List.mem_cons_self).1
          have hrest := ih (fun g hg => h g (List.mem_cons_of_mem _ hg)) (by simpa using hlast)
            (List.cons_ne_nil e rest) (weight - 1)
          rw [weighed_cons]
          positivity

/-- The first digit is a quotient: what follows it is less than one of its units. -/
lemma le_of_mul_add_eq {d e : Int} {unit x y : ℚ} (hunit : 0 < unit) (hx : 0 ≤ x) (hy : y < unit)
    (h : d * unit + x = e * unit + y) : d ≤ e := by
  have hlt : d * unit < (e + 1) * unit := by linarith
  have hsucc : d < e + 1 := by exact_mod_cast lt_of_mul_lt_mul_right hlt hunit.le
  omega

/-- **Digits of one weight are determined by the number**, zeros at the end aside. -/
lemma eq_of_weighed_eq (ha : ∀ d ∈ a, IsDigit d) (hb : ∀ d ∈ b, IsDigit d)
    (hlast : a.getLast? ≠ some 0) (hlast' : b.getLast? ≠ some 0) {weight : Int}
    (h : weighed weight a = weighed weight b) : a = b := by
  induction a generalizing b weight with
  | nil =>
      by_contra hne
      have hpos := weighed_pos_of_last hb hlast' (Ne.symm hne) weight
      exact hpos.ne h
  | cons d rest ih =>
      cases b with
      | nil =>
          have hpos := weighed_pos_of_last ha hlast (List.cons_ne_nil d rest) weight
          exact absurd h hpos.ne'
      | cons e rest' =>
          have hrest : ∀ g ∈ rest, IsDigit g := fun g hg => ha g (List.mem_cons_of_mem _ hg)
          have hrest' : ∀ g ∈ rest', IsDigit g := fun g hg => hb g (List.mem_cons_of_mem _ hg)
          have hlow := weighed_nonneg hrest (weight - 1)
          have hlow' := weighed_nonneg hrest' (weight - 1)
          have hhigh := weighed_lt hrest (weight - 1)
          have hhigh' := weighed_lt hrest' (weight - 1)
          rw [sub_add_cancel] at hhigh hhigh'
          rw [weighed_cons, weighed_cons] at h
          have hunit := zpow_pos (by norm_num : (0 : ℚ) < 10000) weight
          obtain rfl : d = e := (le_of_mul_add_eq hunit hlow hhigh' h).antisymm
            (le_of_mul_add_eq hunit hlow' hhigh h.symm)
          have hlast_rest {c : Int} {cs : List Int} (h : (c :: cs).getLast? ≠ some 0) :
              cs.getLast? ≠ some 0 := by
            intro hzero
            exact h (by rw [List.getLast?_cons, hzero]; rfl)
          rw [ih hrest hrest' (hlast_rest hlast) (hlast_rest hlast') (add_left_cancel h)]

end Digits

namespace Expands

variable {q : ℚ} {v w : Int} {a b : List Int}

lemma eq_nil_iff (h : Expands q v a) : a = [] ↔ q = 0 := by
  constructor
  · rintro rfl
    exact h.number.symm
  · intro hq
    by_contra hne
    have hpos := weighed_pos h.isDigit h.core.head hne v
    exact hpos.ne' (h.number.trans hq)

lemma weight_le (h : Expands q v a) (h' : Expands q w b) (hne : a ≠ []) : v ≤ w := by
  have hreached := pow_le_weighed h.isDigit h.core.head hne v
  have hbound := weighed_lt h'.isDigit w
  rw [h.number] at hreached
  rw [h'.number] at hbound
  have hlt := (zpow_lt_zpow_iff_right₀ (by norm_num : (1 : ℚ) < 10000)).mp (hreached.trans_lt hbound)
  omega

/-- **A number has one expansion.** -/
theorem unique (h : Expands q v a) (h' : Expands q w b) : a = b := by
  by_cases hempty : a = []
  · rw [hempty, h'.eq_nil_iff.mpr (h.eq_nil_iff.mp hempty)]
  · have hne : b ≠ [] := fun hb => hempty (h.eq_nil_iff.mpr (h'.eq_nil_iff.mp hb))
    obtain rfl := (h.weight_le h' hempty).antisymm (h'.weight_le h hne)
    exact eq_of_weighed_eq h.isDigit h'.isDigit h.core.last h'.core.last
      (h.number.trans h'.number.symm)

end Expands

/-! ## Literals that are short enough -/

namespace Literal

/-- **A literal that is short enough to be sent**: not more than 65535 places behind the point, and
not more than 32767 digits in base ten thousand. -/
def Sendable : Literal → Prop
  | .nan => True
  | .decimal _ whole fraction =>
    fraction.length ≤ 65535 ∧ ∃ weight digits,
      Expands (value whole + value fraction / 10 ^ fraction.length) weight digits ∧
        digits.length ≤ 32767

/-- **The digits of a payload are those of the number.** -/
lemma expands_core {whole fraction : List Char} {core : List Int} {front back : Nat}
    (hwhole : allDigits whole = true) (hfraction : allDigits fraction = true)
    (hgroups : wholeGroups whole ++ fractionGroups fraction =
      List.replicate front 0 ++ core ++ List.replicate back 0) (hcore : IsCore 0 core) :
    Expands (value whole + value fraction / 10 ^ fraction.length)
      ((wholeGroups whole).length - 1 - front) core where
  isDigit := isDigit_of_mem_core hwhole hfraction hgroups
  core := hcore
  number := by rw [← weighed_wholeGroups_append hwhole, hgroups, weighed_padding]

/-- **A literal has a payload if and only if it is short enough.** -/
theorem exists_payload_iff {literal : Literal} (hform : literal.WellFormed) :
    (∃ p, literal.payload = .ok p) ↔ literal.Sendable := by
  cases literal with
  | nan => exact ⟨fun _ => trivial, fun _ => ⟨_, rfl⟩⟩
  | decimal minus whole fraction =>
      obtain ⟨hwhole, hfraction⟩ := hform
      constructor
      · rintro ⟨p, hp⟩
        obtain ⟨hscale, front, core, back, hgroups, hcore, hlength⟩ := exists_groups_of_payload hp
        refine ⟨hscale, _, core, expands_core hwhole hfraction hgroups hcore, ?_⟩
        rcases hlength with ⟨rfl, -⟩ | ⟨-, hshort, -⟩
        · exact Nat.zero_le _
        · exact hshort
      · rintro ⟨hscale, weight, digits, hexpands, hshort⟩
        obtain ⟨front, core, back, hgroups, hcore⟩ :=
          exists_padding 0 (wholeGroups whole ++ fractionGroups fraction)
        obtain rfl := hexpands.unique (expands_core hwhole hfraction hgroups hcore)
        rw [payload_decimal hscale hgroups hcore, if_neg (Nat.not_lt.mpr hshort)]
        split
        · exact ⟨_, rfl⟩
        · exact ⟨_, rfl⟩

end Literal

/-! ## Texts -/

/-- A text is sent if it spells a literal that is short enough. -/
lemma exists_encode_iff (cs : List Char) :
    (∃ bytes, encode cs = .ok bytes) ↔ ∃ literal, Spells (trim cs) literal ∧ literal.Sendable := by
  simp only [encode_eq_ok_iff]
  constructor
  · rintro ⟨bytes, literal, p, hspells, hp, -⟩
    exact ⟨literal, hspells, (exists_payload_iff (wellFormed_of_spells hspells)).mp ⟨p, hp⟩⟩
  · rintro ⟨literal, hspells, hsendable⟩
    obtain ⟨p, hp⟩ := (exists_payload_iff (wellFormed_of_spells hspells)).mpr hsendable
    exact ⟨p.bytes, literal, p, hspells, hp, rfl⟩

/-- **What is accepted, and what is written of it.**  Blanks around it aside, a text must spell a
literal that is short enough; of any other text nothing is written, and of such a literal its
payload is written behind what the output holds already. -/
theorem encodeTo_accepts {cs : List Char}
    (hlength : ∀ literal, Spells (trim cs) literal → literal.wholeDigits ≤ 131068)
    (out : List UInt8) :
    (((encodeTo cs).on out).1 = .ok () ↔ ∃ literal, Spells (trim cs) literal ∧ literal.Sendable) ∧
      (∀ fault out', (encodeTo cs).on out = (.error fault, out') → out' = out) ∧
      ∀ out', (encodeTo cs).on out = (.ok (), out') → ∃ literal p,
        Spells (trim cs) literal ∧ literal.payload = .ok p ∧ Holds p.bytes p ∧
          out' = out ++ p.bytes := by
  rw [← exists_encode_iff, on_encodeTo]
  cases hsent : encode cs with
  | error fault =>
      refine ⟨by simp, ?_, by simp⟩
      intro fault' out' hout
      exact (Prod.ext_iff.mp hout).2.symm
  | ok bytes =>
      obtain ⟨literal, p, hspells, hp, rfl⟩ := encode_eq_ok_iff.mp hsent
      have hfits := fits_of_payload (wellFormed_of_spells hspells) (hlength literal hspells) hp
      refine ⟨by simp, by simp, ?_⟩
      intro out' hout
      exact ⟨literal, p, hspells, hp, hfits.holds_bytes, (Prod.ext_iff.mp hout).2.symm⟩

/-- A half is written behind a byte, and of two signs nothing is written. -/
theorem encodeTo_accepts_half :
    (encodeTo " .5".toList).on [7] = (.ok (), [7, 0, 1, 255, 255, 0, 0, 0, 1, 19, 136]) ∧
      ((encodeTo "+-5".toList).on [7]).2 = [7] := by
  have hhalf : Spells (trim " .5".toList) (.decimal false [] ['5']) :=
    ofText?_eq_some_iff.mp (by decide)
  have hexpands : Expands (value [] + value ['5'] / 10 ^ ['5'].length) (-1) [5000] := by
    have hfive : value ['5'] = 5 := by decide
    refine ⟨by decide, ⟨by decide, by decide⟩, ?_⟩
    rw [hfive, weighed_cons, weighed_nil]
    norm_num [value]
  have hnone (literal : Literal) : ¬ Spells (trim "+-5".toList) literal := by
    have hread : ofText? (trim "+-5".toList) = none := by decide
    rw [← ofText?_eq_some_iff, hread]
    exact Option.some_ne_none literal ∘ Eq.symm
  constructor
  · obtain ⟨haccepted, -, hwritten⟩ := encodeTo_accepts
      (fun literal h => by rw [h.unique hhalf]; decide) [7]
    have hok := haccepted.mpr ⟨_, hhalf, by decide, -1, [5000], hexpands, by decide⟩
    obtain ⟨literal, p, hspells, hp, -, hout⟩ := hwritten _ (Prod.ext hok rfl)
    have hpayload : payload (.decimal false [] ['5']) = .ok ⟨-1, positive, 1, [5000]⟩ := by decide
    rw [hspells.unique hhalf, hpayload] at hp
    obtain rfl := Except.ok.inj hp
    exact Prod.ext hok hout
  · obtain ⟨haccepted, hkept, -⟩ := encodeTo_accepts (fun literal h => absurd h (hnone literal)) [7]
    cases hending : ((encodeTo "+-5".toList).on [7]).1 with
    | error fault => exact hkept fault _ (Prod.ext hending rfl)
    | ok _ =>
        obtain ⟨literal, hspells, -⟩ := haccepted.mp hending
        exact absurd hspells (hnone literal)

end BoundSql.Wire.Numeric
