import BoundSql.Proofs.Wire.Numeric.Number
import BoundSql.Proofs.Wire.Numeric.Stored

/-!
# One payload for each number

There are many texts of a number, and payloads with zeros at their ends would denote it, too; but a
number of so many places is sent as one payload.

* **`stored_of_payload`** — what a literal is sent as is a payload that a server stores.
* `Stored.eq_of_number_eq_zero` — there is one of zero.
* **`payload_congr`** — the payload depends on the number and the places alone.
* **`SentAs.exact`** — so what is sent tells the number and the places, and nothing else.
-/

namespace BoundSql.Wire.Numeric

open Decimal Text Payload Literal

/-! ## Payloads of literals are stored -/

section Stored

variable {whole fraction : List Char} {core : List Int} {front back : Nat}

/-- **A literal has a place for every decimal digit of its payload** that is not zero. -/
lemma showsAll_of_groups (hfraction : allDigits fraction = true) (sign : Nat)
    (hgroups : wholeGroups whole ++ fractionGroups fraction =
      List.replicate front 0 ++ core ++ List.replicate back 0) :
    Payload.ShowsAll ⟨(wholeGroups whole).length - 1 - front, sign, fraction.length, core⟩ := by
  intro i hi j hj hweight hdecimal
  simp only at hi hweight hdecimal ⊢
  obtain ⟨q, hq⟩ : ∃ q : Nat, front + i = (wholeGroups whole).length + q :=
    Nat.exists_eq_add_of_le (by omega)
  -- the digit at `i` is the group at `q` behind the point
  have hgroup : (fractionGroups fraction)[q]? = some core[i] := by
    rw [← getElem?_padding 0 front back hi, ← hgroups, hq, List.getElem?_append_right (by omega),
      Nat.add_sub_cancel_left]
  have hchar := getElem?_flatMap_writeDigit (isDigit_of_mem_fractionGroups hfraction) q hj
  rw [flatMap_fractionGroups hfraction, hgroup, Option.map_some] at hchar
  by_contra hplace
  -- it would be one of the zeros that fill up the last group
  have hbehind : fraction.length ≤ 4 * q + j := by omega
  rw [List.getElem?_append_right hbehind, filling] at hchar
  have hzero := List.eq_of_mem_replicate (List.mem_of_getElem? hchar)
  have hvalue := congrArg digitValue hzero
  rw [digitValue_digitChar (Nat.mod_lt _ (by decide))] at hvalue
  exact hdecimal hvalue

end Stored

/-- **The payload of a literal is one that a server stores**, and shows as many places as the
literal has. -/
theorem stored_of_payload {literal : Literal} {p : Payload} (hform : literal.WellFormed)
    (hnan : literal ≠ .nan) (hlength : literal.wholeDigits ≤ 131068) (h : literal.payload = .ok p) :
    p.Stored ∧ p.scale = literal.places := by
  cases literal with
  | nan => exact absurd rfl hnan
  | decimal minus whole fraction =>
      obtain ⟨hwhole, hfraction⟩ := hform
      obtain ⟨-, front, core, back, hgroups, hcore, ⟨rfl, rfl⟩ | ⟨hne, -, rfl⟩⟩ :=
        exists_groups_of_payload h
      · refine ⟨⟨?_, hcore, ?_, .inl rfl, fun _ => ⟨rfl, rfl⟩, ?_⟩, rfl⟩
        · simp
        · simp
        · intro i hi
          simp at hi
      · have hbefore := length_wholeGroups hwhole
        simp only [wholeDigits] at hlength
        refine ⟨?_, rfl⟩
        constructor
        case digits => exact isDigit_of_mem_core hwhole hfraction hgroups
        case core => exact hcore
        case weight => simp only; omega
        case sign => exact signWord_eq_or minus
        case zero => exact fun hempty => absurd hempty hne
        case showsAll => exact showsAll_of_groups hfraction _ hgroups

/-- **Zero is stored in one way**: positive, of weight zero and without digits. -/
lemma Payload.Stored.eq_of_number_eq_zero {p : Payload} (h : p.Stored) (hzero : p.number = 0) :
    p.sign = positive ∧ p.weight = 0 ∧ p.digits = [] := by
  have hempty : p.digits = [] := by
    by_contra hne
    have hpositive := weighed_pos h.digits h.core.head hne p.weight
    exact mul_ne_zero (signFactor_ne_zero _) hpositive.ne' hzero
  obtain ⟨hsign, hweight⟩ := h.zero hempty
  exact ⟨hsign, hweight, hempty⟩

/-! ## The payload depends on the number and the places -/

lemma payload_congr_whole {a b : List Char}
    (h : a.dropWhile (· == '0') = b.dropWhile (· == '0')) (minus : Bool) (fraction : List Char) :
    payload (.decimal minus a fraction) = payload (.decimal minus b fraction) := by
  rw [payload, payload, h]

/-- **The sign of zero does not count.** -/
lemma payload_congr_sign {whole fraction : List Char} (hwhole : allDigits whole = true)
    (hfraction : allDigits fraction = true) (hzero : value (whole ++ fraction) = 0)
    (minus minus' : Bool) :
    payload (.decimal minus whole fraction) = payload (.decimal minus' whole fraction) := by
  have hall : allDigits (whole ++ fraction) = true := by
    rw [allDigits_append, hwhole, hfraction]
    rfl
  have hzeros := (value_eq_zero_iff hall).mp hzero
  by_cases hscale : fraction.length ≤ 65535
  · rw [payload_zero hscale hzeros, payload_zero hscale hzeros]
  · rw [payload_of_length_lt (by omega), payload_of_length_lt (by omega)]

/-- **Literals with one number and equally many places have one payload.** -/
theorem payload_congr {literal literal' : Literal} (hform : literal.WellFormed)
    (hform' : literal'.WellFormed) (hnumber : literal.number? = literal'.number?)
    (hplaces : literal.places = literal'.places) : literal.payload = literal'.payload := by
  cases literal with
  | nan =>
      cases literal' with
      | nan => rfl
      | decimal => cases hnumber
  | decimal minus whole fraction =>
      cases literal' with
      | nan => cases hnumber
      | decimal minus' whole' fraction' =>
          obtain ⟨hwhole, hfraction⟩ := hform
          obtain ⟨hwhole', hfraction'⟩ := hform'
          simp only [places] at hplaces
          simp only [number?, Option.some.injEq, value_div_eq, ← mul_div_assoc] at hnumber
          rw [← hplaces, div_left_inj' (by positivity), signFactor_mul_eq_iff] at hnumber
          obtain ⟨hvalue, hsign⟩ := hnumber
          obtain ⟨hfront, rfl⟩ := value_append_inj hfraction hfraction' hplaces hvalue
          have hkept : whole.dropWhile (· == '0') = whole'.dropWhile (· == '0') := by
            rw [dropWhile_zeros hwhole, dropWhile_zeros hwhole', hfront]
          rw [← payload_congr_whole hkept]
          rcases hsign with hzero | rfl
          · exact payload_congr_sign hwhole hfraction hzero minus minus'
          · rfl

/-! ## What is sent -/

/-- **A text is sent as a number**: the text spells a literal other than NaN, with at most 131068
digits before the point, zeros in front not counted; and these are the bytes that are sent. -/
structure SentAs (cs : List Char) (literal : Literal) (bytes : List UInt8) : Prop where
  encode : encode cs = .ok bytes
  spells : Spells (trim cs) literal
  number : literal ≠ .nan
  wholeDigits : literal.wholeDigits ≤ 131068

section Sent

variable {cs : List Char} {literal : Literal} {bytes : List UInt8}

lemma SentAs.wellFormed (h : SentAs cs literal bytes) : literal.WellFormed :=
  wellFormed_of_spells h.spells

lemma SentAs.exists_payload (h : SentAs cs literal bytes) :
    ∃ p : Payload, literal.payload = .ok p ∧ bytes = p.bytes := by
  obtain ⟨other, p, hspells, hp, hbytes⟩ := encode_eq_ok_iff.mp h.encode
  obtain rfl := hspells.unique h.spells
  exact ⟨p, hp, hbytes⟩

/-- **The payload that is sent for a number**: the server stores it as it is, and it has the number
and the places of the literal. -/
lemma SentAs.exists_stored (h : SentAs cs literal bytes) :
    ∃ p : Payload, Holds bytes p ∧ p.Stored ∧ p.scale = literal.places ∧
      literal.number? = some p.number := by
  obtain ⟨p, hp, rfl⟩ := h.exists_payload
  obtain ⟨hstored, hscale⟩ := stored_of_payload h.wellFormed h.number h.wholeDigits hp
  exact ⟨p, (fits_of_payload h.wellFormed h.wholeDigits hp).holds_bytes, hstored, hscale,
    number_of_payload h.wellFormed h.number hp⟩

/-- **What is sent for a number is exact, and there is one way to send it.**  The bytes are a header
and the digits that it announces, all below ten thousand and neither the first nor the last of them
zero; they show as many places as the text has and denote its number; and zero has no digits, no
weight and no minus sign.  So two texts are sent as the same bytes if and only if they spell one
number with equally many places. -/
theorem SentAs.exact (h : SentAs cs literal bytes) :
    (∃ p : Payload, Holds bytes p ∧ p.Stored ∧ p.scale = literal.places ∧
        literal.number? = some p.number ∧
        (p.number = 0 → p.sign = positive ∧ p.weight = 0 ∧ p.digits = [])) ∧
      ∀ {cs' : List Char} {literal' : Literal} {bytes' : List UInt8}, SentAs cs' literal' bytes' →
        (bytes = bytes' ↔
          literal.number? = literal'.number? ∧ literal.places = literal'.places) := by
  obtain ⟨p, hholds, hstored, hscale, hnumber⟩ := h.exists_stored
  refine ⟨⟨p, hholds, hstored, hscale, hnumber, hstored.eq_of_number_eq_zero⟩, ?_⟩
  intro cs' literal' bytes' h'
  constructor
  · rintro rfl
    obtain ⟨q, hholds', -, hscale', hnumber'⟩ := h'.exists_stored
    obtain rfl := hholds.unique hholds'
    exact ⟨hnumber.trans hnumber'.symm, hscale.symm.trans hscale'⟩
  · rintro ⟨hsame, hplaces⟩
    obtain ⟨q, hq, rfl⟩ := h.exists_payload
    obtain ⟨q', hq', rfl⟩ := h'.exists_payload
    rw [payload_congr h.wellFormed h'.wellFormed hsame hplaces, hq'] at hq
    rw [Except.ok.inj hq]

end Sent

/-- Minus twelve and a half with two places, with superfluous blanks and zeros and without. -/
theorem exact_minus_twelve :
    (∃ p : Payload, Holds [0, 2, 0, 0, 64, 0, 0, 2, 0, 12, 19, 136] p ∧ p.scale = 2 ∧
        p.number = -25 / 2) ∧
      (Literal.decimal true "0012".toList "50".toList).number? =
        (Literal.decimal true "12".toList "50".toList).number? := by
  have hlong : SentAs " -0012.50".toList (.decimal true "0012".toList "50".toList)
      [0, 2, 0, 0, 64, 0, 0, 2, 0, 12, 19, 136] :=
    ⟨by rw [encode_eq]; decide, ofText?_eq_some_iff.mp (by decide), by decide, by decide⟩
  have hshort : SentAs "-12.50".toList (.decimal true "12".toList "50".toList)
      [0, 2, 0, 0, 64, 0, 0, 2, 0, 12, 19, 136] :=
    ⟨by rw [encode_eq]; decide, ofText?_eq_some_iff.mp (by decide), by decide, by decide⟩
  have hwhole : value "0012".toList = 12 := by decide
  have hfraction : value "50".toList = 50 := by decide
  have hvalue : (Literal.decimal true "0012".toList "50".toList).number? = some (-25 / 2) := by
    have hlength : "50".toList.length = 2 := by decide
    rw [number?, hwhole, hfraction, hlength, signFactor]
    norm_num
  obtain ⟨⟨p, hholds, -, hscale, hnumber, -⟩, hsame⟩ := hlong.exact
  rw [hvalue] at hnumber
  exact ⟨⟨p, hholds, hscale, (Option.some.inj hnumber).symm⟩, ((hsame hshort).mp rfl).1⟩

end BoundSql.Wire.Numeric
