import BoundSql.Proofs.Wire.Numeric.Written

/-!
# Numbers sent back

A payload is shown as a text, and the text is sent as a payload again.  Nothing is lost if the
payload is one that a server stores: without zero digits at its ends, and with all its places
shown.

* `getElem?_flatMap_writeDigit` — which character of written digits stands where.
* `Payload.Stored` — the payloads that are stored.
* `wholeGroups_wholeText`, `fractionGroups_take` — the groups of the two parts of a written payload.
* **`exists_literal`** — a stored payload is that of a literal in its canonical form.
* **`encode_decode`** — so its bytes are sent as they were received.
-/

namespace BoundSql.Wire.Numeric

open Decimal Text Payload Literal

/-! ## Characters of written digits -/

lemma padded_four {n : Nat} (h : n < 10 ^ 4) :
    padded 4 n = [digitChar (n / 1000 % 10), digitChar (n / 100 % 10), digitChar (n / 10 % 10),
      digitChar (n % 10)] := by
  have hdigit (m : Nat) : m % 10 < 10 := Nat.mod_lt m (by decide)
  apply eq_of_value_eq (allDigits_padded 4 n)
  · simp only [allDigits, List.all_cons, List.all_nil, isDigit_digitChar (hdigit _), Bool.and_self]
  · exact length_padded (by decide) h
  · rw [value_padded]
    simp only [value, List.foldl_cons, List.foldl_nil, digitValue_digitChar (hdigit _)]
    omega

lemma getElem?_writeDigit {g : Int} (h : IsDigit g) {j : Nat} (hj : j < 4) :
    (writeDigit g)[j]? = some (digitChar (g.natAbs / 10 ^ (3 - j) % 10)) := by
  rw [writeDigit_of_isDigit h, padded_four (natAbs_lt_of_isDigit h)]
  match j, hj with
  | 0, _ => rfl
  | 1, _ => rfl
  | 2, _ => rfl
  | 3, _ => simp

/-- **Character `4 * q + j` belongs to the digit at `q`.** -/
lemma getElem?_flatMap_writeDigit {gs : List Int} (h : ∀ g ∈ gs, IsDigit g) (q : Nat) {j : Nat}
    (hj : j < 4) : (gs.flatMap writeDigit)[4 * q + j]? =
      gs[q]?.map fun g => digitChar (g.natAbs / 10 ^ (3 - j) % 10) := by
  induction gs generalizing q with
  | nil => rfl
  | cons g rest ih =>
      have hg := h g List.mem_cons_self
      have hlength := length_writeDigit hg
      rw [List.flatMap_cons]
      cases q with
      | zero =>
          rw [List.getElem?_append_left (by omega), Nat.mul_zero, Nat.zero_add,
            getElem?_writeDigit hg hj]
          rfl
      | succ q =>
          have hindex : 4 * (q + 1) + j - (writeDigit g).length = 4 * q + j := by omega
          rw [List.getElem?_append_right (by omega), hindex,
            ih (fun g hg => h g (List.mem_cons_of_mem _ hg)) q]
          rfl

/-! ## Groups of the two parts -/

lemma wholeGroups_wholeText (cs : List Char) : wholeGroups (wholeText cs) = wholeGroups cs := by
  rw [wholeGroups, wholeGroups, dropWhile_wholeText]

/-- **The groups of digits written before the point**, of which the first is not zero. -/
lemma wholeGroups_flatMap {gs : List Int} (h : ∀ g ∈ gs, IsDigit g) (hhead : gs.head? ≠ some 0) :
    wholeGroups (gs.flatMap writeDigit) = gs := by
  cases gs with
  | nil => rfl
  | cons g rest =>
      have hg := h g List.mem_cons_self
      have hrest := length_flatMap_writeDigit fun g hg => h g (List.mem_cons_of_mem _ hg)
      have hne : g.natAbs ≠ 0 := by simpa using hhead
      have hshort := length_digits_le (by decide) (natAbs_lt_of_isDigit hg)
      have hpositive := List.length_pos_iff.mpr (digits_ne_nil g.natAbs)
      have hfilling : (4 - (digits g.natAbs ++ rest.flatMap writeDigit).length % 4) % 4 =
          4 - (digits g.natAbs).length := by
        rw [List.length_append, hrest]
        omega
      have hwritten : filling (digits g.natAbs ++ rest.flatMap writeDigit) ++
          (digits g.natAbs ++ rest.flatMap writeDigit) = (g :: rest).flatMap writeDigit := by
        rw [filling, hfilling, List.flatMap_cons, writeDigit_of_isDigit hg, padded,
          List.append_assoc]
      rw [wholeGroups, List.flatMap_cons, writeDigit_of_isDigit hg, dropWhile_padded_append 4 hne,
        hwritten, groups_flatMap_writeDigit h]

/-- **The groups of digits written behind the point**, if only zeros are cut off. -/
lemma fractionGroups_take {gs : List Int} (h : ∀ g ∈ gs, IsDigit g) {scale : Nat}
    (hlength : gs.length = (scale + 3) / 4)
    (hcut : ∀ c ∈ (gs.flatMap writeDigit).drop scale, c = '0') :
    fractionGroups ((gs.flatMap writeDigit).take scale) = gs := by
  have hwritten := length_flatMap_writeDigit h
  have htake : ((gs.flatMap writeDigit).take scale).length = scale := by
    rw [List.length_take]
    omega
  have hfilling : filling ((gs.flatMap writeDigit).take scale) =
      (gs.flatMap writeDigit).drop scale := by
    have hcount : (4 - scale % 4) % 4 = ((gs.flatMap writeDigit).drop scale).length := by
      rw [List.length_drop]
      omega
    rw [filling, htake, hcount, ← List.eq_replicate_length.mpr hcut]
  rw [fractionGroups, hfilling, List.take_append_drop, groups_flatMap_writeDigit h]

/-! ## Stored payloads -/

namespace Payload

/-- **A payload shows all its places**: a decimal digit behind the point that is not zero stands at
a place within the scale.  The digit at index `i` holds four of them, counted from the left by `j`.
-/
def ShowsAll (p : Payload) : Prop :=
  ∀ (i : Nat) (h : i < p.digits.length) (j : Nat), j < 4 → p.weight < i →
    p.digits[i].natAbs / 10 ^ (3 - j) % 10 ≠ 0 → 4 * (i - p.weight - 1) + j + 1 ≤ p.scale

instance (p : Payload) : Decidable p.ShowsAll := Nat.decidableBallLT _ _

/-- **A payload that a server stores.** -/
structure Stored (p : Payload) : Prop where
  digits : ∀ d ∈ p.digits, IsDigit d
  core : IsCore 0 p.digits
  weight : p.weight ≤ 32766
  sign : p.sign = positive ∨ p.sign = negative
  zero : p.digits = [] → p.sign = positive ∧ p.weight = 0
  showsAll : p.ShowsAll

/-- The literal that a payload is shown as. -/
def literal (p : Payload) : Literal :=
  .decimal (decide (p.sign = negative)) (writeWhole p.weight p.digits.toArray)
    (writeFraction p.weight p.digits.toArray p.scale)

/-! ### The text of a payload -/

lemma allDigits_flatMap_writeDigit {gs : List Int} (h : ∀ g ∈ gs, IsDigit g) :
    allDigits (gs.flatMap writeDigit) = true := by
  rw [allDigits_iff]
  intro c hc
  obtain ⟨g, hg, hc⟩ := List.mem_flatMap.mp hc
  exact allDigits_iff.mp (allDigits_writeDigit (h g hg)) c hc

section Shown

variable {digits : List Int}

lemma writeWhole_ne_nil (weight : Int) (h : ∀ d ∈ digits, IsDigit d) :
    writeWhole weight digits.toArray ≠ [] ∧
      allDigits (writeWhole weight digits.toArray) = true := by
  by_cases hweight : weight < 0
  · rw [writeWhole, if_pos hweight]
    exact ⟨List.cons_ne_nil _ _, rfl⟩
  · obtain ⟨w, rfl⟩ := Int.eq_ofNat_of_zero_le (Int.not_lt.mp hweight)
    have hfirst := isDigit_digitAt w h w
    rw [writeWhole_of_nonneg, integer, if_neg (by have := hfirst.1; omega), allDigits_append,
      allDigits_digits, allDigits_flatMap_writeDigit (isDigit_of_mem_digitsFrom _ h _ _)]
    exact ⟨List.append_ne_nil_of_left_ne_nil (digits_ne_nil _) _, rfl⟩

lemma allDigits_writeFraction (weight : Int) (h : ∀ d ∈ digits, IsDigit d) (scale : Nat) :
    allDigits (writeFraction weight digits.toArray scale) = true := by
  rw [writeFraction_eq, allDigits_iff]
  intro c hc
  exact allDigits_iff.mp (allDigits_flatMap_writeDigit (isDigit_of_mem_digitsFrom _ h _ _)) c
    (List.mem_of_mem_take hc)

lemma length_writeFraction (weight : Int) (h : ∀ d ∈ digits, IsDigit d) (scale : Nat) :
    (writeFraction weight digits.toArray scale).length = scale := by
  rw [writeFraction_eq, List.length_take,
    length_flatMap_writeDigit (isDigit_of_mem_digitsFrom _ h _ _), length_digitsFrom]
  omega

/-- **The two parts of a written payload spell a literal**, with a sign in front or without. -/
lemma spells_write_parts (weight : Int) (h : ∀ d ∈ digits, IsDigit d) (scale : Nat)
    (minus : Bool) :
    Spells ((if minus then ['-'] else []) ++ (writeWhole weight digits.toArray ++
        if scale = 0 then [] else '.' :: writeFraction weight digits.toArray scale))
      (.decimal minus (writeWhole weight digits.toArray)
        (writeFraction weight digits.toArray scale)) := by
  obtain ⟨hne, hwhole⟩ := writeWhole_ne_nil weight h
  have hfraction := allDigits_writeFraction weight h scale
  have hsign : SpellsSign (if minus then ['-'] else []) minus := by
    cases minus with
    | false => exact .none
    | true => exact .minus
  have htail : SpellsFraction (if scale = 0 then [] else
      '.' :: writeFraction weight digits.toArray scale)
      (writeFraction weight digits.toArray scale) := by
    split
    · rename_i hzero
      rw [hzero, writeFraction, List.take_zero]
      exact .none
    · exact .point hfraction
  rw [← List.append_assoc]
  exact .decimal hsign hwhole htail (.inl hne)

end Shown

section Stored

variable {p : Payload}

lemma Stored.sign_ne (h : p.Stored) : p.sign ≠ notANumber := by
  rcases h.sign with hsign | hsign
  · rw [hsign]; decide
  · rw [hsign]; decide

/-- **The text of a stored payload spells its literal.** -/
lemma Stored.spells_write (h : p.Stored) : Spells p.write p.literal := by
  have hminus : (p.sign = negative ∧ p.digits ≠ []) ↔ p.sign = negative := by
    refine and_iff_left_of_imp fun hnegative hempty => ?_
    rw [(h.zero hempty).1] at hnegative
    exact absurd hnegative (by decide)
  have hparts := spells_write_parts p.weight h.digits p.scale (decide (p.sign = negative))
  rw [write, if_neg h.sign_ne, literal]
  simpa only [hminus, decide_eq_true_eq] using hparts

lemma exists_decimal_ne_zero {d : Int} (h : IsDigit d) (hne : d ≠ 0) :
    ∃ j, j < 4 ∧ d.natAbs / 10 ^ (3 - j) % 10 ≠ 0 := by
  by_contra hzero
  have hall (j : Nat) (hj : j < 4) : d.natAbs / 10 ^ (3 - j) % 10 = 0 := by
    by_contra hdigit
    exact hzero ⟨j, hj, hdigit⟩
  have hthousand := hall 0 (by decide)
  have hhundred := hall 1 (by decide)
  have hten := hall 2 (by decide)
  have hone := hall 3 (by decide)
  have hlt := natAbs_lt_of_isDigit h
  simp only [Nat.sub_zero, Nat.reduceSub, Nat.reducePow, Nat.div_one]
    at hthousand hhundred hten hone
  omega

/-- **No digit of a stored payload is behind the last group of its scale.** -/
lemma Stored.length_le (h : p.Stored) (hne : p.digits ≠ []) :
    (p.digits.length : Int) ≤ p.weight + 1 + ((p.scale + 3) / 4 : Nat) := by
  have hpositive := List.length_pos_iff.mpr hne
  by_cases hwhole : ((p.digits.length - 1 : Nat) : Int) ≤ p.weight
  · omega
  · have hnonzero : p.digits.getLast hne ≠ 0 := by
      intro hzero
      apply h.core.last
      rw [List.getLast?_eq_some_getLast hne, hzero]
    obtain ⟨j, hj, hdecimal⟩ :=
      exists_decimal_ne_zero (h.digits _ (List.getLast_mem hne)) hnonzero
    rw [List.getLast_eq_getElem] at hdecimal
    have hplace := h.showsAll _ (by omega) j hj (Int.not_le.mp hwhole) hdecimal
    omega

/-- **Only zeros are cut off** behind the scale of a stored payload. -/
lemma Stored.eq_zero_of_mem_drop (h : p.Stored) (count : Nat) :
    ∀ c ∈ ((digitsFrom p.weight p.digits (-1) count).flatMap writeDigit).drop p.scale, c = '0' := by
  intro c hc
  obtain ⟨k, hk⟩ := List.getElem?_of_mem hc
  rw [List.getElem?_drop] at hk
  have hsplit : p.scale + k = 4 * ((p.scale + k) / 4) + (p.scale + k) % 4 := by omega
  have hj : (p.scale + k) % 4 < 4 := Nat.mod_lt _ (by decide)
  rw [hsplit, getElem?_flatMap_writeDigit (isDigit_of_mem_digitsFrom _ h.digits _ _) _ hj,
    Option.map_eq_some_iff] at hk
  obtain ⟨g, hg, rfl⟩ := hk
  obtain ⟨hq, rfl⟩ := List.getElem?_eq_some_iff.mp hg
  rw [getElem_digitsFrom, digitAt]
  by_contra hne
  split at hne
  · rename_i hheld
    rw [List.getElem?_toArray] at hne
    cases hd : p.digits[(p.weight - (-1 - ((p.scale + k) / 4 : Nat))).toNat]? with
    | none =>
        rw [hd] at hne
        exact hne (by simp [digitChar])
    | some d =>
        -- the digit that the character belongs to would have to be shown
        rw [hd] at hne
        obtain ⟨hlt, rfl⟩ := List.getElem?_eq_some_iff.mp hd
        have hplace := h.showsAll _ hlt _ hj (by omega) fun hzero => by
          rw [Option.getD_some, hzero] at hne
          exact hne rfl
        omega
  · exact hne (by simp [digitChar])

/-! ### The payload of the text -/

lemma payload_zero {minus : Bool} {whole fraction : List Char}
    (hscale : fraction.length ≤ 65535) (hzeros : ∀ c ∈ whole ++ fraction, c = '0') :
    Literal.payload (.decimal minus whole fraction) = .ok ⟨0, positive, fraction.length, []⟩ := by
  have hdigits : ∀ c ∈ whole ++ fraction, c.isDigit = true := by
    intro c hc
    rw [hzeros c hc]
    rfl
  rw [List.forall_mem_append, ← allDigits_iff, ← allDigits_iff] at hdigits
  obtain ⟨front, core, back, hgroups, hcore⟩ :=
    exists_padding 0 (wholeGroups whole ++ fractionGroups fraction)
  rw [payload_decimal hscale hgroups hcore,
    if_pos ((core_eq_nil_iff hdigits.1 hdigits.2 hgroups hcore).mpr hzeros)]

lemma Stored.head?_digitsFrom_ne (h : p.Stored) (hne : p.digits ≠ []) :
    (digitsFrom p.weight p.digits ((p.weight + 1).toNat - 1) (p.weight + 1).toNat).head? ≠
      some 0 := by
  by_cases hweight : p.weight < 0
  · have hcount : (p.weight + 1).toNat = 0 := by omega
    rw [hcount]
    simp [digitsFrom]
  · obtain ⟨w, hw⟩ := Int.eq_ofNat_of_zero_le (Int.not_lt.mp hweight)
    have hcount : (p.weight + 1).toNat = w + 1 := by omega
    have htop : ((w + 1 : Nat) - 1 : Int) = p.weight := by omega
    obtain ⟨first, rest, hdigits⟩ := List.exists_cons_of_ne_nil hne
    have hfirst : digitAt p.weight p.digits.toArray p.weight = first := by
      simp [digitAt, hdigits]
    have hhead := h.core.head
    rw [hdigits] at hhead
    rw [hcount, digitsFrom_succ, htop, hfirst]
    exact hhead

lemma Stored.wholeGroups_writeWhole (h : p.Stored) (hne : p.digits ≠ []) :
    wholeGroups (writeWhole p.weight p.digits.toArray) =
      digitsFrom p.weight p.digits ((p.weight + 1).toNat - 1) (p.weight + 1).toNat := by
  have hdigits := isDigit_of_mem_digitsFrom p.weight h.digits ((p.weight + 1).toNat - 1)
    (p.weight + 1).toNat
  rw [writeWhole_eq h.digits h.core.head hne (p.weight + 1).toNat (by omega),
    wholeGroups_wholeText, wholeGroups_flatMap hdigits (h.head?_digitsFrom_ne hne)]

lemma Stored.fractionGroups_writeFraction (h : p.Stored) :
    fractionGroups (writeFraction p.weight p.digits.toArray p.scale) =
      digitsFrom p.weight p.digits (-1) ((p.scale + 3) / 4) := by
  have hdigits := isDigit_of_mem_digitsFrom p.weight h.digits (-1) ((p.scale + 3) / 4)
  rw [writeFraction_eq, fractionGroups_take hdigits (length_digitsFrom _ _ _ _)
    (h.eq_zero_of_mem_drop _)]

/-- **The groups of both parts are the digits of the payload** between zeros, and the zeros in front
tell the weight. -/
lemma Stored.exists_groups_eq (h : p.Stored) (hne : p.digits ≠ []) :
    ∃ front back, wholeGroups (writeWhole p.weight p.digits.toArray) ++
        fractionGroups (writeFraction p.weight p.digits.toArray p.scale) =
          List.replicate front 0 ++ p.digits ++ List.replicate back 0 ∧
      ((p.weight + 1).toNat : Int) - 1 - front = p.weight := by
  have hle := h.length_le hne
  obtain ⟨front, hfront⟩ : ∃ front : Nat, ((p.weight + 1).toNat : Int) - 1 - front = p.weight :=
    ⟨((p.weight + 1).toNat - 1 - p.weight).toNat, by omega⟩
  obtain ⟨back, hback⟩ : ∃ back : Nat, front + p.digits.length + back =
      (p.weight + 1).toNat + (p.scale + 3) / 4 :=
    ⟨(p.weight + 1).toNat + (p.scale + 3) / 4 - (front + p.digits.length), by omega⟩
  have hpoint : ((p.weight + 1).toNat - 1 - (p.weight + 1).toNat : Int) = -1 := by omega
  have hall := digitsFrom_eq_padding ((p.weight + 1).toNat - 1) p.digits front back
  rw [hfront, hback, digitsFrom_add, hpoint] at hall
  refine ⟨front, back, ?_, hfront⟩
  rw [h.wholeGroups_writeWhole hne, h.fractionGroups_writeFraction, hall]

/-- **The payload of the literal that a stored payload is shown as is that payload.** -/
theorem Stored.payload_literal (h : p.Stored) (hlength : p.digits.length ≤ 32767)
    (hscale : p.scale ≤ 65535) : p.literal.payload = .ok p := by
  by_cases hne : p.digits = []
  · obtain ⟨hsign, hweight⟩ := h.zero hne
    have hp : p = ⟨0, positive, p.scale, []⟩ := by rw [← hsign, ← hweight, ← hne]
    have hzeros : ∀ c ∈ ['0'] ++ List.replicate p.scale '0', c = '0' := by simp
    rw [hp, literal, writeWhole_nil, writeFraction_nil,
      payload_zero (by rw [List.length_replicate]; exact hscale) hzeros, List.length_replicate]
  · obtain ⟨front, back, hgroups, hfront⟩ := h.exists_groups_eq hne
    have hfraction := length_writeFraction p.weight h.digits p.scale
    have hsign : signWord (decide (p.sign = negative)) = p.sign := by
      rcases h.sign with hsign | hsign
      · rw [hsign]; rfl
      · rw [hsign]; rfl
    rw [literal, payload_decimal (by omega) hgroups h.core, if_neg hne, if_neg (by omega),
      h.wholeGroups_writeWhole hne, length_digitsFrom, hfront, hfraction, hsign]

end Stored

end Payload

/-! ## Sending back what was received -/

lemma trim_of_spells_decimal {cs : List Char} {minus : Bool} {whole fraction : List Char}
    (h : Spells cs (.decimal minus whole fraction)) : trim cs = cs := by
  apply trim_eq_self
  intro c hc
  obtain ⟨hlow, hhigh⟩ := toNat_of_spells_decimal h c hc
  simp only [isBlank, Bool.or_eq_false_iff, Bool.and_eq_false_imp, decide_eq_true_eq,
    decide_eq_false_iff_not, beq_eq_false_iff_ne]
  omega

/-- **What was received is sent back byte for byte**, if it is a payload as a server stores it. -/
theorem encode_decode {bytes : List UInt8} {p : Payload} (h : Holds bytes p) (hp : p.Stored) :
    ∃ cs, decode bytes = some cs ∧ encode cs = .ok bytes := by
  have hfits := h.fits
  have hspells := hp.spells_write
  have hpayload := hp.payload_literal hfits.length (by have := hfits.scale; omega)
  have htrim : trim p.write = p.write := trim_of_spells_decimal hspells
  refine ⟨p.write, ?_, ?_⟩
  · rw [decode, h.bytes_eq, ofBytes?_bytes hfits fun hnan => absurd hnan hp.sign_ne,
      Option.map_some]
  · rw [encode_eq, htrim]
    simp only [ofText?_of_spells hspells, hpayload]
    rw [h.bytes_eq]
    rfl

/-- Minus twelve and a half, with one place behind the point. -/
theorem encode_decode_minus_twelve :
    ∃ cs, decode [0, 2, 0, 0, 64, 0, 0, 1, 0, 12, 19, 136] = some cs ∧
      encode cs = .ok [0, 2, 0, 0, 64, 0, 0, 1, 0, 12, 19, 136] := by
  have hholds : Holds [0, 2, 0, 0, 64, 0, 0, 1, 0, 12, 19, 136] ⟨0, negative, 1, [12, 5000]⟩ :=
    ⟨by decide, by decide, by decide, by decide, by decide, by decide⟩
  have hstored : Payload.Stored ⟨0, negative, 1, [12, 5000]⟩ :=
    ⟨by decide, ⟨by decide, by decide⟩, by decide, by decide, by decide, by decide⟩
  exact encode_decode hholds hstored

end BoundSql.Wire.Numeric
