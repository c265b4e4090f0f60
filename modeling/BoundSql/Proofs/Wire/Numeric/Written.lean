import BoundSql.Proofs.Wire.Numeric.Literal
import BoundSql.Proofs.Wire.Numeric.Output
import BoundSql.Proofs.Wire.Word

/-!
# Numbers read back

A decimal text is sent as a payload, and the payload is shown as a text again.

* `digitsFrom_of_append` — the groups of a literal are the digits of its payload, zeros included.
* `core_eq_nil_iff` — a literal has no digit to be sent only if it is zero.
* `Literal.WellFormed` — a literal whose parts are digits, as all that are read are.
* **`write_of_payload`** — the payload of a literal is shown as the canonical text of the literal.
* `fits_of_payload` — it fits, if there are not too many digits before the point.
* **`decode_encode`** — so the bytes of a text are read as its canonical text.
-/

namespace BoundSql.Wire.Numeric

open Decimal Text Payload Literal

/-! ## Whole groups -/

lemma dvd_length_filling_append (cs : List Char) : 4 ∣ (filling cs ++ cs).length := by
  rw [filling, List.length_append, List.length_replicate]
  omega

lemma dvd_length_append_filling (cs : List Char) : 4 ∣ (cs ++ filling cs).length := by
  rw [filling, List.length_append, List.length_replicate]
  omega

lemma allDigits_filling_append {whole : List Char} (h : allDigits whole = true) :
    allDigits (filling (whole.dropWhile (· == '0')) ++ whole.dropWhile (· == '0')) = true := by
  have hkept : allDigits (whole.dropWhile (· == '0')) = true :=
    allDigits_iff.mpr fun c hc => allDigits_iff.mp h c ((List.dropWhile_suffix _).subset hc)
  rw [allDigits_append, filling, allDigits_replicate_zero, hkept]
  rfl

lemma allDigits_append_filling {fraction : List Char} (h : allDigits fraction = true) :
    allDigits (fraction ++ filling fraction) = true := by
  rw [allDigits_append, filling, allDigits_replicate_zero, h]
  rfl

lemma wholeText_congr {a b : List Char}
    (h : a.dropWhile (· == '0') = b.dropWhile (· == '0')) : wholeText a = wholeText b := by
  rw [wholeText, wholeText, h]

section Groups

variable {whole fraction : List Char}

lemma flatMap_wholeGroups (h : allDigits whole = true) :
    (wholeGroups whole).flatMap writeDigit =
      filling (whole.dropWhile (· == '0')) ++ whole.dropWhile (· == '0') :=
  flatMap_writeDigit_groups (dvd_length_filling_append _) (allDigits_filling_append h)

lemma flatMap_fractionGroups (h : allDigits fraction = true) :
    (fractionGroups fraction).flatMap writeDigit = fraction ++ filling fraction :=
  flatMap_writeDigit_groups (dvd_length_append_filling _) (allDigits_append_filling h)

lemma wholeText_flatMap_wholeGroups (h : allDigits whole = true) :
    wholeText ((wholeGroups whole).flatMap writeDigit) = wholeText whole := by
  apply wholeText_congr
  rw [flatMap_wholeGroups h, filling, dropWhile_replicate_append]
  exact dropWhile_eq_self_of_head (head?_dropWhile_ne '0' whole)

lemma length_fractionGroups (h : allDigits fraction = true) :
    (fractionGroups fraction).length = (fraction.length + 3) / 4 := by
  have hlength := length_groups (dvd_length_append_filling _) (allDigits_append_filling h)
  rw [filling, List.length_append, List.length_replicate] at hlength
  rw [fractionGroups, filling]
  omega

lemma length_wholeGroups (h : allDigits whole = true) :
    (wholeGroups whole).length = ((whole.dropWhile (· == '0')).length + 3) / 4 := by
  have hlength := length_groups (dvd_length_filling_append _) (allDigits_filling_append h)
  rw [filling, List.length_append, List.length_replicate] at hlength
  rw [wholeGroups, filling]
  omega

lemma isDigit_of_mem_wholeGroups (h : allDigits whole = true) :
    ∀ g ∈ wholeGroups whole, IsDigit g :=
  isDigit_of_mem_groups (allDigits_filling_append h)

lemma isDigit_of_mem_fractionGroups (h : allDigits fraction = true) :
    ∀ g ∈ fractionGroups fraction, IsDigit g :=
  isDigit_of_mem_groups (allDigits_append_filling h)

end Groups

/-! ## The payload of a decimal -/

/-- **Groups around a core are the digits on the two sides of the point**, if the weight of the core
says how far from the first of them it starts. -/
lemma digitsFrom_of_append {before behind core : List Int} {front back : Nat}
    (h : before ++ behind = List.replicate front 0 ++ core ++ List.replicate back 0) :
    digitsFrom (before.length - 1 - front) core (before.length - 1) before.length = before ∧
      digitsFrom (before.length - 1 - front) core (-1) behind.length = behind := by
  have hlength := congrArg List.length h
  simp only [List.length_append, List.length_replicate] at hlength
  have hall := digitsFrom_eq_padding (before.length - 1) core front back
  have hpoint : (before.length - 1 - before.length : Int) = -1 := by omega
  rw [← h, ← hlength, digitsFrom_add, hpoint] at hall
  exact List.append_inj hall (length_digitsFrom _ _ _ _)

section Decimal

variable {whole fraction : List Char} {core : List Int} {front back : Nat}

/-- **There is no digit to be sent only if all digits are zeros.** -/
lemma core_eq_nil_iff (hwhole : allDigits whole = true) (hfraction : allDigits fraction = true)
    (hgroups : wholeGroups whole ++ fractionGroups fraction =
      List.replicate front 0 ++ core ++ List.replicate back 0)
    (hcore : IsCore 0 core) : core = [] ↔ ∀ c ∈ whole ++ fraction, c = '0' := by
  have hzeros (n : Nat) : ∀ c ∈ List.replicate n '0', c = '0' := fun _ => List.eq_of_mem_replicate
  have hwholeGroups : (∀ g ∈ wholeGroups whole, g = 0) ↔ ∀ c ∈ whole, c = '0' := by
    obtain ⟨n, hrun⟩ := exists_replicate_append '0' whole
    conv_rhs => rw [hrun]
    rw [wholeGroups,
      groups_eq_zero_iff (dvd_length_filling_append _) (allDigits_filling_append hwhole), filling,
      List.forall_mem_append, List.forall_mem_append, and_iff_right (hzeros _),
      and_iff_right (hzeros _)]
  have hfractionGroups : (∀ g ∈ fractionGroups fraction, g = 0) ↔ ∀ c ∈ fraction, c = '0' := by
    rw [fractionGroups,
      groups_eq_zero_iff (dvd_length_append_filling _) (allDigits_append_filling hfraction),
      filling, List.forall_mem_append, and_iff_left (hzeros _)]
  rw [hcore.eq_nil_iff front back, ← hgroups, List.forall_mem_append, List.forall_mem_append,
    hwholeGroups, hfractionGroups]

lemma isDigit_of_mem_core (hwhole : allDigits whole = true) (hfraction : allDigits fraction = true)
    (hgroups : wholeGroups whole ++ fractionGroups fraction =
      List.replicate front 0 ++ core ++ List.replicate back 0) : ∀ d ∈ core, IsDigit d := by
  intro d hd
  have hmem : d ∈ wholeGroups whole ++ fractionGroups fraction := by
    rw [hgroups]
    simp [hd]
  rcases List.mem_append.mp hmem with hmem | hmem
  · exact isDigit_of_mem_wholeGroups hwhole d hmem
  · exact isDigit_of_mem_fractionGroups hfraction d hmem

/-- **The two parts of a payload are shown as the two parts of the literal.** -/
lemma write_parts (hwhole : allDigits whole = true) (hfraction : allDigits fraction = true)
    (hgroups : wholeGroups whole ++ fractionGroups fraction =
      List.replicate front 0 ++ core ++ List.replicate back 0)
    (hcore : IsCore 0 core) (hne : core ≠ []) :
    writeWhole ((wholeGroups whole).length - 1 - front) core.toArray = wholeText whole ∧
      writeFraction ((wholeGroups whole).length - 1 - front) core.toArray fraction.length =
        fraction := by
  have hdigits := isDigit_of_mem_core hwhole hfraction hgroups
  obtain ⟨hbefore, hbehind⟩ := digitsFrom_of_append hgroups
  constructor
  · rw [writeWhole_eq hdigits hcore.head hne (wholeGroups whole).length (by omega),
      hbefore, wholeText_flatMap_wholeGroups hwhole]
  · rw [writeFraction_eq, ← length_fractionGroups hfraction, hbehind,
      flatMap_fractionGroups hfraction, List.take_left]

end Decimal

/-! ## Showing a payload -/

namespace Literal

/-- **A literal of digits**, as all are that are read. -/
def WellFormed : Literal → Prop
  | .nan => True
  | .decimal _ whole fraction => allDigits whole = true ∧ allDigits fraction = true

lemma wellFormed_of_spells {cs : List Char} {literal : Literal} (h : Spells cs literal) :
    literal.WellFormed := by
  cases h with
  | nan _ => trivial
  | decimal _ hwhole htail _ =>
      cases htail with
      | none => exact ⟨hwhole, rfl⟩
      | point hfraction => exact ⟨hwhole, hfraction⟩

/-- Zero is shown with as many places as it was read with. -/
lemma write_zero {minus : Bool} {whole fraction : List Char}
    (hzeros : ∀ c ∈ whole ++ fraction, c = '0') :
    Payload.write ⟨0, positive, fraction.length, []⟩ =
      canonical (.decimal minus whole fraction) := by
  have hsign : (whole ++ fraction).any (· != '0') = false := by
    simpa only [List.any_eq_false, bne_iff_ne, ne_eq, not_not] using hzeros
  rw [List.forall_mem_append] at hzeros
  have hwhole : whole.dropWhile (· == '0') = [] := by
    rw [List.dropWhile_eq_nil_iff]
    exact fun c hc => beq_iff_eq.mpr (hzeros.1 c hc)
  have hfraction := List.eq_replicate_length.mpr hzeros.2
  have hword : positive ≠ notANumber := by decide
  rw [Payload.write, if_neg hword, if_neg (fun h => h.2 rfl), canonical, hsign, Bool.and_false,
    if_neg Bool.false_ne_true, wholeText, if_pos hwhole]
  simp only [writeWhole_nil, writeFraction_nil, ← hfraction, List.length_eq_zero_iff]

/-- **The payload of a literal is shown as its canonical text.** -/
theorem write_of_payload {literal : Literal} {p : Payload} (hform : literal.WellFormed)
    (h : literal.payload = .ok p) : p.write = literal.canonical := by
  cases literal with
  | nan =>
      obtain rfl := Except.ok.inj h
      rfl
  | decimal minus whole fraction =>
      obtain ⟨hwhole, hfraction⟩ := hform
      obtain ⟨-, front, core, back, hgroups, hcore, ⟨hempty, rfl⟩ | ⟨hne, -, rfl⟩⟩ :=
        exists_groups_of_payload h
      · exact write_zero ((core_eq_nil_iff hwhole hfraction hgroups hcore).mp hempty)
      · have hnonzero : (whole ++ fraction).any (· != '0') = true := by
          by_contra hzeros
          refine hne ((core_eq_nil_iff hwhole hfraction hgroups hcore).mpr ?_)
          simpa only [Bool.not_eq_true, List.any_eq_false, bne_iff_ne, ne_eq, not_not] using hzeros
        obtain ⟨hbefore, hbehind⟩ := write_parts hwhole hfraction hgroups hcore hne
        have hminus : (signWord minus = negative ∧ core ≠ []) ↔ minus = true := by
          rw [and_iff_left hne, signWord_eq_negative_iff]
        rw [Payload.write, if_neg (signWord_ne_notANumber minus), canonical, hnonzero,
          Bool.and_true]
        simp only [hbefore, hbehind, hminus, List.length_eq_zero_iff]

/-- **The payload of a literal fits**, if it does not have too many digits before the point. -/
theorem fits_of_payload {literal : Literal} {p : Payload} (hform : literal.WellFormed)
    (hlength : literal.wholeDigits ≤ 131068) (h : literal.payload = .ok p) : p.Fits := by
  have hsmall (scale : Nat) (hscale : scale ≤ 65535) (sign : Nat) (hsign : sign < 65536) :
      Payload.Fits ⟨0, sign, scale, []⟩ :=
    ⟨by simp, by simp, hsign, by simp only; omega, by simp⟩
  cases literal with
  | nan =>
      obtain rfl := Except.ok.inj h
      exact hsmall 0 (by decide) _ (by decide)
  | decimal minus whole fraction =>
      obtain ⟨hwhole, hfraction⟩ := hform
      obtain ⟨hscale, front, core, back, hgroups, hcore, ⟨-, rfl⟩ | ⟨hne, hshort, rfl⟩⟩ :=
        exists_groups_of_payload h
      · exact hsmall _ hscale _ (by decide)
      · have hbefore := length_wholeGroups hwhole
        have hbehind := length_fractionGroups hfraction
        have hcount := congrArg List.length hgroups
        have hpositive := List.length_pos_iff.mpr hne
        simp only [List.length_append, List.length_replicate] at hcount
        simp only [wholeDigits] at hlength
        constructor
        case length => exact hshort
        case weight => simp only; omega
        case sign => exact signWord_lt minus
        case scale => simp only; omega
        case digits =>
          intro d hd
          have hdigit := isDigit_of_mem_core hwhole hfraction hgroups d hd
          exact ⟨by have := hdigit.1; omega, by have := hdigit.2; omega⟩

lemma digits_eq_nil_of_payload {literal : Literal} {p : Payload} (h : literal.payload = .ok p)
    (hsign : p.sign = notANumber) : p.digits = [] := by
  cases literal with
  | nan =>
      obtain rfl := Except.ok.inj h
      rfl
  | decimal minus whole fraction =>
      obtain ⟨-, front, core, back, -, -, ⟨-, rfl⟩ | ⟨-, -, rfl⟩⟩ := exists_groups_of_payload h
      · rfl
      · exact absurd hsign (signWord_ne_notANumber minus)

lemma length_le_of_payload {literal : Literal} {p : Payload} (h : literal.payload = .ok p) :
    p.digits.length ≤ 32767 := by
  cases literal with
  | nan =>
      obtain rfl := Except.ok.inj h
      exact Nat.zero_le _
  | decimal minus whole fraction =>
      obtain ⟨-, front, core, back, -, -, ⟨-, rfl⟩ | ⟨-, hshort, rfl⟩⟩ :=
        exists_groups_of_payload h
      · exact Nat.zero_le _
      · exact hshort

end Literal

/-! ## Reading back what was sent -/

/-- **What a text is sent as**: the payload of the literal that it spells, blanks around it aside. -/
lemma encode_eq_ok_iff {cs : List Char} {bytes : List UInt8} :
    encode cs = .ok bytes ↔ ∃ (literal : Literal) (p : Payload),
      Spells (trim cs) literal ∧ literal.payload = .ok p ∧ bytes = p.bytes := by
  rw [encode_eq]
  constructor
  · intro h
    cases hliteral : ofText? (trim cs) with
    | none =>
        simp only [hliteral] at h
        cases h
    | some literal =>
        simp only [hliteral] at h
        cases hp : literal.payload with
        | error fault =>
            rw [hp] at h
            cases h
        | ok p =>
            rw [hp] at h
            exact ⟨literal, p, ofText?_eq_some_iff.mp hliteral, hp, (Except.ok.inj h).symm⟩
  · rintro ⟨literal, p, hspells, hp, rfl⟩
    simp only [ofText?_of_spells hspells, hp]
    rfl

/-- **Whatever a text was sent as is read as some text.** -/
lemma exists_decode_of_encode {cs : List Char} {bytes : List UInt8} (h : encode cs = .ok bytes) :
    ∃ text, decode bytes = some text := by
  obtain ⟨literal, p, -, hp, rfl⟩ := encode_eq_ok_iff.mp h
  obtain ⟨q, hq⟩ := exists_ofBytes?_bytes (length_le_of_payload hp)
  rw [decode, hq]
  exact ⟨_, rfl⟩

/-- **What a text was sent as is read as its canonical text.**  The text spells one literal and no
other, blanks around it aside; with at most 131068 digits before the point, zeros in front not
counted, the canonical text of that literal comes back. -/
theorem decode_encode {cs : List Char} {bytes : List UInt8} (h : encode cs = .ok bytes) :
    ∃ literal : Literal, (∀ other, Spells (trim cs) other ↔ other = literal) ∧
      (literal.wholeDigits ≤ 131068 → decode bytes = some literal.canonical) := by
  rw [encode_eq] at h
  cases hliteral : ofText? (trim cs) with
  | none =>
      simp only [hliteral] at h
      cases h
  | some literal =>
      simp only [hliteral] at h
      have hspells := ofText?_eq_some_iff.mp hliteral
      have hform := wellFormed_of_spells hspells
      refine ⟨literal, fun other => ?_, fun hlength => ?_⟩
      · rw [← ofText?_eq_some_iff, hliteral, Option.some.injEq]
        exact eq_comm
      · cases hp : literal.payload with
        | error fault =>
            rw [hp] at h
            cases h
        | ok p =>
            rw [hp] at h
            obtain rfl := Except.ok.inj h
            rw [decode, ofBytes?_bytes (fits_of_payload hform hlength hp)
              (digits_eq_nil_of_payload hp), Option.map_some, write_of_payload hform hp]

/-- Zeros in front of the number and blanks around it are lost, those behind the point are not. -/
theorem decode_encode_minus_twelve :
    encode " -0012.50".toList = .ok [0, 2, 0, 0, 64, 0, 0, 2, 0, 12, 19, 136] ∧
      decode [0, 2, 0, 0, 64, 0, 0, 2, 0, 12, 19, 136] = some "-12.50".toList := by
  have hsent : encode " -0012.50".toList = .ok [0, 2, 0, 0, 64, 0, 0, 2, 0, 12, 19, 136] := by
    rw [encode_eq]
    decide
  obtain ⟨literal, hspells, hread⟩ := decode_encode hsent
  have hliteral : Spells (trim " -0012.50".toList) (.decimal true "0012".toList "50".toList) :=
    ofText?_eq_some_iff.mp (by decide)
  have hshort : (Literal.decimal true "0012".toList "50".toList).wholeDigits = 2 := by decide
  have hcanonical : (Literal.decimal true "0012".toList "50".toList).canonical =
      "-12.50".toList := by
    decide
  obtain rfl := (hspells _).mp hliteral
  rw [hshort, hcanonical] at hread
  exact ⟨hsent, hread (by omega)⟩

end BoundSql.Wire.Numeric
