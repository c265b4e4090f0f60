import BoundSql.Text.Utf8
import Mathlib.Tactic.Lemma

/-!
# Texts as bytes and back

The bytes of a text are read as this text, and no other bytes are.  The first byte of a character
tells how many bytes there are, and each of the others carries six bits more.

* `decodeChar_encodeChar` — the bytes of a character are read as it, whatever follows them.
* `exists_tail_of_decodeChar` — what is read as a character starts with the bytes of it.
* **`decodeUtf8_encodeUtf8`** — the bytes of a text are read as the text.
* **`decodeUtf8_eq_ok_iff`** — nothing else is: a text has one form in bytes.
* `length_encodeUtf8_of_lt` — how many there are of a text of ASCII.
-/

namespace BoundSql.Text

lemma toNat_toUInt8 {n : Nat} (h : n < 256) : n.toUInt8.toNat = n := by
  simp only [Nat.toUInt8, UInt8.toNat_ofNat']
  omega

/-- A character is no half of a surrogate pair. -/
lemma toNat_cases (c : Char) : c.toNat < 0xD800 ∨ 0xDFFF < c.toNat ∧ c.toNat < 0x110000 := c.valid

lemma isContinuation_of_lt {b : UInt8} (hlow : 0x80 ≤ b.toNat) (hhigh : b.toNat < 0xC0) :
    isContinuation b = true := by
  simp [isContinuation, hlow, hhigh]

/-- The second byte may follow the first one, if the character is in the range of its width. -/
lemma mayFollow_of_lt {first second : UInt8} (hlow : 0x80 ≤ second.toNat)
    (hhigh : second.toNat < 0xC0) (hlong : first.toNat = 0xE0 → 0xA0 ≤ second.toNat)
    (hpair : first.toNat = 0xED → second.toNat < 0xA0)
    (hlonger : first.toNat = 0xF0 → 0x90 ≤ second.toNat)
    (hlast : first.toNat = 0xF4 → second.toNat < 0x90) : mayFollow first second = true := by
  unfold mayFollow
  split
  · rename_i h; simp [hlong h, hhigh]
  · rename_i h; simp [hpair h, hlow]
  · rename_i h; simp [hlonger h, hhigh]
  · rename_i h; simp [hlast h, hlow]
  · exact isContinuation_of_lt hlow hhigh

/-- What the second byte may be. -/
lemma bounds_of_mayFollow {first second : UInt8} (h : mayFollow first second = true) :
    (0x80 ≤ second.toNat ∧ second.toNat < 0xC0) ∧ (first.toNat = 0xE0 → 0xA0 ≤ second.toNat) ∧
      (first.toNat = 0xED → second.toNat < 0xA0) ∧ (first.toNat = 0xF0 → 0x90 ≤ second.toNat) ∧
      (first.toNat = 0xF4 → second.toNat < 0x90) := by
  unfold mayFollow at h
  split at h
  all_goals
    simp only [isContinuation, Bool.and_eq_true, decide_eq_true_eq] at h
    grind

lemma bounds_of_isContinuation {b : UInt8} (h : isContinuation b = true) :
    0x80 ≤ b.toNat ∧ b.toNat < 0xC0 := by
  simpa [isContinuation] using h

section Widths

variable {first : UInt8}

lemma characterWidth_two (hlow : 0xC2 ≤ first.toNat) (hhigh : first.toNat < 0xE0) :
    characterWidth first = some 2 := by
  simp only [characterWidth, Bool.and_eq_true, decide_eq_true_eq]
  rw [if_neg (by omega), if_pos ⟨hlow, hhigh⟩]

lemma characterWidth_three (hlow : 0xE0 ≤ first.toNat) (hhigh : first.toNat < 0xF0) :
    characterWidth first = some 3 := by
  simp only [characterWidth, Bool.and_eq_true, decide_eq_true_eq]
  rw [if_neg (by omega), if_neg (by omega), if_pos ⟨hlow, hhigh⟩]

lemma characterWidth_four (hlow : 0xF0 ≤ first.toNat) (hhigh : first.toNat < 0xF5) :
    characterWidth first = some 4 := by
  simp only [characterWidth, Bool.and_eq_true, decide_eq_true_eq]
  rw [if_neg (by omega), if_neg (by omega), if_neg (by omega), if_pos ⟨hlow, hhigh⟩]

/-- What the first byte of a character of a width may be. -/
lemma bounds_of_characterWidth {width : Nat} (h : characterWidth first = some width) :
    (width = 1 ∧ first.toNat < 0x80) ∨ (width = 2 ∧ 0xC2 ≤ first.toNat ∧ first.toNat < 0xE0) ∨
      (width = 3 ∧ 0xE0 ≤ first.toNat ∧ first.toNat < 0xF0) ∨
      (width = 4 ∧ 0xF0 ≤ first.toNat ∧ first.toNat < 0xF5) := by
  simp only [characterWidth, Bool.and_eq_true, decide_eq_true_eq] at h
  grind

end Widths

/-- A byte that continues a character carries six bits of its number. -/
lemma toNat_tail (n : Nat) : (0x80 + n % 0x40).toUInt8.toNat = 0x80 + n % 0x40 :=
  toNat_toUInt8 (by omega)

/-- **The bytes of a character are read as it**, whatever follows them. -/
lemma decodeChar_encodeChar (c : Char) (rest : List UInt8) :
    ∃ first tail, encodeChar c = first :: tail ∧
      decodeChar first (tail ++ rest) = .ok (c, tail.length + 1) := by
  have hscalar := toNat_cases c
  have hchar {n : Nat} (h : n = c.toNat) : Char.ofNat n = c := by rw [h, Char.ofNat_toNat]
  unfold encodeChar
  simp only [Nat.shiftRight_eq_div_pow]
  split
  · rename_i hone
    refine ⟨_, _, rfl, ?_⟩
    have hfirst : c.toNat.toUInt8.toNat = c.toNat := toNat_toUInt8 (by omega)
    have hwidth : characterWidth c.toNat.toUInt8 = some 1 := by
      rw [characterWidth, hfirst]
      exact if_pos hone
    simp only [decodeChar, hwidth, hfirst, Char.ofNat_toNat, List.length_nil]
  split
  · rename_i hone htwo
    refine ⟨_, _, rfl, ?_⟩
    have hfirst := toNat_toUInt8 (show 0xC0 + c.toNat / 0x40 < 256 by omega)
    have hsecond := toNat_tail (c.toNat / 2 ^ (6 * 0))
    generalize (0xC0 + c.toNat / 0x40).toUInt8 = first at hfirst ⊢
    generalize (0x80 + c.toNat / 2 ^ (6 * 0) % 0x40).toUInt8 = second at hsecond ⊢
    have hwidth : characterWidth first = some 2 := characterWidth_two (by omega) (by omega)
    have hfollow : mayFollow first second = true :=
      mayFollow_of_lt (by omega) (by omega) (by omega) (by omega) (by omega) (by omega)
    simp only [decodeChar, hwidth, List.cons_append, hfollow, Bool.not_true, Bool.false_eq_true,
      if_false, if_true, List.length_cons, List.length_nil]
    rw [hchar (by omega)]
  split
  · rename_i hone htwo hthree
    refine ⟨_, _, rfl, ?_⟩
    have hfirst := toNat_toUInt8 (show 0xE0 + c.toNat / 0x1000 < 256 by omega)
    have hsecond := toNat_tail (c.toNat / 2 ^ (6 * 1))
    have hthird := toNat_tail (c.toNat / 2 ^ (6 * 0))
    generalize (0xE0 + c.toNat / 0x1000).toUInt8 = first at hfirst ⊢
    generalize (0x80 + c.toNat / 2 ^ (6 * 1) % 0x40).toUInt8 = second at hsecond ⊢
    generalize (0x80 + c.toNat / 2 ^ (6 * 0) % 0x40).toUInt8 = third at hthird ⊢
    have hwidth : characterWidth first = some 3 := characterWidth_three (by omega) (by omega)
    have hfollow : mayFollow first second = true :=
      mayFollow_of_lt (by omega) (by omega) (by omega) (by omega) (by omega) (by omega)
    have hcontinues := isContinuation_of_lt (b := third) (by omega) (by omega)
    simp only [decodeChar, hwidth, List.cons_append, hfollow, hcontinues, Bool.not_true,
      Bool.false_eq_true, if_false, if_true, List.length_cons, List.length_nil, Nat.reduceEqDiff]
    rw [hchar (by omega)]
  · rename_i hone htwo hthree
    refine ⟨_, _, rfl, ?_⟩
    have hfirst := toNat_toUInt8 (show 0xF0 + c.toNat / 0x40000 < 256 by omega)
    have hsecond := toNat_tail (c.toNat / 2 ^ (6 * 2))
    have hthird := toNat_tail (c.toNat / 2 ^ (6 * 1))
    have hfourth := toNat_tail (c.toNat / 2 ^ (6 * 0))
    generalize (0xF0 + c.toNat / 0x40000).toUInt8 = first at hfirst ⊢
    generalize (0x80 + c.toNat / 2 ^ (6 * 2) % 0x40).toUInt8 = second at hsecond ⊢
    generalize (0x80 + c.toNat / 2 ^ (6 * 1) % 0x40).toUInt8 = third at hthird ⊢
    generalize (0x80 + c.toNat / 2 ^ (6 * 0) % 0x40).toUInt8 = fourth at hfourth ⊢
    have hwidth : characterWidth first = some 4 := characterWidth_four (by omega) (by omega)
    have hfollow : mayFollow first second = true :=
      mayFollow_of_lt (by omega) (by omega) (by omega) (by omega) (by omega) (by omega)
    have hcontinues := isContinuation_of_lt (b := third) (by omega) (by omega)
    have hcontinuesToo := isContinuation_of_lt (b := fourth) (by omega) (by omega)
    simp only [decodeChar, hwidth, List.cons_append, hfollow, hcontinues, hcontinuesToo,
      Bool.not_true, Bool.false_eq_true, if_false, List.length_cons, List.length_nil,
      Nat.reduceEqDiff]
    rw [hchar (by omega)]

/-! ## The bytes that are read -/

lemma toNat_ofNat {n : Nat} (h : n < 0xD800 ∨ 0xDFFF < n ∧ n < 0x110000) :
    (Char.ofNat n).toNat = n := by
  have hvalid : n.isValidChar := h
  have hchar : Char.ofNat n = Char.ofNatAux n hvalid := dif_pos hvalid
  rw [hchar]
  rfl

lemma toUInt8_eq {n : Nat} {b : UInt8} (h : n = b.toNat) : n.toUInt8 = b := by
  rw [h]
  exact UInt8.ofNat_toNat

section Bytes

variable {c : Char} {first second third fourth : UInt8}

lemma encodeChar_two (hfirst : 0xC2 ≤ first.toNat ∧ first.toNat < 0xE0)
    (hsecond : 0x80 ≤ second.toNat ∧ second.toNat < 0xC0)
    (hc : c.toNat = first.toNat % 0x20 * 0x40 + second.toNat % 0x40) :
    encodeChar c = [first, second] := by
  simp only [encodeChar, Nat.shiftRight_eq_div_pow]
  rw [if_neg (by omega), if_pos (by omega), toUInt8_eq (b := first) (by omega),
    toUInt8_eq (b := second) (by omega)]

lemma encodeChar_three (hfirst : 0xE0 ≤ first.toNat ∧ first.toNat < 0xF0)
    (hsecond : 0x80 ≤ second.toNat ∧ second.toNat < 0xC0)
    (hlong : first.toNat = 0xE0 → 0xA0 ≤ second.toNat)
    (hthird : 0x80 ≤ third.toNat ∧ third.toNat < 0xC0)
    (hc : c.toNat =
      (first.toNat % 0x10 * 0x40 + second.toNat % 0x40) * 0x40 + third.toNat % 0x40) :
    encodeChar c = [first, second, third] := by
  simp only [encodeChar, Nat.shiftRight_eq_div_pow]
  rw [if_neg (by omega), if_neg (by omega), if_pos (by omega),
    toUInt8_eq (b := first) (by omega), toUInt8_eq (b := second) (by omega),
    toUInt8_eq (b := third) (by omega)]

lemma encodeChar_four (hfirst : 0xF0 ≤ first.toNat ∧ first.toNat < 0xF5)
    (hsecond : 0x80 ≤ second.toNat ∧ second.toNat < 0xC0)
    (hlong : first.toNat = 0xF0 → 0x90 ≤ second.toNat)
    (hthird : 0x80 ≤ third.toNat ∧ third.toNat < 0xC0)
    (hfourth : 0x80 ≤ fourth.toNat ∧ fourth.toNat < 0xC0)
    (hc : c.toNat = ((first.toNat % 0x08 * 0x40 + second.toNat % 0x40) * 0x40 +
      third.toNat % 0x40) * 0x40 + fourth.toNat % 0x40) :
    encodeChar c = [first, second, third, fourth] := by
  simp only [encodeChar, Nat.shiftRight_eq_div_pow]
  rw [if_neg (by omega), if_neg (by omega), if_neg (by omega),
    toUInt8_eq (b := first) (by omega), toUInt8_eq (b := second) (by omega),
    toUInt8_eq (b := third) (by omega), toUInt8_eq (b := fourth) (by omega)]

section Reading

variable {rest : List UInt8} {width : Nat}

/-- What is read as a character of one byte. -/
lemma encodeChar_of_one (hwidth : characterWidth first = some 1)
    (h : decodeChar first rest = .ok (c, width)) : encodeChar c = [first] ∧ width = 1 := by
  have hfirst : first.toNat < 0x80 := by
    simpa using bounds_of_characterWidth hwidth
  simp only [decodeChar, hwidth] at h
  obtain ⟨rfl, rfl⟩ := Prod.mk.inj (Except.ok.inj h)
  have hc : (Char.ofNat first.toNat).toNat = first.toNat := toNat_ofNat (by omega)
  refine ⟨?_, rfl⟩
  simp only [encodeChar, hc]
  rw [if_pos hfirst, toUInt8_eq rfl]

/-- What is read as a character of two bytes. -/
lemma encodeChar_of_two (hwidth : characterWidth first = some 2)
    (h : decodeChar first rest = .ok (c, width)) :
    ∃ second more, rest = second :: more ∧ encodeChar c = [first, second] ∧ width = 2 := by
  have hfirst : 0xC2 ≤ first.toNat ∧ first.toNat < 0xE0 := by
    simpa using bounds_of_characterWidth hwidth
  cases rest with
  | nil =>
    simp only [decodeChar, hwidth] at h
    cases h
  | cons second more =>
    simp only [decodeChar, hwidth, if_true] at h
    split at h
    · cases h
    · rename_i hfollows
      obtain ⟨rfl, rfl⟩ := Prod.mk.inj (Except.ok.inj h)
      obtain ⟨hsecond, -⟩ := bounds_of_mayFollow (by simpa using hfollows)
      exact ⟨second, more, rfl, encodeChar_two hfirst hsecond (toNat_ofNat (by omega)), rfl⟩

/-- What is read as a character of three bytes. -/
lemma encodeChar_of_three (hwidth : characterWidth first = some 3)
    (h : decodeChar first rest = .ok (c, width)) :
    ∃ second third more, rest = second :: third :: more ∧
      encodeChar c = [first, second, third] ∧ width = 3 := by
  have hfirst : 0xE0 ≤ first.toNat ∧ first.toNat < 0xF0 := by
    simpa using bounds_of_characterWidth hwidth
  rcases rest with _ | ⟨second, _ | ⟨third, more⟩⟩
  all_goals simp only [decodeChar, hwidth, Nat.reduceEqDiff, if_false, if_true] at h
  · cases h
  · split at h <;> cases h
  · split at h
    · cases h
    · split at h
      · cases h
      · rename_i hfollows hcontinues
        obtain ⟨rfl, rfl⟩ := Prod.mk.inj (Except.ok.inj h)
        obtain ⟨hsecond, hlong, hpair, -⟩ := bounds_of_mayFollow (by simpa using hfollows)
        have hthird := bounds_of_isContinuation (b := third) (by simpa using hcontinues)
        exact ⟨second, third, more, rfl, encodeChar_three hfirst hsecond hlong hthird
          (toNat_ofNat (by omega)), rfl⟩

/-- What is read as a character of four bytes. -/
lemma encodeChar_of_four (hwidth : characterWidth first = some 4)
    (h : decodeChar first rest = .ok (c, width)) :
    ∃ second third fourth more, rest = second :: third :: fourth :: more ∧
      encodeChar c = [first, second, third, fourth] ∧ width = 4 := by
  have hfirst : 0xF0 ≤ first.toNat ∧ first.toNat < 0xF5 := by
    simpa using bounds_of_characterWidth hwidth
  rcases rest with _ | ⟨second, _ | ⟨third, _ | ⟨fourth, more⟩⟩⟩
  all_goals simp only [decodeChar, hwidth, Nat.reduceEqDiff, if_false] at h
  · cases h
  · split at h <;> cases h
  · split at h
    · cases h
    · split at h <;> cases h
  · split at h
    · cases h
    · split at h
      · cases h
      · split at h
        · cases h
        · rename_i hfollows hcontinues hcontinuesToo
          obtain ⟨rfl, rfl⟩ := Prod.mk.inj (Except.ok.inj h)
          obtain ⟨hsecond, -, -, hlong, hlast⟩ := bounds_of_mayFollow (by simpa using hfollows)
          have hthird := bounds_of_isContinuation (b := third) (by simpa using hcontinues)
          have hfourth := bounds_of_isContinuation (b := fourth) (by simpa using hcontinuesToo)
          exact ⟨second, third, fourth, more, rfl, encodeChar_four hfirst hsecond hlong hthird
            hfourth (toNat_ofNat (by omega)), rfl⟩

/-- **What is read as a character starts with the bytes of it.** -/
lemma exists_tail_of_decodeChar (h : decodeChar first rest = .ok (c, width)) :
    ∃ tail more, rest = tail ++ more ∧ encodeChar c = first :: tail ∧ width = tail.length + 1 := by
  cases hwidth : characterWidth first with
  | none =>
    simp only [decodeChar, hwidth] at h
    cases h
  | some w =>
    rcases bounds_of_characterWidth hwidth with ⟨rfl, -⟩ | ⟨rfl, -⟩ | ⟨rfl, -⟩ | ⟨rfl, -⟩
    · obtain ⟨hbytes, rfl⟩ := encodeChar_of_one hwidth h
      exact ⟨[], rest, rfl, hbytes, rfl⟩
    · obtain ⟨second, more, rfl, hbytes, rfl⟩ := encodeChar_of_two hwidth h
      exact ⟨[second], more, rfl, hbytes, rfl⟩
    · obtain ⟨second, third, more, rfl, hbytes, rfl⟩ := encodeChar_of_three hwidth h
      exact ⟨[second, third], more, rfl, hbytes, rfl⟩
    · obtain ⟨second, third, fourth, more, rfl, hbytes, rfl⟩ := encodeChar_of_four hwidth h
      exact ⟨[second, third, fourth], more, rfl, hbytes, rfl⟩

end Reading

end Bytes

/-! ## Whole texts -/

lemma encodeUtf8_cons (c : Char) (cs : List Char) :
    encodeUtf8 (c :: cs) = encodeChar c ++ encodeUtf8 cs := rfl

/-- The bytes that belong to the last character are passed over. -/
lemma decodeFrom_skip (pos : Nat) (done : List Char) (skipped rest : List UInt8) :
    decodeFrom pos skipped.length done (skipped ++ rest) =
      decodeFrom (pos + skipped.length) 0 done rest := by
  induction skipped generalizing pos with
  | nil => rfl
  | cons b skipped ih =>
      rw [List.cons_append, List.length_cons, decodeFrom, ih, Nat.add_assoc, Nat.add_comm 1]

lemma decodeFrom_encodeUtf8 (pos : Nat) (done cs : List Char) :
    decodeFrom pos 0 done (encodeUtf8 cs) = .ok (done.reverse ++ cs) := by
  induction cs generalizing pos done with
  | nil => simp [encodeUtf8, decodeFrom]
  | cons c cs ih =>
      obtain ⟨first, tail, hbytes, hread⟩ := decodeChar_encodeChar c (encodeUtf8 cs)
      have hsplit : encodeUtf8 (c :: cs) = first :: (tail ++ encodeUtf8 cs) := by
        rw [encodeUtf8_cons, hbytes, List.cons_append]
      rw [hsplit, decodeFrom]
      simp only [hread, Nat.add_sub_cancel]
      rw [decodeFrom_skip, ih]
      simp

/-- **The bytes of a text are read as the text.** -/
theorem decodeUtf8_encodeUtf8 (cs : List Char) : decodeUtf8 (encodeUtf8 cs) = .ok cs := by
  rw [decodeUtf8, decodeFrom_encodeUtf8]
  rfl

/-- **What is read are the bytes of the text that it is read as.** -/
lemma encodeUtf8_of_decodeFrom {pos : Nat} {done cs : List Char} {bytes : List UInt8}
    (h : decodeFrom pos 0 done bytes = .ok cs) :
    ∃ read, cs = done.reverse ++ read ∧ bytes = encodeUtf8 read := by
  induction hlength : bytes.length using Nat.strongRecOn generalizing pos done bytes with
  | ind length ih =>
    cases bytes with
    | nil =>
      obtain rfl := Except.ok.inj h
      exact ⟨[], (List.append_nil _).symm, rfl⟩
    | cons first rest =>
      rw [decodeFrom] at h
      cases hread : decodeChar first rest with
      | error wrong =>
        rw [hread] at h
        cases h
      | ok read =>
        obtain ⟨c, width⟩ := read
        obtain ⟨tail, more, rfl, hbytes, rfl⟩ := exists_tail_of_decodeChar hread
        simp only [hread, Nat.add_sub_cancel] at h
        rw [decodeFrom_skip] at h
        have hshorter : more.length < length := by
          rw [← hlength, List.length_cons, List.length_append]
          omega
        obtain ⟨others, rfl, rfl⟩ := ih more.length hshorter h rfl
        refine ⟨c :: others, by simp, ?_⟩
        rw [encodeUtf8_cons, hbytes, List.cons_append]

/-- **Bytes are read as a text if they are its bytes**: every text has one form. -/
theorem decodeUtf8_eq_ok_iff {bytes : List UInt8} {cs : List Char} :
    decodeUtf8 bytes = .ok cs ↔ bytes = encodeUtf8 cs := by
  constructor
  · intro h
    obtain ⟨read, rfl, hbytes⟩ := encodeUtf8_of_decodeFrom h
    exact hbytes
  · rintro rfl
    exact decodeUtf8_encodeUtf8 cs

/-! ## How many bytes there are -/

lemma encodeChar_ne_nil (c : Char) : encodeChar c ≠ [] := by
  obtain ⟨first, tail, hbytes, _⟩ := decodeChar_encodeChar c []
  simp [hbytes]

lemma encodeUtf8_eq_nil_iff {cs : List Char} : encodeUtf8 cs = [] ↔ cs = [] := by
  cases cs with
  | nil => simp [encodeUtf8]
  | cons c cs => simp [encodeUtf8, encodeChar_ne_nil]

lemma length_encodeUtf8_cons (c : Char) (cs : List Char) :
    (encodeUtf8 (c :: cs)).length = (encodeChar c).length + (encodeUtf8 cs).length := by
  rw [encodeUtf8_cons, List.length_append]

/-- **A text of ASCII has as many bytes as characters.** -/
lemma length_encodeUtf8_of_lt {cs : List Char} (h : ∀ c ∈ cs, c.toNat < 0x80) :
    (encodeUtf8 cs).length = cs.length := by
  induction cs with
  | nil => rfl
  | cons c cs ih =>
      rw [List.forall_mem_cons] at h
      have hone : (encodeChar c).length = 1 := by simp [encodeChar, h.1]
      rw [length_encodeUtf8_cons, hone, ih h.2, List.length_cons, Nat.add_comm]

end BoundSql.Text
