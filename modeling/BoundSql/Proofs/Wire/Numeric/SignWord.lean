import BoundSql.Proofs.Wire.Word

/-!
# The sign word

The sign of a payload is a word of sixteen bits, and only a few words have a meaning.  Two of them
are told from all others: that of NaN and that of a negative number.  Any other is taken for the
one of a number that is not negative, those that a server sends for infinities included.

* `signOf`, `withSign` — the sign word of some bytes, and the bytes with another one.
* **`ofBytes?_withSign`** — the payload that is read then has the other sign, and is the same
  otherwise.
* `write_ne_nan` — no number is shown as NaN is.
* **`decode_sign`** — so NaN is read as no number, and all words but two are read alike.
-/

namespace BoundSql.Wire.Numeric

open Decimal Payload

/-! ## Bytes with another sign -/

/-- The sign word of some bytes. -/
def signOf (bytes : List UInt8) : Nat := unsigned (wordAt bytes 2)

/-- **Some bytes with another sign word.** -/
def withSign (word : Nat) (bytes : List UInt8) : List UInt8 :=
  bytes.take 4 ++ bytesOf 2 word ++ bytes.drop 6

section Bytes

variable {bytes : List UInt8} {word : Nat}

lemma length_withSign (h : 6 ≤ bytes.length) (word : Nat) :
    (withSign word bytes).length = bytes.length := by
  simp only [withSign, List.length_append, List.length_take, List.length_drop, length_bytesOf]
  omega

lemma wordAt_withSign (h : 6 ≤ bytes.length) (word i : Nat) :
    wordAt (withSign word bytes) i = if i = 2 then bytesOf 2 word else wordAt bytes i := by
  have hfour : (bytes.take 4).length = 4 := by rw [List.length_take]; omega
  have hsix : (bytes.take 4 ++ bytesOf 2 word).length = 6 := by simp [hfour]
  rw [wordAt, wordAt, withSign]
  rcases Nat.lt_trichotomy i 2 with hi | rfl | hi
  · have htake : (bytes.take 4 ++ (bytesOf 2 word ++ bytes.drop 6)).take (2 * i + 2) =
        bytes.take (2 * i + 2) := by
      rw [List.take_append_of_le_length (by omega), List.take_take, Nat.min_eq_left (by omega)]
    rw [if_neg (by omega), List.append_assoc, List.take_drop, htake, List.take_drop]
  · have hword : (bytes.take 4 ++ (bytesOf 2 word ++ bytes.drop 6)).drop (2 * 2) =
        bytesOf 2 word ++ bytes.drop 6 := List.drop_left' hfour
    rw [if_pos rfl, List.append_assoc, hword]
    exact List.take_left' (length_bytesOf 2 word)
  · obtain ⟨k, hk⟩ := Nat.exists_eq_add_of_le (by omega : 6 ≤ 2 * i)
    rw [if_neg (by omega), hk, ← List.drop_drop, List.drop_left' hsix, List.drop_drop]

lemma word?_withSign (h : 6 ≤ bytes.length) (word i : Nat) :
    word? (withSign word bytes).toArray i =
      if i = 2 then some (bytesOf 2 word) else word? bytes.toArray i := by
  rw [word?_eq, word?_eq, length_withSign h, wordAt_withSign h]
  split_ifs with hlength hi hi
  · rfl
  · rfl
  · omega
  · rfl

/-- **The payload that is read has the other sign**, and is the same otherwise. -/
theorem ofBytes?_withSign {p : Payload} (h : ofBytes? bytes = some p)
    (hsign : p.sign ≠ notANumber) (hword : word < 65536) (hne : word ≠ notANumber) :
    ofBytes? (withSign word bytes) = some { p with sign := word } := by
  obtain ⟨n, h⟩ := ofBytes?_eq_some_iff.mp h
  have hlength : 6 ≤ bytes.length := by
    have hscale := h.scale
    rw [word?_eq] at hscale
    split at hscale
    · omega
    · cases hscale
  have hother (i : Nat) (hi : i ≠ 2) :
      word? (withSign word bytes).toArray i = word? bytes.toArray i := by
    rw [word?_withSign hlength, if_neg hi]
  have hdigits := h.digits
  rw [if_neg hsign] at hdigits
  refine ofBytes?_eq_some_iff.mpr ⟨n, ?_⟩
  constructor
  case count => rw [hother 0 (by decide), h.count]
  case weight => rw [hother 1 (by decide), h.weight]
  case sign => rw [word?_withSign hlength, if_pos rfl, Option.map_some, unsigned_word hword]
  case scale => rw [hother 3 (by decide), h.scale]
  case digits =>
    have hrest (i : Nat) : word? (withSign word bytes).toArray (4 + i) =
        word? bytes.toArray (4 + i) := hother (4 + i) (by omega)
    simp only [hrest]
    rw [if_neg hne, hdigits]

lemma sign_of_ofBytes? {p : Payload} (h : ofBytes? bytes = some p) : p.sign = signOf bytes := by
  obtain ⟨n, h⟩ := ofBytes?_eq_some_iff.mp h
  obtain ⟨word, hword, hsign⟩ := Option.map_eq_some_iff.mp h.sign
  rw [signOf, wordAt_of_word? hword, hsign]

end Bytes

/-! ## What is shown -/

/-- All signs but those of NaN and of a negative number are shown alike. -/
lemma write_with_sign {p : Payload} {word : Nat} (hnan : p.sign ≠ notANumber)
    (hnegative : p.sign ≠ negative) (hne : word ≠ notANumber) (hne' : word ≠ negative) :
    Payload.write { p with sign := word } = p.write := by
  simp only [write, if_neg hnan, if_neg hne, hnegative, hne', false_and]

/-- A number starts with a digit or a minus sign. -/
lemma exists_integer_eq_cons (n : Int) : ∃ c rest, integer n = c :: rest ∧ c ≠ 'N' := by
  rw [integer]
  split
  · exact ⟨'-', _, rfl, by decide⟩
  · obtain ⟨c, rest, hdigits⟩ := List.exists_cons_of_ne_nil (digits_ne_nil n.natAbs)
    refine ⟨c, rest, hdigits, ?_⟩
    rintro rfl
    have hall := allDigits_digits n.natAbs
    rw [hdigits] at hall
    cases hall

lemma exists_writeWhole_eq_cons (weight : Int) (digits : Array Int) :
    ∃ c rest, writeWhole weight digits = c :: rest ∧ c ≠ 'N' := by
  rw [writeWhole]
  split
  · exact ⟨'0', [], rfl, by decide⟩
  · obtain ⟨c, rest, hfirst, hne⟩ := exists_integer_eq_cons (digitAt weight digits weight)
    rw [hfirst]
    exact ⟨c, _, rfl, hne⟩

/-- **No number is shown as NaN is.** -/
lemma write_ne_nan {p : Payload} (h : p.sign ≠ notANumber) : p.write ≠ ['N', 'a', 'N'] := by
  obtain ⟨c, rest, hwhole, hne⟩ := exists_writeWhole_eq_cons p.weight p.digits.toArray
  intro hwrite
  rw [write, if_neg h] at hwrite
  simp only [hwhole] at hwrite
  split at hwrite
  · cases hwrite
  · exact hne (List.cons.inj hwrite).1

/-- **What is read does not tell most signs apart.**  NaN is read of the sign word of NaN and of no
other; and a word that is neither this one nor that of a negative number may be replaced with any
other such word. -/
theorem decode_sign {bytes : List UInt8} {text : List Char} (h : decode bytes = some text) :
    (text = ['N', 'a', 'N'] ↔ signOf bytes = notANumber) ∧
      (signOf bytes ≠ notANumber → signOf bytes ≠ negative → ∀ word < 65536,
        word ≠ notANumber → word ≠ negative → decode (withSign word bytes) = some text) := by
  obtain ⟨p, hread, rfl⟩ := Option.map_eq_some_iff.mp h
  rw [← sign_of_ofBytes? hread]
  constructor
  · constructor
    · intro htext
      by_contra hsign
      exact write_ne_nan hsign htext
    · intro hsign
      rw [write, if_pos hsign]
  · intro hnan hnegative word hword hne hne'
    rw [decode, ofBytes?_withSign hread hnan hword hne, Option.map_some,
      write_with_sign hnan hnegative hne hne']

lemma decode_infinity : decode [0, 0, 0, 0, 0xD0, 0, 0, 0] = some ['0'] := by
  decide +kernel

/-- An infinity is read as zero is. -/
theorem decode_sign_infinity :
    decode [0, 0, 0, 0, 0xD0, 0, 0, 0] = some ['0'] ∧
      decode (withSign positive [0, 0, 0, 0, 0xD0, 0, 0, 0]) = some ['0'] := by
  obtain ⟨-, hsame⟩ := decode_sign decode_infinity
  exact ⟨decode_infinity,
    hsame (by decide) (by decide) positive (by decide) (by decide) (by decide)⟩

/-- So a number is read although the word is not the sign of any. -/
theorem not_forall_signOf :
    ¬ ∀ bytes text, decode bytes = some text → text ≠ ['N', 'a', 'N'] →
      signOf bytes = positive ∨ signOf bytes = negative := by
  intro h
  have hsign := h _ _ decode_infinity (by decide)
  exact absurd hsign (by decide)

end BoundSql.Wire.Numeric
