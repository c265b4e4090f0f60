import BoundSql.Proofs.Decimal.FixedWidth
import BoundSql.Proofs.Text.Utf8
import BoundSql.Proofs.Wire.Numeric.SignWord
import BoundSql.Wire.Numeric.Checked

/-!
# Reading stays within bounds

Any bytes may be received.  The number of digits and the weight may be negative, the scale may be
far from the number of digits, and a word that stands for a digit may be none.  Reading refuses
bytes that end too early, and no others; and each of its steps can be taken, whatever the words are.

* **`Checked.firstBytes_eq_ok_iff`** — where a text can be cut.
* `four_mul_length_le` — a digit of any size takes at least four characters, all of them ASCII, so
  that the text behind the point is long enough to be cut.
* **`Checked.write_eq`** — of a payload that fits every step can be taken, and its text is the one
  that it is shown as.
* `EndsEarly` — bytes that end before the header does, or before the digits that it tells of.
* **`ofBytes?_eq`** — any other bytes are read as a payload, and `fits_payloadOf` says that it fits.
* **`decode_within_bounds`** — so reading ends with a text, or by refusing such bytes.
-/

namespace BoundSql.Wire.Numeric

open Decimal Text Payload

/-! ## Cutting a text -/

namespace Checked

/-- **A text is cut between two of its characters or at one of its ends**, and nowhere else. -/
theorem firstBytes_eq_ok_iff {n : Nat} {cs front : List Char} :
    firstBytes n cs = .ok front ↔ front <+: cs ∧ (encodeUtf8 front).length = n := by
  induction n, cs using firstBytes.induct generalizing front with
  | case1 cs =>
      rw [firstBytes, Except.ok.injEq, List.length_eq_zero_iff, encodeUtf8_eq_nil_iff, eq_comm]
      exact ⟨fun h => ⟨h ▸ List.nil_prefix, h⟩, fun h => h.2⟩
  | case2 n =>
      rw [firstBytes, List.prefix_nil]
      constructor
      · exact nofun
      · rintro ⟨rfl, hlength⟩
        cases hlength
  | case3 n c rest hlong =>
      -- the cut would be inside the first character
      rw [firstBytes, if_pos hlong]
      constructor
      · exact nofun
      · rintro ⟨hfront, hlength⟩
        rcases List.prefix_cons_iff.mp hfront with rfl | ⟨others, rfl, -⟩
        · cases hlength
        · rw [length_encodeUtf8_cons] at hlength
          omega
  | case4 n c rest hshort ih =>
      have hpositive := List.length_pos_iff.mpr (encodeChar_ne_nil c)
      rw [firstBytes, if_neg hshort]
      constructor
      · intro h
        cases hrest : firstBytes (n + 1 - (encodeChar c).length) rest with
        | error stop =>
            rw [hrest] at h
            cases h
        | ok others =>
            rw [hrest] at h
            obtain rfl := Except.ok.inj h
            obtain ⟨hothers, hlength⟩ := ih.mp hrest
            rw [length_encodeUtf8_cons]
            exact ⟨(List.prefix_cons_inj c).mpr hothers, by omega⟩
      · rintro ⟨hfront, hlength⟩
        rcases List.prefix_cons_iff.mp hfront with rfl | ⟨others, rfl, hothers⟩
        · cases hlength
        · rw [length_encodeUtf8_cons] at hlength
          rw [ih.mpr ⟨hothers, by omega⟩]
          rfl

/-- The one character here has two bytes. -/
example : firstBytes 1 ['é'] = .error .outOfBounds := by decide

/-- A text of ASCII is cut anywhere up to its end. -/
lemma firstBytes_of_lt {n : Nat} {cs : List Char} (hascii : ∀ c ∈ cs, c.toNat < 0x80)
    (h : n ≤ cs.length) : firstBytes n cs = pure (cs.take n) := by
  refine firstBytes_eq_ok_iff.mpr ⟨List.take_prefix n cs, ?_⟩
  rw [length_encodeUtf8_of_lt fun c hc => hascii c (List.mem_of_mem_take hc), List.length_take,
    Nat.min_eq_left h]

end Checked

/-! ## Digits of any size -/

lemma four_le_length_writeDigit (n : Int) : 4 ≤ (writeDigit n).length := by
  rw [writeDigit]
  split
  · exact Nat.succ_le_succ (le_length_padded 3 n.natAbs)
  · exact le_length_padded 4 n.natAbs

lemma toNat_lt_of_mem_writeDigit {n : Int} {c : Char} (h : c ∈ writeDigit n) :
    c.toNat < 0x80 := by
  have hpadded {width : Nat} (hc : c ∈ padded width n.natAbs) : c.toNat < 0x80 := by
    have hdigit := isDigit_iff.mp (allDigits_iff.mp (allDigits_padded width n.natAbs) c hc)
    omega
  rw [writeDigit] at h
  split at h
  · rcases List.mem_cons.mp h with rfl | h
    · decide
    · exact hpadded h
  · exact hpadded h

/-- **A digit takes at least four characters**, also one that is negative or above 9999. -/
lemma four_mul_length_le (gs : List Int) : 4 * gs.length ≤ (gs.flatMap writeDigit).length := by
  induction gs with
  | nil => simp
  | cons g rest ih =>
      have hg := four_le_length_writeDigit g
      rw [List.flatMap_cons, List.length_append, List.length_cons]
      omega

/-! ## Steps that can be taken -/

namespace Checked

section Steps

variable {weight : Int} {digits : Array Int}

lemma difference_eq {a b : Int} (h : -2147483648 ≤ a - b ∧ a - b ≤ 2147483647) :
    difference a b = pure (a - b) := if_pos h

/-- An exponent that is not too far from the weight has a digit, held or not. -/
lemma digitAt_eq {exponent : Int}
    (h : -2147483648 ≤ weight - exponent ∧ weight - exponent ≤ 2147483647) :
    digitAt weight digits exponent = pure (Payload.digitAt weight digits exponent) := by
  rw [digitAt, difference_eq h, pure_bind, Payload.digitAt]
  by_cases hheld : exponent ≤ weight
  · rw [if_pos hheld, if_neg (by omega)]
  · rw [if_neg hheld, if_pos (by omega)]

lemma writeWhole_eq (h : -32768 ≤ weight ∧ weight ≤ 32767) :
    writeWhole weight digits = pure (Payload.writeWhole weight digits) := by
  rw [writeWhole, Payload.writeWhole]
  split
  · rfl
  · rename_i hweight
    have hothers : ∀ i ∈ List.range weight.toNat, digitAt weight digits (weight - 1 - i) =
        pure (Payload.digitAt weight digits (weight - 1 - i)) := by
      intro i hi
      have hlt := List.mem_range.mp hi
      exact digitAt_eq (by omega)
    rw [digitAt_eq (by omega), pure_bind, mapM_eq_pure_map hothers, pure_bind, List.flatMap_map]

lemma writeFraction_eq (h : -32768 ≤ weight ∧ weight ≤ 32767) {scale : Nat}
    (hscale : scale < 65536) :
    writeFraction weight digits scale = pure (Payload.writeFraction weight digits scale) := by
  have hgroups : ∀ i ∈ List.range ((scale + 3) / 4),
      (do let exponent ← difference 0 (i + 1); digitAt weight digits exponent) =
        pure (Payload.digitAt weight digits (-1 - i)) := by
    intro i hi
    have hlt := List.mem_range.mp hi
    have hexponent : 0 - (i + 1 : Int) = -1 - i := by omega
    rw [difference_eq (by omega), pure_bind, hexponent, digitAt_eq (by omega)]
  -- the groups are at least as long as the scale, which is what the cut needs
  have hlength := four_mul_length_le ((List.range ((scale + 3) / 4)).map fun i : Nat =>
    Payload.digitAt weight digits (-1 - i))
  rw [List.length_map, List.length_range] at hlength
  have hascii : ∀ c ∈ ((List.range ((scale + 3) / 4)).map fun i : Nat =>
      Payload.digitAt weight digits (-1 - i)).flatMap writeDigit, c.toNat < 0x80 := by
    intro c hc
    obtain ⟨g, -, hc⟩ := List.mem_flatMap.mp hc
    exact toNat_lt_of_mem_writeDigit hc
  rw [writeFraction, mapM_eq_pure_map hgroups, pure_bind, firstBytes_of_lt hascii (by omega),
    Payload.writeFraction, List.flatMap_map]

/-- **Every step can be taken of a payload that fits**, and its text is the one it is shown as. -/
theorem write_eq {p : Payload} (h : p.Fits) : write p = pure p.write := by
  rw [write, Payload.write]
  split
  · rfl
  · have hfraction : writeFraction p.weight p.digits.toArray p.scale =
        pure (Payload.writeFraction p.weight p.digits.toArray p.scale) :=
      writeFraction_eq h.weight h.scale
    simp only [writeWhole_eq h.weight, hfraction, pure_bind]
    split
    · rfl
    · rfl

/-- A weight that has no room in a word may be too far from an exponent. -/
example : write ⟨-2147483650, positive, 1, []⟩ = .error .overflow := by decide

end Steps

end Checked

/-! ## Bytes that end too early -/

/-- How many digits some bytes tell of. -/
def countOf (bytes : List UInt8) : Int := signed (wordAt bytes 0)

/-- **Bytes end too early**: before the header does, or before the digits that it tells of.  NaN has
no digits, and a negative number of digits is none. -/
def EndsEarly (bytes : List UInt8) : Prop :=
  bytes.length < 8 ∨
    signOf bytes ≠ notANumber ∧ (bytes.length : Int) < 8 + 2 * max (countOf bytes) 0

instance (bytes : List UInt8) : Decidable (EndsEarly bytes) :=
  inferInstanceAs (Decidable (_ ∨ _))

/-- The payload of some bytes, word by word. -/
def payloadOf (bytes : List UInt8) : Payload where
  weight := signed (wordAt bytes 1)
  sign := signOf bytes
  scale := unsigned (wordAt bytes 3)
  digits := if signOf bytes = notANumber then [] else
    (List.range (countOf bytes).toNat).map fun i => signed (wordAt bytes (4 + i))

section Reading

variable {bytes : List UInt8}

/-- What is read is there as a whole. -/
lemma Payload.Reads.not_endsEarly {n : Int} {p : Payload} (h : Reads bytes n p) :
    ¬ EndsEarly bytes := by
  obtain ⟨hheader, -⟩ := map_word?_eq_some_iff.mp h.scale
  obtain ⟨-, hcount⟩ := map_word?_eq_some_iff.mp h.count
  obtain ⟨-, hsign⟩ := map_word?_eq_some_iff.mp h.sign
  rintro (hshort | ⟨hnan, hshort⟩)
  · omega
  · have hdigits := h.digits
    rw [if_neg (by rw [← hsign]; exact hnan), mapM_eq_some_iff] at hdigits
    simp only [map_word?_eq_some_iff, List.forall₂_and_left, List.mem_range] at hdigits
    rw [countOf, hcount] at hshort
    by_cases hpositive : 0 < n
    · have hlast := hdigits.1 (n.toNat - 1) (by omega)
      omega
    · omega

lemma reads_payloadOf (h : ¬ EndsEarly bytes) : Reads bytes (countOf bytes) (payloadOf bytes) := by
  rw [EndsEarly, not_or, not_and] at h
  obtain ⟨hheader, hdigits⟩ := h
  constructor
  case count => exact map_word?_eq_some_iff.mpr ⟨by omega, rfl⟩
  case weight => exact map_word?_eq_some_iff.mpr ⟨by omega, rfl⟩
  case sign => exact map_word?_eq_some_iff.mpr ⟨by omega, rfl⟩
  case scale => exact map_word?_eq_some_iff.mpr ⟨by omega, rfl⟩
  case digits =>
    rw [payloadOf]
    split
    · rfl
    · rename_i hnan
      have hlength := hdigits hnan
      refine mapM_eq_pure_map fun i hi => ?_
      have hlt := List.mem_range.mp hi
      exact map_word?_eq_some_iff.mpr ⟨by omega, rfl⟩

/-- **All bytes are read but those that end too early.** -/
theorem ofBytes?_eq (bytes : List UInt8) :
    ofBytes? bytes = if EndsEarly bytes then none else some (payloadOf bytes) := by
  split
  · rename_i hearly
    rw [Option.eq_none_iff_forall_ne_some]
    intro p hp
    obtain ⟨n, hreads⟩ := ofBytes?_eq_some_iff.mp hp
    exact hreads.not_endsEarly hearly
  · rename_i hearly
    exact ofBytes?_eq_some_iff.mpr ⟨countOf bytes, reads_payloadOf hearly⟩

/-- **What is read fits**, since each part of it is a word. -/
lemma fits_payloadOf (h : ¬ EndsEarly bytes) : (payloadOf bytes).Fits := by
  rw [EndsEarly, not_or, not_and] at h
  obtain ⟨hheader, hlength⟩ := h
  have hcount := signed_wordAt_bounds (by omega : 2 * 0 + 1 < bytes.length)
  rw [← countOf] at hcount
  constructor
  case length =>
    rw [payloadOf]
    split
    · exact Nat.zero_le _
    · rw [List.length_map, List.length_range]
      omega
  case weight => exact signed_wordAt_bounds (by omega)
  case sign => exact unsigned_wordAt_lt (by omega)
  case scale => exact unsigned_wordAt_lt (by omega)
  case digits =>
    intro d hd
    rw [payloadOf] at hd
    split at hd
    · cases hd
    · rename_i hnan
      have hbytes := hlength hnan
      obtain ⟨i, hi, rfl⟩ := List.mem_map.mp hd
      have hlt := List.mem_range.mp hi
      exact signed_wordAt_bounds (by omega)

/-- **Reading ends with a text, or by refusing bytes that end too early.**  These are refused, and
no others are; the text is the one that is read if nothing is checked; and every step on the way to
it can be taken, whatever the bytes are. -/
theorem decode_within_bounds (bytes : List UInt8) :
    (decode bytes = none ↔ EndsEarly bytes) ∧
      (∀ stop, Checked.decode bytes = .error stop ↔ stop = .truncated ∧ EndsEarly bytes) ∧
      ∀ text, Checked.decode bytes = .ok text ↔ decode bytes = some text := by
  rw [Checked.decode, decode, ofBytes?_eq]
  by_cases hearly : EndsEarly bytes
  · simp [hearly, eq_comm]
  · have hwrite := Checked.write_eq (fits_payloadOf hearly)
    simp [hearly, hwrite, pure, Except.pure]

/-- A digit that is negative takes four characters with its sign, of which three are left. -/
example : Checked.decode [0, 1, 255, 255, 0, 0, 0, 3, 255, 255] = .ok "0.-00".toList := by
  decide +kernel

end Reading

end BoundSql.Wire.Numeric
