import BoundSql.Proofs.Json.Reading
import BoundSql.Uuid
import BoundSql.Wire.BigEndian

/-!
# Identifiers as bytes and as text

An identifier is had back from its sixteen bytes and from its text.

* `bytes_eq_bytesOf` — its bytes are those of its number, so `ofBytes?_bytes` rests on
  `Wire.unsigned_bytesOf`.
* `foldl_halves` — a number in base 256 is the same number in base 16, each digit in two halves.
* `ofHyphenated?_hyphenated` — the hyphens are put in where they are looked for.
* **`ofText?_write`** — the text of an identifier is read as the identifier.
-/

namespace BoundSql.Uuid

open Text Json

/-! ## Bytes -/

lemma map_shiftRight_eq_bytesOf (width n : Nat) :
    (List.range width).map (fun i => (n >>> (8 * (width - 1 - i)) % 256).toUInt8) =
      Wire.bytesOf width n := by
  induction width generalizing n with
  | zero => rfl
  | succ width ih =>
      rw [List.range_succ, List.map_append, Wire.bytesOf, ← ih]
      congr 1
      · apply List.map_congr_left
        intro i hi
        have hlt : i < width := List.mem_range.mp hi
        have hshift : 8 * (width + 1 - 1 - i) = 8 + 8 * (width - 1 - i) := by omega
        rw [hshift, Nat.shiftRight_add, Nat.shiftRight_eq_div_pow n 8]
      · simp

lemma bytes_eq_bytesOf (u : Uuid) : u.bytes = Wire.bytesOf 16 u.number.toNat :=
  map_shiftRight_eq_bytesOf 16 u.number.toNat

@[simp] lemma length_bytes (u : Uuid) : u.bytes.length = 16 := by
  rw [bytes_eq_bytesOf, Wire.length_bytesOf]

/-- The bytes of an identifier denote its number. -/
lemma unsigned_bytes (u : Uuid) : Wire.unsigned u.bytes = u.number.toNat := by
  have hcapacity : Wire.capacity 16 = 2 ^ 128 := by decide
  rw [bytes_eq_bytesOf, Wire.unsigned_bytesOf, hcapacity, Nat.mod_eq_of_lt u.number.isLt]

/-- **The bytes of an identifier are read as the identifier.** -/
theorem ofBytes?_bytes (u : Uuid) : ofBytes? u.bytes = some u := by
  have hnumber := unsigned_bytes u
  rw [Wire.unsigned] at hnumber
  rw [ofBytes?, if_pos (length_bytes u), hnumber, BitVec.ofNat_toNat, BitVec.setWidth_eq]

/-! ## Text -/

/-- Two digits for each byte. -/
lemma length_hexText (u : Uuid) : u.hexText.length = 32 := by
  have hpair : (fun b : UInt8 => [hexDigit (b.toNat / 16), hexDigit (b.toNat % 16)].length) =
      fun _ => 2 := rfl
  rw [hexText, List.length_flatMap, hpair, List.map_const', length_bytes]
  rfl

lemma foldl_halves (bs : List UInt8) (acc : Nat) :
    (bs.flatMap fun b => [b.toNat / 16, b.toNat % 16]).foldl (fun acc d => acc * 16 + d) acc =
      bs.foldl (fun acc b => acc * 256 + b.toNat) acc := by
  induction bs generalizing acc with
  | nil => rfl
  | cons b bs ih =>
      have hbyte : (acc * 16 + b.toNat / 16) * 16 + b.toNat % 16 = acc * 256 + b.toNat := by omega
      simp only [List.flatMap_cons, List.cons_append, List.nil_append, List.foldl_cons, hbyte, ih]

lemma mapM_hexValue? (bs : List UInt8) :
    (bs.flatMap fun b => [hexDigit (b.toNat / 16), hexDigit (b.toNat % 16)]).mapM hexValue? =
      some (bs.flatMap fun b => [b.toNat / 16, b.toNat % 16]) := by
  induction bs with
  | nil => rfl
  | cons b bs ih =>
      have hb : b.toNat < 256 := b.toNat_lt
      simp only [List.flatMap_cons, List.cons_append, List.nil_append, List.mapM_cons, ih,
        hexValue?_hexDigit (show b.toNat / 16 < 16 by omega),
        hexValue?_hexDigit (show b.toNat % 16 < 16 by omega)]
      rfl

/-- **The digits of an identifier are read as the identifier.** -/
lemma ofHex?_hexText (u : Uuid) : ofHex? u.hexText = some u := by
  have hnumber := unsigned_bytes u
  rw [Wire.unsigned, ← foldl_halves] at hnumber
  rw [ofHex?, if_pos (length_hexText u), hexText, mapM_hexValue?, Option.map_some, hnumber,
    BitVec.ofNat_toNat, BitVec.setWidth_eq]

/-- **Hyphens are put in where they are looked for**, between digits of the five lengths. -/
lemma ofHyphenated?_append {a b c d e : List Char} (ha : a.length = 8) (hb : b.length = 4)
    (hc : c.length = 4) (hd : d.length = 4) (he : e.length = 12) :
    ofHyphenated? (a ++ '-' :: (b ++ '-' :: (c ++ '-' :: (d ++ '-' :: e)))) =
      ofHex? (a ++ b ++ c ++ d ++ e) := by
  simp [ofHyphenated?, List.drop_append, List.drop_of_length_le, ha, hb, hc, hd, he]

/-- **The text of an identifier is read as the identifier.** -/
theorem ofText?_write (u : Uuid) : ofText? u.write = some u := by
  have hlength := length_hexText u
  have hjoined : u.hexText.take 8 ++ (u.hexText.drop 8).take 4 ++ (u.hexText.drop 12).take 4 ++
      (u.hexText.drop 16).take 4 ++ u.hexText.drop 20 = u.hexText := by
    have hgroup (k : Nat) :
        (u.hexText.drop k).take 4 ++ u.hexText.drop (k + 4) = u.hexText.drop k := by
      rw [← List.drop_drop, List.take_append_drop]
    simp only [List.append_assoc, hgroup 16, hgroup 12, hgroup 8, List.take_append_drop]
  have hread : ofHyphenated? u.write = ofHex? _ :=
    ofHyphenated?_append (by simp [hlength]) (by simp [hlength]) (by simp [hlength])
      (by simp [hlength]) (by simp [hlength])
  have hwritten : u.write.length = 36 := by simp [write, hlength]
  rw [ofText?, hwritten]
  simp only [hread, hjoined, ofHex?_hexText]

end BoundSql.Uuid
