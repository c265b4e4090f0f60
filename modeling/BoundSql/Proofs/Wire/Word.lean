import BoundSql.Wire.Numeric
import Mathlib.Data.List.Basic
import Mathlib.Data.List.Forall2
import Mathlib.Data.List.Induction
import Mathlib.Tactic.Lemma

/-!
# Payloads as words

The payload of a number is a list of words of two bytes each.

* `bytesOf_unsigned`, `signedBytesOf_signed` — bytes are what the number they denote is sent as.
* `signed_of_lt`, `unsigned_bytesOf_of_lt` — a number that fits is had back from its bytes.
* `word?_flatten` — reading the words of bytes that were put together from words.
* `Payload.Fits` — that every part of a payload has room in its word.
* **`Payload.ofBytes?_bytes`** — a payload that fits is read as it was written.
* **`ofBytes?_eq_some_iff`** — what is read of bytes, word by word (`Reads`).
* `ofBytes?_append` — what follows a payload does not count.
* `map_word?_eq_some_iff`, `signed_wordAt_bounds` — which words are there, and what they may denote.
* `Holds` — which payload some bytes hold, word by word; those of a payload that fits hold it
  (`Fits.holds_bytes`).
* **`Holds.bytes_eq`**, **`Holds.unique`** — no other bytes hold it, and they hold no other.
-/

namespace BoundSql.Wire

/-! ## Numbers and their bytes -/

lemma unsigned_lt (bytes : List UInt8) : unsigned bytes < capacity bytes.length := by
  induction bytes using List.reverseRecOn with
  | nil => decide
  | append_singleton bytes b ih =>
      have hb : b.toNat < 256 := b.toNat_lt
      rw [unsigned_append_singleton, List.length_append, List.length_singleton, capacity]
      omega

/-- **Bytes are what the number they denote is sent as.** -/
lemma bytesOf_unsigned (bytes : List UInt8) : bytesOf bytes.length (unsigned bytes) = bytes := by
  induction bytes using List.reverseRecOn with
  | nil => rfl
  | append_singleton bytes b ih =>
      have hb : b.toNat < 256 := b.toNat_lt
      have hdiv : (unsigned bytes * 256 + b.toNat) / 256 = unsigned bytes := by omega
      have hmod : (unsigned bytes * 256 + b.toNat) % 256 = b.toNat := by omega
      rw [unsigned_append_singleton, List.length_append, List.length_singleton, bytesOf, hdiv, hmod,
        ih]
      simp

lemma signedBytesOf_signed (bytes : List UInt8) :
    signedBytesOf bytes.length (signed bytes) = bytes := by
  have hlt := unsigned_lt bytes
  have hmod : (signed bytes % capacity bytes.length).toNat = unsigned bytes := by
    rw [signed]
    split
    · rw [Int.emod_eq_of_lt (by omega) (by omega)]
      omega
    · rw [Int.sub_emod_right, Int.emod_eq_of_lt (by omega) (by omega)]
      omega
  rw [signedBytesOf, hmod, bytesOf_unsigned]

lemma signed_bounds (bytes : List UInt8) :
    -(capacity bytes.length : Int) ≤ 2 * signed bytes ∧
      2 * signed bytes < capacity bytes.length := by
  have hlt := unsigned_lt bytes
  rw [signed]
  split
  · omega
  · omega

/-- The bound of the integers of a width. -/
def halfCapacity (width : Nat) : Int := (128 * capacity (width - 1) : Nat)

lemma capacity_eq {width : Nat} (h : 0 < width) :
    (capacity width : Int) = 2 * halfCapacity width := by
  obtain ⟨w, rfl⟩ := Nat.exists_eq_add_of_lt h
  simp only [halfCapacity, Nat.zero_add, capacity, Nat.add_sub_cancel]
  omega

lemma signed_of_lt {width : Nat} {n : Int} (hwidth : 0 < width)
    (h : -halfCapacity width ≤ n ∧ n < halfCapacity width) :
    signed (signedBytesOf width n) = n :=
  signed_signedBytesOf hwidth (by rw [capacity_eq hwidth]; omega)

/-- A number is had back from its bytes, provided it fits. -/
lemma unsigned_bytesOf_of_lt {width n : Nat} (h : n < capacity width) :
    unsigned (bytesOf width n) = n := by
  rw [unsigned_bytesOf, Nat.mod_eq_of_lt h]

namespace Numeric.Payload

/-! ## Words put together -/

/-- **Words are read as they were put together.** -/
lemma word?_flatten {words : List (List UInt8)} (h : ∀ word ∈ words, word.length = 2) (i : Nat) :
    word? words.flatten.toArray i = words[i]? := by
  induction words generalizing i with
  | nil => simp [word?]
  | cons word rest ih =>
      have hword := h word List.mem_cons_self
      obtain ⟨high, low, rfl⟩ := List.length_eq_two.mp hword
      cases i with
      | zero => simp [word?]
      | succ i =>
          have hrest := ih (fun w hw => h w (List.mem_cons_of_mem _ hw)) i
          have hindex : 2 * (i + 1) = 2 * i + 1 + 1 := by omega
          rw [List.getElem?_cons_succ, ← hrest, word?, word?, hindex]
          simp

/-- The words of a payload: the header, and the digits. -/
def words (p : Payload) : List (List UInt8) :=
  [signedBytesOf 2 p.digits.length, signedBytesOf 2 p.weight, bytesOf 2 p.sign,
    bytesOf 2 p.scale] ++ p.digits.map (signedBytesOf 2)

lemma bytes_eq_flatten (p : Payload) : p.bytes = p.words.flatten := by
  rw [bytes, words, List.flatten_append, List.flatMap_def]
  simp

lemma length_of_mem_words {p : Payload} {word : List UInt8} (h : word ∈ p.words) :
    word.length = 2 := by
  rw [words, List.mem_append, List.mem_map] at h
  rcases h with h | ⟨d, -, rfl⟩
  · simp only [List.mem_cons, List.not_mem_nil, or_false] at h
    rcases h with rfl | rfl | rfl | rfl <;> simp
  · simp

/-- **A payload fits**: each of its parts has room in a word. -/
structure Fits (p : Payload) : Prop where
  length : p.digits.length ≤ 32767
  weight : -32768 ≤ p.weight ∧ p.weight ≤ 32767
  sign : p.sign < 65536
  scale : p.scale < 65536
  digits : ∀ d ∈ p.digits, -32768 ≤ d ∧ d ≤ 32767

lemma signed_word {n : Int} (h : -32768 ≤ n ∧ n ≤ 32767) : signed (signedBytesOf 2 n) = n := by
  have hcapacity : (capacity 2 : Int) = 65536 := rfl
  exact signed_signedBytesOf (by decide) (by omega)

lemma unsigned_word {n : Nat} (h : n < 65536) : unsigned (bytesOf 2 n) = n :=
  unsigned_bytesOf_of_lt h

/-- What every member gives is collected. -/
lemma mapM_eq_pure_map {m : Type → Type} [Monad m] [LawfulMonad m] {α β : Type} {f : α → m β}
    {g : α → β} {xs : List α} (h : ∀ x ∈ xs, f x = pure (g x)) :
    xs.mapM f = pure (xs.map g) := by
  induction xs with
  | nil => simp
  | cons x rest ih =>
      rw [List.forall_mem_cons] at h
      simp [h.1, ih h.2]

/-- Something is collected only if every member gives something. -/
lemma mapM_eq_some_iff {α β : Type} {f : α → Option β} {xs : List α} {ys : List β} :
    xs.mapM f = some ys ↔ List.Forall₂ (fun x y => f x = some y) xs ys := by
  induction xs generalizing ys with
  | nil => simp [eq_comm]
  | cons x rest ih =>
      simp only [List.mapM_cons, Option.bind_eq_bind, Option.bind_eq_some_iff, ih, Option.pure_def,
        Option.some.injEq, List.forall₂_cons_left_iff]
      constructor
      · rintro ⟨y, hy, others, hothers, rfl⟩
        exact ⟨y, others, hy, hothers, rfl⟩
      · rintro ⟨y, others, hy, hothers, rfl⟩
        exact ⟨y, hy, others, hothers, rfl⟩

lemma word?_bytes (p : Payload) (i : Nat) : word? p.bytes.toArray i = p.words[i]? := by
  rw [bytes_eq_flatten]
  exact word?_flatten (fun _ => length_of_mem_words) i

lemma word?_bytes_header (p : Payload) :
    word? p.bytes.toArray 0 = some (signedBytesOf 2 p.digits.length) ∧
      word? p.bytes.toArray 1 = some (signedBytesOf 2 p.weight) ∧
      word? p.bytes.toArray 2 = some (bytesOf 2 p.sign) ∧
      word? p.bytes.toArray 3 = some (bytesOf 2 p.scale) := by
  simp [word?_bytes, words]

lemma word?_bytes_digit (p : Payload) {i : Nat} (h : i < p.digits.length) :
    word? p.bytes.toArray (4 + i) = some (signedBytesOf 2 p.digits[i]) := by
  rw [word?_bytes, words, List.getElem?_append_right (by simp)]
  simp [h]

/-- **A payload that fits is read as it was written**, unless digits are lost on NaN. -/
theorem ofBytes?_bytes {p : Payload} (h : p.Fits) (hnan : p.sign = notANumber → p.digits = []) :
    ofBytes? p.bytes = some p := by
  have hcount : signed (signedBytesOf 2 p.digits.length) = p.digits.length :=
    signed_word (by have := h.length; omega)
  have hdigits : (List.range p.digits.length).mapM
      (fun i => (word? p.bytes.toArray (4 + i)).map signed) = some p.digits := by
    have hdigit : ∀ i ∈ List.range p.digits.length,
        (word? p.bytes.toArray (4 + i)).map signed = some (p.digits.getD i 0) := by
      intro i hi
      have hlt : i < p.digits.length := List.mem_range.mp hi
      have hbounds := h.digits _ (List.getElem_mem hlt)
      rw [word?_bytes_digit p hlt]
      simp [hlt, signed_word hbounds]
    rw [mapM_eq_pure_map hdigit]
    refine congrArg some (List.ext_getElem (by simp) ?_)
    intro i h₁ h₂
    simp [h₂]
  obtain ⟨hzero, hone, htwo, hthree⟩ := word?_bytes_header p
  rw [ofBytes?]
  simp only [hzero, hone, htwo, hthree, Option.bind_eq_bind, Option.bind_some, hcount,
    signed_word h.weight, unsigned_word h.sign, unsigned_word h.scale, Int.toNat_natCast, hdigits]
  split
  · rename_i hsign
    rw [← hnan hsign]
    rfl
  · rfl

/-- **A payload is read as some payload**, even if its weight has no room in a word. -/
lemma exists_ofBytes?_bytes {p : Payload} (h : p.digits.length ≤ 32767) :
    ∃ q, ofBytes? p.bytes = some q := by
  have hcount : signed (signedBytesOf 2 p.digits.length) = p.digits.length :=
    signed_word (by omega)
  have hdigit (i : Nat) (hi : i ∈ List.range p.digits.length) :
      (word? p.bytes.toArray (4 + i)).map signed =
        some (signed (signedBytesOf 2 (p.digits.getD i 0))) := by
    have hlt : i < p.digits.length := List.mem_range.mp hi
    rw [word?_bytes_digit p hlt]
    simp [hlt]
  obtain ⟨hzero, hone, htwo, hthree⟩ := word?_bytes_header p
  rw [ofBytes?]
  simp only [hzero, hone, htwo, hthree, Option.bind_eq_bind, Option.bind_some, hcount,
    Int.toNat_natCast, mapM_eq_pure_map hdigit]
  split
  · exact ⟨_, rfl⟩
  · exact ⟨_, rfl⟩

/-! ## What is read of some bytes -/

/-- **A payload as it is read**, from bytes that say that there are `n` digits.  NaN has none. -/
structure Reads (bytes : List UInt8) (n : Int) (p : Payload) : Prop where
  count : (word? bytes.toArray 0).map signed = some n
  weight : (word? bytes.toArray 1).map signed = some p.weight
  sign : (word? bytes.toArray 2).map unsigned = some p.sign
  scale : (word? bytes.toArray 3).map unsigned = some p.scale
  digits : if p.sign = notANumber then p.digits = [] else
    (List.range n.toNat).mapM (fun i => (word? bytes.toArray (4 + i)).map signed) = some p.digits

/-- **What is read is told by the words**, one for each part of the header and one for each
digit. -/
theorem ofBytes?_eq_some_iff {bytes : List UInt8} {p : Payload} :
    ofBytes? bytes = some p ↔ ∃ n, Reads bytes n p := by
  simp only [ofBytes?, Option.bind_eq_bind, Option.bind_eq_some_iff]
  constructor
  · rintro ⟨count, hcount, weight, hweight, sign, hsign, scale, hscale, h⟩
    split at h
    · rename_i hnan
      obtain rfl := Option.some.inj h
      exact ⟨signed count, by simp [hcount], by simp [hweight], by simp [hsign], by simp [hscale],
        by simp [hnan]⟩
    · rename_i hnan
      obtain ⟨digits, hdigits, h⟩ := Option.bind_eq_some_iff.mp h
      obtain rfl := Option.some.inj h
      exact ⟨signed count, by simp [hcount], by simp [hweight], by simp [hsign], by simp [hscale],
        by simp [hnan, hdigits]⟩
  · rintro ⟨n, h⟩
    obtain ⟨count, hcount, rfl⟩ := Option.map_eq_some_iff.mp h.count
    obtain ⟨weight, hweight, hweight'⟩ := Option.map_eq_some_iff.mp h.weight
    obtain ⟨sign, hsign, hsign'⟩ := Option.map_eq_some_iff.mp h.sign
    obtain ⟨scale, hscale, hscale'⟩ := Option.map_eq_some_iff.mp h.scale
    refine ⟨count, hcount, weight, hweight, sign, hsign, scale, hscale, ?_⟩
    have hdigits := h.digits
    rw [hweight', hsign', hscale']
    split at hdigits
    · rename_i hnan
      rw [if_pos hnan, ← hdigits]
      rfl
    · rename_i hnan
      rw [if_neg hnan, hdigits]
      rfl

/-! ## Bytes behind a payload -/

lemma map_word?_append {α : Type} {f : List UInt8 → α} {bytes : List UInt8} {i : Nat} {a : α}
    (h : (word? bytes.toArray i).map f = some a) (rest : List UInt8) :
    (word? (bytes ++ rest).toArray i).map f = some a := by
  simp only [word?, List.getElem?_toArray] at h ⊢
  split at h
  · rename_i high low hhigh hlow
    rw [List.getElem?_append_left (List.getElem?_eq_some_iff.mp hhigh).1,
      List.getElem?_append_left (List.getElem?_eq_some_iff.mp hlow).1, hhigh, hlow]
    exact h
  · cases h

/-- **What follows a payload does not count.** -/
theorem ofBytes?_append {bytes : List UInt8} {p : Payload} (h : ofBytes? bytes = some p)
    (rest : List UInt8) : ofBytes? (bytes ++ rest) = some p := by
  obtain ⟨n, h⟩ := ofBytes?_eq_some_iff.mp h
  refine ofBytes?_eq_some_iff.mpr ⟨n, map_word?_append h.count rest,
    map_word?_append h.weight rest, map_word?_append h.sign rest, map_word?_append h.scale rest, ?_⟩
  have hdigits := h.digits
  split at hdigits
  · rename_i hnan
    rwa [if_pos hnan]
  · rename_i hnan
    rw [if_neg hnan]
    rw [mapM_eq_some_iff] at hdigits ⊢
    exact hdigits.imp fun _ _ hdigit => map_word?_append hdigit rest

/-! ## Bytes that hold a payload -/

/-- The word at an index, with as many of its bytes as there are. -/
def wordAt (bytes : List UInt8) (i : Nat) : List UInt8 := (bytes.drop (2 * i)).take 2

/-- The word at an index is there if both its bytes are. -/
lemma word?_eq (bytes : List UInt8) (i : Nat) :
    word? bytes.toArray i =
      if 2 * i + 1 < bytes.length then some (wordAt bytes i) else none := by
  rw [word?, List.getElem?_toArray, List.getElem?_toArray]
  split_ifs with hi
  · have hj : 2 * i < bytes.length := by omega
    rw [List.getElem?_eq_getElem hj, List.getElem?_eq_getElem hi, wordAt,
      List.drop_eq_getElem_cons hj, List.drop_eq_getElem_cons hi]
    rfl
  · rw [List.getElem?_eq_none (i := 2 * i + 1) (by omega)]
    cases bytes[2 * i]? with
    | none => rfl
    | some _ => rfl

lemma map_word?_eq_some_iff {α : Type} {f : List UInt8 → α} {bytes : List UInt8} {i : Nat} {a : α} :
    (word? bytes.toArray i).map f = some a ↔ 2 * i + 1 < bytes.length ∧ f (wordAt bytes i) = a := by
  rw [word?_eq]
  split_ifs with h
  · simp [h]
  · simp [h]

section Word

variable {bytes : List UInt8} {i : Nat}

lemma length_wordAt (h : 2 * i + 1 < bytes.length) : (wordAt bytes i).length = 2 := by
  rw [wordAt, List.length_take, List.length_drop]
  omega

/-- A word that is there has sixteen bits, with a sign or without. -/
lemma signed_wordAt_bounds (h : 2 * i + 1 < bytes.length) :
    -32768 ≤ signed (wordAt bytes i) ∧ signed (wordAt bytes i) ≤ 32767 := by
  have hcapacity : capacity 2 = 65536 := rfl
  have hbounds := signed_bounds (wordAt bytes i)
  rw [length_wordAt h, hcapacity] at hbounds
  omega

lemma unsigned_wordAt_lt (h : 2 * i + 1 < bytes.length) : unsigned (wordAt bytes i) < 65536 := by
  have hlt := unsigned_lt (wordAt bytes i)
  rwa [length_wordAt h] at hlt

end Word

/-- **Bytes that hold a payload**: a header, and as many words behind it as its first word says. -/
structure Holds (bytes : List UInt8) (p : Payload) : Prop where
  length : bytes.length = 8 + 2 * p.digits.length
  count : signed (wordAt bytes 0) = p.digits.length
  weight : signed (wordAt bytes 1) = p.weight
  sign : unsigned (wordAt bytes 2) = p.sign
  scale : unsigned (wordAt bytes 3) = p.scale
  digits : ∀ i (h : i < p.digits.length), signed (wordAt bytes (4 + i)) = p.digits[i]

lemma flatten_wordAt {bytes : List UInt8} {n : Nat} (h : bytes.length = 2 * n) :
    ((List.range n).map (wordAt bytes)).flatten = bytes := by
  induction n generalizing bytes with
  | zero => exact (List.length_eq_zero_iff.mp h).symm
  | succ n ih =>
      have hshift (i : Nat) : wordAt bytes (i + 1) = wordAt (bytes.drop 2) i := by
        rw [wordAt, wordAt, List.drop_drop, Nat.mul_succ, Nat.add_comm]
      have hrest : ((List.range n).map (wordAt (bytes.drop 2))).flatten = bytes.drop 2 :=
        ih (by rw [List.length_drop]; omega)
      rw [List.range_succ_eq_map, List.map_cons, List.map_map, List.flatten_cons]
      simp only [Function.comp_def, Nat.succ_eq_add_one, hshift, hrest]
      exact List.take_append_drop 2 bytes

lemma wordAt_of_word? {bytes word : List UInt8} {i : Nat} (h : word? bytes.toArray i = some word) :
    wordAt bytes i = word := by
  rw [word?_eq] at h
  split at h
  · exact Option.some.inj h
  · cases h

/-- **The bytes of a payload that fits hold the payload.** -/
lemma Fits.holds_bytes {p : Payload} (h : p.Fits) : Holds p.bytes p := by
  obtain ⟨hzero, hone, htwo, hthree⟩ := word?_bytes_header p
  constructor
  case length =>
    simp [bytes]
    omega
  case count =>
    rw [wordAt_of_word? hzero]
    exact signed_word (by have := h.length; omega)
  case weight =>
    rw [wordAt_of_word? hone, signed_word h.weight]
  case sign =>
    rw [wordAt_of_word? htwo, unsigned_word h.sign]
  case scale =>
    rw [wordAt_of_word? hthree, unsigned_word h.scale]
  case digits =>
    intro i hi
    rw [wordAt_of_word? (word?_bytes_digit p hi), signed_word (h.digits _ (List.getElem_mem hi))]

section Holding

variable {bytes : List UInt8} {p : Payload}

/-- All words of bytes that hold a payload are there. -/
lemma Holds.lt_length (h : Holds bytes p) {i : Nat} (hi : i < 4 + p.digits.length) :
    2 * i + 1 < bytes.length := by
  have hlength := h.length
  omega

lemma Holds.fits (h : Holds bytes p) : p.Fits := by
  constructor
  case length =>
    have hcount := (signed_wordAt_bounds (h.lt_length (by omega : 0 < 4 + p.digits.length))).2
    rw [h.count] at hcount
    omega
  case weight =>
    rw [← h.weight]
    exact signed_wordAt_bounds (h.lt_length (by omega))
  case sign =>
    rw [← h.sign]
    exact unsigned_wordAt_lt (h.lt_length (by omega))
  case scale =>
    rw [← h.scale]
    exact unsigned_wordAt_lt (h.lt_length (by omega))
  case digits =>
    intro d hd
    obtain ⟨i, hi, rfl⟩ := List.getElem_of_mem hd
    rw [← h.digits i hi]
    exact signed_wordAt_bounds (h.lt_length (by omega))

/-- **No other bytes hold a payload** than those it is sent as. -/
theorem Holds.bytes_eq (h : Holds bytes p) : bytes = p.bytes := by
  have hword (i : Nat) (hi : i < 4 + p.digits.length) :
      signedBytesOf 2 (signed (wordAt bytes i)) = wordAt bytes i ∧
        bytesOf 2 (unsigned (wordAt bytes i)) = wordAt bytes i := by
    have hsigned := signedBytesOf_signed (wordAt bytes i)
    have hunsigned := bytesOf_unsigned (wordAt bytes i)
    rw [length_wordAt (h.lt_length hi)] at hsigned hunsigned
    exact ⟨hsigned, hunsigned⟩
  have hwords : (List.range (4 + p.digits.length)).map (wordAt bytes) = p.words := by
    apply List.ext_getElem
    · simp [words]
      omega
    · intro i h₁ h₂
      have hi : i < 4 + p.digits.length := by simpa using h₁
      rw [List.getElem_map, List.getElem_range]
      match i, hi with
      | 0, hi => rw [← (hword 0 hi).1, h.count]; rfl
      | 1, hi => rw [← (hword 1 hi).1, h.weight]; rfl
      | 2, hi => rw [← (hword 2 hi).2, h.sign]; rfl
      | 3, hi => rw [← (hword 3 hi).2, h.scale]; rfl
      | i + 4, hi =>
          have hlt : i < p.digits.length := by omega
          have hdigit : signed (wordAt bytes (i + 4)) = p.digits[i] := by
            rw [Nat.add_comm]
            exact h.digits i hlt
          rw [← (hword (i + 4) hi).1, hdigit]
          simp [words]
  rw [bytes_eq_flatten, ← hwords, flatten_wordAt (by have := h.length; omega)]

/-- **Bytes hold one payload.** -/
lemma Holds.unique {q : Payload} (h : Holds bytes p) (h' : Holds bytes q) : p = q := by
  have hlength : p.digits.length = q.digits.length := by
    have hp := h.length
    have hq := h'.length
    omega
  have hdigits : p.digits = q.digits := by
    apply List.ext_getElem hlength
    intro i hi hi'
    rw [← h.digits i hi, ← h'.digits i hi']
  have hweight : p.weight = q.weight := h.weight.symm.trans h'.weight
  have hsign : p.sign = q.sign := h.sign.symm.trans h'.sign
  have hscale : p.scale = q.scale := h.scale.symm.trans h'.scale
  calc p = ⟨p.weight, p.sign, p.scale, p.digits⟩ := rfl
    _ = ⟨q.weight, q.sign, q.scale, q.digits⟩ := by rw [hweight, hsign, hscale, hdigits]
    _ = q := rfl

end Holding

end Numeric.Payload

end BoundSql.Wire
