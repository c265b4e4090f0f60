import BoundSql.Proofs.Text.Utf8
import BoundSql.Url.Reader
import Mathlib.Tactic.Lemma

/-!
# Components of a URL

A component stands for any text: what is not unreserved is encoded byte by byte.  It then has no
mark that divides a URL, so it is read as one part, and nothing is left in it to encode.

* `isUnreserved` — the characters that stand for themselves everywhere.
* **`component`** — the text of a component.
* **`isHarmless_of_mem_component`** — which characters there are in it.
* `encode_of_isHarmless` — no part of a URL encodes any of them.
* **`component_eq_self_iff`** — a component is the text itself just when all of it is unreserved.
* **`pointed_component`** — no point in it is hidden.
-/

namespace BoundSql.Url

open Text

/-- The characters that stand for themselves everywhere. -/
def isUnreserved (c : Char) : Bool :=
  c.isAlphanum || c == '-' || c == '.' || c == '_' || c == '~'

/-- **The text of a component**, in which every byte outside the unreserved ones is encoded. -/
def component (cs : List Char) : List Char := percentEncode (fun c => !isUnreserved c) cs

/-- A character of a component: unreserved, or the sign of an encoded byte. -/
def isHarmless (c : Char) : Bool := isUnreserved c || c == '%'

/-! ## Harmless characters -/

lemma toNat_of_isHarmless {c : Char} (h : isHarmless c = true) :
    0x20 < c.toNat ∧ c.toNat < 0x7F := by
  change (((((((decide (c.val ≥ 'A'.val ∧ c.val ≤ 'Z'.val) ||
    (decide (c.val ≥ 'a'.val) && decide (c.val ≤ 'z'.val))) ||
    (decide (c.val ≥ '0'.val) && decide (c.val ≤ '9'.val))) || c == '-') || c == '.') ||
    c == '_') || c == '~') || c == '%') = true at h
  simp only [Bool.or_eq_true, Bool.and_eq_true, decide_eq_true_eq, beq_iff_eq,
    UInt32.le_iff_toNat_le, ge_iff_le] at h
  change (((((((65 ≤ c.toNat ∧ c.toNat ≤ 90) ∨ (97 ≤ c.toNat ∧ c.toNat ≤ 122)) ∨
    (48 ≤ c.toNat ∧ c.toNat ≤ 57)) ∨ c = '-') ∨ c = '.') ∨ c = '_') ∨ c = '~') ∨
    c = '%' at h
  rcases h with ((((((h | h) | h) | rfl) | rfl) | rfl) | rfl) | rfl
  · omega
  · omega
  · omega
  all_goals decide

lemma ne_of_isHarmless {c d : Char} (h : isHarmless c = true) (hd : isHarmless d = false) :
    c ≠ d := by
  rintro rfl
  rw [h] at hd
  exact Bool.noConfusion hd

lemma isHarmless_of_isUnreserved {c : Char} (h : isUnreserved c = true) : isHarmless c = true := by
  rw [isHarmless, h, Bool.true_or]

lemma isControlOrForeign_of_isHarmless {c : Char} (h : isHarmless c = true) :
    isControlOrForeign c = false := by
  have hbounds := toNat_of_isHarmless h
  simp only [isControlOrForeign, Bool.or_eq_false_iff, decide_eq_false_iff_not]
  omega

/-- No part of a URL refuses a harmless character. -/
lemma refuses_of_isHarmless {c : Char} (h : isHarmless c = true) (p : Part) :
    p.refuses c = false := by
  have hlist {ds : List Char} (hds : ds.all (fun d => !isHarmless d) = true) :
      decide (c ∈ ds) = false := by
    rw [decide_eq_false_iff_not]
    intro hmem
    have := List.all_eq_true.mp hds c hmem
    rw [h] at this
    exact Bool.noConfusion this
  cases p
  case opaqueText => rfl
  all_goals exact hlist (by decide)

/-- A text is left as it is, if nothing in it is to be encoded. -/
lemma percentEncode_eq_self {refuses : Char → Bool} {cs : List Char}
    (h : ∀ c ∈ cs, isControlOrForeign c = false ∧ refuses c = false) :
    percentEncode refuses cs = cs := by
  induction cs with
  | nil => rfl
  | cons c cs ih =>
      obtain ⟨hc, hcs⟩ := List.forall_mem_cons.mp h
      rw [percentEncode, List.flatMap_cons, hc.1, hc.2, ← percentEncode, ih hcs]
      rfl

/-- **No part of a URL encodes a harmless character.** -/
lemma encode_of_isHarmless {cs : List Char} (h : ∀ c ∈ cs, isHarmless c = true) (p : Part) :
    p.encode cs = cs :=
  percentEncode_eq_self fun c hc =>
    ⟨isControlOrForeign_of_isHarmless (h c hc), refuses_of_isHarmless (h c hc) p⟩

/-! ## Encoded bytes -/

lemma isUnreserved_capitalHexDigit {d : Nat} (h : d < 16) :
    isUnreserved (capitalHexDigit d) = true := by
  revert d
  decide

lemma isHarmless_of_mem_percentByte {b : UInt8} {c : Char} (h : c ∈ percentByte b) :
    isHarmless c = true := by
  have hdigit {d : Nat} (hd : d < 16) : isHarmless (capitalHexDigit d) = true :=
    isHarmless_of_isUnreserved (isUnreserved_capitalHexDigit hd)
  have hbyte := b.toNat_lt
  simp only [percentByte, List.mem_cons, List.not_mem_nil, or_false] at h
  rcases h with rfl | rfl | rfl
  · rfl
  · exact hdigit (by omega)
  · exact hdigit (Nat.mod_lt _ (by decide))

/-- A byte of ASCII is all there is of its character. -/
lemma toNat_eq_of_mem_encodeChar {c : Char} {b : UInt8} (h : b ∈ encodeChar c)
    (hb : b.toNat < 0x80) : b.toNat = c.toNat := by
  have hscalar := toNat_cases c
  -- The first of two bytes or more and those after it are beyond ASCII.
  have hbeyond {n : Nat} (hb : b = n.toUInt8) (hlow : 0x80 ≤ n) (hhigh : n < 256) :
      b.toNat = c.toNat := by
    have hbyte := congrArg UInt8.toNat hb
    rw [toNat_toUInt8 hhigh] at hbyte
    omega
  unfold encodeChar at h
  simp only [Nat.shiftRight_eq_div_pow] at h
  split at h
  · rename_i hone
    rw [List.mem_singleton.mp h, toNat_toUInt8 (by omega)]
  split at h
  · simp only [List.mem_cons, List.not_mem_nil, or_false] at h
    rcases h with h | h
    all_goals exact hbeyond h (by omega) (by omega)
  split at h
  · simp only [List.mem_cons, List.not_mem_nil, or_false] at h
    rcases h with h | h | h
    all_goals exact hbeyond h (by omega) (by omega)
  · simp only [List.mem_cons, List.not_mem_nil, or_false] at h
    rcases h with h | h | h | h
    all_goals exact hbeyond h (by omega) (by omega)

/-! ## Components -/

lemma component_cons_of_isUnreserved {c : Char} (h : isUnreserved c = true) (cs : List Char) :
    component (c :: cs) = c :: component cs := by
  rw [component, percentEncode, List.flatMap_cons,
    isControlOrForeign_of_isHarmless (isHarmless_of_isUnreserved h), h]
  rfl

lemma component_cons_of_not_isUnreserved {c : Char} (h : isUnreserved c = false) (cs : List Char) :
    component (c :: cs) = (encodeChar c).flatMap percentByte ++ component cs := by
  rw [component, percentEncode, List.flatMap_cons, h, Bool.not_false, Bool.or_true]
  rfl

/-- **The characters of a component** are unreserved, or signs of encoded bytes. -/
lemma isHarmless_of_mem_component {cs : List Char} {c : Char} (h : c ∈ component cs) :
    isHarmless c = true := by
  induction cs with
  | nil => cases h
  | cons d cs ih =>
      cases hd : isUnreserved d with
      | true =>
          rw [component_cons_of_isUnreserved hd, List.mem_cons] at h
          rcases h with rfl | h
          · exact isHarmless_of_isUnreserved hd
          · exact ih h
      | false =>
          rw [component_cons_of_not_isUnreserved hd, List.mem_append, List.mem_flatMap] at h
          rcases h with ⟨b, -, hb⟩ | h
          · exact isHarmless_of_mem_percentByte hb
          · exact ih h

/-- An encoded character takes three characters or more. -/
lemma exists_flatMap_percentByte_eq (c : Char) :
    ∃ x y rest, (encodeChar c).flatMap percentByte = '%' :: x :: y :: rest := by
  obtain ⟨b, bytes, hbytes⟩ := List.exists_cons_of_ne_nil (encodeChar_ne_nil c)
  rw [hbytes]
  exact ⟨_, _, _, rfl⟩

lemma component_eq_nil_iff {cs : List Char} : component cs = [] ↔ cs = [] := by
  refine ⟨fun h => ?_, fun h => by rw [h]; rfl⟩
  cases cs with
  | nil => rfl
  | cons c cs =>
      cases hc : isUnreserved c with
      | true => rw [component_cons_of_isUnreserved hc] at h; cases h
      | false =>
          obtain ⟨x, y, rest, hbytes⟩ := exists_flatMap_percentByte_eq c
          rw [component_cons_of_not_isUnreserved hc, hbytes] at h
          cases h

lemma length_le_length_component (cs : List Char) : cs.length ≤ (component cs).length := by
  induction cs with
  | nil => exact Nat.zero_le _
  | cons c cs ih =>
      cases hc : isUnreserved c with
      | true => simpa [component_cons_of_isUnreserved hc] using ih
      | false =>
          obtain ⟨x, y, rest, hbytes⟩ := exists_flatMap_percentByte_eq c
          rw [component_cons_of_not_isUnreserved hc, hbytes]
          simp only [List.length_append, List.length_cons]
          omega

/-- **A component is the text itself just when all of it is unreserved**: whatever else is in it
takes more room when encoded. -/
lemma component_eq_self_iff {cs : List Char} :
    component cs = cs ↔ ∀ c ∈ cs, isUnreserved c = true := by
  induction cs with
  | nil => simp [component, percentEncode]
  | cons c cs ih =>
      rw [List.forall_mem_cons]
      cases hc : isUnreserved c with
      | true => simpa [component_cons_of_isUnreserved hc] using ih
      | false =>
          refine ⟨fun h => ?_, fun h => Bool.noConfusion h.1⟩
          obtain ⟨x, y, rest, hbytes⟩ := exists_flatMap_percentByte_eq c
          have hlength := congrArg List.length h
          have hcs := length_le_length_component cs
          rw [component_cons_of_not_isUnreserved hc, hbytes] at hlength
          simp only [List.length_append, List.length_cons] at hlength
          omega

/-- A text without signs of encoded bytes is the component of itself only. -/
lemma eq_of_component_eq {cs ds : List Char} (h : component cs = ds) (hds : '%' ∉ ds) :
    cs = ds := by
  rw [← h, eq_comm, component_eq_self_iff]
  intro c hc
  cases hreserved : isUnreserved c with
  | true => rfl
  | false =>
      obtain ⟨front, rest, rfl⟩ := List.append_of_mem hc
      obtain ⟨x, y, more, hbytes⟩ := exists_flatMap_percentByte_eq c
      have hmore := component_cons_of_not_isUnreserved hreserved rest
      rw [component, percentEncode, List.flatMap_append, ← percentEncode, ← percentEncode,
        ← component, ← component, hmore, hbytes] at h
      exact absurd (by simp [← h]) hds

/-! ## Points -/

lemma pointed_cons {c : Char} (h : c ≠ '%') (cs : List Char) :
    pointed (c :: cs) = c :: pointed cs := by
  rw [pointed]
  rintro e rest rfl
  exact absurd rfl h

/-- A byte is no hidden point, unless it is the one of a point. -/
lemma pointed_percentByte {b : UInt8} (h : b.toNat ≠ 0x2E) (cs : List Char) :
    pointed (percentByte b ++ cs) = percentByte b ++ pointed cs := by
  have hbyte := b.toNat_lt
  have hdigit {d : Nat} (hd : d < 16) : capitalHexDigit d ≠ '%' ∧ capitalHexDigit d ≠ 'e' ∧
      (capitalHexDigit d = '2' → d = 2) ∧ (capitalHexDigit d = 'E' → d = 14) := by
    revert d
    decide
  obtain ⟨hhigh, -, htwo, -⟩ := hdigit (show b.toNat / 16 < 16 by omega)
  obtain ⟨hlow, hsmall, -, hcapital⟩ := hdigit (Nat.mod_lt b.toNat (by decide))
  simp only [percentByte, List.cons_append, List.nil_append]
  generalize capitalHexDigit (b.toNat / 16) = x at *
  generalize capitalHexDigit (b.toNat % 16) = y at *
  by_cases hx : x = '2'
  · subst hx
    have hy : ¬(y = 'e' ∨ y = 'E') := by
      rintro (rfl | rfl)
      · exact hsmall rfl
      · have hfour := hcapital rfl
        have htwo := htwo rfl
        omega
    rw [pointed, if_neg hy, pointed_cons hlow]
  · rw [pointed, pointed_cons hhigh, pointed_cons hlow]
    rintro e rest - h
    exact hx (List.cons.inj h).1

lemma pointed_flatMap_percentByte {bytes : List UInt8} (h : ∀ b ∈ bytes, b.toNat ≠ 0x2E)
    (cs : List Char) :
    pointed (bytes.flatMap percentByte ++ cs) = bytes.flatMap percentByte ++ pointed cs := by
  induction bytes with
  | nil => rfl
  | cons b bytes ih =>
      obtain ⟨hb, hbytes⟩ := List.forall_mem_cons.mp h
      rw [List.flatMap_cons, List.append_assoc, pointed_percentByte hb, ih hbytes,
        List.append_assoc]

/-- **No point in a component is hidden**, as points are not encoded. -/
lemma pointed_component (cs : List Char) : pointed (component cs) = component cs := by
  induction cs with
  | nil => rfl
  | cons c cs ih =>
      cases hc : isUnreserved c with
      | true =>
          have hsign : c ≠ '%' := by
            rintro rfl
            exact absurd hc (by decide)
          rw [component_cons_of_isUnreserved hc, pointed_cons hsign, ih]
      | false =>
          have hbytes (b : UInt8) (hb : b ∈ encodeChar c) : b.toNat ≠ 0x2E := by
            intro hpoint
            have hchar := toNat_eq_of_mem_encodeChar hb (by omega)
            rw [show c = '.' from Char.toNat_inj.mp (hchar.symm.trans hpoint)] at hc
            exact absurd hc (by decide)
          rw [component_cons_of_not_isUnreserved hc, pointed_flatMap_percentByte hbytes, ih]

end BoundSql.Url
