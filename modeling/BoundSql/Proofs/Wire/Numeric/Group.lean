import BoundSql.Wire.Numeric
import BoundSql.Proofs.Decimal.FixedWidth

/-!
# Groups of four digits

The digits of a payload count in base ten thousand, those of a text in base ten.  Four characters
are one digit of the payload, and back.

* `IsDigit` — what may stand for a digit of a payload.
* **`groups_flatMap_writeDigit`**, **`flatMap_writeDigit_groups`** — grouping characters and writing
  groups undo each other.
* `groups_eq_zero_iff` — groups are all zero if their characters are.
* `digitsFrom` — the digits of a payload from one exponent downwards, the zeros around it included.
* `writeWhole_eq`, `writeFraction_eq` — the two parts of a written payload in terms of these.
* **`digitsFrom_eq_padding`** — they are the digits that are held, between two runs of zeros.
-/

namespace BoundSql.Wire.Numeric

open Decimal Payload Literal

/-- **A digit in base ten thousand.** -/
def IsDigit (n : Int) : Prop := 0 ≤ n ∧ n ≤ 9999

instance (n : Int) : Decidable (IsDigit n) := inferInstanceAs (Decidable (_ ∧ _))

lemma isDigit_zero : IsDigit 0 := ⟨by decide, by decide⟩

/-! ## Grouping and writing -/

lemma writeDigit_of_isDigit {n : Int} (h : IsDigit n) : writeDigit n = padded 4 n.natAbs := by
  rw [writeDigit, if_neg (by have := h.1; omega)]

lemma natAbs_lt_of_isDigit {n : Int} (h : IsDigit n) : n.natAbs < 10 ^ 4 := by
  have hlow := h.1
  have hhigh := h.2
  omega

lemma length_writeDigit {n : Int} (h : IsDigit n) : (writeDigit n).length = 4 := by
  rw [writeDigit_of_isDigit h, length_padded (by decide) (natAbs_lt_of_isDigit h)]

lemma allDigits_writeDigit {n : Int} (h : IsDigit n) : allDigits (writeDigit n) = true := by
  rw [writeDigit_of_isDigit h, allDigits_padded]

lemma groups_append_of_length {cs : List Char} (h : cs.length = 4) (rest : List Char) :
    groups (cs ++ rest) = (value cs : Int) :: groups rest := by
  match cs, h with
  | [a, b, c, d], _ => rfl

/-- **Grouping undoes writing.** -/
lemma groups_flatMap_writeDigit {gs : List Int} (h : ∀ g ∈ gs, IsDigit g) :
    groups (gs.flatMap writeDigit) = gs := by
  induction gs with
  | nil => rfl
  | cons g rest ih =>
      have hg := h g List.mem_cons_self
      have hvalue : (value (writeDigit g) : Int) = g := by
        rw [writeDigit_of_isDigit hg, value_padded]
        have hlow := hg.1
        omega
      rw [List.flatMap_cons, groups_append_of_length (length_writeDigit hg), hvalue,
        ih fun g hg => h g (List.mem_cons_of_mem _ hg)]

/-- Whole groups are proved about from the first one on. -/
lemma group_induction {motive : List Char → Prop} (nil : motive [])
    (group : ∀ a b c d rest, motive rest → motive (a :: b :: c :: d :: rest)) :
    ∀ {cs : List Char}, 4 ∣ cs.length → motive cs
  | [], _ => nil
  | [_], h => by simp at h
  | [_, _], h => by simp at h
  | [_, _, _], h => by simp at h
  | a :: b :: c :: d :: rest, h =>
      group a b c d rest (group_induction nil group (by simp only [List.length_cons] at h; omega))

lemma isDigit_value {cs : List Char} (hlength : cs.length = 4) (h : allDigits cs = true) :
    IsDigit (value cs) := by
  have hlt := value_lt h
  rw [hlength] at hlt
  exact ⟨by omega, by omega⟩

/-- **Writing undoes grouping**, if all groups are whole. -/
lemma flatMap_writeDigit_groups {cs : List Char} (hlength : 4 ∣ cs.length)
    (h : allDigits cs = true) : (groups cs).flatMap writeDigit = cs := by
  revert h
  refine group_induction (motive := fun cs => allDigits cs = true →
    (groups cs).flatMap writeDigit = cs) (fun _ => rfl) ?_ hlength
  intro a b c d rest ih h
  have hsplit : allDigits ([a, b, c, d] ++ rest) = true := h
  rw [allDigits_append, Bool.and_eq_true] at hsplit
  have hgroup : writeDigit (value [a, b, c, d] : Int) = [a, b, c, d] := by
    rw [writeDigit_of_isDigit (isDigit_value rfl hsplit.1), Int.natAbs_natCast]
    exact padded_value (by simp) hsplit.1
  rw [groups, List.flatMap_cons, hgroup, ih hsplit.2]
  rfl

lemma isDigit_of_mem_groups {cs : List Char} (h : allDigits cs = true) :
    ∀ g ∈ groups cs, IsDigit g := by
  fun_induction groups cs with
  | case1 a b c d rest ih =>
      have hsplit : allDigits ([a, b, c, d] ++ rest) = true := h
      rw [allDigits_append, Bool.and_eq_true] at hsplit
      intro g hg
      rcases List.mem_cons.mp hg with rfl | hg
      · exact isDigit_value rfl hsplit.1
      · exact ih hsplit.2 g hg
  | case2 => simp

lemma length_flatMap_writeDigit {gs : List Int} (h : ∀ g ∈ gs, IsDigit g) :
    (gs.flatMap writeDigit).length = 4 * gs.length := by
  induction gs with
  | nil => rfl
  | cons g rest ih =>
      have hrest := ih fun g hg => h g (List.mem_cons_of_mem _ hg)
      rw [List.flatMap_cons, List.length_append, length_writeDigit (h g List.mem_cons_self), hrest,
        List.length_cons]
      omega

lemma length_groups {cs : List Char} (hlength : 4 ∣ cs.length) (h : allDigits cs = true) :
    4 * (groups cs).length = cs.length := by
  rw [← length_flatMap_writeDigit (isDigit_of_mem_groups h), flatMap_writeDigit_groups hlength h]

lemma groups_eq_zero_iff {cs : List Char} (hlength : 4 ∣ cs.length) (h : allDigits cs = true) :
    (∀ g ∈ groups cs, g = 0) ↔ ∀ c ∈ cs, c = '0' := by
  revert h
  refine group_induction (motive := fun cs => allDigits cs = true →
    ((∀ g ∈ groups cs, g = 0) ↔ ∀ c ∈ cs, c = '0')) (fun _ => by simp [groups]) ?_ hlength
  intro a b c d rest ih h
  have hsplit : allDigits ([a, b, c, d] ++ rest) = true := h
  rw [allDigits_append, Bool.and_eq_true] at hsplit
  have hfirst := value_eq_zero_iff hsplit.1
  rw [groups, List.forall_mem_cons, ih hsplit.2, Int.natCast_eq_zero, hfirst,
    ← List.forall_mem_append]
  rfl

lemma writeDigit_zero : writeDigit 0 = List.replicate 4 '0' := by
  rw [writeDigit_of_isDigit isDigit_zero, padded, Decimal.digits]
  rfl

lemma flatMap_writeDigit_replicate_zero (n : Nat) :
    (List.replicate n (0 : Int)).flatMap writeDigit = List.replicate (4 * n) '0' := by
  induction n with
  | zero => rfl
  | succ n ih =>
      rw [List.replicate_succ, List.flatMap_cons, ih, writeDigit_zero,
        List.replicate_append_replicate]
      congr 1
      omega

/-! ## The digits around a point -/

/-- **The digits from an exponent downwards**, as many as asked for; there are zeros on both sides
of those that are held. -/
def digitsFrom (weight : Int) (digits : List Int) (top : Int) (count : Nat) : List Int :=
  (List.range count).map fun i : Nat => digitAt weight digits.toArray (top - i)

section DigitsFrom

variable {weight : Int} {digits : List Int}

lemma length_digitsFrom (weight : Int) (digits : List Int) (top : Int) (count : Nat) :
    (digitsFrom weight digits top count).length = count := by
  rw [digitsFrom, List.length_map, List.length_range]

lemma getElem_digitsFrom {top : Int} {count i : Nat}
    (h : i < (digitsFrom weight digits top count).length) :
    (digitsFrom weight digits top count)[i] = digitAt weight digits.toArray (top - i) := by
  simp [digitsFrom]

lemma digitsFrom_add (weight : Int) (digits : List Int) (top : Int) (m n : Nat) :
    digitsFrom weight digits top (m + n) =
      digitsFrom weight digits top m ++ digitsFrom weight digits (top - m) n := by
  rw [digitsFrom, digitsFrom, digitsFrom, List.range_add, List.map_append, List.map_map]
  congr 1
  apply List.map_congr_left
  intro i _
  rw [Function.comp_apply, Int.natCast_add, Int.sub_sub]

lemma digitsFrom_succ (weight : Int) (digits : List Int) (top : Int) (count : Nat) :
    digitsFrom weight digits top (count + 1) =
      digitAt weight digits.toArray top :: digitsFrom weight digits (top - 1) count := by
  rw [Nat.add_comm, digitsFrom_add]
  simp [digitsFrom]

lemma isDigit_digitAt (weight : Int) (h : ∀ d ∈ digits, IsDigit d) (exponent : Int) :
    IsDigit (digitAt weight digits.toArray exponent) := by
  rw [digitAt]
  split
  · rw [List.getElem?_toArray]
    cases hd : digits[(weight - exponent).toNat]? with
    | none => exact isDigit_zero
    | some d => exact h d (List.mem_of_getElem? hd)
  · exact isDigit_zero

lemma isDigit_of_mem_digitsFrom (weight : Int) (h : ∀ d ∈ digits, IsDigit d) (top : Int)
    (count : Nat) : ∀ g ∈ digitsFrom weight digits top count, IsDigit g := by
  intro g hg
  obtain ⟨i, -, rfl⟩ := List.mem_map.mp hg
  exact isDigit_digitAt weight h _

lemma digitsFrom_above {top : Int} {count : Nat} (h : weight + count ≤ top) :
    digitsFrom weight digits top count = List.replicate count 0 := by
  rw [List.eq_replicate_iff]
  refine ⟨length_digitsFrom _ _ _ _, fun g hg => ?_⟩
  obtain ⟨i, hi, rfl⟩ := List.mem_map.mp hg
  have hlt := List.mem_range.mp hi
  rw [digitAt, if_neg (by omega)]

lemma digitsFrom_below {top : Int} (h : top + digits.length ≤ weight) (count : Nat) :
    digitsFrom weight digits top count = List.replicate count 0 := by
  rw [List.eq_replicate_iff]
  refine ⟨length_digitsFrom _ _ _ _, fun g hg => ?_⟩
  obtain ⟨i, -, rfl⟩ := List.mem_map.mp hg
  rw [digitAt, if_pos (by omega), List.getElem?_toArray, List.getElem?_eq_none (by omega)]
  rfl

lemma digitsFrom_held (weight : Int) (digits : List Int) :
    digitsFrom weight digits weight digits.length = digits := by
  apply List.ext_getElem (length_digitsFrom _ _ _ _)
  intro i _ hi
  simp [digitsFrom, digitAt, hi]

/-- **The digits around those that are held are zeros.** -/
lemma digitsFrom_eq_padding (top : Int) (digits : List Int) (front back : Nat) :
    digitsFrom (top - front) digits top (front + digits.length + back) =
      List.replicate front 0 ++ digits ++ List.replicate back 0 := by
  rw [digitsFrom_add, digitsFrom_add, digitsFrom_above (by omega), digitsFrom_held,
    digitsFrom_below (by omega)]

lemma digitsFrom_nil (weight top : Int) (count : Nat) :
    digitsFrom weight [] top count = List.replicate count 0 := by
  rw [List.eq_replicate_iff]
  refine ⟨length_digitsFrom _ _ _ _, fun g hg => ?_⟩
  obtain ⟨i, -, rfl⟩ := List.mem_map.mp hg
  simp [digitAt]

/-! ## The two parts of a written payload -/

/-- **The part behind the point**: whole groups, of which the last may be cut. -/
lemma writeFraction_eq (weight : Int) (digits : List Int) (scale : Nat) :
    writeFraction weight digits.toArray scale =
      ((digitsFrom weight digits (-1) ((scale + 3) / 4)).flatMap writeDigit).take scale := by
  rw [writeFraction, digitsFrom, List.flatMap_map]

lemma writeWhole_of_nonneg (weight : Nat) (digits : List Int) :
    writeWhole weight digits.toArray =
      integer (digitAt weight digits.toArray weight) ++
        (digitsFrom weight digits (weight - 1) weight).flatMap writeDigit := by
  rw [writeWhole, if_neg (by omega), digitsFrom, List.flatMap_map, Int.toNat_natCast]

/-- A text before the point: the digits without zeros in front, or one zero if there are none. -/
def wholeText (cs : List Char) : List Char :=
  if cs.dropWhile (· == '0') = [] then ['0'] else cs.dropWhile (· == '0')

lemma dropWhile_wholeText (cs : List Char) :
    (wholeText cs).dropWhile (· == '0') = cs.dropWhile (· == '0') := by
  rw [wholeText]
  split
  · rename_i hempty
    rw [hempty]
    rfl
  · exact dropWhile_eq_self_of_head (head?_dropWhile_ne '0' cs)

/-- **The part before the point**: all digits from an exponent above the weight downwards, without
the zeros in front. -/
lemma writeWhole_eq (hdigits : ∀ d ∈ digits, IsDigit d) (hhead : digits.head? ≠ some 0)
    (hne : digits ≠ []) (count : Nat) (hcount : weight < count) :
    writeWhole weight digits.toArray =
      wholeText ((digitsFrom weight digits (count - 1) count).flatMap writeDigit) := by
  by_cases hweight : weight < 0
  · have hzeros := dropWhile_replicate_append '0' (4 * count) []
    rw [List.append_nil] at hzeros
    rw [digitsFrom_above (by omega), flatMap_writeDigit_replicate_zero, wholeText, hzeros,
      writeWhole, if_pos hweight]
    rfl
  · obtain ⟨w, rfl⟩ := Int.eq_ofNat_of_zero_le (Int.not_lt.mp hweight)
    obtain ⟨m, rfl⟩ := Nat.exists_eq_add_of_lt (Int.ofNat_lt.mp hcount)
    cases digits with
    | nil => exact absurd rfl hne
    | cons first rest =>
        have hfirst : digitAt w (first :: rest).toArray w = first := by simp [digitAt]
        have hnonzero : first.natAbs ≠ 0 := by simpa using hhead
        have hdigit := hdigits first List.mem_cons_self
        -- zeros in front, then the first digit, which is none, and the rest
        have hsplit : digitsFrom w (first :: rest) ((w + m + 1 : Nat) - 1) (w + m + 1) =
            List.replicate m 0 ++ first :: digitsFrom w (first :: rest) (w - 1) w := by
          have hcount : w + m + 1 = m + (w + 1) := by omega
          have htop : ((w + m + 1 : Nat) - 1 : Int) - m = w := by omega
          have habove : digitsFrom w (first :: rest) ((w + m + 1 : Nat) - 1) m =
              List.replicate m 0 := digitsFrom_above (by omega)
          rw [← habove, hcount, digitsFrom_add, ← hcount, htop, digitsFrom_succ, hfirst]
        rw [hsplit, List.flatMap_append, flatMap_writeDigit_replicate_zero, List.flatMap_cons,
          wholeText, dropWhile_replicate_append, writeDigit_of_isDigit hdigit,
          dropWhile_padded_append 4 hnonzero, if_neg (by simp [digits_ne_nil]),
          writeWhole_of_nonneg, hfirst, integer, if_neg (by have := hdigit.1; omega)]

end DigitsFrom

lemma writeWhole_nil : writeWhole 0 (#[] : Array Int) = ['0'] := by
  simp [writeWhole, digitAt, integer, Decimal.digits, digitChar]

lemma writeFraction_nil (weight : Int) (scale : Nat) :
    writeFraction weight (#[] : Array Int) scale = List.replicate scale '0' := by
  have hlength : min scale (4 * ((scale + 3) / 4)) = scale := by omega
  rw [writeFraction_eq weight [], digitsFrom_nil, flatMap_writeDigit_replicate_zero,
    List.take_replicate, hlength]

end BoundSql.Wire.Numeric
