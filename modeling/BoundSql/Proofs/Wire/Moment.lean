import BoundSql.Proofs.Decimal.Integer
import BoundSql.Wire.Parameter

/-!
# Dates and points in time as parameters

A supported point in time is sent as one on a supported day, with one exception: the leap second
after the last supported second counts as the second after it, which lies on no supported day.

* `Timestamp.Possible`, `Timestamp.IsBeyond` — points in time, and those that are read on the next
  day.
* `inRange_of_ofCivil?`, `possible_of_ofText?` — what texts are read as.
* **`exists_timestampBytes_eq`** — what a point in time is sent as.
-/

namespace BoundSql

lemma Date.inRange_iff {d : Date} :
    d.inRange = true ↔ -96465292 ≤ d.days ∧ d.days ≤ 95026236 := by
  simp only [inRange, Bool.and_eq_true, decide_eq_true_eq]

/-! ## Supported points in time -/

namespace Timestamp

/-- **A point in time as they are kept**: on a supported day, its nanoseconds within a second and a
leap second. -/
structure Possible (t : Timestamp) : Prop where
  inRange : t.inRange = true
  nanos : t.nanos < 2 * secondNanos

/-- The leap second after the last supported second. -/
def IsBeyond (t : Timestamp) : Prop := t.seconds = 8210266876799 ∧ secondNanos ≤ t.nanos

lemma inRange_iff {t : Timestamp} :
    t.inRange = true ↔ -8334601228800 ≤ t.seconds ∧ t.seconds ≤ 8210266876799 := by
  rw [inRange, Date.inRange_iff, date]
  simp only [daySeconds]
  omega

lemma possible_ofDate {d : Date} (h : d.inRange = true) : (ofDate d).Possible := by
  rw [Date.inRange_iff] at h
  refine ⟨inRange_iff.mpr ?_, by simp [ofDate, secondNanos]⟩
  simp only [ofDate, daySeconds]
  omega

lemma not_isBeyond_ofDate (d : Date) : ¬ (ofDate d).IsBeyond := by
  rintro ⟨-, hleap⟩
  exact absurd hleap (by simp [ofDate, secondNanos])

end Timestamp

/-! ## What texts are read as -/

namespace Calendar

open Decimal Text

lemma inRange_of_ofCivil? {c : CivilDate} {d : Date} (h : Date.ofCivil? c = some d) :
    d.inRange = true := by
  simp only [Date.ofCivil?] at h
  split at h
  · rename_i hrange
    rw [← Option.some.inj h]
    exact (Bool.and_eq_true_iff.mp hrange).2
  · cases h

lemma inRange_of_ofText? {cs : List Char} {d : Date} (h : Date.ofText? cs = some d) :
    d.inRange = true := by
  obtain ⟨⟨c, rest⟩, -, h⟩ := Option.bind_eq_some_iff.mp h
  simp only at h
  split at h
  · exact inRange_of_ofCivil? h
  · cases h

lemma field_bounds {least greatest n : Nat} {cs rest : List Char}
    (h : field least greatest cs = some (n, rest)) : least ≤ n ∧ n ≤ greatest := by
  rw [field] at h
  split at h
  · split at h
    · rename_i hbounds
      cases h
      exact hbounds
    · cases h
  · cases h

lemma fraction_lt {n : Nat} {cs rest : List Char} (h : fraction cs = some (n, rest)) :
    n < Timestamp.secondNanos := by
  unfold fraction at h
  split at h
  · rename_i rest
    simp only at h
    split at h
    · cases h
    · obtain ⟨rfl, -⟩ := Prod.mk.inj (Option.some.inj h)
      have hcounted : allDigits ((rest.takeWhile Char.isDigit).take 9) = true := by
        rw [allDigits_iff]
        intro c hc
        exact List.mem_takeWhile_imp (List.mem_of_mem_take hc)
      have hlength : ((rest.takeWhile Char.isDigit).take 9).length ≤ 9 := by
        rw [List.length_take]
        omega
      generalize (rest.takeWhile Char.isDigit).take 9 = counted at *
      calc value counted * tenTo (9 - counted.length)
          < 10 ^ counted.length * 10 ^ (9 - counted.length) :=
            Nat.mul_lt_mul_of_pos_right (value_lt hcounted) (Nat.pow_pos (by decide))
        _ = Timestamp.secondNanos := by
            rw [← Nat.pow_add, Nat.add_sub_cancel' hlength]
            rfl
  · cases h
    decide

/-- **A time of day** is within a day, its nanoseconds within a second and a leap second. -/
lemma timeOfDay_bounds {second nanos : Nat} {cs rest : List Char}
    (h : timeOfDay cs = some ((second, nanos), rest)) :
    second < 86400 ∧ nanos < 2 * Timestamp.secondNanos := by
  obtain ⟨⟨hour, _⟩, hhour, h⟩ := Option.bind_eq_some_iff.mp h
  obtain ⟨⟨_, _⟩, -, h⟩ := Option.bind_eq_some_iff.mp h
  obtain ⟨⟨minute, _⟩, hminute, h⟩ := Option.bind_eq_some_iff.mp h
  obtain ⟨⟨_, _⟩, -, h⟩ := Option.bind_eq_some_iff.mp h
  obtain ⟨⟨s, _⟩, hsecond, h⟩ := Option.bind_eq_some_iff.mp h
  obtain ⟨⟨f, _⟩, hfraction, h⟩ := Option.bind_eq_some_iff.mp h
  have hhour := (field_bounds hhour).2
  have hminute := (field_bounds hminute).2
  have hsecond := (field_bounds hsecond).2
  have hfraction := fraction_lt hfraction
  have htime := congrArg Prod.fst (Option.some.inj h)
  simp only at htime
  split at htime
  · cases htime
    omega
  · cases htime
    omega

lemma possible_of_combine? {c : CivilDate} {second nanos : Nat} {t : Timestamp}
    (htime : second < 86400 ∧ nanos < 2 * Timestamp.secondNanos)
    (h : combine? c (second, nanos) = some t) : t.Possible := by
  obtain ⟨d, hd, rfl⟩ := Option.map_eq_some_iff.mp h
  have hrange := Date.inRange_iff.mp (inRange_of_ofCivil? hd)
  refine ⟨Timestamp.inRange_iff.mpr ?_, htime.2⟩
  simp only [Timestamp.daySeconds]
  omega

/-- **What a text without an offset is read as.** -/
lemma possible_of_ofLocalText? {cs : List Char} {t : Timestamp}
    (h : Timestamp.ofLocalText? cs = some t) : t.Possible := by
  obtain ⟨⟨c, _⟩, -, h⟩ := Option.bind_eq_some_iff.mp h
  obtain ⟨⟨_, _⟩, -, h⟩ := Option.bind_eq_some_iff.mp h
  obtain ⟨⟨⟨second, nanos⟩, _⟩, htime, h⟩ := Option.bind_eq_some_iff.mp h
  simp only at h
  split at h
  · exact possible_of_combine? (timeOfDay_bounds htime) h
  · cases h

/-- **What a text with an offset is read as.** -/
lemma possible_of_ofText? {cs : List Char} {t : Timestamp} (h : Timestamp.ofText? cs = some t) :
    t.Possible := by
  obtain ⟨⟨c, _⟩, -, h⟩ := Option.bind_eq_some_iff.mp h
  obtain ⟨rest, h⟩ : ∃ rest, ((timeOfDay rest).bind fun read =>
      (offset (trimStart read.2)).bind fun shifted =>
        if (trimStart shifted.2).isEmpty then
          (combine? c read.1).bind fun here =>
            if (⟨here.seconds - shifted.1, here.nanos⟩ : Timestamp).inRange then
              some (⟨here.seconds - shifted.1, here.nanos⟩ : Timestamp)
            else none
        else none) = some t := by
    simp only at h
    split at h
    all_goals first | exact ⟨_, h⟩ | cases h
  obtain ⟨⟨⟨second, nanos⟩, _⟩, htime, h⟩ := Option.bind_eq_some_iff.mp h
  obtain ⟨⟨shift, _⟩, -, h⟩ := Option.bind_eq_some_iff.mp h
  simp only at h
  split at h
  · obtain ⟨here, hhere, h⟩ := Option.bind_eq_some_iff.mp h
    split at h
    · rename_i hrange
      rw [← Option.some.inj h]
      exact ⟨hrange, (possible_of_combine? (timeOfDay_bounds htime) hhere).nanos⟩
    · cases h
  · cases h

end Calendar

/-! ## What is sent -/

namespace Wire

/-- **A supported point in time is sent as one on a supported day** in whole microseconds, unless it
is the leap second after the last one. -/
lemma exists_timestampBytes_eq {t : Timestamp} (h : t.Possible) (hbeyond : ¬ t.IsBeyond) :
    ∃ (r : Timestamp) (micros : Nat), r.inRange = true ∧ micros < 1000000 ∧
      r.nanos = micros * 1000 ∧
      timestampBytes t = signedBytesOf 8 ((r.seconds - 946684800) * 1000000 + micros) := by
  obtain ⟨hrange, hnanos⟩ := h
  rw [Timestamp.inRange_iff] at hrange
  have hsecond : Timestamp.secondNanos = 1000000000 := rfl
  have hepoch : epoch.days * Timestamp.daySeconds = 946684800 := rfl
  -- What is left of a microsecond is dropped towards the day from which the server counts.
  have hdropped (n : Int) : Int.tdiv n 1000 = if 0 ≤ n then n / 1000 else -(-n / 1000) := by
    split
    · rename_i hpositive
      exact Int.tdiv_eq_ediv_of_nonneg hpositive
    · rename_i hnegative
      rw [← Int.tdiv_eq_ediv_of_nonneg (by omega), Int.neg_tdiv, Int.neg_neg]
  rw [Timestamp.IsBeyond, hsecond] at hbeyond
  rw [hsecond] at hnanos
  have hmicros := hdropped ((t.seconds - 946684800) * 1000000000 + t.nanos)
  simp only [timestampBytes, hsecond, hepoch]
  push_cast
  generalize Int.tdiv ((t.seconds - 946684800) * 1000000000 + t.nanos) 1000 = sent at *
  refine ⟨⟨946684800 + sent / 1000000, (sent % 1000000).toNat * 1000⟩, (sent % 1000000).toNat,
    Timestamp.inRange_iff.mpr ?_, by omega, rfl, congrArg _ ?_⟩
  · simp only
    split at hmicros
    · omega
    · omega
  · simp only
    omega

end Wire

end BoundSql
