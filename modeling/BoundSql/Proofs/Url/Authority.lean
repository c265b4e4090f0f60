import BoundSql.Proofs.Decimal.Integer
import BoundSql.Proofs.Url.Component

/-!
# Authorities of given parts

Where user and password are components, the parts of an authority are told apart by the marks
between them: the credentials end at the one `@`, the user at the first colon, the host at the next one, and
the port at the slash of the path.

* **`IsHostName`** — texts that may stand for a host as they are.
* `readCredentials_append`, `hostLength_append`, `readPort_digits` — the parts of an authority.
* **`readAuthority_append`** — a whole authority.
-/

namespace BoundSql.Url

open Decimal

/-- **The name of a host**: it is not empty, and nothing in it is forbidden in hosts. -/
structure IsHostName (host : List Char) : Prop where
  ne_nil : host ≠ []
  allowed : ∀ c ∈ host, isForbiddenInHost c = false

section Spans

variable {α : Type} {p : α → Bool} {a : List α} {c : α}

lemma takeWhile_append_cons (h : ∀ x ∈ a, p x = true) (hc : p c = false) (rest : List α) :
    (a ++ c :: rest).takeWhile p = a := by
  rw [List.takeWhile_append_of_pos h, List.takeWhile_cons, hc]
  exact List.append_nil a

lemma dropWhile_append_cons (h : ∀ x ∈ a, p x = true) (hc : p c = false) (rest : List α) :
    (a ++ c :: rest).dropWhile p = c :: rest := by
  rw [List.dropWhile_append_of_pos h, List.dropWhile_cons, hc]
  rfl

/-- The same from the end of a list. -/
lemma reverse_takeWhile_reverse (h : ∀ x ∈ a, p x = true) (hc : p c = false) (front : List α) :
    ((front ++ c :: a).reverse.takeWhile p).reverse = a := by
  have hback : (front ++ c :: a).reverse = a.reverse ++ c :: front.reverse := by simp
  rw [hback, takeWhile_append_cons (fun x hx => h x (List.mem_reverse.mp hx)) hc,
    List.reverse_reverse]

end Spans

/-! ## Characters -/

lemma ne_of_isForbiddenInHost {c d : Char} (h : isForbiddenInHost c = false)
    (hd : isForbiddenInHost d = true) : c ≠ d := by
  rintro rfl
  rw [h] at hd
  exact Bool.noConfusion hd

lemma endsAuthority_plain_eq_false {c : Char} (hslash : c ≠ '/') (hquery : c ≠ '?')
    (hfragment : c ≠ '#') : Manner.plain.endsAuthority c = false := by
  simp [Manner.endsAuthority, Manner.isSlash, hslash, hquery, hfragment]

lemma endsAuthority_of_isHarmless {c : Char} (h : isHarmless c = true) :
    Manner.plain.endsAuthority c = false :=
  endsAuthority_plain_eq_false (ne_of_isHarmless h (by decide)) (ne_of_isHarmless h (by decide))
    (ne_of_isHarmless h (by decide))

lemma endsAuthority_of_isForbiddenInHost {c : Char} (h : isForbiddenInHost c = false) :
    Manner.plain.endsAuthority c = false :=
  endsAuthority_plain_eq_false (ne_of_isForbiddenInHost h (by decide))
    (ne_of_isForbiddenInHost h (by decide)) (ne_of_isForbiddenInHost h (by decide))

lemma isHarmless_of_mem_digits {n : Nat} {c : Char} (h : c ∈ digits n) : isHarmless c = true := by
  have hdigit := allDigits_iff.mp (allDigits_digits n) c h
  simp [isHarmless, isUnreserved, Char.isAlphanum, hdigit]

/-! ## Parts -/

/-- **The credentials** are the two components before the one `@`. -/
lemma readCredentials_append {user password server : List Char} (hpassword : password ≠ [])
    (huserHarmless : ∀ c ∈ user, isHarmless c = true)
    (hpasswordHarmless : ∀ c ∈ password, isHarmless c = true)
    (hserver : ∀ c ∈ server, Manner.plain.endsAuthority c = false ∧ c ≠ '@') (path : List Char) :
    readCredentials .plain (user ++ ':' :: (password ++ '@' :: (server ++ '/' :: path))) =
      .ok (user, some password, server ++ '/' :: path) := by
  have hcredentials (c : Char) (hc : c ∈ user ++ ':' :: password) :
      Manner.plain.endsAuthority c = false := by
    rcases List.mem_append.mp hc with hc | hc
    · exact endsAuthority_of_isHarmless (huserHarmless c hc)
    · rcases List.mem_cons.mp hc with rfl | hc
      · decide
      · exact endsAuthority_of_isHarmless (hpasswordHarmless c hc)
  have hauthority (c : Char) (hc : c ∈ (user ++ ':' :: password) ++ '@' :: server) :
      (!Manner.plain.endsAuthority c) = true := by
    rcases List.mem_append.mp hc with hc | hc
    · rw [hcredentials c hc, Bool.not_false]
    · rcases List.mem_cons.mp hc with rfl | hc
      · decide
      · rw [(hserver c hc).1, Bool.not_false]
  have hat (c : Char) (hc : c ∈ server) : (c != '@') = true := bne_iff_ne.mpr (hserver c hc).2
  have hcolon (c : Char) (hc : c ∈ user) : (c != ':') = true :=
    bne_iff_ne.mpr (ne_of_isHarmless (huserHarmless c hc) (by decide))
  have hwhole : user ++ ':' :: (password ++ '@' :: (server ++ '/' :: path)) =
      ((user ++ ':' :: password) ++ '@' :: server) ++ '/' :: path := by simp
  have hrest : (((user ++ ':' :: password) ++ '@' :: server) ++ '/' :: path).drop
      ((user ++ ':' :: password).length + 1) = server ++ '/' :: path := by
    rw [List.append_assoc, ← List.drop_drop, List.drop_left]
    rfl
  have huserText : (user ++ ':' :: password).takeWhile (· != ':') = user :=
    takeWhile_append_cons hcolon (by decide) password
  have hpasswordText : (user ++ ':' :: password).dropWhile (· != ':') = ':' :: password :=
    dropWhile_append_cons hcolon (by decide) password
  have hfull : (user ++ ':' :: password).isEmpty = false := by simp
  rw [hwhole, readCredentials, takeWhile_append_cons hauthority (by decide)]
  generalize user ++ ':' :: password = credentials at *
  have hlength : (credentials ++ '@' :: server).length - server.length - 1 =
      credentials.length := by
    simp only [List.length_append, List.length_cons]
    omega
  have hcontains : (credentials ++ '@' :: server).contains '@' = true := by simp
  simp only [hcontains, reverse_takeWhile_reverse hat (by decide : ('@' != '@') = false), hlength,
    List.take_left, hfull, hrest, huserText, hpasswordText, Bool.not_true, Bool.false_eq_true,
    if_false, List.drop_succ_cons, List.drop_zero, List.isEmpty_eq_false_iff.mpr hpassword,
    encode_of_isHarmless huserHarmless, encode_of_isHarmless hpasswordHarmless]

lemma hostLength_append {host : List Char} (h : IsHostName host) (rest : List Char) :
    hostLength .plain false (host ++ ':' :: rest) = host.length := by
  replace h := h.allowed
  induction host with
  | nil => rfl
  | cons c host ih =>
      obtain ⟨hc, hhost⟩ := List.forall_mem_cons.mp h
      have hcolon : c ≠ ':' := ne_of_isForbiddenInHost hc (by decide)
      have hopening : c ≠ '[' := ne_of_isForbiddenInHost hc (by decide)
      have hclosing : c ≠ ']' := ne_of_isForbiddenInHost hc (by decide)
      simp only [List.cons_append, hostLength, hcolon, hopening, hclosing, beq_iff_eq,
        endsAuthority_of_isForbiddenInHost hc, Bool.and_eq_true, Bool.or_eq_true, false_and,
        Bool.false_eq_true, or_self, if_false, List.length_cons]
      rw [ih hhost]

lemma readHost_plain {host : List Char} (h : IsHostName host) :
    readHost .plain host = .ok (Part.opaqueText.encode host) := by
  have hopening : host.head? ≠ some '[' := by
    intro hhead
    exact ne_of_isForbiddenInHost (h.allowed '[' (List.mem_of_head? hhead)) (by decide) rfl
  have hallowed : host.any isForbiddenInHost = false := by
    simpa using h.allowed
  rw [readHost, if_neg hopening]
  simp only [hallowed, Bool.false_eq_true, if_false]

/-- A text of something is not encoded as nothing. -/
lemma percentEncode_ne_nil {refuses : Char → Bool} {cs : List Char} (h : cs ≠ []) :
    percentEncode refuses cs ≠ [] := by
  obtain ⟨c, cs, rfl⟩ := List.exists_cons_of_ne_nil h
  obtain ⟨x, y, rest, hbytes⟩ := exists_flatMap_percentByte_eq c
  rw [percentEncode, List.flatMap_cons]
  split
  · simp [hbytes]
  · simp

/-- Digits on the way to a port are not beyond the port. -/
lemma readPortDigits_eq {cs : List Char} (h : allDigits cs = true) {acc : Nat}
    (hbound : acc * 10 ^ cs.length + value cs ≤ 65535) :
    readPortDigits acc cs = .ok (acc * 10 ^ cs.length + value cs) := by
  induction cs generalizing acc with
  | nil => simp [readPortDigits, value]
  | cons c rest ih =>
      rw [allDigits_cons, Bool.and_eq_true] at h
      have hnext : (acc * 10 + digitValue c) * 10 ^ rest.length + value rest =
          acc * 10 ^ (c :: rest).length + value (c :: rest) := by
        rw [value_cons, List.length_cons, pow_succ]
        ring
      have hgrows : acc * 10 + digitValue c ≤ (acc * 10 + digitValue c) * 10 ^ rest.length :=
        Nat.le_mul_of_pos_right _ (by positivity)
      rw [readPortDigits, if_neg (by simp [h.1]; omega), ih h.2 (by omega), hnext]

/-- **The port** is what its digits denote. -/
lemma readPort_digits {port : Nat} (h : port ≤ 65535) (path : List Char) :
    readPort .plain (digits port ++ '/' :: path) = .ok (some port, '/' :: path) := by
  have hdigits (c : Char) (hc : c ∈ digits port) :
      (!(c == '/' || c == '\\' || c == '?' || c == '#')) = true := by
    have hharmless := isHarmless_of_mem_digits hc
    have hslash : c ≠ '/' := ne_of_isHarmless hharmless (by decide)
    have hback : c ≠ '\\' := ne_of_isHarmless hharmless (by decide)
    have hquery : c ≠ '?' := ne_of_isHarmless hharmless (by decide)
    have hfragment : c ≠ '#' := ne_of_isHarmless hharmless (by decide)
    simp [hslash, hback, hquery, hfragment]
  have hread : readPortDigits 0 (digits port) = .ok port := by
    rw [readPortDigits_eq (allDigits_digits port) (by rw [value_digits]; omega), value_digits,
      Nat.zero_mul, Nat.zero_add]
  have hend : (!('/' == '/' || '/' == '\\' || '/' == '?' || '/' == '#')) = false := rfl
  rw [readPort, takeWhile_append_cons hdigits hend, dropWhile_append_cons hdigits hend]
  simp [hread, digits_ne_nil]

/-- **A whole authority of given parts.** -/
lemma readAuthority_append {user password host : List Char} {port : Nat}
    (hpassword : password ≠ []) (huserHarmless : ∀ c ∈ user, isHarmless c = true)
    (hpasswordHarmless : ∀ c ∈ password, isHarmless c = true) (hhost : IsHostName host)
    (hport : port ≤ 65535) (path : List Char) :
    readAuthority .plain (user ++ ':' :: (password ++ '@' :: (host ++ ':' :: (digits port ++
        '/' :: path)))) =
      .ok (⟨user, some password, some (Part.opaqueText.encode host), some port⟩, '/' :: path) := by
  have hserver (c : Char) (hc : c ∈ host ++ ':' :: digits port) :
      Manner.plain.endsAuthority c = false ∧ c ≠ '@' := by
    rcases List.mem_append.mp hc with hc | hc
    · exact ⟨endsAuthority_of_isForbiddenInHost (hhost.allowed c hc),
        ne_of_isForbiddenInHost (hhost.allowed c hc) (by decide)⟩
    · rcases List.mem_cons.mp hc with rfl | hc
      · decide
      · have hharmless := isHarmless_of_mem_digits hc
        exact ⟨endsAuthority_of_isHarmless hharmless, ne_of_isHarmless hharmless (by decide)⟩
  have hcredentials := readCredentials_append hpassword huserHarmless hpasswordHarmless
    hserver path
  rw [List.append_assoc, List.cons_append] at hcredentials
  have hname : (Part.opaqueText.encode host).isEmpty = false :=
    List.isEmpty_eq_false_iff.mpr (percentEncode_ne_nil hhost.ne_nil)
  simp only [readAuthority, hcredentials, bind, Except.bind, hostLength_append hhost,
    List.take_left, List.drop_left, readHost_plain hhost, readPort_digits hport, hname,
    Bool.false_eq_true, false_and, if_false]
  rfl

end BoundSql.Url
