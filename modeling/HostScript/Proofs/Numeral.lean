import HostScript.Json.Numeral
import HostScript.Proofs.Text
import Mathlib.Tactic.Lemma

/-!
# Numbers read back

A number that is written in JSON is read back as itself. A written whole part has no leading zeros, so
that the grammar takes it, and no digit stands behind it that could be taken for one of its own.
-/
namespace HostScript

namespace Text

lemma head?_decimalDigits {n : ℕ} (h : (decimalDigits n).head? = some '0') : n = 0 := by
  induction n using decimalDigits.induct with
  | case1 n hn =>
    rw [decimalDigits_of_lt hn] at h
    have hdigit := digitValue?_digitChar n
    rw [Option.some.inj h] at hdigit
    have hzero : n % 10 = 0 := (Option.some.inj hdigit).symm
    omega
  | case2 n hn ih =>
    obtain ⟨c, cs, hcons⟩ := List.exists_cons_of_ne_nil (decimalDigits_ne_nil (n / 10))
    rw [decimalDigits_of_le (by omega), hcons, List.cons_append, List.head?_cons] at h
    have hzero := ih (by rw [hcons]; exact h)
    omega

lemma length_decimalDigits_le {n k : ℕ} (hk : 0 < k) (h : n < Nat.pow 10 k) :
    (decimalDigits n).length ≤ k := by
  induction n using decimalDigits.induct generalizing k with
  | case1 n hn =>
    rw [decimalDigits_of_lt hn]
    exact hk
  | case2 n hn ih =>
    cases k with
    | zero => omega
    | succ k =>
      rw [decimalDigits_of_le (by omega), List.length_append, List.length_singleton]
      have hpow : n < Nat.pow 10 k * 10 := h
      have hpos : 0 < k := by
        by_contra hzero
        obtain rfl : k = 0 := by omega
        have hone : Nat.pow 10 0 = 1 := rfl
        omega
      have hlength := ih hpos (by omega)
      omega

end Text

namespace Numeral

lemma isDigit_eq (c : Char) : isDigit c = c.isDigit := by
  have hle (c d : Char) : c ≤ d ↔ c.toNat ≤ d.toNat := Iff.rfl
  by_cases h : '0' ≤ c ∧ c ≤ '9'
  · simp only [isDigit, Text.digitValue?, if_pos h, Option.isSome_some]
    rw [hle, hle] at h
    exact (Char.isDigit_iff_toNat.mpr h).symm
  · simp only [isDigit, Text.digitValue?, if_neg h, Option.isSome_none]
    rw [hle, hle] at h
    exact (Bool.eq_false_iff.mpr fun hdigit => h (Char.isDigit_iff_toNat.mp hdigit)).symm

lemma isDigit_of_mem {n : ℕ} {c : Char} (h : c ∈ Text.decimalDigits n) : isDigit c = true := by
  rw [isDigit_eq]
  exact Text.isDigit_of_mem_decimalDigits h

/-- The digits end where something else begins. -/
lemma takeWhile_decimalDigits (n : ℕ) (rest : List Char)
    (h : rest.head?.all (fun c => !isDigit c) = true) :
    (Text.decimalDigits n ++ rest).takeWhile isDigit = Text.decimalDigits n ∧
      (Text.decimalDigits n ++ rest).dropWhile isDigit = rest := by
  have hdigits : ∀ c ∈ Text.decimalDigits n, isDigit c = true := fun c => isDigit_of_mem
  rw [List.takeWhile_append_of_pos hdigits, List.dropWhile_append_of_pos hdigits]
  cases rest with
  | nil => simp
  | cons c rest =>
    have hc : isDigit c = false := by simpa using h
    simp [hc]

lemma ofDigits_nil (value : ℕ) : ofDigits value [] = value := rfl

lemma ofDigits_cons (value : ℕ) (c : Char) (cs : List Char) :
    ofDigits value (c :: cs) = ofDigits (value * 10 + (c.toNat - 48)) cs := by
  rfl

lemma ofDigits_append (value : ℕ) (xs ys : List Char) :
    ofDigits value (xs ++ ys) = ofDigits (ofDigits value xs) ys := by
  induction xs generalizing value with
  | nil => rfl
  | cons c xs ih => exact ih _

lemma ofDigits_singleton (value : ℕ) (c : Char) :
    ofDigits value [c] = value * 10 + (c.toNat - 48) := rfl

lemma ofDigits_digitChar (value n : ℕ) :
    ofDigits value [Text.digitChar n] = value * 10 + n % 10 := by
  have hdigit := Text.digitValue?_digitChar n
  simp only [Text.digitValue?, Option.ite_none_right_eq_some, Option.some.injEq] at hdigit
  rw [ofDigits_singleton, hdigit.2]

lemma ofDigits_decimalDigits (n : ℕ) : ofDigits 0 (Text.decimalDigits n) = n := by
  induction n using Text.decimalDigits.induct with
  | case1 n hn =>
    rw [Text.decimalDigits_of_lt hn, ofDigits_digitChar]
    omega
  | case2 n hn ih =>
    rw [Text.decimalDigits_of_le (by omega), ofDigits_append, ih, ofDigits_digitChar]
    omega

/-- A whole part is neither empty nor begins with a needless zero. -/
lemma wellFormed_decimalDigits (n : ℕ) :
    ((Text.decimalDigits n).isEmpty || (1 < (Text.decimalDigits n).length &&
      (Text.decimalDigits n).head? = some '0')) = false := by
  have hne := Text.decimalDigits_ne_nil n
  by_cases hzero : n = 0
  · rw [hzero, Text.decimalDigits_of_lt (by decide)]
    decide
  · have hhead : (Text.decimalDigits n).head? ≠ some '0' :=
      fun h => hzero (Text.head?_decimalDigits h)
    simp [hne, hhead]

/-- Digits begin with no sign. -/
lemma exists_decimalDigits_eq_cons (n : ℕ) :
    ∃ c cs, Text.decimalDigits n = c :: cs ∧ c ≠ '-' ∧ c ≠ '+' := by
  obtain ⟨c, cs, hcons⟩ := List.exists_cons_of_ne_nil (Text.decimalDigits_ne_nil n)
  have hdigit : isDigit c = true := isDigit_of_mem (by rw [hcons]; exact List.mem_cons_self)
  refine ⟨c, cs, hcons, ?_, ?_⟩
  · rintro rfl
    exact absurd hdigit (by decide)
  · rintro rfl
    exact absurd hdigit (by decide)

lemma readExponent_integerDigits (e : ℤ) :
    readExponent ('e' :: Text.integerDigits e) = some (some e) := by
  have hall (n : ℕ) : (Text.decimalDigits n).all isDigit = true :=
    List.all_eq_true.mpr fun c => isDigit_of_mem
  cases e with
  | ofNat n =>
    obtain ⟨c, cs, hcons, hminus, hplus⟩ := exists_decimalDigits_eq_cons n
    have hdigits := hall n
    have hvalue := ofDigits_decimalDigits n
    rw [hcons] at hdigits hvalue
    simp [readExponent, Text.integerDigits, hcons, hminus, hplus, hdigits, hvalue]
  | negSucc n =>
    simp [readExponent, Text.integerDigits, Text.decimalDigits_ne_nil, hall,
      ofDigits_decimalDigits, Int.negSucc_eq]

lemma readUnsigned_decimalDigits (negative : Bool) (n : ℕ) :
    readUnsigned negative (Text.decimalDigits n) =
      if negative then (if n = 0 then some (.decimal true 0 0) else some (.integer (-n)))
      else some (.integer n) := by
  obtain ⟨htake, hdrop⟩ := takeWhile_decimalDigits n [] rfl
  rw [List.append_nil] at htake hdrop
  simp only [readUnsigned, htake, hdrop, wellFormed_decimalDigits, ofDigits_decimalDigits,
    readExponent, Bool.false_eq_true, if_false]

lemma readUnsigned_exponent (negative : Bool) (n : ℕ) (e : ℤ) :
    readUnsigned negative (Text.decimalDigits n ++ 'e' :: Text.integerDigits e) =
      some (.decimal negative n e) := by
  have hend : ('e' :: Text.integerDigits e).head?.all (fun c => !isDigit c) = true := by
    rw [List.head?_cons]
    decide
  obtain ⟨htake, hdrop⟩ := takeWhile_decimalDigits n _ hend
  simp only [readUnsigned, htake, hdrop, wellFormed_decimalDigits, ofDigits_decimalDigits,
    readExponent_integerDigits, Bool.false_eq_true, if_false]
  rfl

lemma read?_decimalDigits_append (n : ℕ) (rest : List Char) :
    read? (Text.decimalDigits n ++ rest) = readUnsigned false (Text.decimalDigits n ++ rest) := by
  obtain ⟨c, cs, hcons, hminus, -⟩ := exists_decimalDigits_eq_cons n
  rw [hcons, List.cons_append]
  exact read?.eq_2 _ fun _ h => hminus (List.cons.inj h).1

/-- Reading a number gives back the number that was written. -/
theorem read?_chars (n : Numeral) : read? n.chars = some n := by
  cases n with
  | integer n =>
    cases n with
    | ofNat n =>
      have happend := read?_decimalDigits_append n []
      rw [List.append_nil, readUnsigned_decimalDigits] at happend
      simpa [chars, Text.integerDigits] using happend
    | negSucc n =>
      rw [chars, Text.integerDigits, read?, readUnsigned_decimalDigits]
      simp [Int.negSucc_eq]
  | decimal negative mantissa exponent =>
    cases negative with
    | false =>
      simp only [chars, Bool.false_eq_true, if_false, List.nil_append]
      rw [read?_decimalDigits_append, readUnsigned_exponent]
    | true =>
      simp only [chars, if_true, List.cons_append, List.nil_append]
      rw [read?, readUnsigned_exponent]

/-- A number begins with a digit or a minus sign. -/
lemma exists_chars_eq_cons (n : Numeral) :
    ∃ c cs, n.chars = c :: cs ∧ (c = '-' ∨ isDigit c = true) := by
  have hdigits (n : ℕ) : ∃ c cs, Text.decimalDigits n = c :: cs ∧ isDigit c = true := by
    obtain ⟨c, cs, hcons⟩ := List.exists_cons_of_ne_nil (Text.decimalDigits_ne_nil n)
    exact ⟨c, cs, hcons, isDigit_of_mem (by rw [hcons]; exact List.mem_cons_self)⟩
  cases n with
  | integer n =>
    cases n with
    | ofNat n =>
      obtain ⟨c, cs, hcons, hc⟩ := hdigits n
      exact ⟨c, cs, hcons, .inr hc⟩
    | negSucc n => exact ⟨'-', _, rfl, .inl rfl⟩
  | decimal negative mantissa exponent =>
    cases negative with
    | false =>
      obtain ⟨c, cs, hcons, hc⟩ := hdigits mantissa
      exact ⟨c, cs ++ 'e' :: Text.integerDigits exponent, by simp [chars, hcons], .inr hc⟩
    | true => exact ⟨'-', _, rfl, .inl rfl⟩

end Numeral

end HostScript
