import HostScript.Text.Decimal
import Mathlib.Data.Int.Notation
import Mathlib.Data.List.Basic

/-!
# Numerals and boundaries in texts

Numerals are the usual ones, and reading one gives back the number that was written, so different numbers
have different numerals. Two texts that begin with characters of one kind and go on with another have one
such boundary each, and equal texts have it at the same place.
-/
namespace HostScript.Text

/-- What stands before the first character of another kind is determined by the whole text. -/
theorem eq_and_eq_of_append_eq {α : Type*} {p : α → Prop} {xs ys u v : List α}
    (hxs : ∀ c ∈ xs, p c) (hys : ∀ c ∈ ys, p c) (hu : ∀ c ∈ u.head?, ¬ p c)
    (hv : ∀ c ∈ v.head?, ¬ p c) (h : xs ++ u = ys ++ v) : xs = ys ∧ u = v := by
  induction xs generalizing ys with
  | nil =>
    cases ys with
    | nil => exact ⟨rfl, h⟩
    | cons d ys =>
      have hd : d ∈ u.head? := by rw [List.nil_append] at h; simp [h]
      exact absurd (hys d List.mem_cons_self) (hu d hd)
  | cons c xs ih =>
    cases ys with
    | nil =>
      have hc : c ∈ v.head? := by rw [List.nil_append] at h; simp [← h]
      exact absurd (hxs c List.mem_cons_self) (hv c hc)
    | cons d ys =>
      obtain ⟨hcd, htail⟩ := List.cons.inj h
      obtain ⟨hxy, huv⟩ := ih (fun a ha => hxs a (List.mem_cons_of_mem c ha))
        (fun a ha => hys a (List.mem_cons_of_mem d ha)) htail
      exact ⟨by rw [hcd, hxy], huv⟩

lemma decimalDigits_of_lt {n : ℕ} (h : n < 10) : decimalDigits n = [digitChar n] := by
  rw [decimalDigits, if_pos h]

lemma decimalDigits_of_le {n : ℕ} (h : 10 ≤ n) :
    decimalDigits n = decimalDigits (n / 10) ++ [digitChar n] := by
  rw [decimalDigits, if_neg (by omega)]

@[simp] theorem digitValue?_digitChar (n : ℕ) : digitValue? (digitChar n) = some (n % 10) := by
  have hall : ∀ m < 10, digitValue? (Char.ofNat (48 + m)) = some m := by decide
  exact hall (n % 10) (Nat.mod_lt n (by omega))

lemma isDigit_digitChar (n : ℕ) : (digitChar n).isDigit = true := by
  have hall : ∀ m < 10, (Char.ofNat (48 + m)).isDigit = true := by decide
  exact hall (n % 10) (Nat.mod_lt n (by omega))

theorem isDigit_of_mem_decimalDigits {n : ℕ} {c : Char} (hc : c ∈ decimalDigits n) :
    c.isDigit = true := by
  induction n using decimalDigits.induct with
  | case1 n h =>
    rw [decimalDigits_of_lt h, List.mem_singleton] at hc
    rw [hc, isDigit_digitChar]
  | case2 n h ih =>
    rw [decimalDigits_of_le (by omega), List.mem_append, List.mem_singleton] at hc
    rcases hc with hc | hc
    · exact ih hc
    · rw [hc, isDigit_digitChar]

theorem decimalDigits_ne_nil (n : ℕ) : decimalDigits n ≠ [] := by
  by_cases h : n < 10
  · simp [decimalDigits_of_lt h]
  · simp [decimalDigits_of_le (show 10 ≤ n by omega)]

/-- A reader goes on with the rest of the digits where it stands after the first ones. -/
lemma readDigits_append {limit value v : ℕ} {xs ys : List Char}
    (h : readDigits limit value xs = .ok v) :
    readDigits limit value (xs ++ ys) = readDigits limit v ys := by
  induction xs generalizing value with
  | nil =>
    rw [readDigits] at h
    rw [List.nil_append, Except.ok.inj h]
  | cons c xs ih =>
    rw [List.cons_append]
    simp only [readDigits] at h ⊢
    cases hc : digitValue? c with
    | none => simp [hc] at h
    | some d =>
      simp only [hc] at h ⊢
      by_cases hd : value * 10 + d < limit
      · rw [if_pos hd] at h ⊢
        exact ih h
      · simp [if_neg hd] at h

/-- Reading a numeral gives the number back. No value on the way reaches the limit. -/
theorem readDigits_decimalDigits {limit n : ℕ} (h : n < limit) :
    readDigits limit 0 (decimalDigits n) = .ok n := by
  induction n using decimalDigits.induct with
  | case1 n hn =>
    rw [decimalDigits_of_lt hn]
    simp [readDigits, Nat.mod_eq_of_lt hn, h]
  | case2 n hn ih =>
    rw [decimalDigits_of_le (by omega), readDigits_append (ih (by omega))]
    have hvalue : n / 10 * 10 + n % 10 = n := by omega
    simp [readDigits, hvalue, h]

theorem decimalDigits_injective : Function.Injective decimalDigits := by
  intro m n h
  have hm : readDigits (m + n + 1) 0 (decimalDigits m) = .ok m :=
    readDigits_decimalDigits (by omega)
  have hn : readDigits (m + n + 1) 0 (decimalDigits n) = .ok n :=
    readDigits_decimalDigits (by omega)
  rw [h, hn] at hm
  exact (Except.ok.inj hm).symm

lemma decimalDigits_eq_toDigits (n : ℕ) : decimalDigits n = Nat.toDigits 10 n := by
  have hdigit : ∀ m < 10, Char.ofNat (48 + m) = Nat.digitChar m := by decide
  induction n using decimalDigits.induct with
  | case1 n h =>
    rw [decimalDigits_of_lt h, Nat.toDigits_of_lt_base h, digitChar, Nat.mod_eq_of_lt h, hdigit n h]
  | case2 n h ih =>
    rw [decimalDigits_of_le (by omega), Nat.toDigits_of_base_le (by omega) (by omega), ih, digitChar,
      hdigit _ (Nat.mod_lt n (by omega))]

/-- The numeral of a natural number is the usual one. -/
lemma natural_eq_toString (n : ℕ) : natural n = toString n := by
  rw [natural, decimalDigits_eq_toDigits]
  rfl

/-- The numeral of an integer is the usual one. -/
lemma integer_eq_toString (n : ℤ) : integer n = toString n := by
  rw [integer]
  cases n with
  | ofNat n =>
    rw [integerDigits, decimalDigits_eq_toDigits]
    rfl
  | negSucc n =>
    have hminus : toString (Int.negSucc n) = "-" ++ String.ofList (Nat.toDigits 10 (n + 1)) := rfl
    rw [integerDigits, decimalDigits_eq_toDigits, hminus, ← String.toList_inj]
    simp

/-- The characters of the numerals of integers. -/
def IsNumeral (c : Char) : Prop := c.isDigit = true ∨ c = '-'

theorem isNumeral_of_mem_integerDigits {n : ℤ} {c : Char} (hc : c ∈ integerDigits n) :
    IsNumeral c := by
  cases n with
  | ofNat n => exact .inl (isDigit_of_mem_decimalDigits hc)
  | negSucc n =>
    rcases List.mem_cons.mp hc with hc | hc
    · exact .inr hc
    · exact .inl (isDigit_of_mem_decimalDigits hc)

theorem integerDigits_ne_nil (n : ℤ) : integerDigits n ≠ [] := by
  cases n with
  | ofNat n => exact decimalDigits_ne_nil n
  | negSucc n => simp [integerDigits]

lemma decimalDigits_ne_minus (m n : ℕ) : decimalDigits m ≠ '-' :: decimalDigits n := by
  intro h
  have hminus : '-' ∈ decimalDigits m := by rw [h]; exact List.mem_cons_self
  exact absurd (isDigit_of_mem_decimalDigits hminus) (by decide)

theorem integerDigits_injective : Function.Injective integerDigits := by
  intro m n h
  cases m with
  | ofNat m =>
    cases n with
    | ofNat n => rw [decimalDigits_injective h]
    | negSucc n => exact absurd h (decimalDigits_ne_minus m (n + 1))
  | negSucc m =>
    cases n with
    | ofNat n => exact absurd h.symm (decimalDigits_ne_minus n (m + 1))
    | negSucc n =>
      have hmn := decimalDigits_injective (List.cons.inj h).2
      rw [Nat.succ.inj hmn]

end HostScript.Text
