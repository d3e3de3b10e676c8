import Mathlib.Data.List.Basic
import Mathlib.Tactic.Lemma

/-!
# Association lists

Rows of keys with values, in which the first value of a key counts.
-/
namespace HostScript

variable {α β : Type} [BEq α] [LawfulBEq α]

/-- When only its key decides whether a row stays, the first row of a key is still the first one. -/
theorem lookup_filter_fst (stays : α → Bool) (rows : List (α × β)) (a : α) :
    (rows.filter fun row => stays row.1).lookup a = if stays a then rows.lookup a else none := by
  induction rows with
  | nil => simp
  | cons row rows ih =>
    obtain ⟨key, value⟩ := row
    by_cases hkey : a = key
    · subst hkey
      by_cases hstays : stays a = true
      · simp [hstays]
      · rw [List.filter_cons_of_neg (by simpa using hstays), ih, if_neg hstays, if_neg hstays]
    · have hne : (a == key) = false := beq_false_of_ne hkey
      by_cases hstays : stays key = true
      · rw [List.filter_cons_of_pos (by simpa using hstays), List.lookup_cons, List.lookup_cons, hne, ih]
      · rw [List.filter_cons_of_neg (by simpa using hstays), List.lookup_cons, hne, ih]

/-- Where no key comes twice, the value of every row is found. -/
theorem lookup_eq_some_of_mem {rows : List (α × β)} (hnodup : (rows.map Prod.fst).Nodup) {a : α}
    {b : β} (h : (a, b) ∈ rows) : rows.lookup a = some b := by
  induction rows with
  | nil => contradiction
  | cons row rows ih =>
    obtain ⟨key, value⟩ := row
    rw [List.map_cons, List.nodup_cons] at hnodup
    rcases List.mem_cons.mp h with heq | h
    · cases heq
      rw [List.lookup_cons_self]
    · have hne : (a == key) = false :=
        beq_false_of_ne fun heq => hnodup.1 (List.mem_map.mpr ⟨_, h, heq⟩)
      rw [List.lookup_cons, hne]
      exact ih hnodup.2 h

end HostScript
