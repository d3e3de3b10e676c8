import HostScript.Drawing
import HostScript.Text.Blank
import Mathlib.Data.List.Basic

/-!
# Texts that name a kind of drawing

Lower case is that of the whole of Unicode. Outside ASCII there is one character only whose lower case is
within, the Kelvin sign, and the letter it becomes is in no spelling of a kind of drawing. So a text names a
kind exactly when it is ASCII and one of the spellings but for the case of its letters and for underscores.
-/
namespace HostScript

namespace Text

/-! ## Lower case and ASCII -/

/-- The characters of ASCII. -/
def IsAscii (c : Char) : Prop := c.toNat < 0x80

instance : DecidablePred IsAscii := fun c => inferInstanceAs (Decidable (c.toNat < 0x80))

/-- The Kelvin sign, whose lower case is the letter k. -/
def kelvinSign : Char := Char.ofNat 0x212A

/-- What holds of the characters of 128 numbers holds of ASCII. -/
lemma forall_isAscii {p : Char → Prop} (hp : ∀ n < 0x80, p (Char.ofNat n)) : ∀ c, IsAscii c → p c := by
  intro c hc
  rw [← Char.ofNat_toNat c]
  exact hp c.toNat hc

lemma isAscii_toLower : ∀ c, IsAscii c → IsAscii c.toLower :=
  forall_isAscii (by decide +kernel)

/-- The lower case of a character between those before it, nearest first, and those behind it. -/
def lowerBetween (before : List Char) (c : Char) (behind : List Char) : List Char :=
  if c.toNat = 0x3A3 then
    if meetsLetter before && !meetsLetter behind then [Char.ofNat 0x3C2] else [Char.ofNat 0x3C3]
  else lowerChar c

lemma lowerFrom_cons (before : List Char) (c : Char) (cs : List Char) :
    lowerFrom before (c :: cs) = lowerBetween before c cs ++ lowerFrom (c :: before) cs := rfl

/-- The run of the ASCII letters. -/
def letterRun : CaseRun := ⟨0x41, 0x5A, 1, 32⟩

/-- It is the only run that begins within ASCII. -/
lemma find?_lowerRuns_of_lt {n : ℕ} (hn : n < 0x80) :
    lowerRuns.find? (·.maps n) = [letterRun].find? (·.maps n) := by
  have hruns : lowerRuns = [letterRun] ++ lowerRuns.tail := rfl
  have hfirst : ∀ r ∈ lowerRuns.tail, 0x80 ≤ r.first := by decide +kernel
  have hnone : lowerRuns.tail.find? (·.maps n) = none := by
    rw [List.find?_eq_none]
    intro r hr hmaps
    have hle := hfirst r hr
    simp only [CaseRun.maps, Bool.and_eq_true, decide_eq_true_eq] at hmaps
    omega
  rw [hruns, List.find?_append, hnone, Option.or_none]

/-- A run lies within ASCII, or it is the one for the Kelvin sign, or neither it nor its lower case meets
ASCII. -/
lemma ascii_or_kelvinSign_or_above : ∀ r ∈ lowerRuns, r.last < 0x80 ∨
    (r.first = 0x212A ∧ r.last = 0x212A) ∨
    (0x80 ≤ r.first + r.offset ∧ r.last + r.offset < 0xD800) ∨
    (0xDFFF < r.first + r.offset ∧ r.last + r.offset < 0x110000) := by
  decide +kernel

/-- Only the Kelvin sign is mapped into ASCII from outside. -/
lemma not_isAscii_of_maps {r : CaseRun} (hr : r ∈ lowerRuns) {c : Char} (hmaps : r.maps c.toNat = true)
    (hc : ¬ IsAscii c) (hkelvin : c ≠ kelvinSign) : ¬ IsAscii (Char.ofNat (c.toNat + r.offset).toNat) := by
  have hrange : r.first ≤ c.toNat ∧ c.toNat ≤ r.last := by
    simp only [CaseRun.maps, Bool.and_eq_true, decide_eq_true_eq] at hmaps
    exact hmaps.1
  have hcode : c.toNat ≠ 0x212A := by
    intro heq
    exact hkelvin (by rw [kelvinSign, ← heq, Char.ofNat_toNat])
  rw [IsAscii] at hc ⊢
  obtain ⟨hvalid, habove⟩ :
      (c.toNat + r.offset).toNat.isValidChar ∧ 0x80 ≤ (c.toNat + r.offset).toNat := by
    rw [Nat.isValidChar]
    rcases ascii_or_kelvinSign_or_above r hr with hascii | hsign | hlow | hhigh <;> omega
  have hvalue : (Char.ofNat (c.toNat + r.offset).toNat).toNat = (c.toNat + r.offset).toNat := by
    rw [Char.ofNat, dif_pos hvalid]
    rfl
  omega

lemma lowerChar_of_isAscii (c : Char) (hc : IsAscii c) : lowerChar c = [c.toLower] := by
  have hdotted : c.toNat ≠ 0x130 := by
    rw [IsAscii] at hc
    omega
  rw [lowerChar, if_neg hdotted, find?_lowerRuns_of_lt hc]
  clear hdotted
  revert c
  exact forall_isAscii (by decide +kernel)

lemma lowerBetween_of_isAscii {c : Char} (hc : IsAscii c) (before behind : List Char) :
    lowerBetween before c behind = [c.toLower] := by
  have hsigma : c.toNat ≠ 0x3A3 := by
    rw [IsAscii] at hc
    omega
  rw [lowerBetween, if_neg hsigma, lowerChar_of_isAscii c hc]

lemma lowerBetween_kelvinSign (before behind : List Char) :
    lowerBetween before kelvinSign behind = ['k'] := by
  have hsigma : kelvinSign.toNat ≠ 0x3A3 := by decide
  have hlower : lowerChar kelvinSign = ['k'] := by decide +kernel
  rw [lowerBetween, if_neg hsigma, hlower]

/-- The lower case of any other character has something in it that is not ASCII. -/
lemma exists_mem_lowerBetween {c : Char} (hc : ¬ IsAscii c) (hkelvin : c ≠ kelvinSign)
    (before behind : List Char) : ∃ d ∈ lowerBetween before c behind, ¬ IsAscii d := by
  rw [lowerBetween]
  by_cases hsigma : c.toNat = 0x3A3
  · rw [if_pos hsigma]
    split
    · exact ⟨_, List.mem_singleton_self _, by decide⟩
    · exact ⟨_, List.mem_singleton_self _, by decide⟩
  · rw [if_neg hsigma, lowerChar]
    by_cases hdotted : c.toNat = 0x130
    · -- The first of the two characters is the letter i, the second a dot above.
      rw [if_pos hdotted]
      exact ⟨Char.ofNat 0x307, by simp, by decide⟩
    · rw [if_neg hdotted]
      cases hfind : lowerRuns.find? (·.maps c.toNat) with
      | none => exact ⟨c, List.mem_singleton_self c, hc⟩
      | some r =>
        have hmaps := List.find?_some hfind
        exact ⟨_, List.mem_singleton_self _,
          not_isAscii_of_maps (List.mem_of_find?_eq_some hfind) hmaps hc hkelvin⟩

/-- The lower case of a text is put together from the lower cases of its characters. -/
lemma mem_lowerFrom_iff {before cs : List Char} {d : Char} : d ∈ lowerFrom before cs ↔
    ∃ front c behind, cs = front ++ c :: behind ∧ d ∈ lowerBetween (front.reverse ++ before) c behind := by
  induction cs generalizing before with
  | nil => simp [lowerFrom]
  | cons c cs ih =>
    rw [lowerFrom_cons, List.mem_append, ih]
    constructor
    · rintro (hfirst | ⟨front, e, behind, rfl, hrest⟩)
      · exact ⟨[], c, cs, rfl, hfirst⟩
      · exact ⟨c :: front, e, behind, rfl, by simpa using hrest⟩
    · rintro ⟨front, e, behind, heq, hd⟩
      cases front with
      | nil =>
        obtain ⟨rfl, rfl⟩ := List.cons.inj heq
        exact .inl hd
      | cons f front =>
        obtain ⟨rfl, rfl⟩ := List.cons.inj heq
        exact .inr ⟨front, e, behind, rfl, by simpa using hd⟩

lemma lowerFrom_of_isAscii {cs : List Char} (hcs : ∀ c ∈ cs, IsAscii c) (before : List Char) :
    lowerFrom before cs = cs.map Char.toLower := by
  induction cs generalizing before with
  | nil => rfl
  | cons c cs ih =>
    rw [List.forall_mem_cons] at hcs
    rw [lowerFrom_cons, lowerBetween_of_isAscii hcs.1, ih hcs.2]
    rfl

/-- The lower case of a text is ASCII if the text is, but for Kelvin signs. -/
theorem isAscii_lowerCase_iff {s : String} : (∀ d ∈ (lowerCase s).toList, IsAscii d) ↔
    ∀ c ∈ s.toList, IsAscii c ∨ c = kelvinSign := by
  rw [lowerCase, String.toList_ofList]
  constructor
  · intro h c hc
    obtain ⟨front, behind, hs⟩ := List.append_of_mem hc
    by_contra hother
    rw [not_or] at hother
    obtain ⟨d, hd, hnot⟩ := exists_mem_lowerBetween hother.1 hother.2 (front.reverse ++ []) behind
    exact hnot (h d (mem_lowerFrom_iff.mpr ⟨front, c, behind, hs, hd⟩))
  · intro h d hd
    obtain ⟨front, c, behind, hs, hd⟩ := mem_lowerFrom_iff.mp hd
    rcases h c (by simp [hs]) with hc | rfl
    · rw [lowerBetween_of_isAscii hc, List.mem_singleton] at hd
      rw [hd]
      exact isAscii_toLower c hc
    · rw [lowerBetween_kelvinSign, List.mem_singleton] at hd
      rw [hd]
      decide

/-- A Kelvin sign leaves a letter behind. -/
lemma k_mem_lowerCase {s : String} (h : kelvinSign ∈ s.toList) : 'k' ∈ (lowerCase s).toList := by
  obtain ⟨front, behind, hs⟩ := List.append_of_mem h
  rw [lowerCase, String.toList_ofList, mem_lowerFrom_iff]
  exact ⟨front, kelvinSign, behind, hs, by simp [lowerBetween_kelvinSign]⟩

example : lowerCase "\u212A\u0130\u03A3 \u03A3" = "ki\u0307\u03C2 \u03C3" := by decide +kernel

end Text

namespace Drawing

/-! ## Spellings -/

/-- The spellings of the kinds. -/
inductive KnownAs : Drawing → String → Prop
  | singlePart : KnownAs .singlePart "single-part"
  | single : KnownAs .singlePart "single"
  | w : KnownAs .singlePart "w"
  | assembly : KnownAs .assembly "assembly"
  | a : KnownAs .assembly "a"
  | castUnit : KnownAs .castUnit "cast-unit"
  | cu : KnownAs .castUnit "cu"
  | generalArrangement : KnownAs .generalArrangement "general-arrangement"
  | ga : KnownAs .generalArrangement "ga"
  | g : KnownAs .generalArrangement "g"

/-- An ASCII text with its letters in lower case and with hyphens for underscores. -/
def asciiSpelling (s : String) : String :=
  String.ofList (s.toList.map fun c => if c = '_' then '-' else c.toLower)

variable {k : Drawing} {s t : String}

lemma mem_all (k : Drawing) : k ∈ all := by cases k <;> decide

lemma knownAs_iff : KnownAs k t ↔ t ∈ k.spellings := by
  constructor
  · rintro ⟨⟩ <;> decide
  · cases k <;> simp only [spellings, List.mem_cons, List.not_mem_nil, or_false]
    · rintro (rfl | rfl | rfl)
      exacts [.singlePart, .single, .w]
    · rintro (rfl | rfl)
      exacts [.assembly, .a]
    · rintro (rfl | rfl)
      exacts [.castUnit, .cu]
    · rintro (rfl | rfl | rfl)
      exacts [.generalArrangement, .ga, .g]

/-- A spelling belongs to one kind. -/
lemma eq_of_mem_spellings {j : Drawing} (hj : t ∈ j.spellings) (hk : t ∈ k.spellings) : j = k := by
  have hall : ∀ j ∈ all, ∀ k ∈ all, ∀ t ∈ j.spellings, t ∈ k.spellings → j = k := by decide +kernel
  exact hall j (mem_all j) k (mem_all k) t hj hk

/-- Spellings are ASCII, and neither the letter k nor a blank is in them. -/
lemma of_mem_spellings (ht : t ∈ k.spellings) {c : Char} (hc : c ∈ t.toList) :
    Text.IsAscii c ∧ c ≠ 'k' ∧ Text.isBlank c = false := by
  have hall : k.spellings.all (fun t => t.toList.all fun c =>
      Text.IsAscii c ∧ c ≠ 'k' ∧ Text.isBlank c = false) = true := by cases k <;> decide
  have hchars := List.all_eq_true.mp hall t ht
  exact of_decide_eq_true (List.all_eq_true.mp hchars c hc)

lemma find?_eq_some_iff : all.find? (fun j => j.spellings.contains t) = some k ↔ t ∈ k.spellings := by
  constructor
  · intro hfind
    have hcontains := List.find?_some hfind
    exact List.contains_iff_mem.mp hcontains
  · intro hk
    cases hfind : all.find? (fun j => j.spellings.contains t) with
    | none =>
      have hnone := List.find?_eq_none.mp hfind k (mem_all k)
      exact absurd (List.contains_iff_mem.mpr hk) hnone
    | some j =>
      have hcontains := List.find?_some hfind
      rw [eq_of_mem_spellings (List.contains_iff_mem.mp hcontains) hk]

lemma ofText_eq_ok_iff_mem : ofText s = .ok k ↔ plainSpelling s ∈ k.spellings := by
  rw [ofText, ← find?_eq_some_iff]
  cases all.find? (fun j => j.spellings.contains (plainSpelling s)) <;> simp

/-- A text that names no kind is refused with the spelling that was looked for. -/
lemma ofText_eq_error (h : ∀ k, ofText s ≠ .ok k) :
    ofText s = .error (.unknownDrawing (plainSpelling s)) := by
  rw [ofText] at h ⊢
  cases hfind : all.find? (fun j => j.spellings.contains (plainSpelling s)) with
  | none => rfl
  | some k => exact absurd (by rw [hfind]) (h k)

lemma message_unknownDrawing (t : String) : (Fault.unknownDrawing t).message =
    "Invalid argument: unknown drawing kind: " ++ t := by
  have hparts : (Fault.unknownDrawing t).message =
      "Invalid argument" ++ ": " ++ ("unknown drawing kind: " ++ t) := rfl
  have hfront : "Invalid argument" ++ ": " ++ "unknown drawing kind: " =
      "Invalid argument: unknown drawing kind: " := by decide
  rw [hparts, ← String.append_assoc, hfront]

/-! ## Recognition -/

lemma plainSpelling_of_isAscii (hs : ∀ c ∈ s.toList, Text.IsAscii c) : plainSpelling s = asciiSpelling s := by
  have hchar : ∀ c, Text.IsAscii c → (if c.toLower = '_' then '-' else c.toLower) =
      if c = '_' then '-' else c.toLower := Text.forall_isAscii (by decide +kernel)
  rw [plainSpelling, asciiSpelling, Text.lowerCase, String.toList_ofList, Text.lowerFrom_of_isAscii hs,
    List.map_map, String.ofList_inj]
  exact List.map_congr_left fun c hc => hchar c (hs c hc)

/-- The characters of the lower case, which hyphens for underscores make a spelling. -/
lemma of_mem_lowerCase (h : plainSpelling s ∈ k.spellings) {d : Char} (hd : d ∈ (Text.lowerCase s).toList) :
    Text.IsAscii d ∧ d ≠ 'k' := by
  have hmem : (if d = '_' then '-' else d) ∈ (plainSpelling s).toList := by
    rw [plainSpelling, String.toList_ofList]
    exact List.mem_map_of_mem hd
  have hchar := of_mem_spellings h hmem
  by_cases hline : d = '_'
  · subst hline
    decide
  · rw [if_neg hline] at hchar
    exact ⟨hchar.1, hchar.2.1⟩

/-- A text whose lower case is spelled like a kind is ASCII from the start. -/
lemma isAscii_of_plainSpelling (h : plainSpelling s ∈ k.spellings) : ∀ c ∈ s.toList, Text.IsAscii c := by
  intro c hc
  have hlower : ∀ d ∈ (Text.lowerCase s).toList, Text.IsAscii d := fun d hd => (of_mem_lowerCase h hd).1
  rcases Text.isAscii_lowerCase_iff.mp hlower c hc with hascii | rfl
  · exact hascii
  · exact absurd rfl (of_mem_lowerCase h (Text.k_mem_lowerCase hc)).2

lemma ofText_eq_ok_iff_knownAs :
    ofText s = .ok k ↔ (∀ c ∈ s.toList, Text.IsAscii c) ∧ KnownAs k (asciiSpelling s) := by
  rw [ofText_eq_ok_iff_mem, knownAs_iff]
  constructor
  · intro h
    have hs := isAscii_of_plainSpelling h
    exact ⟨hs, plainSpelling_of_isAscii hs ▸ h⟩
  · rintro ⟨hs, h⟩
    rwa [plainSpelling_of_isAscii hs]

/-- No blank is in a text that names a kind, neither around it nor within. -/
lemma isBlank_of_knownAs (hs : ∀ c ∈ s.toList, Text.IsAscii c) (h : KnownAs k (asciiSpelling s)) {c : Char}
    (hc : c ∈ s.toList) : Text.isBlank c = false := by
  have hmem : (if c = '_' then '-' else c.toLower) ∈ (asciiSpelling s).toList := by
    rw [asciiSpelling, String.toList_ofList]
    exact List.mem_map_of_mem hc
  have hchar := (of_mem_spellings (knownAs_iff.mp h) hmem).2.2
  have hall : ∀ c, Text.IsAscii c → Text.isBlank (if c = '_' then '-' else c.toLower) = false →
      Text.isBlank c = false := Text.forall_isAscii (by decide +kernel)
  exact hall c (hs c hc) hchar

/-- What a text names, and how it is refused. -/
structure Recognition (s : String) : Prop where
  /-- A text names a kind if it is ASCII and, but for the case of its letters and for underscores, one of the
  spellings of the kind. -/
  names_iff : ∀ k, ofText s = .ok k ↔ (∀ c ∈ s.toList, Text.IsAscii c) ∧ KnownAs k (asciiSpelling s)
  /-- No other character makes up for one of a spelling, whatever its lower case is, and blanks are not cut
  off. -/
  names_nothing : (∃ c ∈ s.toList, ¬ Text.IsAscii c ∨ Text.isBlank c = true) → ∀ k, ofText s ≠ .ok k
  /-- What names no kind is an invalid argument, and the lower case is reported. -/
  refused : (∀ k, ofText s ≠ .ok k) → ∃ e, ofText s = .error e ∧ e.kind = .invalidArgument ∧
    e.message = "Invalid argument: unknown drawing kind: " ++ plainSpelling s

/-- Every text is recognized by the rules of ASCII, although its lower case is that of Unicode. -/
theorem recognition (s : String) : Recognition s where
  names_iff k := ofText_eq_ok_iff_knownAs
  names_nothing := by
    rintro ⟨c, hc, hother⟩ k hk
    obtain ⟨hs, hknown⟩ := ofText_eq_ok_iff_knownAs.mp hk
    rcases hother with hascii | hblank
    · exact hascii (hs c hc)
    · exact absurd hblank (by simp [isBlank_of_knownAs hs hknown hc])
  refused h := ⟨_, ofText_eq_error h, rfl, message_unknownDrawing _⟩

end Drawing

end HostScript
