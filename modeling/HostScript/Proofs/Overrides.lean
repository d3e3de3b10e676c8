import HostScript.Config
import HostScript.Proofs.Numeral
import Mathlib.Data.List.DropRight
import Mathlib.Data.List.TakeWhile

/-!
# What the environment overrides

Each of three variables has a say about one field of a configuration and no other. A number counts if nothing
but blanks stands around its digits, with a plus sign at will, and if it fits a machine word; any other value of
such a variable is reported once and then ignored. The spans of a wait policy are exact over the whole range of
the word, also when they are computed in words.
-/
namespace HostScript

namespace Text

/-! ## Numbers -/

/-- Decimal digits with an optional plus sign, which denote a number. -/
def Denotes (cs : List Char) (n : ℕ) : Prop :=
  ∃ digits, (cs = digits ∨ cs = '+' :: digits) ∧ digits ≠ [] ∧
    (∀ c ∈ digits, c.isDigit = true) ∧ Numeral.ofDigits 0 digits = n

/-- Digits that denote a number after a plus sign. -/
lemma denotes_plus_iff {digits : List Char} {n : ℕ} : Denotes ('+' :: digits) n ↔
    digits ≠ [] ∧ (∀ c ∈ digits, c.isDigit = true) ∧ Numeral.ofDigits 0 digits = n := by
  constructor
  · rintro ⟨other, hsign | hsign, hne, hdigits, hvalue⟩
    · -- A sign is no digit.
      have hsign : '+'.isDigit = true := hdigits '+' (by rw [← hsign]; exact List.mem_cons_self)
      exact absurd hsign (by decide)
    · obtain rfl : digits = other := (List.cons.inj hsign).2
      exact ⟨hne, hdigits, hvalue⟩
  · rintro ⟨hne, hdigits, hvalue⟩
    exact ⟨digits, .inr rfl, hne, hdigits, hvalue⟩

lemma denotes_iff_of_head?_ne {cs : List Char} {n : ℕ} (hplus : cs.head? ≠ some '+') :
    Denotes cs n ↔
      cs ≠ [] ∧ (∀ c ∈ cs, c.isDigit = true) ∧ Numeral.ofDigits 0 cs = n := by
  constructor
  · rintro ⟨digits, hsign | hsign, hne, hdigits, hvalue⟩
    · subst hsign
      exact ⟨hne, hdigits, hvalue⟩
    · exact absurd (by rw [hsign, List.head?_cons]) hplus
  · rintro ⟨hne, hdigits, hvalue⟩
    exact ⟨cs, .inl rfl, hne, hdigits, hvalue⟩

/-- The digits of the reader are those of the library. -/
lemma digitValue?_eq (c : Char) :
    digitValue? c = if c.isDigit = true then some (c.toNat - 48) else none := by
  have hrange : ('0' ≤ c ∧ c ≤ '9') ↔ c.isDigit = true := Char.isDigit_iff_toNat.symm
  rw [digitValue?]
  simp only [hrange]

lemma le_ofDigits (value : ℕ) (cs : List Char) : value ≤ Numeral.ofDigits value cs := by
  induction cs generalizing value with
  | nil => rw [Numeral.ofDigits_nil]
  | cons c cs ih =>
    have hrest := ih (value * 10 + (c.toNat - 48))
    rw [Numeral.ofDigits_cons]
    omega

/-- Digits are read if all of them are digits and their number stays below the limit. A value on the way that
reaches the limit is never left behind, since more digits only make it larger. -/
theorem readDigits_eq_ok_iff {limit value n : ℕ} {cs : List Char} (hvalue : value < limit) :
    readDigits limit value cs = .ok n ↔
      (∀ c ∈ cs, c.isDigit = true) ∧ Numeral.ofDigits value cs = n ∧ n < limit := by
  induction cs generalizing value with
  | nil =>
    simp only [readDigits, Numeral.ofDigits_nil, Except.ok.injEq]
    constructor
    · rintro rfl
      exact ⟨by simp, rfl, hvalue⟩
    · rintro ⟨-, heq, -⟩
      exact heq
  | cons c cs ih =>
    rw [readDigits, List.forall_mem_cons, digitValue?_eq]
    by_cases hc : c.isDigit = true
    · simp only [Numeral.ofDigits_cons, hc, if_true, true_and]
      by_cases hlimit : value * 10 + (c.toNat - 48) < limit
      · rw [if_pos hlimit, ih hlimit]
      · have hle := le_ofDigits (value * 10 + (c.toNat - 48)) cs
        rw [if_neg hlimit]
        refine iff_of_false (by simp) ?_
        rintro ⟨-, heq, hlt⟩
        omega
    · rw [if_neg hc]
      refine iff_of_false (by simp) ?_
      rintro ⟨⟨hdigit, -⟩, -⟩
      exact hc hdigit

/-- Without a plus sign in front, an unsigned number is its digits. -/
lemma readUnsigned_eq_readDigits {limit : ℕ} {cs : List Char} (hne : cs ≠ [])
    (hplus : cs.head? ≠ some '+') : readUnsigned limit cs = readDigits limit 0 cs := by
  cases cs with
  | nil => contradiction
  | cons c cs =>
    have hc : c ≠ '+' := by simpa using hplus
    exact readUnsigned.eq_4 limit (c :: cs) (by simp) (by simp [hc]) (by simp [hc])

/-- The unsigned numbers below a limit are read from the texts that denote them, and from no other. -/
theorem readUnsigned_eq_ok_iff {limit n : ℕ} {cs : List Char} (hlimit : 0 < limit) :
    readUnsigned limit cs = .ok n ↔ Denotes cs n ∧ n < limit := by
  by_cases hnil : cs = []
  · subst hnil
    refine iff_of_false (by simp [readUnsigned]) ?_
    rintro ⟨⟨digits, hsign | hsign, hne, -⟩, -⟩
    · exact hne hsign.symm
    · exact absurd hsign (by simp)
  by_cases hplus : cs.head? = some '+'
  · obtain ⟨digits, rfl⟩ := List.head?_eq_some_iff.mp hplus
    rw [denotes_plus_iff]
    by_cases hne : digits = []
    · subst hne
      exact iff_of_false (by simp [readUnsigned]) (by simp)
    · rw [readUnsigned.eq_3 limit digits hne, readDigits_eq_ok_iff hlimit]
      tauto
  · rw [readUnsigned_eq_readDigits hnil hplus, readDigits_eq_ok_iff hlimit, denotes_iff_of_head?_ne hplus]
    tauto

example : readUnsigned UInt64.size "+0007".toList = .ok 7 := by decide

/-! ## Blanks around a text -/

/-- What is left of characters when the blanks around them are cut off. No blank stands at its ends. -/
structure IsTrimmed (cs core : List Char) : Prop where
  between : ∃ front back, cs = front ++ core ++ back ∧
    (∀ c ∈ front, isBlank c = true) ∧ ∀ c ∈ back, isBlank c = true
  head : ∀ c, core.head? = some c → isBlank c = false
  last : ∀ c, core.getLast? = some c → isBlank c = false

lemma trimEndChars_eq_rdropWhile (cs : List Char) : trimEndChars cs = cs.rdropWhile isBlank := rfl

lemma trimEndChars_of_last {cs : List Char} (h : ∀ c, cs.getLast? = some c → isBlank c = false) :
    trimEndChars cs = cs := by
  rw [trimEndChars_eq_rdropWhile, List.rdropWhile_eq_self_iff]
  intro hne hblank
  have hlast := h _ (List.getLast?_eq_some_getLast hne)
  rw [hlast] at hblank
  exact absurd hblank (by decide)

lemma trimEndChars_append {cs back : List Char} (h : ∀ c ∈ back, isBlank c = true) :
    trimEndChars (cs ++ back) = trimEndChars cs := by
  have hreverse : ∀ c ∈ back.reverse, isBlank c = true := by
    intro c hc
    exact h c (List.mem_reverse.mp hc)
  rw [trimEndChars, List.reverse_append, List.dropWhile_append_of_pos hreverse, ← trimEndChars]

lemma dropWhile_isBlank_of_head {cs : List Char} (h : ∀ c, cs.head? = some c → isBlank c = false) :
    cs.dropWhile isBlank = cs := by
  cases cs with
  | nil => rfl
  | cons c cs =>
    have hc : isBlank c = false := h c List.head?_cons
    rw [List.dropWhile_cons_of_neg (by simp [hc])]

lemma IsTrimmed.trimChars_eq {cs core : List Char} (h : IsTrimmed cs core) : trimChars cs = core := by
  obtain ⟨front, back, rfl, hfront, hback⟩ := h.between
  rw [trimChars, List.append_assoc, List.dropWhile_append_of_pos hfront]
  by_cases hcore : core = []
  · have hnil : back.dropWhile isBlank = [] := List.dropWhile_eq_nil_iff.mpr hback
    rw [hcore, List.nil_append, hnil]
    rfl
  · have hhead : ∀ c, (core ++ back).head? = some c → isBlank c = false := by
      rw [List.head?_append_of_ne_nil core hcore]
      exact h.head
    rw [dropWhile_isBlank_of_head hhead, trimEndChars_append hback, trimEndChars_of_last h.last]

lemma isTrimmed_trimChars (cs : List Char) : IsTrimmed cs (trimChars cs) := by
  rw [trimChars, trimEndChars_eq_rdropWhile]
  refine ⟨⟨cs.takeWhile isBlank, (cs.dropWhile isBlank).rtakeWhile isBlank, ?_, ?_, ?_⟩, ?_, ?_⟩
  · rw [List.append_assoc, List.rdropWhile_append_rtakeWhile, List.takeWhile_append_dropWhile]
  · intro c hc
    exact List.mem_takeWhile_imp hc
  · intro c hc
    exact List.mem_rtakeWhile_imp hc
  · intro c hc
    -- The first character that is kept is also the first one behind the blanks in front.
    obtain ⟨kept, hkept⟩ := List.head?_eq_some_iff.mp hc
    obtain ⟨back, hback⟩ := List.rdropWhile_prefix isBlank (l := cs.dropWhile isBlank)
    have hhead := List.head?_dropWhile_not isBlank cs
    rw [← hback, hkept, List.cons_append, List.head?_cons] at hhead
    simpa using hhead
  · intro c hc
    have hne : (cs.dropWhile isBlank).rdropWhile isBlank ≠ [] := by
      intro hnil
      rw [hnil] at hc
      exact absurd hc (by simp)
    have hlast := List.rdropWhile_last_not isBlank (cs.dropWhile isBlank) hne
    rw [List.getLast?_eq_some_getLast hne, Option.some.injEq] at hc
    rw [hc] at hlast
    simpa using hlast

theorem isTrimmed_iff {cs core : List Char} : IsTrimmed cs core ↔ trimChars cs = core := by
  constructor
  · exact IsTrimmed.trimChars_eq
  · rintro rfl
    exact isTrimmed_trimChars cs

/-- Nothing is left of blanks. -/
lemma isTrimmed_nil_iff {s : String} : IsTrimmed s.toList [] ↔ isBlankText s = true := by
  rw [isBlankText, List.all_eq_true]
  constructor
  · rintro ⟨⟨front, back, hs, hfront, hback⟩, -, -⟩ c hc
    rw [hs, List.append_nil, List.mem_append] at hc
    exact hc.elim (hfront c) (hback c)
  · intro h
    exact ⟨⟨s.toList, [], by simp, h, by simp⟩, by simp, by simp⟩

end Text

/-! ## Variables -/

namespace Environment

/-- A variable sets a number if its value denotes the number but for blanks around it. -/
def Sets (env : Environment) (name : String) (n : UInt64) : Prop :=
  ∃ value core, env.get? name = some value ∧ Text.IsTrimmed value.toList core ∧
    Text.Denotes core n.toNat

/-- A variable has a value that sets no number. -/
def Refuses (env : Environment) (name value : String) : Prop :=
  env.get? name = some value ∧ ∀ n, ¬ env.Sets name n

/-- A variable has a value that is not blank. -/
def Fills (env : Environment) (name value : String) : Prop :=
  env.get? name = some value ∧ ¬ Text.IsTrimmed value.toList []

/-- What is reported about a variable: that its value is refused, and this only once. -/
def Reports (env : Environment) (name : String) (notices : List Notice) : Prop :=
  (∃ value fault, env.Refuses name value ∧ notices = [.variableIgnored name value fault]) ∨
    (∀ value, ¬ env.Refuses name value) ∧ notices = []

variable {env : Environment} {name value : String}

lemma Reports.severity {notices : List Notice} (h : env.Reports name notices) :
    ∀ notice ∈ notices, notice.severity = .warning := by
  intro notice hnotice
  rcases h with ⟨value, fault, -, rfl⟩ | ⟨-, rfl⟩
  · rw [List.mem_singleton.mp hnotice]
    rfl
  · exact absurd hnotice (by simp)

lemma sets_iff (hget : env.get? name = some value) {n : UInt64} : env.Sets name n ↔
    Text.readUnsigned UInt64.size (Text.trimChars value.toList) = .ok n.toNat := by
  rw [Text.readUnsigned_eq_ok_iff (by decide)]
  constructor
  · rintro ⟨other, core, hother, htrim, hdenotes⟩
    rw [hget, Option.some.injEq] at hother
    subst hother
    rw [Text.isTrimmed_iff.mp htrim]
    exact ⟨hdenotes, n.toNat_lt_size⟩
  · rintro ⟨hdenotes, -⟩
    exact ⟨value, _, hget, Text.isTrimmed_trimChars value.toList, hdenotes⟩

end Environment

namespace Config

open Environment

variable {env : Environment} {name : String}

lemma milliseconds?_of_unset (hget : env.get? name = none) : milliseconds? env name = (none, []) := by
  rw [milliseconds?, hget]

lemma milliseconds?_of_error {value : String} {fault : Text.NumeralFault}
    (hget : env.get? name = some value)
    (hread : Text.readUnsigned UInt64.size (Text.trimChars value.toList) = .error fault) :
    milliseconds? env name = (none, [.variableIgnored name value fault]) := by
  simp only [milliseconds?, hget, hread]

/-- A number that is read fits the word, so nothing of it is lost. -/
lemma milliseconds?_of_ok {value : String} {m : ℕ} (hget : env.get? name = some value)
    (hread : Text.readUnsigned UInt64.size (Text.trimChars value.toList) = .ok m) :
    ∃ n : UInt64, n.toNat = m ∧ milliseconds? env name = (some n, []) := by
  have hlt : m < UInt64.size := ((Text.readUnsigned_eq_ok_iff (by decide)).mp hread).2
  refine ⟨UInt64.ofNat m, UInt64.toNat_ofNat_of_lt' hlt, ?_⟩
  simp only [milliseconds?, hget, hread]

lemma milliseconds?_fst_eq_some_iff {n : UInt64} :
    (milliseconds? env name).1 = some n ↔ env.Sets name n := by
  cases hget : env.get? name with
  | none => simp [milliseconds?_of_unset hget, Sets, hget]
  | some value =>
    rw [sets_iff hget]
    cases hread : Text.readUnsigned UInt64.size (Text.trimChars value.toList) with
    | error fault => simp [milliseconds?_of_error hget hread]
    | ok m =>
      obtain ⟨k, rfl, heq⟩ := milliseconds?_of_ok hget hread
      rw [heq, Option.some.injEq, Except.ok.injEq, UInt64.toNat_inj]

lemma reports_milliseconds? (env : Environment) (name : String) :
    env.Reports name (milliseconds? env name).2 := by
  cases hget : env.get? name with
  | none =>
    rw [milliseconds?_of_unset hget]
    refine .inr ⟨fun value hrefuses => ?_, rfl⟩
    rw [Refuses, hget] at hrefuses
    exact absurd hrefuses.1 (by simp)
  | some value =>
    cases hread : Text.readUnsigned UInt64.size (Text.trimChars value.toList) with
    | error fault =>
      rw [milliseconds?_of_error hget hread]
      refine .inl ⟨value, fault, ⟨hget, fun n hsets => ?_⟩, rfl⟩
      rw [sets_iff hget, hread] at hsets
      exact absurd hsets (by simp)
    | ok m =>
      obtain ⟨n, rfl, heq⟩ := milliseconds?_of_ok hget hread
      rw [heq]
      refine .inr ⟨fun other hrefuses => hrefuses.2 n ?_, rfl⟩
      rw [sets_iff hget, hread]

lemma folder?_eq_some_iff {value : String} :
    folder? env = some value ↔ env.Fills folderVariable value := by
  rw [folder?, Option.filter_eq_some_iff, Fills, Text.isTrimmed_nil_iff]
  simp

end Config

/-! ## Fields -/

/-- A field has a new value if something is to take its place, and keeps its own otherwise. -/
structure Replaced {α : Type} (takes : α → Prop) (old new : α) : Prop where
  taken : ∀ a, takes a → new = a
  kept : (∀ a, ¬ takes a) → new = old

section Replaced

variable {α β : Type} {takes : α → Prop} {o : Option α}

lemma replaced_getD (h : ∀ a, o = some a ↔ takes a) (old : α) : Replaced takes old (o.getD old) where
  taken a ha := by rw [(h a).mpr ha, Option.getD_some]
  kept hnone := by
    have ho : o = none := Option.eq_none_iff_forall_ne_some.mpr fun a ha => hnone a ((h a).mp ha)
    rw [ho, Option.getD_none]

lemma replaced_or (h : ∀ a, o = some a ↔ takes a) (old : Option α) :
    Replaced (fun new => ∃ a, takes a ∧ new = some a) old (o.or old) where
  taken new hnew := by
    obtain ⟨a, ha, rfl⟩ := hnew
    rw [(h a).mpr ha, Option.some_or]
  kept hnone := by
    have ho : o = none := Option.eq_none_iff_forall_ne_some.mpr fun a ha =>
      hnone (some a) ⟨a, (h a).mp ha, rfl⟩
    rw [ho, Option.none_or]

end Replaced

/-! ## Spans in words -/

/-- A span in machine words: whole seconds, and the nanoseconds beyond them. -/
structure WordSpan where
  seconds : UInt64
  nanoseconds : UInt32
  nanoseconds_lt : nanoseconds.toNat < 1000000000

namespace WordSpan

/-- The span that the words stand for. -/
def span (w : WordSpan) : Duration := ⟨w.seconds.toNat * 1000000000 + w.nanoseconds.toNat⟩

/-- Less than a second of milliseconds fits a word of nanoseconds. -/
lemma toNat_nanoseconds (ms : UInt64) :
    ((ms % 1000).toUInt32 * 1000000).toNat = ms.toNat % 1000 * 1000000 := by
  have hmod : (ms % 1000).toNat = ms.toNat % 1000 := rfl
  have hrest : ms.toNat % 1000 < 1000 := Nat.mod_lt _ (by decide)
  have hfactor : (1000000 : UInt32).toNat = 1000000 := rfl
  rw [UInt32.toNat_mul, UInt64.toNat_toUInt32, hmod, hfactor]
  omega

def ofMilliseconds (ms : UInt64) : WordSpan where
  seconds := ms / 1000
  nanoseconds := (ms % 1000).toUInt32 * 1000000
  nanoseconds_lt := by
    rw [toNat_nanoseconds]
    omega

/-- No number of milliseconds overflows the words, and nothing of it is cut off. -/
theorem span_ofMilliseconds (ms : UInt64) : (ofMilliseconds ms).span = .ofMilliseconds ms.toNat := by
  have hseconds : (ms / 1000).toNat = ms.toNat / 1000 := rfl
  have hdivision := Nat.div_add_mod ms.toNat 1000
  rw [span, ofMilliseconds, Duration.ofMilliseconds, Duration.mk.injEq, hseconds, toNat_nanoseconds]
  omega

end WordSpan

/-- The spans of a policy are exactly so many milliseconds, and they are the same in machine words. -/
structure WaitPolicy.Exact (p : WaitPolicy) (interval : UInt64) (timeout : Option UInt64) : Prop where
  interval_eq : p.interval.nanoseconds = interval.toNat * 1000000
  deadline_eq : p.deadline = timeout.map fun ms => ⟨ms.toNat * 1000000⟩
  interval_words : (WordSpan.ofMilliseconds interval).span = p.interval
  deadline_words : (timeout.map fun ms => (WordSpan.ofMilliseconds ms).span) = p.deadline

/-! ## The effective configuration -/

namespace Config

open Environment

/-- The variables that have a say in a configuration. -/
def variableNames : List String := [folderVariable, intervalVariable, timeoutVariable]

lemma toNat_max_one (ms : UInt64) : (max 1 ms).toNat = max 1 ms.toNat := by
  have hle : 1 ≤ ms ↔ 1 ≤ ms.toNat := UInt64.le_iff_toNat_le
  change (if 1 ≤ ms then ms else 1).toNat = max 1 ms.toNat
  by_cases h : 1 ≤ ms
  · rw [if_pos h, max_eq_right (hle.mp h)]
  · have hone : ms.toNat ≤ 1 := by
      have hnot := hle.not.mp h
      omega
    rw [if_neg h, max_eq_left hone]
    rfl

/-- Over the whole range of the words, a wait policy is that of its configuration. -/
theorem exact_waitPolicy (c : Config) : c.waitPolicy.Exact (max 1 c.intervalMs) c.timeoutMs where
  interval_eq := by
    rw [toNat_max_one, Nat.max_comm]
    rfl
  deadline_eq := rfl
  interval_words := by rw [WordSpan.span_ofMilliseconds, toNat_max_one, Nat.max_comm, waitPolicy]
  deadline_words := by simp only [WordSpan.span_ofMilliseconds, waitPolicy]

theorem overridden_overridden (env : Environment) (c : Config) :
    (c.overridden env).1.overridden env = c.overridden env := by
  have hor {α : Type} (o old : Option α) : o.or (o.or old) = o.or old := by cases o <;> rfl
  have hgetD {α : Type} (o : Option α) (old : α) : o.getD (o.getD old) = o.getD old := by
    cases o <;> rfl
  simp only [overridden, hor, hgetD]

lemma overridden_congr {env env' : Environment} (c : Config)
    (h : ∀ name ∈ variableNames, env'.get? name = env.get? name) :
    c.overridden env' = c.overridden env := by
  have hfolder := h folderVariable (by decide)
  have hinterval := h intervalVariable (by decide)
  have htimeout := h timeoutVariable (by decide)
  simp only [overridden, folder?, milliseconds?, hfolder, hinterval, htimeout]

/-- What an environment makes of a configuration. -/
structure Effective (env : Environment) (c : Config) : Prop where
  /-- The interval is the number that its variable sets. -/
  interval : Replaced (env.Sets intervalVariable) c.intervalMs (c.overridden env).1.intervalMs
  /-- So is the timeout. -/
  timeout : Replaced (fun t => ∃ n, env.Sets timeoutVariable n ∧ t = some n) c.timeoutMs
    (c.overridden env).1.timeoutMs
  /-- A timeout is never taken away. -/
  endless_iff : (c.overridden env).1.timeoutMs = none ↔
    c.timeoutMs = none ∧ ∀ n, ¬ env.Sets timeoutVariable n
  /-- The folder is the value of its variable, with the blanks around it, unless it is blank. -/
  folder : Replaced (fun f => ∃ value, env.Fills folderVariable value ∧ f = some value) c.folder
    (c.overridden env).1.folder
  /-- The host stays the same. -/
  host : (c.overridden env).1.host = c.host
  /-- A variable that is refused is reported once, and nothing else is reported. -/
  reports : ∃ first second, (c.overridden env).2 = first ++ second ∧
    env.Reports intervalVariable first ∧ env.Reports timeoutVariable second
  /-- Every report is a warning. -/
  warnings : ∀ notice ∈ (c.overridden env).2, notice.severity = .warning
  /-- No other variable has a say. -/
  unread : ∀ env' : Environment, (∀ name ∈ variableNames, env'.get? name = env.get? name) →
    c.overridden env' = c.overridden env
  /-- The second time, the environment changes nothing. -/
  again : (c.overridden env).1.overridden env = c.overridden env
  /-- The wait goes by the interval and the timeout that result, with an interval of at least one
  millisecond. -/
  policy : (c.overridden env).1.waitPolicy.Exact (max 1 (c.overridden env).1.intervalMs)
    (c.overridden env).1.timeoutMs

end Config

/-- The environment sets the folder, the interval and the timeout of a wait by the rules of each, and it
changes nothing else. -/
theorem Config.effective (env : Environment) (c : Config) : Config.Effective env c where
  interval := replaced_getD (fun _ => milliseconds?_fst_eq_some_iff) c.intervalMs
  timeout := replaced_or (fun _ => milliseconds?_fst_eq_some_iff) c.timeoutMs
  endless_iff := by
    have hnone : (milliseconds? env timeoutVariable).1 = none ↔
        ∀ n, ¬ env.Sets timeoutVariable n := by
      simp only [Option.eq_none_iff_forall_ne_some, ne_eq, milliseconds?_fst_eq_some_iff]
    rw [← hnone, overridden, Option.or_eq_none_iff, and_comm]
  folder := replaced_or (fun _ => folder?_eq_some_iff) c.folder
  host := rfl
  reports := ⟨_, _, rfl, reports_milliseconds? env intervalVariable,
    reports_milliseconds? env timeoutVariable⟩
  warnings notice hnotice := by
    rw [overridden, List.mem_append] at hnotice
    exact hnotice.elim ((reports_milliseconds? env intervalVariable).severity notice)
      ((reports_milliseconds? env timeoutVariable).severity notice)
  unread env' h := overridden_congr c h
  again := overridden_overridden env c
  policy := exact_waitPolicy _

end HostScript
