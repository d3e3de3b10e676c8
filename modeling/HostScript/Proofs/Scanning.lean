import HostScript.Proofs.Numeral
import HostScript.Proofs.Spelling

/-!
# Reading a notation

Whichever notation of a value the machine takes where a value may come, it then holds that value, with the
containers around it as they were. A number or a word may still be open at that point; the next delimiter
or the end of the text closes it. So every notation of a value is read as that value.
-/
namespace HostScript.Json

lemma run_append {r s : Reader} {cs : List Char} (h : run r cs = some s) (ds : List Char) :
    run r (cs ++ ds) = run s ds := by
  induction cs generalizing r with
  | nil =>
    rw [run] at h
    rw [List.nil_append, Option.some.inj h]
  | cons c cs ih =>
    rw [run] at h
    rw [List.cons_append, run]
    cases hstep : step r c with
    | none => simp [hstep] at h
    | some t =>
      rw [hstep] at h
      exact ih h

lemma run_cons {r s : Reader} {c : Char} (h : step r c = some s) (cs : List Char) :
    run r (c :: cs) = run s cs := by
  rw [run, h]

/-- A state that no blank changes. -/
lemma run_blank {r : Reader} (h : ∀ c, isSpace c = true → step r c = some r) {cs : List Char}
    (hcs : IsBlank cs) : run r cs = some r := by
  induction cs with
  | nil => rw [run]
  | cons c cs ih =>
    rw [run_cons (h c (hcs c List.mem_cons_self))]
    exact ih fun d hd => hcs d (List.mem_cons_of_mem c hd)

/-! ## Strings -/

lemma hexValue?_of_isHexDigit {d : ℕ} {c : Char} (h : IsHexDigit d c) : hexValue? c = some d := by
  obtain ⟨hd, hc⟩ := h
  have hall : ∀ d < 16, hexValue? (Text.hexDigit d) = some d ∧
      hexValue? (Text.hexDigit d).toUpper = some d := by decide
  rcases hc with rfl | rfl
  · exact (hall d hd).1
  · exact (hall d hd).2

section String

variable (frames : List Frame) (isKey : Bool) (units : List ℕ)

lemma run_unit {u : ℕ} {cs : List Char} (h : SpellsUnit u cs) :
    run ⟨frames, .string isKey .plain units⟩ cs =
      some ⟨frames, .string isKey .plain (u :: units)⟩ := by
  cases h with
  | digits ha hb hc hd =>
    simp [run, step, stringStep, hexValue?_of_isHexDigit ha, hexValue?_of_isHexDigit hb,
      hexValue?_of_isHexDigit hc, hexValue?_of_isHexDigit hd]

/-- No character is half of a surrogate pair. -/
lemma joinUnits_toNat (text : List Char) (c : Char) :
    joinUnits text (c.toNat :: units) = joinUnits (c :: text) units := by
  have hvalid : c.toNat < 0xD800 ∨ 0xDFFF < c.toNat := by
    rcases c.valid with h | ⟨h, -⟩
    · exact .inl h
    · exact .inr h
  have hlow : isLowHalf c.toNat = false := by simp [isLowHalf]; omega
  have hhigh : isHighHalf c.toNat = false := by simp [isHighHalf]; omega
  rw [joinUnits.eq_def]
  simp only [hlow, hhigh, Bool.false_eq_true, if_false, Char.ofNat_toNat]

/-- The two halves of a pair are the character beyond the code units. -/
lemma joinUnits_pair (text : List Char) {c : Char} (hc : 0x10000 ≤ c.toNat) :
    joinUnits text ((0xDC00 + (c.toNat - 0x10000) % 0x400) ::
      (0xD800 + (c.toNat - 0x10000) / 0x400) :: units) = joinUnits (c :: text) units := by
  have hlt := toNat_lt c
  have hlow : isLowHalf (0xDC00 + (c.toNat - 0x10000) % 0x400) = true := by
    simp [isLowHalf]; omega
  have hhigh : isHighHalf (0xD800 + (c.toNat - 0x10000) / 0x400) = true := by
    simp [isHighHalf]; omega
  have hvalue : 0x10000 + (0xD800 + (c.toNat - 0x10000) / 0x400 - 0xD800) * 0x400 +
      (0xDC00 + (c.toNat - 0x10000) % 0x400 - 0xDC00) = c.toNat := by omega
  simp only [joinUnits, hlow, hhigh, if_true, hvalue, Char.ofNat_toNat]

/-- However a character is spelled, its units are joined to that character. -/
lemma run_char {c : Char} {cs : List Char} (h : SpellsChar c cs) :
    ∃ units', run ⟨frames, .string isKey .plain units⟩ cs =
        some ⟨frames, .string isKey .plain units'⟩ ∧
      ∀ text, joinUnits text units' = joinUnits (c :: text) units := by
  cases h with
  | plain hquote hback hcontrol =>
    refine ⟨c.toNat :: units, ?_, fun text => joinUnits_toNat units text c⟩
    have hle : ¬ c.toNat < 0x20 := by omega
    simp [run, step, stringStep, hquote, hback, hle]
  | @short e h =>
    refine ⟨c.toNat :: units, ?_, fun text => joinUnits_toNat units text c⟩
    have hall : ∀ p ∈ shortEscapes, p.1 ≠ 'u' ∧ shortEscape? p.1 = some p.2 := by decide
    obtain ⟨hu, hescape⟩ := hall _ h
    simp [run, step, stringStep, hu, hescape]
  | unit h => exact ⟨c.toNat :: units, run_unit frames isKey units h,
      fun text => joinUnits_toNat units text c⟩
  | pair hc hhigh hlow =>
    refine ⟨_, ?_, fun text => joinUnits_pair units text hc⟩
    rw [run_append (run_unit frames isKey units hhigh)]
    exact run_unit frames isKey _ hlow

lemma run_text {text cs : List Char} (h : SpellsText text cs) :
    ∃ units', run ⟨frames, .string isKey .plain units⟩ cs =
        some ⟨frames, .string isKey .plain units'⟩ ∧
      ∀ rest, joinUnits rest units' = joinUnits (text ++ rest) units := by
  induction h generalizing units with
  | nil => exact ⟨units, rfl, fun rest => rfl⟩
  | cons h _ ih =>
    obtain ⟨first, hfirst, hjoin⟩ := run_char frames isKey units h
    obtain ⟨units', hrest, hjoin'⟩ := ih first
    refine ⟨units', ?_, fun rest => ?_⟩
    · rw [run_append hfirst, hrest]
    · rw [hjoin', hjoin, List.cons_append]

end String

/-- What the end of a string comes to, by its role. -/
def endOfString (isKey : Bool) (s : Option String) : Phase :=
  if isKey then .colon s else .done (.string s)

lemma run_quote (frames : List Frame) (isKey : Bool) (units : List ℕ) :
    run ⟨frames, .string isKey .plain units⟩ ['"'] =
      some ⟨frames, endOfString isKey (textOfUnits units)⟩ := by
  simp [run, step, stringStep, endOfString]

/-- Behind the opening quote the rest of a string is read up to the closing one. -/
lemma exists_run_string {s : Option String} {cs : List Char} (h : SpellsString s cs) :
    ∃ ds, cs = '"' :: ds ∧ ∀ frames isKey,
      run ⟨frames, .string isKey .plain []⟩ ds = some ⟨frames, endOfString isKey s⟩ := by
  cases h with
  | @text s cs h =>
    refine ⟨_, rfl, fun frames isKey => ?_⟩
    obtain ⟨units, hrun, hjoin⟩ := run_text frames isKey [] h
    have htext : textOfUnits units = some s := by
      rw [textOfUnits, hjoin, joinUnits, List.append_nil, Option.map_some, String.ofList_toList]
    rw [run_append hrun, run_quote, htext]
  | @half u cs hu h =>
    refine ⟨_, rfl, fun frames isKey => ?_⟩
    have htext : textOfUnits [u] = none := by
      by_cases hlow : isLowHalf u = true
      · simp [textOfUnits, joinUnits, hlow]
      · have hhigh : isHighHalf u = true := by
          simp only [isLowHalf, isHighHalf, Bool.and_eq_true, decide_eq_true_eq] at hlow ⊢
          omega
        simp [textOfUnits, joinUnits, hlow, hhigh]
    rw [run_append (run_unit frames isKey [] h), run_quote, htext]

/-! ## States of the machine -/

/-- The states in which a value may come. -/
inductive Reader.Awaits : Reader → Prop
  | value (frames : List Frame) : Awaits ⟨frames, .value⟩
  | firstItem (items : List Json) (frames : List Frame) : Awaits ⟨.list items :: frames, .firstItem⟩

/-- The states in which a key may come. -/
inductive Reader.AwaitsKey : Reader → Prop
  | key (frames : List Frame) : AwaitsKey ⟨frames, .key⟩
  | firstKey (members : List (Option String × Json)) (frames : List Frame) :
      AwaitsKey ⟨.map members :: frames, .firstKey⟩

lemma Reader.Awaits.step_space {r : Reader} (h : r.Awaits) {c : Char} (hc : isSpace c = true) :
    step r c = some r := by
  cases h with
  | value frames => simp [step, hc]
  | firstItem items frames => simp [step, hc]

lemma Reader.Awaits.step_eq {r : Reader} (h : r.Awaits) {c : Char} (hspace : isSpace c = false)
    (hc : c ≠ ']') : step r c = beginValue r.frames c := by
  cases h with
  | value frames => simp [step, hspace, betweenStep]
  | firstItem items frames => simp [step, hspace, betweenStep, hc]

lemma Reader.AwaitsKey.step_space {r : Reader} (h : r.AwaitsKey) {c : Char}
    (hc : isSpace c = true) : step r c = some r := by
  cases h with
  | key frames => simp [step, hc]
  | firstKey members frames => simp [step, hc]

lemma Reader.AwaitsKey.step_quote {r : Reader} (h : r.AwaitsKey) :
    step r '"' = some ⟨r.frames, .string true .plain []⟩ := by
  cases h with
  | key frames => rfl
  | firstKey members frames => rfl

/-- A delimiter closes a number or a word and is then taken as behind any complete value. -/
lemma step_of_close {p : Phase} {j : Json} (h : p.close = some (.done j)) (frames : List Frame)
    {c : Char} (hnumber : isNumberChar c = false) (hword : isWordChar c = false) :
    step ⟨frames, p⟩ c =
      if isSpace c then some ⟨frames, .done j⟩ else afterValue j frames c := by
  cases p with
  | number cs =>
    simp only [step, hnumber, h, Bool.false_eq_true, if_false]
    rfl
  | word cs =>
    simp only [step, hword, h, Bool.false_eq_true, if_false]
    rfl
  | done v =>
    cases h
    rfl
  | _ => cases h

lemma run_blank_of_close {p : Phase} {j : Json} (h : p.close = some (.done j))
    (frames : List Frame) {cs : List Char} (hcs : IsBlank cs) :
    ∃ p', run ⟨frames, p⟩ cs = some ⟨frames, p'⟩ ∧ p'.close = some (.done j) := by
  cases cs with
  | nil => exact ⟨p, rfl, h⟩
  | cons c cs =>
    have hc : isSpace c = true := hcs c List.mem_cons_self
    have hkind : isNumberChar c = false ∧ isWordChar c = false := by
      simp only [isSpace, Bool.or_eq_true, decide_eq_true_eq] at hc
      rcases hc with ((rfl | rfl) | rfl) | rfl <;> decide
    have hdone (d : Char) (hd : isSpace d = true) :
        step ⟨frames, .done j⟩ d = some ⟨frames, .done j⟩ := by simp [step, hd]
    -- The first blank closes a number or a word, and the others change nothing.
    refine ⟨.done j, ?_, rfl⟩
    rw [run_cons (by rw [step_of_close h frames hkind.1 hkind.2, if_pos hc])]
    exact run_blank hdone fun d hd => hcs d (List.mem_cons_of_mem c hd)

/-! ## Values -/

/-- Taking a text where a value may come, the machine comes to hold a value. -/
def Reads (j : Json) (cs : List Char) : Prop :=
  ∀ r : Reader, r.Awaits → ∃ p, run r cs = some ⟨r.frames, p⟩ ∧ p.close = some (.done j)

/-- The characters of a number or of a word are gathered. -/
lemma run_gather {phase : List Char → Phase} {isPart : Char → Bool}
    (hphase : ∀ frames cs c, isPart c = true →
      step ⟨frames, phase cs⟩ c = some ⟨frames, phase (c :: cs)⟩)
    (frames : List Frame) (before : List Char) {cs : List Char} (hcs : ∀ c ∈ cs, isPart c = true) :
    run ⟨frames, phase before⟩ cs = some ⟨frames, phase (cs.reverse ++ before)⟩ := by
  induction cs generalizing before with
  | nil => rfl
  | cons c cs ih =>
    rw [run_cons (hphase frames before c (hcs c List.mem_cons_self)),
      ih _ fun d hd => hcs d (List.mem_cons_of_mem c hd), List.reverse_cons, List.append_assoc]
    rfl

lemma reads_word {c : Char} {cs : List Char} {j : Json} (hbegin : ∀ frames,
    beginValue frames c = some ⟨frames, .word [c]⟩) (hspace : isSpace c = false) (hc : c ≠ ']')
    (hcs : cs.all isWordChar = true) (hj : wordValue? (c :: cs) = some j) :
    Reads j (c :: cs) := by
  intro r hr
  have hgather (frames : List Frame) (before : List Char) (d : Char) (hd : isWordChar d = true) :
      step ⟨frames, .word before⟩ d = some ⟨frames, .word (d :: before)⟩ := by simp [step, hd]
  refine ⟨.word (cs.reverse ++ [c]), ?_, ?_⟩
  · rw [run_cons (hr.step_eq hspace hc |>.trans (hbegin _)), run_gather hgather _ _ (List.all_eq_true.mp hcs)]
  · simp [Phase.close, hj]

lemma isNumberChar_of_mem_chars {n : Numeral} {c : Char} (h : c ∈ n.chars) :
    isNumberChar c = true := by
  have hdigit {m : ℕ} (h : c ∈ Text.decimalDigits m) : isNumberChar c = true := by
    simp [isNumberChar, Numeral.isDigit_of_mem h]
  have hinteger {m : ℤ} (h : c ∈ Text.integerDigits m) : isNumberChar c = true := by
    rcases Text.isNumeral_of_mem_integerDigits h with h | rfl
    · simp [isNumberChar, Numeral.isDigit_eq, h]
    · decide
  cases n with
  | integer m => exact hinteger h
  | decimal negative mantissa exponent =>
    rcases List.mem_append.mp h with h | h
    · rcases List.mem_append.mp h with h | h
      · cases negative with
        | false => simp at h
        | true =>
          rw [if_pos rfl, List.mem_singleton] at h
          subst h
          decide
      · exact hdigit h
    · rcases List.mem_cons.mp h with rfl | h
      · decide
      · exact hinteger h

lemma reads_number (n : Numeral) : Reads (.number n) n.chars := by
  intro r hr
  obtain ⟨c, cs, hcons, hc⟩ := n.exists_chars_eq_cons
  have hrest : ∀ d ∈ cs, isNumberChar d = true := fun d hd =>
    isNumberChar_of_mem_chars (n := n) (by rw [hcons]; exact List.mem_cons_of_mem c hd)
  have hne (d : Char) (hd : d ≠ '-') (hdigit : Numeral.isDigit d = false) : c ≠ d := by
    rintro rfl
    rcases hc with hc | hc
    · exact hd hc
    · rw [hdigit] at hc
      contradiction
  have hspace : isSpace c = false := by
    simp [isSpace, hne ' ' (by decide) (by decide), hne '\t' (by decide) (by decide),
      hne '\n' (by decide) (by decide), hne '\r' (by decide) (by decide)]
  have hbegin : beginValue r.frames c = some ⟨r.frames, .number [c]⟩ := by
    simp [beginValue, hne '{' (by decide) (by decide), hne '[' (by decide) (by decide),
      hne '"' (by decide) (by decide), hc]
  have hgather (frames : List Frame) (before : List Char) (d : Char)
      (hd : isNumberChar d = true) :
      step ⟨frames, .number before⟩ d = some ⟨frames, .number (d :: before)⟩ := by simp [step, hd]
  refine ⟨.number (cs.reverse ++ [c]), ?_, ?_⟩
  · rw [hcons, run_cons (hr.step_eq hspace (hne ']' (by decide) (by decide)) |>.trans hbegin),
      run_gather hgather _ _ hrest]
  · have hchars : (cs.reverse ++ [c]).reverse = n.chars := by simp [hcons]
    rw [Phase.close, hchars, n.read?_chars, Option.map_some]

lemma reads_string {s : Option String} {cs : List Char} (h : SpellsString s cs) :
    Reads (.string s) cs := by
  intro r hr
  obtain ⟨ds, rfl, hrun⟩ := exists_run_string h
  refine ⟨.done (.string s), ?_, rfl⟩
  rw [run_cons (hr.step_eq (by decide) (by decide))]
  exact hrun r.frames false

/-- Parts with commas between them are read one by one, each behind those before it. -/
lemma run_commas {α : Type} {part : α → List Char} {close : Char}
    (ready : List α → Reader → Prop) (finish : List α → Reader) {xs : List α} (hne : xs ≠ [])
    (hpart : ∀ x ∈ xs, ∀ before r, ready before r → ∃ s, run r (part x) = some s ∧
      (∃ t, step s ',' = some t ∧ ready (before ++ [x]) t) ∧
      step s close = some (finish (before ++ [x])))
    (before : List α) {r : Reader} (hr : ready before r) :
    run r (commas (xs.map part) ++ [close]) = some (finish (before ++ xs)) := by
  induction xs generalizing before r with
  | nil => contradiction
  | cons x xs ih =>
    obtain ⟨s, hrun, ⟨t, hcomma, ht⟩, hclose⟩ := hpart x List.mem_cons_self before r hr
    cases xs with
    | nil =>
      rw [List.map_singleton, commas, run_append hrun, run_cons hclose, run]
    | cons y ys =>
      have hrest := ih (List.cons_ne_nil y ys) (fun z hz => hpart z (List.mem_cons_of_mem x hz)) _ ht
      rw [List.map_cons] at hrest
      rw [List.map_cons, List.map_cons, commas, List.append_assoc, run_append hrun, List.cons_append,
        run_cons hcomma, hrest, List.append_assoc, List.singleton_append]

/-- Behind a value a delimiter is taken as the containers around the value want it. -/
lemma step_delimiter {p : Phase} {j : Json} (h : p.close = some (.done j)) (frames : List Frame)
    {c : Char} (hc : c = ',' ∨ c = ']' ∨ c = '}') :
    step ⟨frames, p⟩ c = afterValue j frames c := by
  have hkind : isNumberChar c = false ∧ isWordChar c = false ∧ isSpace c = false := by
    rcases hc with rfl | rfl | rfl <;> decide
  rw [step_of_close h frames hkind.1 hkind.2.1, hkind.2.2]
  rfl

lemma reads_list {blanks : List Char} (hblanks : IsBlank blanks) {items : List (Json × List Char)}
    (hitems : ∀ p ∈ items, Reads p.1 p.2) :
    Reads (.list (items.map Prod.fst))
      ('[' :: (blanks ++ (commas (items.map Prod.snd) ++ [']']))) := by
  intro r hr
  have hready : Reader.Awaits ⟨.list [] :: r.frames, .firstItem⟩ := .firstItem [] r.frames
  refine ⟨.done (.list (items.map Prod.fst)), ?_, rfl⟩
  rw [run_cons (hr.step_eq (by decide) (by decide) |>.trans rfl),
    run_append (run_blank (fun c => hready.step_space) hblanks)]
  by_cases hne : items = []
  · subst hne
    rfl
  -- Between two items the array keeps what was read of it, and a value may come.
  refine run_commas
    (fun before s => s.Awaits ∧ s.frames = .list (before.map Prod.fst).reverse :: r.frames)
    (fun items => ⟨r.frames, .done (.list (items.map Prod.fst))⟩) hne ?_ [] ⟨hready, rfl⟩
  rintro p hp before s ⟨hs, hframes⟩
  obtain ⟨phase, hrun, hclose⟩ := hitems p hp s hs
  rw [hframes] at hrun
  refine ⟨_, hrun, ⟨_, step_delimiter hclose _ (.inl rfl), .value _, ?_⟩, ?_⟩
  · simp
  · rw [step_delimiter hclose _ (.inr (.inl rfl))]
    simp [afterValue]

lemma run_key {key : Option String} {cs : List Char} (h : SpellsKey key cs) {r : Reader}
    (hr : r.AwaitsKey) : run r cs = some ⟨r.frames, .colon key⟩ := by
  cases h with
  | padded hfront h hback =>
    obtain ⟨ds, rfl, hrun⟩ := exists_run_string h
    have hcolon (c : Char) (hc : isSpace c = true) :
        step ⟨r.frames, .colon key⟩ c = some ⟨r.frames, .colon key⟩ := by simp [step, hc]
    rw [List.append_assoc, run_append (run_blank (fun c => hr.step_space) hfront), List.cons_append,
      run_cons hr.step_quote, run_append (hrun r.frames true)]
    exact run_blank hcolon hback

lemma reads_map {blanks : List Char} (hblanks : IsBlank blanks) {members : List Spelled}
    (hkeys : ∀ m ∈ members, SpellsKey m.key m.keyChars)
    (hvalues : ∀ m ∈ members, Reads m.value m.valueChars) :
    Reads (.map (members.map fun m => (m.key, m.value)))
      ('{' :: (blanks ++ (commas (members.map Spelled.chars) ++ ['}']))) := by
  intro r hr
  have hready : Reader.AwaitsKey ⟨.map [] :: r.frames, .firstKey⟩ := .firstKey [] r.frames
  refine ⟨.done (.map (members.map fun m => (m.key, m.value))), ?_, rfl⟩
  rw [run_cons (hr.step_eq (by decide) (by decide) |>.trans rfl),
    run_append (run_blank (fun c => hready.step_space) hblanks)]
  by_cases hne : members = []
  · subst hne
    rfl
  -- Between two members the object keeps what was read of it, and a key may come.
  refine run_commas
    (fun before s => s.AwaitsKey ∧
      s.frames = .map (before.map fun m => (m.key, m.value)).reverse :: r.frames)
    (fun members => ⟨r.frames, .done (.map (members.map fun m => (m.key, m.value)))⟩) hne ?_ []
    ⟨hready, rfl⟩
  rintro m hm before s ⟨hs, hframes⟩
  have hkey := run_key (hkeys m hm) hs
  rw [hframes] at hkey
  generalize hread : (before.map fun m => (m.key, m.value)).reverse = read at hkey
  obtain ⟨phase, hrun, hclose⟩ := hvalues m hm ⟨.member read m.key :: r.frames, .value⟩ (.value _)
  have hcomma : step ⟨.member read m.key :: r.frames, phase⟩ ',' =
      some ⟨.map ((m.key, m.value) :: read) :: r.frames, .key⟩ :=
    step_delimiter hclose _ (.inl rfl)
  refine ⟨_, ?_, ⟨_, hcomma, .key _, ?_⟩, ?_⟩
  · rw [Spelled.chars, run_append hkey, run_cons rfl, hrun]
  · simp [hread]
  · rw [step_delimiter hclose _ (.inr (.inr rfl))]
    simp [afterValue, ← hread]

lemma reads_padded {j : Json} {front cs back : List Char} (hfront : IsBlank front)
    (h : Reads j cs) (hback : IsBlank back) : Reads j (front ++ cs ++ back) := by
  intro r hr
  obtain ⟨p, hrun, hclose⟩ := h r hr
  obtain ⟨p', hafter, hclose'⟩ := run_blank_of_close hclose r.frames hback
  refine ⟨p', ?_, hclose'⟩
  rw [List.append_assoc, run_append (run_blank (fun c => hr.step_space) hfront), run_append hrun,
    hafter]

theorem reads_of_spells {j : Json} {cs : List Char} (h : Spells j cs) : Reads j cs := by
  induction h with
  | null => exact reads_word (fun _ => rfl) (by decide) (by decide) rfl rfl
  | true => exact reads_word (fun _ => rfl) (by decide) (by decide) rfl rfl
  | false => exact reads_word (fun _ => rfl) (by decide) (by decide) rfl rfl
  | number n => exact reads_number n
  | string h => exact reads_string h
  | list hblanks items _ ih => exact reads_list hblanks ih
  | map hblanks members hkeys _ ih => exact reads_map hblanks hkeys ih
  | padded hfront _ hback ih => exact reads_padded hfront ih hback

/-- Every notation of a value is read as that value. -/
theorem parse?_of_spells {j : Json} {text : String} (h : Spells j text.toList) :
    parse? text = some j := by
  obtain ⟨p, hrun, hclose⟩ := reads_of_spells h ⟨[], .value⟩ (.value [])
  rw [parse?, hrun]
  simp only [result?, hclose]

/-- Reading gives back the value that was written, in either style. -/
theorem parse?_ofList_chars (narrow : Bool) (j : Json) :
    parse? (String.ofList (chars narrow j)) = some j :=
  parse?_of_spells (by rw [String.toList_ofList]; exact spells_chars narrow j)

end HostScript.Json
