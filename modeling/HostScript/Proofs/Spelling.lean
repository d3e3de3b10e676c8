import HostScript.Json.Printer
import HostScript.Json.Reader
import Mathlib.Data.Nat.Notation
import Mathlib.Tactic.Lemma
import Mathlib.Tactic.SplitIfs

/-!
# The notation of JSON

Which texts are a notation of a value, apart from how they are read. A character of a string may stand as
itself or be escaped in one of several ways, and the digits of a code unit may be in either case. Blanks
may stand around every key and every value. What is written, in either style, is such a notation.
-/
namespace HostScript.Json

/-! ## Strings -/

/-- A digit in base sixteen, with letters in either case. -/
def IsHexDigit (d : ℕ) (c : Char) : Prop :=
  d < 16 ∧ (c = Text.hexDigit d ∨ c = (Text.hexDigit d).toUpper)

/-- A code unit in four digits. -/
inductive SpellsUnit : ℕ → List Char → Prop
  | digits {w x y z : ℕ} {a b c d : Char} (ha : IsHexDigit w a) (hb : IsHexDigit x b)
      (hc : IsHexDigit y c) (hd : IsHexDigit z d) :
      SpellsUnit (((w * 16 + x) * 16 + y) * 16 + z) ['\\', 'u', a, b, c, d]

/-- What stands behind a backslash for which character. -/
def shortEscapes : List (Char × Char) :=
  [('"', '"'), ('\\', '\\'), ('/', '/'), ('b', '\x08'), ('f', '\x0c'), ('n', '\n'), ('r', '\r'),
    ('t', '\t')]

/-- A character in a string: as itself, in a short escape, in a code unit, or in a pair of them. -/
inductive SpellsChar : Char → List Char → Prop
  | plain {c : Char} (hquote : c ≠ '"') (hback : c ≠ '\\') (hcontrol : 0x20 ≤ c.toNat) :
      SpellsChar c [c]
  | short {c e : Char} (h : (e, c) ∈ shortEscapes) : SpellsChar c ['\\', e]
  | unit {c : Char} {cs : List Char} (h : SpellsUnit c.toNat cs) : SpellsChar c cs
  | pair {c : Char} {cs ds : List Char} (hc : 0x10000 ≤ c.toNat)
      (hhigh : SpellsUnit (0xD800 + (c.toNat - 0x10000) / 0x400) cs)
      (hlow : SpellsUnit (0xDC00 + (c.toNat - 0x10000) % 0x400) ds) : SpellsChar c (cs ++ ds)

/-- The characters of a string, each spelled in its own way. -/
inductive SpellsText : List Char → List Char → Prop
  | nil : SpellsText [] []
  | cons {c : Char} {cs text ds : List Char} (h : SpellsChar c cs) (hrest : SpellsText text ds) :
      SpellsText (c :: text) (cs ++ ds)

/-- A string between its quotes. Half of a surrogate pair denotes no text. -/
inductive SpellsString : Option String → List Char → Prop
  | text {s : String} {cs : List Char} (h : SpellsText s.toList cs) :
      SpellsString (some s) ('"' :: (cs ++ ['"']))
  | half {u : ℕ} {cs : List Char} (hu : 0xD800 ≤ u ∧ u ≤ 0xDFFF) (h : SpellsUnit u cs) :
      SpellsString none ('"' :: (cs ++ ['"']))

/-! ## Values -/

/-- Characters that may stand between two parts. -/
def IsBlank (cs : List Char) : Prop := ∀ c ∈ cs, isSpace c = true

/-- A key with the blanks around it. -/
inductive SpellsKey : Option String → List Char → Prop
  | padded {key : Option String} {front cs back : List Char} (hfront : IsBlank front)
      (h : SpellsString key cs) (hback : IsBlank back) : SpellsKey key (front ++ cs ++ back)

/-- Texts with commas between them. -/
def commas : List (List Char) → List Char
  | [] => []
  | [cs] => cs
  | cs :: ds :: rest => cs ++ ',' :: commas (ds :: rest)

/-- A member of an object with the notations of its key and of its value. -/
structure Spelled where
  key : Option String
  keyChars : List Char
  value : Json
  valueChars : List Char

/-- The notation of a member. -/
def Spelled.chars (m : Spelled) : List Char := m.keyChars ++ ':' :: m.valueChars

/-- The notations of a value. Items and members keep their order. -/
inductive Spells : Json → List Char → Prop
  | null : Spells .null ['n', 'u', 'l', 'l']
  | true : Spells (.bool true) ['t', 'r', 'u', 'e']
  | false : Spells (.bool false) ['f', 'a', 'l', 's', 'e']
  | number (n : Numeral) : Spells (.number n) n.chars
  | string {s : Option String} {cs : List Char} (h : SpellsString s cs) : Spells (.string s) cs
  | list {blanks : List Char} (hblanks : IsBlank blanks) (items : List (Json × List Char))
      (hitems : ∀ p ∈ items, Spells p.1 p.2) :
      Spells (.list (items.map Prod.fst)) ('[' :: (blanks ++ (commas (items.map Prod.snd) ++ [']'])))
  | map {blanks : List Char} (hblanks : IsBlank blanks) (members : List Spelled)
      (hkeys : ∀ m ∈ members, SpellsKey m.key m.keyChars)
      (hvalues : ∀ m ∈ members, Spells m.value m.valueChars) :
      Spells (.map (members.map fun m => (m.key, m.value)))
        ('{' :: (blanks ++ (commas (members.map Spelled.chars) ++ ['}'])))
  | padded {j : Json} {front cs back : List Char} (hfront : IsBlank front) (h : Spells j cs)
      (hback : IsBlank back) : Spells j (front ++ cs ++ back)

/-! ## What is written -/

lemma isHexDigit_mod (n : ℕ) : IsHexDigit (n % 16) (Text.hexDigit (n % 16)) :=
  ⟨Nat.mod_lt n (by decide), .inl rfl⟩

lemma spellsUnit_unitEscape {u : ℕ} (h : u < 0x10000) : SpellsUnit u (unitEscape u) := by
  have hvalue : ((u / 4096 % 16 * 16 + u / 256 % 16) * 16 + u / 16 % 16) * 16 + u % 16 = u := by
    omega
  have hspells := SpellsUnit.digits (isHexDigit_mod (u / 4096)) (isHexDigit_mod (u / 256))
    (isHexDigit_mod (u / 16)) (isHexDigit_mod u)
  rwa [hvalue] at hspells

lemma toNat_lt (c : Char) : c.toNat < 0x110000 := by
  rcases c.valid with h | ⟨-, h⟩
  · exact Nat.lt_trans h (by decide)
  · exact h

lemma spellsChar_unitEscapes (c : Char) : SpellsChar c (unitEscapes c) := by
  rw [unitEscapes]
  split
  · next h => exact .unit (spellsUnit_unitEscape h)
  · next h =>
    have hc := toNat_lt c
    exact .pair (by omega) (spellsUnit_unitEscape (by omega)) (spellsUnit_unitEscape (by omega))

lemma spellsChar_escape (narrow : Bool) (c : Char) : SpellsChar c (escape narrow c) := by
  rw [escape]
  split_ifs with hquote hback hb hf hn hr ht hunits
  · exact .short (by simp [shortEscapes, hquote])
  · exact .short (by simp [shortEscapes, hback])
  · exact .short (by simp [shortEscapes, hb])
  · exact .short (by simp [shortEscapes, hf])
  · exact .short (by simp [shortEscapes, hn])
  · exact .short (by simp [shortEscapes, hr])
  · exact .short (by simp [shortEscapes, ht])
  · exact spellsChar_unitEscapes c
  · simp only [Bool.or_eq_true, not_or, decide_eq_true_eq] at hunits
    exact .plain hquote hback (by omega)

lemma spellsText_escape (narrow : Bool) (text : List Char) :
    SpellsText text (text.flatMap (escape narrow)) := by
  induction text with
  | nil => exact .nil
  | cons c text ih => exact .cons (spellsChar_escape narrow c) ih

lemma spellsString_stringChars (narrow : Bool) (s : Option String) :
    SpellsString s (stringChars narrow s) := by
  cases s with
  | none => exact .half (by decide) (spellsUnit_unitEscape (by decide))
  | some s => exact .text (spellsText_escape narrow s.toList)

lemma isBlank_nil : IsBlank [] := fun _ h => absurd h List.not_mem_nil

lemma SpellsKey.of_string {key : Option String} {cs : List Char} (h : SpellsString key cs) :
    SpellsKey key cs := by
  simpa using SpellsKey.padded isBlank_nil h isBlank_nil

lemma itemChars_eq (narrow : Bool) (items : List Json) :
    itemChars narrow items = commas (items.map (chars narrow)) := by
  induction items with
  | nil => rw [itemChars, List.map_nil, commas]
  | cons j rest ih =>
    cases rest with
    | nil => rw [itemChars, List.map_singleton, commas]
    | cons k rest =>
      rw [itemChars, ih]
      simp only [List.map_cons, commas]

/-- A member as it is written. -/
def written (narrow : Bool) (m : Option String × Json) : Spelled :=
  ⟨m.1, stringChars narrow m.1, m.2, chars narrow m.2⟩

lemma memberChars_eq (narrow : Bool) (members : List (Option String × Json)) :
    memberChars narrow members = commas (members.map fun m => (written narrow m).chars) := by
  induction members with
  | nil => rw [memberChars, List.map_nil, commas]
  | cons m rest ih =>
    obtain ⟨key, j⟩ := m
    cases rest with
    | nil => rw [memberChars, List.map_singleton, commas, Spelled.chars, written]
    | cons n rest =>
      rw [memberChars, ih]
      simp only [List.map_cons, commas, Spelled.chars, written, List.append_assoc, List.cons_append]

mutual

/-- What is written for a value is one of its notations. -/
theorem spells_chars (narrow : Bool) : ∀ j : Json, Spells j (chars narrow j)
  | .null => .null
  | .bool true => .true
  | .bool false => .false
  | .number n => .number n
  | .string s => .string (spellsString_stringChars narrow s)
  | .list items => by
    have h := Spells.list isBlank_nil (items.map fun j => (j, chars narrow j))
      (List.forall_mem_map.mpr (spells_items narrow items))
    rw [chars, itemChars_eq]
    simpa [Function.comp_def] using h
  | .map members => by
    have h := Spells.map isBlank_nil (members.map (written narrow))
      (List.forall_mem_map.mpr fun m _ => .of_string (spellsString_stringChars narrow m.1))
      (List.forall_mem_map.mpr (spells_members narrow members))
    rw [chars, memberChars_eq]
    simpa [Function.comp_def, written] using h

theorem spells_items (narrow : Bool) : ∀ items : List Json, ∀ j ∈ items, Spells j (chars narrow j)
  | [] => by simp
  | j :: items => List.forall_mem_cons.mpr ⟨spells_chars narrow j, spells_items narrow items⟩

theorem spells_members (narrow : Bool) : ∀ members : List (Option String × Json),
    ∀ m ∈ members, Spells m.2 (chars narrow m.2)
  | [] => by simp
  | (_, j) :: members =>
    List.forall_mem_cons.mpr ⟨spells_chars narrow j, spells_members narrow members⟩

end

end HostScript.Json
