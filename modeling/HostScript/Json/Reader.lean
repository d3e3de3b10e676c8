import HostScript.Json.Numeral
import HostScript.Text.Quoted

/-!
# Reading JSON

A machine that takes one character at a time. It keeps the containers that are open, innermost first,
each with what was read of it, so that values may nest without limit. A number or a word ends at the
first character that cannot be part of it.
-/
namespace HostScript.Json

/-- An open container. What was read of it stands last first. -/
inductive Frame where
  | list (items : List Json)
  | map (members : List (Option String × Json))
  | member (members : List (Option String × Json)) (key : Option String)

inductive StringPlace where
  | plain
  | escape
  | unit (owed value : Nat)

inductive Phase where
  /-- A value has to come. -/
  | value
  /-- A value or the end of the array. -/
  | firstItem
  /-- A key or the end of the object. -/
  | firstKey
  /-- A key has to come. -/
  | key
  /-- A key was read, and a colon has to come. -/
  | colon (key : Option String)
  /-- A value is complete. -/
  | done (value : Json)
  /-- Inside a string, with its code units last first. -/
  | string (isKey : Bool) (place : StringPlace) (units : List Nat)
  /-- Inside a number, with its characters last first. -/
  | number (chars : List Char)
  /-- Inside a word, with its characters last first. -/
  | word (chars : List Char)

structure Reader where
  frames : List Frame
  phase : Phase

/-- Whether a code unit is the first half of a surrogate pair. -/
def isHighHalf (u : Nat) : Bool := 0xD800 ≤ u && u ≤ 0xDBFF

/-- Whether a code unit is the second half of a surrogate pair. -/
def isLowHalf (u : Nat) : Bool := 0xDC00 ≤ u && u ≤ 0xDFFF

/-- Joins code units, given last first, to text in front of the text already there. A half without its
other half denotes no text. -/
def joinUnits (text : List Char) : List Nat → Option (List Char)
  | [] => some text
  | u :: us =>
    if isLowHalf u then
      match us with
      | [] => none
      | v :: vs =>
        if isHighHalf v then
          joinUnits (Char.ofNat (0x10000 + (v - 0xD800) * 0x400 + (u - 0xDC00)) :: text) vs
        else none
    else if isHighHalf u then none
    else joinUnits (Char.ofNat u :: text) us

/-- The text of code units given last first. -/
def textOfUnits (units : List Nat) : Option String := (joinUnits [] units).map String.ofList

/-- The character that an escape of two characters denotes. -/
def shortEscape? (c : Char) : Option Char :=
  if c = '"' || c = '\\' || c = '/' then some c
  else if c = 'b' then some '\x08'
  else if c = 'f' then some '\x0c'
  else if c = 'n' then some '\n'
  else if c = 'r' then some '\r'
  else if c = 't' then some '\t'
  else none

def hexValue? (c : Char) : Option Nat :=
  if '0' ≤ c ∧ c ≤ '9' then some (c.toNat - 48)
  else if 'a' ≤ c ∧ c ≤ 'f' then some (c.toNat - 87)
  else if 'A' ≤ c ∧ c ≤ 'F' then some (c.toNat - 55)
  else none

/-- One character inside a string. -/
def stringStep (isKey : Bool) (units : List Nat) : StringPlace → Char → Option Phase
  | .plain, c =>
    if c = '"' then
      some (if isKey then .colon (textOfUnits units) else .done (.string (textOfUnits units)))
    else if c = '\\' then some (.string isKey .escape units)
    else if c.toNat < 0x20 then none
    else some (.string isKey .plain (c.toNat :: units))
  | .escape, c =>
    if c = 'u' then some (.string isKey (.unit 4 0) units)
    else (shortEscape? c).map fun e => .string isKey .plain (e.toNat :: units)
  | .unit owed value, c =>
    match hexValue? c with
    | none => none
    | some d =>
      if owed ≤ 1 then some (.string isKey .plain ((value * 16 + d) :: units))
      else some (.string isKey (.unit (owed - 1) (value * 16 + d)) units)

/-- Whether a character may be part of a number. -/
def isNumberChar (c : Char) : Bool :=
  Numeral.isDigit c || c = '-' || c = '+' || c = '.' || c = 'e' || c = 'E'

/-- Whether a character may be part of a word. -/
def isWordChar (c : Char) : Bool := 'a' ≤ c && c ≤ 'z'

/-- Whether a character may stand between two parts. -/
def isSpace (c : Char) : Bool := c = ' ' || c = '\t' || c = '\n' || c = '\r'

def wordValue? (word : List Char) : Option Json :=
  if word = ['n', 'u', 'l', 'l'] then some .null
  else if word = ['t', 'r', 'u', 'e'] then some (.bool true)
  else if word = ['f', 'a', 'l', 's', 'e'] then some (.bool false)
  else none

/-- Ends a number or a word. -/
def Phase.close : Phase → Option Phase
  | .number chars => (Numeral.read? chars.reverse).map fun n => .done (.number n)
  | .word chars => (wordValue? chars.reverse).map .done
  | p => some p

/-- The first character of a value. -/
def beginValue (frames : List Frame) (c : Char) : Option Reader :=
  if c = '{' then some ⟨.map [] :: frames, .firstKey⟩
  else if c = '[' then some ⟨.list [] :: frames, .firstItem⟩
  else if c = '"' then some ⟨frames, .string false .plain []⟩
  else if c = '-' || Numeral.isDigit c then some ⟨frames, .number [c]⟩
  else if isWordChar c then some ⟨frames, .word [c]⟩
  else none

/-- A character behind a complete value. -/
def afterValue (v : Json) : List Frame → Char → Option Reader
  | .list items :: frames, c =>
    if c = ',' then some ⟨.list (v :: items) :: frames, .value⟩
    else if c = ']' then some ⟨frames, .done (.list (v :: items).reverse)⟩
    else none
  | .member members key :: frames, c =>
    if c = ',' then some ⟨.map ((key, v) :: members) :: frames, .key⟩
    else if c = '}' then some ⟨frames, .done (.map ((key, v) :: members).reverse)⟩
    else none
  | _, _ => none

/-- A character that is no space, between two parts. -/
def betweenStep (r : Reader) (c : Char) : Option Reader :=
  match r.phase, r.frames with
  | .value, frames => beginValue frames c
  | .firstItem, .list items :: frames =>
    if c = ']' then some ⟨frames, .done (.list items.reverse)⟩
    else beginValue (.list items :: frames) c
  | .firstKey, .map members :: frames =>
    if c = '}' then some ⟨frames, .done (.map members.reverse)⟩
    else if c = '"' then some ⟨.map members :: frames, .string true .plain []⟩
    else none
  | .key, frames => if c = '"' then some ⟨frames, .string true .plain []⟩ else none
  | .colon key, .map members :: frames =>
    if c = ':' then some ⟨.member members key :: frames, .value⟩ else none
  | .done v, frames => afterValue v frames c
  | _, _ => none

def step (r : Reader) (c : Char) : Option Reader :=
  match r.phase with
  | .string isKey place units =>
    (stringStep isKey units place c).map fun phase => { r with phase }
  | .number chars =>
    if isNumberChar c then some { r with phase := .number (c :: chars) }
    else match Phase.close (.number chars) with
      | none => none
      | some phase => if isSpace c then some { r with phase } else betweenStep { r with phase } c
  | .word chars =>
    if isWordChar c then some { r with phase := .word (c :: chars) }
    else match Phase.close (.word chars) with
      | none => none
      | some phase => if isSpace c then some { r with phase } else betweenStep { r with phase } c
  | _ => if isSpace c then some r else betweenStep r c

def run (r : Reader) : List Char → Option Reader
  | [] => some r
  | c :: cs =>
    match step r c with
    | none => none
    | some r' => run r' cs

/-- The value that a machine at the end of the text has read. -/
def result? (r : Reader) : Option Json :=
  match r.frames, r.phase.close with
  | [], some (.done v) => some v
  | _, _ => none

/-- Reads a text that is one JSON value. -/
def parse? (text : String) : Option Json :=
  match run ⟨[], .value⟩ text.toList with
  | none => none
  | some r => result? r

end HostScript.Json
