import HostScript.Yaml.Cursor
import HostScript.Yaml.Scalar

/-!
# Anchors, tags and directives

The names in front of a node, and the lines in front of a document. A tag is a handle with a suffix; a
handle is `!`, `!!` or a name between exclamation marks, and is empty for a tag written in full.
-/
namespace HostScript.Yaml

/-- Whether a character may stand in the name of an anchor, a handle or a directive. -/
def isNameChar (c : Char) : Bool :=
  Numeral.isDigit c || ('a' ≤ c && c ≤ 'z') || ('A' ≤ c && c ≤ 'Z') || c = '_' || c = '-'

/-- Whether the name of an anchor may end before a text. -/
def endsName (rest : List Char) : Bool :=
  endsWord rest ||
    match rest.head? with
    | none => true
    | some c => ['?', ':', ',', ']', '}', '%', '@', '\x60'].contains c

/-- Reads the name of an anchor or an alias. -/
def readAnchor (c : Cursor) : Option (String × Cursor) :=
  let name := c.rest.takeWhile isNameChar
  let c := c.skipWhile isNameChar
  if name.isEmpty || !endsName c.rest then none else some (String.ofList name, c)

/-- Whether a character may stand in a tag. Commas and brackets may only in one written in full. -/
def isTagChar (full : Bool) (c : Char) : Bool :=
  isNameChar c ||
    [';', '/', '?', ':', '@', '&', '=', '+', '$', '.', '!', '~', '*', '\'', '(', ')'].contains c ||
    (full && [',', '[', ']'].contains c)

/-- The octets that follow an octet of an escaped character, with the bits it brings. -/
def leadOctet? (octet : Nat) : Option (Nat × Nat) :=
  if octet < 0x80 then some (0, octet)
  else if octet < 0xC0 then none
  else if octet < 0xE0 then some (1, octet - 0xC0)
  else if octet < 0xF0 then some (2, octet - 0xE0)
  else if octet < 0xF8 then some (3, octet - 0xF0)
  else none

/-- Reads the characters of a tag, latest first. Escaped octets are decoded; `owed` of them have still to
come. -/
def readTagChars (full : Bool) (owed value : Nat) (text : List Char) (m : Mark) :
    List Char → Option (List Char × Cursor)
  | '%' :: a :: b :: cs =>
    match digitIn? 16 a, digitIn? 16 b with
    | some high, some low =>
      let octet := high * 16 + low
      if owed = 0 then
        match leadOctet? octet with
        | none => none
        | some (0, value) => readTagChars full 0 0 (Char.ofNat value :: text) (m.forward 3) cs
        | some (owed, value) => readTagChars full owed value text (m.forward 3) cs
      else if octet < 0x80 || 0xC0 ≤ octet then none
      else
        let value := value * 64 + (octet - 0x80)
        if owed = 1 then readTagChars full 0 0 (Char.ofNat value :: text) (m.forward 3) cs
        else readTagChars full (owed - 1) value text (m.forward 3) cs
    | _, _ => none
  | [] => if owed = 0 then some (text, ⟨m, []⟩) else none
  | c :: cs =>
    if owed ≠ 0 || c = '%' then none
    else if isTagChar full c then readTagChars full 0 0 (c :: text) m.next cs
    else some (text, ⟨m, c :: cs⟩)

structure TagName where
  handle : String
  suffix : String

/-- Reads a handle: an exclamation mark and a name, which another exclamation mark may close. -/
def readHandle (c : Cursor) : Option (List Char × Cursor) :=
  match c.rest with
  | '!' :: cs =>
    let name := cs.takeWhile isNameChar
    let c := (Cursor.mk c.mark.next cs).skipWhile isNameChar
    match c.rest with
    | '!' :: ds => some ('!' :: name ++ ['!'], ⟨c.mark.next, ds⟩)
    | _ => some ('!' :: name, c)
  | _ => none

/-- Reads a tag that starts with a handle, or is local and then has the handle `!`. -/
def readShortTag (c : Cursor) : Option (TagName × Cursor) := do
  let (handle, c) ← readHandle c
  if 1 < handle.length && handle.getLast? = some '!' then
    let (suffix, after) ← readTagChars false 0 0 [] c.mark c.rest
    if suffix.isEmpty then none else some (⟨String.ofList handle, String.ofList suffix.reverse⟩, after)
  else
    let (suffix, after) ← readTagChars false 0 0 (handle.drop 1).reverse c.mark c.rest
    if suffix.isEmpty then some (⟨"", "!"⟩, after)
    else some (⟨"!", String.ofList suffix.reverse⟩, after)

/-- Reads a tag. White space, a break or, inside brackets, a comma has to follow. -/
def readTag (inBrackets : Bool) (c : Cursor) : Option (TagName × Cursor) := do
  let (tag, after) ← match c.rest with
    | '!' :: '<' :: cs => do
      let (suffix, after) ← readTagChars true 0 0 [] (c.mark.forward 2) cs
      match suffix, after.rest with
      | _ :: _, '>' :: ds => some (⟨"", String.ofList suffix.reverse⟩, ⟨after.mark.next, ds⟩)
      | _, _ => none
    | _ => readShortTag c
  if endsWord after.rest || (inBrackets && after.rest.head? = some ',') then some (tag, after)
  else none

inductive Directive where
  | version (major minor : Nat)
  | handle (handle stem : String)

/-- Reads a number of at most nine digits. -/
def readVersionNumber (c : Cursor) : Option (Nat × Cursor) :=
  let digits := c.rest.takeWhile Numeral.isDigit
  if digits.isEmpty || 9 < digits.length then none
  else some (Numeral.ofDigits 0 digits, c.skipWhile Numeral.isDigit)

/-- Reads what a version directive says. -/
def readVersion (c : Cursor) : Option (Directive × Cursor) := do
  let (major, c) ← readVersionNumber (c.skipWhile isWhite)
  match c.rest with
  | '.' :: ds =>
    let (minor, c) ← readVersionNumber ⟨c.mark.next, ds⟩
    some (.version major minor, c)
  | _ => none

/-- Reads what a tag directive says. -/
def readHandleDirective (c : Cursor) : Option (Directive × Cursor) := do
  let (handle, c) ← readHandle (c.skipWhile isWhite)
  if handle ≠ ['!'] && !(1 < handle.length && handle.getLast? = some '!') then none
  match c.rest with
  | d :: _ => if !isWhite d then none
  | [] => none
  let c := c.skipWhile isWhite
  let (stem, c) ← readTagChars true 0 0 [] c.mark c.rest
  if stem.isEmpty || !endsWord c.rest then none
  else some (.handle (String.ofList handle) (String.ofList stem.reverse), c)

/-- Reads a directive behind its percent sign, to the end of its line. -/
def readDirective (c : Cursor) : Option (Directive × Cursor) := do
  let name := c.rest.takeWhile isNameChar
  let c := c.skipWhile isNameChar
  if name.isEmpty || !endsWord c.rest then none
  let (directive, c) ←
    if name = ['Y', 'A', 'M', 'L'] then readVersion c
    else if name = ['T', 'A', 'G'] then readHandleDirective c
    else none
  let c ← c.endLine?
  some (directive, c)

end HostScript.Yaml
