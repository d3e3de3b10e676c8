/-!
# Places in a YAML text

A mark counts characters, lines and columns from zero; a cursor is a mark with the text from there on.
Before anything else the three line breaks of computers become one, so that a break is always a single
character; the two separators of lines and paragraphs are breaks that stay themselves.
-/
namespace HostScript.Yaml

structure Mark where
  index : Nat
  line : Nat
  column : Nat

def Mark.start : Mark := ⟨0, 0, 0⟩

/-- The place behind a character that is no break. -/
def Mark.next (m : Mark) : Mark := ⟨m.index + 1, m.line, m.column + 1⟩

/-- The place behind a break. -/
def Mark.nextLine (m : Mark) : Mark := ⟨m.index + 1, m.line + 1, 0⟩

/-- The place behind several characters that are no breaks. -/
def Mark.forward (m : Mark) (n : Nat) : Mark := ⟨m.index + n, m.line, m.column + n⟩

/-- A place with the text that follows. -/
structure Cursor where
  mark : Mark
  rest : List Char

/-- Whether a character may stand in a YAML text. -/
def isAllowed (c : Char) : Bool :=
  let n := c.toNat
  n = 0x09 || n = 0x0A || n = 0x0D || (0x20 ≤ n && n ≤ 0x7E) || n = 0x85 ||
    (0xA0 ≤ n && n ≤ 0xFFFD) || 0x10000 ≤ n

/-- Makes one line feed of each carriage return, line feed, pair of both, and next line. -/
def plainBreaks : List Char → List Char
  | [] => []
  | '\r' :: '\n' :: cs => '\n' :: plainBreaks cs
  | c :: cs => (if c = '\r' || c.toNat = 0x85 then '\n' else c) :: plainBreaks cs

def isBreak (c : Char) : Bool := c = '\n' || c.toNat = 0x2028 || c.toNat = 0x2029

/-- Whether a character is a space or a tab. -/
def isWhite (c : Char) : Bool := c = ' ' || c = '\t'

/-- Whether a text starts with white space or a break, or is at its end. -/
def endsWord : List Char → Bool
  | [] => true
  | c :: _ => isWhite c || isBreak c

/-- Whether a line starts with the given mark of a document, standing alone. -/
def isDocumentMark (dash : Char) (m : Mark) : List Char → Bool
  | a :: b :: c :: rest => m.column = 0 && a = dash && b = dash && c = dash && endsWord rest
  | _ => false

/-- Whether a line starts with a mark of a document. -/
def atDocumentMark (m : Mark) (rest : List Char) : Bool :=
  isDocumentMark '-' m rest || isDocumentMark '.' m rest

/-- The place behind a run of characters that are no breaks. -/
def Cursor.skipWhile (p : Char → Bool) (c : Cursor) : Cursor :=
  ⟨c.mark.forward (c.rest.takeWhile p).length, c.rest.dropWhile p⟩

/-- The place behind white space and a comment, if nothing else stands on the line; the break is passed
too. -/
def Cursor.endLine? (c : Cursor) : Option Cursor :=
  let c := c.skipWhile isWhite
  let c := if c.rest.head? = some '#' then c.skipWhile (fun d => !isBreak d) else c
  match c.rest with
  | [] => some c
  | d :: ds => if isBreak d then some ⟨c.mark.nextLine, ds⟩ else none

/-- A place with the permission to start a key there. -/
structure Approach where
  keyAllowed : Bool
  cursor : Cursor

/-- Goes on to the next character that is no space, comment or break. Tabs are spaces only where no key
can start. A break outside brackets permits a key again. -/
def approach (inBrackets : Bool) (comment keyAllowed : Bool) (m : Mark) : List Char → Approach
  | [] => ⟨keyAllowed, ⟨m, []⟩⟩
  | c :: cs =>
    if isBreak c then approach inBrackets false (keyAllowed || !inBrackets) m.nextLine cs
    else if comment then approach inBrackets true keyAllowed m.next cs
    else if c = '#' then approach inBrackets true keyAllowed m.next cs
    else if c = ' ' || (c = '\t' && (inBrackets || !keyAllowed)) ||
        (c.toNat = 0xFEFF && m.index = 0) then
      approach inBrackets false keyAllowed m.next cs
    else ⟨keyAllowed, ⟨m, c :: cs⟩⟩

end HostScript.Yaml
