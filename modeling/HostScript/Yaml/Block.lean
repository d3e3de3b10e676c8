import HostScript.Yaml.Gap

/-!
# Block scalars

Lines below a `|` or a `>`, as far as they are indented. A digit in the header says how far that is;
without one the first line that is not empty does. A sign says whether the breaks at the end are kept or
dropped; without one the first of them is kept. In the folded style a break between two lines that both
start with a word becomes a space.
-/
namespace HostScript.Yaml

inductive Chomping where
  | clip
  | keep
  | strip
  deriving DecidableEq

/-- The header of a block scalar. An indentation of zero is one that has to be found out. -/
structure BlockHeader where
  chomping : Chomping
  indentation : Nat

/-- The chomping of a sign. -/
def chompingOf? (c : Char) : Option Chomping :=
  if c = '+' then some .keep else if c = '-' then some .strip else none

/-- The value of a digit that is not zero. -/
def indentationOf? (c : Char) : Option Nat :=
  if '1' ≤ c ∧ c ≤ '9' then some (c.toNat - 48) else none

/-- The indicators of a header: a sign and a digit at will, in any order. A zero is refused. -/
def readIndicators (c : Cursor) : Option (BlockHeader × Cursor) :=
  let sign (c : Cursor) : Chomping × Cursor :=
    match c.rest with
    | d :: ds => match chompingOf? d with
      | some chomping => (chomping, ⟨c.mark.next, ds⟩)
      | none => (.clip, c)
    | [] => (.clip, c)
  let digit (c : Cursor) : Option (Nat × Cursor) :=
    match c.rest with
    | d :: ds =>
      if d = '0' then none
      else match indentationOf? d with
        | some n => some (n, ⟨c.mark.next, ds⟩)
        | none => some (0, c)
    | [] => some (0, c)
  match sign c with
  | (.clip, c) => do
    let (indentation, c) ← digit c
    if indentation = 0 then some (⟨.clip, 0⟩, c)
    else
      let (chomping, c) := sign c
      some (⟨chomping, indentation⟩, c)
  | (chomping, c) => do
    let (indentation, c) ← digit c
    some (⟨chomping, indentation⟩, c)

/-- The lines read so far. Texts stand latest character first. -/
structure BlockLines where
  text : List Char
  /-- The break behind the last line that is not empty. -/
  lastBreak : List Char
  /-- The breaks of the empty lines behind it. -/
  emptyLines : List Char
  /-- Whether that line starts with white space. -/
  startsWhite : Bool

/-- The beginning of a line that is not empty. -/
def BlockLines.begin (folded : Bool) (b : BlockLines) (c : Char) : BlockLines :=
  let startsWhite := isWhite c
  let text :=
    if folded && b.lastBreak = ['\n'] && !b.startsWhite && !startsWhite then
      if b.emptyLines.isEmpty then ' ' :: b.text else b.text
    else b.lastBreak ++ b.text
  ⟨c :: (b.emptyLines ++ text), [], [], startsWhite⟩

/-- The text of all lines. -/
def BlockLines.close (chomping : Chomping) (b : BlockLines) : List Char :=
  match chomping with
  | .strip => b.text
  | .clip => b.lastBreak ++ b.text
  | .keep => b.emptyLines ++ (b.lastBreak ++ b.text)

/-- Where in the lines the reading is: inside one, or before the first character of one, where the widest
indentation so far is known. -/
inductive BlockPlace where
  | inside
  | before (widest : Nat)

/-- Reads the lines of a block scalar. While the indentation is zero it is not yet found out; it is then
at least one and at least the floor. -/
def readBlock (folded : Bool) (chomping : Chomping) (floor indentation : Nat) (b : BlockLines) :
    BlockPlace → Mark → List Char → Option ScalarRead
  | _, m, [] => some ⟨b.close chomping, ⟨m, []⟩, false⟩
  | .inside, m, c :: cs =>
    if isBreak c then
      readBlock folded chomping floor indentation { b with lastBreak := [c] } (.before 0) m.nextLine cs
    else readBlock folded chomping floor indentation { b with text := c :: b.text } .inside m.next cs
  | .before widest, m, c :: cs =>
    let mayIndent := indentation = 0 || m.column < indentation
    if mayIndent && c = ' ' then
      readBlock folded chomping floor indentation b (.before widest) m.next cs
    else if mayIndent && c = '\t' then none
    else
      let widest := max widest m.column
      if isBreak c then
        readBlock folded chomping floor indentation { b with emptyLines := c :: b.emptyLines }
          (.before widest) m.nextLine cs
      else
        let indentation := if indentation = 0 then max widest (max floor 1) else indentation
        if m.column = indentation then
          readBlock folded chomping floor indentation (b.begin folded c) .inside m.next cs
        else some ⟨b.close chomping, ⟨m, c :: cs⟩, false⟩

/-- Reads a block scalar behind its `|` or `>`. -/
def readBlockScalar (folded : Bool) (floor : Nat) (c : Cursor) : Option ScalarRead := do
  let (header, c) ← readIndicators c
  let c ← c.endLine?
  let indentation := if header.indentation = 0 then 0 else floor - 1 + header.indentation
  readBlock folded header.chomping floor indentation ⟨[], [], [], false⟩ (.before 0) c.mark c.rest

end HostScript.Yaml
