import HostScript.Shell.Pattern
import HostScript.Shell.TextUtility

/-!
# Utilities for lines

Editing lines, picking those that a pattern matches, and changing characters or fields in them.
-/
namespace HostScript.Shell

/-- A line of what is read: its text, and whether it ends with a line feed. -/
structure Line where
  text : List Char
  ends : Bool

def textLines (bytes : ByteArray) : List Line :=
  (linesOf bytes.toList).map fun line =>
    ⟨(Text.decodeLossy ⟨(line.filter (· ≠ 10)).toArray⟩).toList, line.contains 10⟩

def Line.written (l : Line) : String := String.ofList l.text ++ if l.ends then "\n" else ""

/-! ## Editing -/

/-- A part of a replacement: a character, or all that was matched. -/
inductive Fill where
  | char (c : Char)
  | matched

/-- A replacement of what a pattern matches, once or everywhere in a line. -/
structure Substitution where
  pattern : LinePattern
  replacement : List Fill
  everywhere : Bool
  printed : Bool

inductive Address where
  | number (n : Nat)
  | last
  | pattern (p : LinePattern)

inductive EditKind where
  | substitute (s : Substitution)
  | print
  | delete

/-- An edit of the lines between two addresses, of the lines of one, or of all lines. -/
structure Edit where
  addresses : List Address
  kind : EditKind

/-- The text up to a separator that has no backslash in front, with what follows it. -/
def readPart (sep : Char) : List Char → Option (List Char × List Char)
  | [] => none
  | '\\' :: c :: cs =>
    (readPart sep cs).map fun (part, rest) => (if c = sep then c :: part else '\\' :: c :: part, rest)
  | c :: cs =>
    if c = sep then some ([], cs) else (readPart sep cs).map fun (part, rest) => (c :: part, rest)

/-- The replacement that a text stands for. -/
def readFills : List Char → List Fill
  | [] => []
  | '&' :: cs => .matched :: readFills cs
  | '\\' :: 'n' :: cs => .char '\n' :: readFills cs
  | '\\' :: c :: cs => .char c :: readFills cs
  | c :: cs => .char c :: readFills cs

def readAddress (cs : List Char) : Option (Address × List Char) :=
  match cs with
  | '$' :: rest => some (.last, rest)
  | '/' :: rest => (readPart '/' rest).map fun (p, rest) => (.pattern (.ofText p), rest)
  | c :: _ =>
    if c.isDigit then
      some (.number ((cs.takeWhile Char.isDigit).foldl (fun n d => n * 10 + (d.toNat - 48)) 0),
        cs.dropWhile Char.isDigit)
    else none
  | [] => none

/-- Reads the addresses in front of an edit. -/
def readAddresses (cs : List Char) : List Address × List Char :=
  match readAddress cs with
  | none => ([], cs)
  | some (first, ',' :: rest) =>
    match readAddress rest with
    | some (second, rest) => ([first, second], rest)
    | none => ([first], ',' :: rest)
  | some (first, rest) => ([first], rest)

/-- Whether a character stands between edits. -/
def endsEdit (c : Char) : Bool := c = ';' || c = '\n' || c = ' '

def readEdits : Nat → List Char → Option (List Edit)
  | 0, _ => none
  | fuel + 1, cs =>
    match cs.dropWhile endsEdit with
    | [] => some []
    | cs =>
      let (addresses, rest) := readAddresses cs
      match rest with
      | 'p' :: rest => (readEdits fuel rest).map (⟨addresses, .print⟩ :: ·)
      | 'd' :: rest => (readEdits fuel rest).map (⟨addresses, .delete⟩ :: ·)
      | 's' :: sep :: rest =>
        match readPart sep rest with
        | none => none
        | some (pattern, rest) =>
          match readPart sep rest with
          | none => none
          | some (replacement, rest) =>
            let flags := rest.takeWhile fun c => !endsEdit c
            let s : Substitution :=
              ⟨.ofText pattern, readFills replacement, flags.contains 'g', flags.contains 'p'⟩
            (readEdits fuel (rest.dropWhile fun c => !endsEdit c)).map
              (⟨addresses, .substitute s⟩ :: ·)
      | _ => none

/-- Replaces in a line, and says whether there was anything to replace. -/
def substitute (s : Substitution) : Nat → List Char → List Char × Bool
  | 0, line => (line, false)
  | fuel + 1, line =>
    match s.pattern.find? line with
    | none => (line, false)
    | some (before, rest) =>
      let found := (line.drop before.length).take (line.length - before.length - rest.length)
      let put := s.replacement.flatMap fun
        | .char c => [c]
        | .matched => found
      if s.everywhere && rest.length < line.length && !rest.isEmpty && !s.pattern.atStart then
        (before ++ put ++ (substitute s fuel rest).1, true)
      else (before ++ put ++ rest, true)

/-- Whether an address is that of a line with a number, perhaps the last. -/
def Address.isAt (number : Nat) (isLast : Bool) (text : List Char) : Address → Bool
  | .number n => n = number
  | .last => isLast
  | .pattern p => (p.find? text).isSome

/-- Whether an edit is about a line. -/
def Edit.concerns (e : Edit) (number : Nat) (isLast : Bool) (text : List Char) : Bool :=
  match e.addresses with
  | [] => true
  | [a] => a.isAt number isLast text
  | .number n :: .number m :: _ => n ≤ number && (number ≤ m || number = n)
  | .number n :: .last :: _ => n ≤ number
  | a :: _ => a.isAt number isLast text

/-- Edits a line: what is written of it along the way, and the line unless it is deleted. -/
def editLine (number : Nat) (isLast : Bool) : List Edit → Line → String × Option Line
  | [], line => ("", some line)
  | e :: es, line =>
    if e.concerns number isLast line.text then
      match e.kind with
      | .delete => ("", none)
      | .print =>
        let (more, left) := editLine number isLast es line
        (line.written ++ more, left)
      | .substitute s =>
        let (text, changed) := substitute s (line.text.length + 1) line.text
        let line := { line with text }
        let (more, left) := editLine number isLast es line
        ((if changed && s.printed then line.written else "") ++ more, left)
    else editLine number isLast es line

/-- Edits bytes line by line. A quiet edit writes only what it is told to. -/
def editBytes (quiet : Bool) (edits : List Edit) (bytes : ByteArray) : String :=
  let lines := textLines bytes
  String.join (lines.mapIdx fun i line =>
    let (along, left) := editLine (i + 1) (i + 1 = lines.length) edits line
    along ++ if quiet then "" else (left.map Line.written).getD "")

/-- The options, the scripts and the operands of an edit. -/
def editArguments : List String → List Char × List String × List String
  | [] => ([], [], [])
  | a :: rest =>
    let (letters, scripts, operands) := editArguments rest
    match a.toList, rest with
    | ['-', 'e'], script :: _ => (letters, script :: scripts, operands.drop 1)
    | '-' :: c :: cs, _ => (c :: cs ++ letters, scripts, operands)
    | _, _ => (letters, scripts, a :: operands)

/-- Edits the lines of what is gathered, or of each file in its place. -/
def sed : Utility := fun call =>
  let (letters, scripts, operands) := editArguments call.arguments
  let (scripts, operands) := if scripts.isEmpty then (operands.take 1, operands.drop 1)
    else (scripts, operands)
  let script := ("\n".intercalate scripts).toList
  let cannot (operand : String) (f : FileFault) : String := "can't read " ++ operand ++ ": " ++ f.text
  match readEdits (script.length + 1) script with
  | none =>
    (Reply.silent call.files 1).complain call.name "-e expression #1, char 0: unknown command" 1
  | some edits =>
    let edit := editBytes (letters.contains 'n') edits
    if letters.contains 'i' then
      operands.foldl (fun r operand =>
        match r.files.read operand with
        | .error f => r.complain call.name (cannot operand f) 2
        | .ok bytes =>
          { r with files := (r.files.write operand (edit bytes).toUTF8).toOption.getD r.files })
        (.silent call.files 0)
    else
      let r := gather call operands cannot
      { r with output := (edit r.output).toUTF8, status := if r.status = 0 then 0 else 2 }

/-! ## Picking -/

/-- Picks the lines that a pattern matches. -/
def grep : Utility := fun call =>
  let (letters, operands) := options call.arguments
  match operands with
  | [] => (Reply.silent call.files 2).complain call.name "no pattern" 2
  | pattern :: operands =>
    let has (c : Char) : Bool := letters.contains c
    let fold (cs : List Char) : List Char := if has 'i' then cs.map Char.toLower else cs
    let p := LinePattern.ofText (fold (if has 'F' then pattern.toList.flatMap fun c => ['\\', c]
      else pattern.toList))
    let hit (cs : List Char) : Bool :=
      match p.find? (fold cs) with
      | some (before, rest) => !has 'x' || (before.isEmpty && rest.isEmpty)
      | none => false
    let r := gather call operands fun operand f => operand ++ ": " ++ f.text
    let hits := ((textLines r.output).mapIdx fun i line => (i + 1, line)).filter fun (_, line) =>
      hit line.text != has 'v'
    let text :=
      if has 'q' then ""
      else if has 'c' then Text.natural hits.length ++ "\n"
      else if has 'l' then String.join ((operands.take hits.length).map fun name => name ++ "\n")
      else String.join (hits.map fun (i, line) =>
        (if has 'n' then Text.natural i ++ ":" else "") ++ String.ofList line.text ++ "\n")
    let status := if r.status ≠ 0 then 2 else if hits.isEmpty then 1 else 0
    { r with output := text.toUTF8, status }

/-! ## Changing characters and fields -/

/-- The characters of a set, in which a hyphen stands for a range. -/
def charSet : Nat → List Char → List Char
  | 0, _ => []
  | _, [] => []
  | fuel + 1, '\\' :: c :: cs =>
    (if c = 'n' then '\n' else if c = 't' then '\t' else c) :: charSet fuel cs
  | fuel + 1, a :: '-' :: b :: cs =>
    (List.range (b.toNat + 1 - a.toNat)).map (fun i => Char.ofNat (a.toNat + i)) ++ charSet fuel cs
  | fuel + 1, c :: cs => c :: charSet fuel cs

/-- Replaces or deletes characters. -/
def tr : Utility := fun call =>
  let (letters, sets) := options call.arguments
  let set (i : Nat) : List Char :=
    let cs := (sets[i]?.getD "").toList
    charSet (cs.length + 1) cs
  let text := (Text.decodeLossy call.input).toList
  let changed :=
    if letters.contains 'd' then text.filter fun c => !(set 0).contains c
    else text.map fun c =>
      match (set 0).idxOf? c with
      | none => c
      | some i => ((set 1)[i]?.or (set 1).getLast?).getD c
  if sets.isEmpty then (Reply.silent call.files 1).misuse call.name "missing operand"
  else { Reply.silent call.files 0 with output := (String.ofList changed).toUTF8 }

/-- The numbers of a list such as `1,3-4`. A range without an end goes on to a limit. -/
def numberList (limit : Nat) (s : String) : List Nat :=
  let value (cs : List Char) : Nat := cs.foldl (fun n d => n * 10 + (d.toNat - 48)) 0
  (s.splitOn ",").flatMap fun part =>
    match part.splitOn "-" with
    | [a, b] =>
      let first := max 1 (value a.toList)
      let last := if b.isEmpty then limit else value b.toList
      (List.range (last + 1 - first)).map (first + ·)
    | _ => [value part.toList]

/-- The options with their values, behind their letters or as the next argument, and the operands. -/
def letterValues : List String → List (Char × String) × List String
  | [] => ([], [])
  | a :: rest =>
    let (values, operands) := letterValues rest
    match a.toList, rest with
    | ['-', c], value :: _ => ((c, value) :: values, operands.drop 1)
    | '-' :: c :: cs, _ => ((c, String.ofList cs) :: values, operands)
    | _, _ => (values, a :: operands)

/-- Writes some fields or characters of each line. -/
def cut : Utility := fun call =>
  let (values, operands) := letterValues call.arguments
  let sep := ((values.lookup 'd').bind (·.toList.head?)).getD '\t'
  let pick (line : List Char) : List Char :=
    match values.lookup 'f', values.lookup 'c' with
    | some list, _ =>
      let fields := (String.ofList line).splitOn (String.singleton sep)
      if fields.length ≤ 1 then line
      else
        let wanted := numberList fields.length list
        let kept := (fields.mapIdx fun i field => (i + 1, field)).filter fun (i, _) => wanted.contains i
        ((String.singleton sep).intercalate (kept.map (·.2))).toList
    | none, some list =>
      let wanted := numberList line.length list
      ((line.mapIdx fun i c => (i + 1, c)).filter fun (i, _) => wanted.contains i).map (·.2)
    | none, none => line
  let r := gather call operands unreadable
  let lines := (textLines r.output).map fun line => String.ofList (pick line.text) ++ "\n"
  { r with output := (String.join lines).toUTF8 }

end HostScript.Shell
