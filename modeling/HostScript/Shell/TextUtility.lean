import HostScript.Shell.Call
import HostScript.Text.Blank
import HostScript.Text.Decimal
import HostScript.Text.Utf8

/-!
# Utilities for text

Writing arguments, copying what is read, and picking or changing lines. Backslash escapes denote bytes,
so what is written need not be text.
-/
namespace HostScript.Shell

def charBytes (c : Char) : List UInt8 := (String.singleton c).toUTF8.toList

/-- The byte that a letter behind a backslash denotes. -/
def letterByte? (c : Char) : Option UInt8 :=
  if c = 'a' then some 7
  else if c = 'b' then some 8
  else if c = 'f' then some 12
  else if c = 'n' then some 10
  else if c = 'r' then some 13
  else if c = 't' then some 9
  else if c = 'v' then some 11
  else if c = '\\' then some 92
  else none

/-- Whether a character is a digit below eight. -/
def isOctal (c : Char) : Bool := '0' ≤ c && c ≤ '7'

/-- The byte of digits in base eight. -/
def octalByte (digits : List Char) : UInt8 :=
  UInt8.ofNat (digits.foldl (fun n d => n * 8 + (d.toNat - 48)) 0)

/-- The bytes of an argument with escapes, and whether an escape ends all output. -/
def escapedBytes : Nat → List Char → List UInt8 × Bool
  | 0, _ => ([], false)
  | _, [] => ([], false)
  | fuel + 1, c :: cs =>
    let goOn (bytes : List UInt8) (rest : List Char) : List UInt8 × Bool :=
      let (more, ended) := escapedBytes fuel rest
      (bytes ++ more, ended)
    if c ≠ '\\' then goOn (charBytes c) cs
    else match cs with
      | [] => goOn [92] []
      | 'c' :: _ => ([], true)
      | d :: rest =>
        if d = '0' then
          let digits := (rest.take 3).takeWhile isOctal
          goOn [octalByte digits] (rest.drop digits.length)
        else if isOctal d then
          let digits := (cs.take 3).takeWhile isOctal
          goOn [octalByte digits] (cs.drop digits.length)
        else match letterByte? d with
          | some b => goOn [b] rest
          | none => goOn [92] cs

/-- The bytes of an argument with escapes. -/
def bytesOfEscaped (s : String) : List UInt8 × Bool := escapedBytes (s.length + 1) s.toList

def echo : Utility := fun call =>
  let (plain, arguments) := match call.arguments with
    | "-n" :: rest => (true, rest)
    | rest => (false, rest)
  let (bytes, ended) := bytesOfEscaped (" ".intercalate arguments)
  let bytes := if plain || ended then bytes else bytes ++ [10]
  { Reply.silent call.files 0 with output := ⟨bytes.toArray⟩ }

inductive IntegerFault where
  | notNumeric (s : String)
  | notWhole (s : String)

/-- The message of a shell about an argument. -/
def IntegerFault.inShell : IntegerFault → String
  | .notNumeric s => s ++ ": expected numeric value"
  | .notWhole s => s ++ ": not completely converted"

/-- The message of a program about an argument. -/
def IntegerFault.inProgram : IntegerFault → String
  | .notNumeric s => curvedQuoted s ++ ": expected a numeric value"
  | .notWhole s => curvedQuoted s ++ ": value not completely converted"

/-- The bytes of a format up to its end, with the arguments that are left, whether any was taken, and
what was wrong with those that were. -/
structure Formatted where
  bytes : List UInt8
  rest : List String
  took : Bool
  ended : Bool
  faults : List IntegerFault

/-- The integer in an argument; what is no integer counts as zero. -/
def integerArgument (s : String) : Int :=
  match s.toList with
  | '-' :: cs => -((cs.takeWhile Char.isDigit).foldl (fun n d => n * 10 + (d.toNat - 48)) 0 : Nat)
  | '+' :: cs => ((cs.takeWhile Char.isDigit).foldl (fun n d => n * 10 + (d.toNat - 48)) 0 : Nat)
  | '\'' :: c :: _ => c.toNat
  | '"' :: c :: _ => c.toNat
  | cs => ((cs.takeWhile Char.isDigit).foldl (fun n d => n * 10 + (d.toNat - 48)) 0 : Nat)

/-- What is wrong with an argument that should be an integer. -/
def integerFault (s : String) : List IntegerFault :=
  let cs := match s.toList with
    | '-' :: cs => cs
    | '+' :: cs => cs
    | cs => cs
  let isLetter : Bool := cs.head? = some '\'' || cs.head? = some '"'
  if s.isEmpty || isLetter || (cs.all Char.isDigit && !cs.isEmpty) then []
  else if (cs.head?.map Char.isDigit).getD false then [.notWhole s]
  else [.notNumeric s]

/-- Fills up to a width with blanks, or on the left with zeros. -/
def padded (left zeros : Bool) (width : Nat) (bytes : List UInt8) : List UInt8 :=
  let fill := List.replicate (width - bytes.length) (if zeros && !left then 48 else 32)
  if left then bytes ++ fill else fill ++ bytes

/-- Goes once through a format. -/
def formatOnce : Nat → List Char → Formatted → Formatted
  | 0, _, f => f
  | _, [], f => f
  | fuel + 1, c :: cs, f =>
    let put (bytes : List UInt8) (rest : List Char) :=
      formatOnce fuel rest { f with bytes := f.bytes ++ bytes }
    if c = '\\' then
      match cs with
      | [] => put [92] []
      | 'c' :: _ => { f with ended := true }
      | d :: rest =>
        if isOctal d then
          let digits := (cs.take 3).takeWhile isOctal
          put [octalByte digits] (cs.drop digits.length)
        else if d = '"' then put [34] rest
        else match letterByte? d with
          | some b => put [b] rest
          | none => put [92] cs
    else if c = '%' then
      let flags := cs.takeWhile fun d => d = '-' || d = '0'
      let cs := cs.dropWhile fun d => d = '-' || d = '0'
      let width := (cs.takeWhile Char.isDigit).foldl (fun n d => n * 10 + (d.toNat - 48)) 0
      let left := flags.contains '-'
      let next := f.rest.head?.getD ""
      let taken := { f with rest := f.rest.drop 1, took := f.took || !f.rest.isEmpty }
      let field (zeros : Bool) (bytes : List UInt8) (rest : List Char) :=
        formatOnce fuel rest { taken with bytes := f.bytes ++ padded left zeros width bytes }
      match cs.dropWhile Char.isDigit with
      | '%' :: rest => put [37] rest
      | 's' :: rest => field false next.toUTF8.toList rest
      | 'b' :: rest =>
        let (bytes, ended) := bytesOfEscaped next
        if ended then { taken with bytes := f.bytes ++ bytes, ended := true }
        else field false bytes rest
      | 'c' :: rest => field false ((next.toUTF8.toList).take 1) rest
      | d :: rest =>
        let number (text : String) :=
          formatOnce fuel rest { taken with
            bytes := f.bytes ++ padded left (flags.contains '0') width text.toUTF8.toList
            faults := f.faults ++ integerFault next }
        if d = 'd' || d = 'i' || d = 'u' then number (Text.integer (integerArgument next))
        else if d = 'x' then number (String.ofList (Text.hexDigits (integerArgument next).toNat))
        else put (charBytes d) rest
      | [] => put [37] []
    else put (charBytes c) cs

/-- Goes through a format until all arguments are taken. -/
def formatAll : Nat → List Char → Formatted → Formatted
  | 0, _, f => f
  | fuel + 1, format, f =>
    let f := formatOnce (format.length + 1) format { f with took := false }
    if f.ended || !f.took || f.rest.isEmpty then f else formatAll fuel format f

def printf (wording : IntegerFault → String) : Utility := fun call =>
  match (if call.arguments.head? = some "--" then call.arguments.drop 1 else call.arguments) with
  | [] => (Reply.silent call.files 2).complain call.name "usage: printf format [arg ...]" 2
  | format :: arguments =>
    let f := formatAll (arguments.length + 1) format.toList ⟨[], arguments, false, false, []⟩
    f.faults.foldl (fun r fault => r.complain call.name (wording fault) 1)
      { Reply.silent call.files 0 with output := ⟨f.bytes.toArray⟩ }

/-- What the operands hold, or what can be read if there are none, one after the other. -/
def gather (call : Call) (operands : List String) (message : String → FileFault → String) : Reply :=
  let operands := if operands.isEmpty then ["-"] else operands
  operands.foldl (fun r operand =>
    if operand = "-" then { r with output := r.output ++ call.input }
    else match call.files.read operand with
      | .ok bytes => { r with output := r.output ++ bytes }
      | .error f => r.complain call.name (message operand f) 1) (.silent call.files 0)

/-- The message about a file that cannot be read. -/
def unreadable (operand : String) (f : FileFault) : String := plainName operand ++ ": " ++ f.text

def cat : Utility := fun call => gather call (options call.arguments).2 unreadable

/-- The lines of bytes, each with its line feed. -/
def linesOf (bytes : List UInt8) : List (List UInt8) :=
  let step (b : UInt8) (acc : List (List UInt8)) : List (List UInt8) :=
    match acc with
    | [] => [[b]]
    | line :: rest => if b = 10 then [b] :: line :: rest else (b :: line) :: rest
  bytes.foldr step []

/-- How much of what is read a utility takes: so many lines or bytes, or all from that one on. -/
structure Share where
  inBytes : Bool
  onwards : Bool
  count : Nat

/-- The share that a number stands for. -/
def Share.ofText (inBytes : Bool) (text : String) : Share :=
  ⟨inBytes, text.toList.head? = some '+', (integerArgument text).natAbs⟩

/-- The share in front of the operands, which is ten lines where it is not given. -/
def readShare : List String → Share × List String
  | "-n" :: n :: rest => (.ofText false n, rest)
  | "-c" :: n :: rest => (.ofText true n, rest)
  | a :: rest =>
    match a.toList with
    | '-' :: 'n' :: cs => (.ofText false (String.ofList cs), rest)
    | '-' :: 'c' :: cs => (.ofText true (String.ofList cs), rest)
    | '-' :: c :: cs =>
      if c.isDigit then (.ofText false (String.ofList (c :: cs)), rest)
      else (⟨false, false, 10⟩, a :: rest)
    | _ => (⟨false, false, 10⟩, a :: rest)
  | [] => (⟨false, false, 10⟩, [])

/-- Keeps a share of what is gathered. -/
def keep (pick : Share → List (List UInt8) → List (List UInt8)) : Utility := fun call =>
  let (share, operands) := readShare call.arguments
  let r := gather call operands fun operand f =>
    if f = .isFolder then "error reading " ++ shellQuoted operand ++ ": " ++ f.text
    else "cannot open " ++ shellQuoted operand ++ " for reading: " ++ f.text
  let bytes := r.output.toList
  let parts := if share.inBytes then bytes.map fun b => [b] else linesOf bytes
  { r with output := ⟨(pick share parts).flatten.toArray⟩ }

def head : Utility := keep fun share parts => parts.take share.count

def tail : Utility := keep fun share parts =>
  if share.onwards then parts.drop (share.count - 1) else parts.drop (parts.length - share.count)

def wc : Utility := fun call =>
  let (letters, operands) := options call.arguments
  let r := gather call operands unreadable
  let bytes := r.output.toList
  let words := ((Text.decodeLossy r.output).toList.foldl
    (fun (n, inside) c =>
      if Text.isBlank c then (n, false) else if inside then (n, true) else (n + 1, true))
    ((0, false) : Nat × Bool)).1
  let counts := (if letters.isEmpty || letters.contains 'l' then [bytes.count 10] else []) ++
    (if letters.isEmpty || letters.contains 'w' then [words] else []) ++
    (if letters.isEmpty || letters.contains 'c' then [bytes.length] else [])
  let names := if operands.isEmpty then [] else operands.take 1
  { r with output := .empty }.write (" ".intercalate (counts.map Text.natural ++ names) ++ "\n")

/-- Writes what is read, and also into files. -/
def tee : Utility := fun call =>
  let (letters, operands) := options call.arguments
  operands.foldl (fun r operand =>
    let before := if letters.contains 'a' then (r.files.read operand).toOption.getD .empty else .empty
    match r.files.write operand (before ++ call.input) with
    | .ok files => { r with files }
    | .error f => r.complain call.name (unreadable operand f) 1)
    { Reply.silent call.files 0 with output := call.input }

/-- Lets time pass. A span is a number, perhaps with a unit. -/
def sleep : Utility := fun call =>
  let isSpan (s : String) : Bool :=
    let cs := s.toList
    let cs := if ['s', 'm', 'h', 'd'].contains (cs.getLast?.getD ' ') then cs.dropLast else cs
    !cs.isEmpty && cs.any Char.isDigit && cs.all fun c => c.isDigit || c = '.'
  let quiet := Reply.silent call.files 0
  if call.arguments.isEmpty then quiet.misuse call.name "missing operand"
  else match call.arguments.filter fun s => !isSpan s with
    | [] => quiet
    | s :: _ => quiet.misuse call.name ("invalid time interval " ++ curvedQuoted s)

/-- Writes the last name of a path, without an ending if that is given. -/
def basename : Utility := fun call =>
  match call.arguments with
  | path :: more =>
    let cs := (path.toList.reverse.dropWhile (· = '/')).takeWhile (· ≠ '/')
    let ending := ((more.head?).getD "").toList.reverse
    let cs := if ending.isPrefixOf cs && cs ≠ ending then cs.drop ending.length else cs
    let name := if cs.isEmpty && !path.isEmpty then "/" else String.ofList cs.reverse
    (Reply.silent call.files 0).write (name ++ "\n")
  | [] => (Reply.silent call.files 1).misuse call.name "missing operand"

def dirname : Utility := fun call =>
  match call.arguments with
  | path :: _ =>
    let front := (path.toList.reverse.dropWhile (· = '/')).dropWhile (· ≠ '/')
    let folder := front.dropWhile (· = '/')
    let name :=
      if !folder.isEmpty then String.ofList folder.reverse
      else if front.isEmpty && path.toList.head? ≠ some '/' then "." else "/"
    (Reply.silent call.files 0).write (name ++ "\n")
  | [] => (Reply.silent call.files 1).misuse call.name "missing operand"

end HostScript.Shell
