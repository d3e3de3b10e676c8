import HostScript.FileSystem
import HostScript.Text.Quoted

/-!
# Calling a utility

A utility gets its arguments, what it can read and the files, and replies with the files after it, what
it wrote and its exit status. Names in messages stand between quotes, so that blanks and backslashes can
be told apart.
-/
namespace HostScript.Shell

/-- A call of a utility under the name it was called by. -/
structure Call where
  name : String
  arguments : List String
  input : ByteArray
  files : FileSystem
  bindings : List (String × String)

structure Reply where
  files : FileSystem
  output : ByteArray
  errors : ByteArray
  status : Nat

abbrev Utility := Call → Reply

namespace Reply

/-- Nothing done and nothing written. -/
def silent (files : FileSystem) (status : Nat) : Reply := ⟨files, .empty, .empty, status⟩

def write (r : Reply) (text : String) : Reply := { r with output := r.output ++ text.toUTF8 }

/-- Writes a message with the name of the utility in front, and fails. -/
def complain (r : Reply) (name message : String) (status : Nat) : Reply :=
  { r with errors := r.errors ++ (name ++ ": " ++ message ++ "\n").toUTF8, status }

/-- Fails for want of arguments. -/
def misuse (r : Reply) (name message : String) : Reply :=
  let r := r.complain name message 1
  { r with errors := r.errors ++ ("Try '" ++ name ++ " --help' for more information.\n").toUTF8 }

end Reply

/-- Whether a character needs more than plain quotes in a name. -/
def isControl (c : Char) : Bool := c.toNat < 0x20 || c.toNat = 0x7F

/-- A control character in a name, in base eight where it has no letter. -/
def controlEscape (c : Char) : List Char :=
  if c = '\n' then ['\\', 'n']
  else if c = '\t' then ['\\', 't']
  else if c = '\r' then ['\\', 'r']
  else if c = '\x07' then ['\\', 'a']
  else if c = '\x08' then ['\\', 'b']
  else if c = '\x0b' then ['\\', 'v']
  else if c = '\x0c' then ['\\', 'f']
  else
    let digit (n : Nat) := Char.ofNat (48 + n % 8)
    ['\\', digit (c.toNat / 64), digit (c.toNat / 8), digit c.toNat]

/-- A name between straight quotes, as the shell would read it. -/
def shellQuoted (name : String) : String :=
  let cs := name.toList
  if cs.any isControl then
    String.ofList (cs.foldl (fun text c =>
      if isControl c then text ++ ['\'', '$', '\''] ++ controlEscape c ++ ['\'', '\'']
      else if c = '\'' then text ++ ['\'', '\\', '\'', '\'']
      else text ++ [c]) ['\''] ++ ['\''])
  else if !cs.contains '\'' then "'" ++ name ++ "'"
  else if cs.any fun c => c = '"' || c = '$' || c = '\x60' || c = '\\' then
    "'" ++ String.ofList (cs.flatMap fun c =>
      if c = '\'' then ['\'', '\\', '\'', '\''] else [c]) ++ "'"
  else "\"" ++ name ++ "\""

/-- Whether the shell would not take a name as it stands. A tilde and a hash sign matter only in front, and
a brace only alone. -/
def needsQuotes (name : String) : Bool :=
  let special (c : Char) : Bool :=
    isControl c || [' ', '\'', '"', '$', '\x60', '\\', '*', '?', '[', '!', '&', '(', ')', ';', '<', '=', '>',
      '^', '|', ':'].contains c
  match name.toList with
  | [] => true
  | [c] => special c || ['~', '#', '{', '}'].contains c
  | c :: cs => c = '~' || c = '#' || (c :: cs).any special

/-- A name, between quotes only where it needs them. -/
def plainName (name : String) : String := if needsQuotes name then shellQuoted name else name

/-- A name between curved quotes. -/
def curvedQuoted (name : String) : String :=
  "‘" ++ String.ofList (name.toList.flatMap fun c =>
    if c = '\\' then ['\\', '\\']
    else if c = '’' then ['\\', c]
    else if isControl c then controlEscape c
    else [c]) ++ "’"

/-- Splits arguments into the letters of the options in front and the operands. -/
def options : List String → List Char × List String
  | [] => ([], [])
  | a :: rest =>
    if a = "--" then ([], rest)
    else match a.toList with
      | '-' :: c :: cs =>
        if c = '-' then
          let (letters, operands) := options rest
          (letters, a :: operands)
        else
          let (letters, operands) := options rest
          (c :: cs ++ letters, operands)
      | _ =>
        let (letters, operands) := options rest
        (letters, a :: operands)

end HostScript.Shell
