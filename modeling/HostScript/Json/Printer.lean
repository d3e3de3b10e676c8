import HostScript.Json.Numeral
import HostScript.Text.Quoted

/-!
# Writing JSON

The shortest notation: no spaces, and of the characters in strings only those are escaped that have to
be. In the narrow style every character beyond ASCII is written in code units too.
-/
namespace HostScript.Json

/-- A code unit in four digits. -/
def unitEscape (u : Nat) : List Char :=
  ['\\', 'u', Text.hexDigit (u / 4096 % 16), Text.hexDigit (u / 256 % 16),
    Text.hexDigit (u / 16 % 16), Text.hexDigit (u % 16)]

/-- A character in code units: one, or the two halves of a pair. -/
def unitEscapes (c : Char) : List Char :=
  if c.toNat < 0x10000 then unitEscape c.toNat
  else unitEscape (0xD800 + (c.toNat - 0x10000) / 0x400) ++
    unitEscape (0xDC00 + (c.toNat - 0x10000) % 0x400)

/-- A character inside a string. -/
def escape (narrow : Bool) (c : Char) : List Char :=
  if c = '"' then ['\\', '"']
  else if c = '\\' then ['\\', '\\']
  else if c = '\x08' then ['\\', 'b']
  else if c = '\x0c' then ['\\', 'f']
  else if c = '\n' then ['\\', 'n']
  else if c = '\r' then ['\\', 'r']
  else if c = '\t' then ['\\', 't']
  else if c.toNat < 0x20 || (narrow && 0x7F ≤ c.toNat) then unitEscapes c
  else [c]

/-- A string. One that denotes no text is written as half of a surrogate pair. -/
def stringChars (narrow : Bool) : Option String → List Char
  | none => '"' :: unitEscape 0xD800 ++ ['"']
  | some s => '"' :: s.toList.flatMap (escape narrow) ++ ['"']

mutual

def chars (narrow : Bool) : Json → List Char
  | .null => ['n', 'u', 'l', 'l']
  | .bool true => ['t', 'r', 'u', 'e']
  | .bool false => ['f', 'a', 'l', 's', 'e']
  | .number n => n.chars
  | .string s => stringChars narrow s
  | .list items => '[' :: itemChars narrow items ++ [']']
  | .map members => '{' :: memberChars narrow members ++ ['}']

/-- The notation of items with commas between them. -/
def itemChars (narrow : Bool) : List Json → List Char
  | [] => []
  | [j] => chars narrow j
  | j :: k :: rest => chars narrow j ++ ',' :: itemChars narrow (k :: rest)

/-- The notation of members with commas between them. -/
def memberChars (narrow : Bool) : List (Option String × Json) → List Char
  | [] => []
  | [(key, j)] => stringChars narrow key ++ ':' :: chars narrow j
  | (key, j) :: m :: rest =>
    stringChars narrow key ++ ':' :: chars narrow j ++ ',' :: memberChars narrow (m :: rest)

end

/-- The notation of a value with every character as itself where it can be. -/
def print (j : Json) : String := String.ofList (chars false j)

/-- The notation of a value in ASCII. -/
def printNarrow (j : Json) : String := String.ofList (chars true j)

end HostScript.Json
