import HostScript.Text.Decimal
import HostScript.Text.Lines

/-!
# Scripts

A script is the text of its calls. Each call is `akit.<operation>(<arguments>);` and a line feed. Text
arguments stand between double quotes exactly as they are, numbers as plain numerals. The host compiles
a script inside an envelope that makes it the body of one method.
-/
namespace HostScript

inductive Argument where
  | text (value : String)
  | number (value : Int64)
  deriving DecidableEq

/-- How an argument is written. -/
def Argument.written : Argument → String
  | .text value => "\"" ++ value ++ "\""
  | .number value => Text.integer value.toInt

/-- Arguments with a comma and a blank between two of them. -/
def writtenArguments : List Argument → String
  | [] => ""
  | [a] => a.written
  | a :: b :: rest => a.written ++ ", " ++ writtenArguments (b :: rest)

/-- The text of one call. -/
def callText (operation : String) (arguments : List Argument) : String :=
  "akit." ++ operation ++ "(" ++ writtenArguments arguments ++ ");\n"

/-- A script: calls one after the other. -/
structure Script where
  text : String
  deriving DecidableEq

namespace Script

def empty : Script := ⟨""⟩

def isEmpty (s : Script) : Bool := s.text.isEmpty

def bytes (s : Script) : Nat := s.text.utf8ByteSize

def lines (s : Script) : Nat := Text.lineCount s.text

def append (s : Script) (t : String) : Script := ⟨s.text ++ t⟩

def call (s : Script) (operation : String) (arguments : List Argument) : Script :=
  s.append (callText operation arguments)

/-- Adds a call that selects items in a field of a dialog. -/
def select (s : Script) (operation dialog field : String) (items : List Argument) : Script :=
  s.call operation (.text dialog :: .text field :: items)

/-- The size of a script in lines and bytes, on one line. -/
def summary (s : Script) : String :=
  "MacroBuilder \x7b lines: " ++ Text.natural s.lines ++ ", bytes: " ++ Text.natural s.bytes ++ " \x7d"

/-- The size of a script in lines and bytes, on a line each. -/
def summaryLines (s : Script) : String :=
  "MacroBuilder \x7b\n    lines: " ++ Text.natural s.lines ++ ",\n    bytes: " ++ Text.natural s.bytes ++
    ",\n\x7d"

end Script

/-- What stands before the calls in the file that the host compiles. -/
def envelopeHead : String :=
  "namespace Tekla.Technology.Akit.UserScript \x7bpublic class Script \x7b" ++
    "public static void Run(Tekla.Technology.Akit.IScript akit) \x7b"

/-- What stands behind the calls in the file that the host compiles. -/
def envelopeFoot : String := "\x7d\x7d\x7d"

/-- The file that the host compiles. -/
def envelope (body : String) : String := envelopeHead ++ body ++ envelopeFoot

end HostScript
