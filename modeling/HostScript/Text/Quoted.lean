import HostScript.Text.GlyphTable
import HostScript.Text.LowerCase

/-!
# Quoted text in messages

A text between double quotes in which every character that would not show as itself is escaped, so
that a message stays on one line and says exactly what was given.
-/
namespace HostScript.Text

/-- A digit below sixteen, letters in lower case. -/
def hexDigit (n : Nat) : Char := if n < 10 then Char.ofNat (48 + n) else Char.ofNat (87 + n)

/-- A number in base sixteen without leading zeros. -/
def hexDigits (n : Nat) : List Char :=
  if n < 16 then [hexDigit n] else hexDigits (n / 16) ++ [hexDigit (n % 16)]
termination_by n

/-- Whether a character has a glyph of its own. -/
def isPrintable (c : Char) : Bool :=
  c = ' ' || !(inRanges unprintableRanges c.toNat || inRanges extenderRanges c.toNat)

/-- The characters that stand for one character between quotes. -/
def escapeChar (c : Char) : List Char :=
  if c = Char.ofNat 0 then ['\\', '0']
  else if c = '\t' then ['\\', 't']
  else if c = '\r' then ['\\', 'r']
  else if c = '\n' then ['\\', 'n']
  else if c = '"' || c = '\\' then ['\\', c]
  else if isPrintable c then [c]
  else ['\\', 'u', '{'] ++ hexDigits c.toNat ++ ['}']

/-- The text between quotes. -/
def quoted (s : String) : String :=
  String.ofList ('"' :: s.toList.flatMap escapeChar ++ ['"'])

end HostScript.Text
