import HostScript.Yaml.Gap
import HostScript.Yaml.Scalar

/-!
# Quoted scalars

Text between quotes. Between single quotes a doubled quote stands for one; between double quotes a
backslash starts an escape, and one at the end of a line joins the lines without a space.
-/
namespace HostScript.Yaml

inductive QuotePlace where
  | words (gap : Gap)
  /-- Behind a single quote that closes unless another follows. -/
  | quote
  /-- Behind a backslash. -/
  | escape
  /-- Inside the digits of an escape. -/
  | code (owed value : Nat)

/-- The character of an escape that is one character long. -/
def escaped? (c : Char) : Option Char :=
  if c = '0' then some (Char.ofNat 0)
  else if c = 'a' then some (Char.ofNat 0x07)
  else if c = 'b' then some (Char.ofNat 0x08)
  else if c = 't' || c = '\t' then some '\t'
  else if c = 'n' then some '\n'
  else if c = 'v' then some (Char.ofNat 0x0B)
  else if c = 'f' then some (Char.ofNat 0x0C)
  else if c = 'r' then some '\r'
  else if c = 'e' then some (Char.ofNat 0x1B)
  else if c = ' ' || c = '"' || c = '/' || c = '\\' then some c
  else if c = 'N' then some (Char.ofNat 0x85)
  else if c = '_' then some (Char.ofNat 0xA0)
  else if c = 'L' then some (Char.ofNat 0x2028)
  else if c = 'P' then some (Char.ofNat 0x2029)
  else none

/-- The number of digits behind the letter of an escape. -/
def escapeDigits? (c : Char) : Option Nat :=
  if c = 'x' then some 2 else if c = 'u' then some 4 else if c = 'U' then some 8 else none

/-- The character of a number that is one. -/
def charOfCode? (n : Nat) : Option Char :=
  if n < 0xD800 || (0xDFFF < n && n ≤ 0x10FFFF) then some (Char.ofNat n) else none

/-- Reads up to the closing quote. A mark of a document inside is refused. -/
def readQuoted (single : Bool) (text : List Char) : QuotePlace → Mark → List Char → Option ScalarRead
  | .quote, m, [] => some ⟨text, ⟨m, []⟩, false⟩
  | .quote, m, c :: cs =>
    if c = '\'' then readQuoted single ('\'' :: text) (.words .nothing) m.next cs
    else some ⟨text, ⟨m, c :: cs⟩, false⟩
  | .escape, m, c :: cs =>
    if isBreak c then readQuoted single text (.words (.breaks [] [])) m.nextLine cs
    else match escapeDigits? c with
      | some digits => readQuoted single text (.code digits 0) m.next cs
      | none =>
        match escaped? c with
        | some e => readQuoted single (e :: text) (.words .nothing) m.next cs
        | none => none
  | .code owed value, m, c :: cs =>
    match digitIn? 16 c with
    | none => none
    | some d =>
      if 1 < owed then readQuoted single text (.code (owed - 1) (value * 16 + d)) m.next cs
      else match charOfCode? (value * 16 + d) with
        | none => none
        | some e => readQuoted single (e :: text) (.words .nothing) m.next cs
  | .words gap, m, c :: cs =>
    if isWhite c then readQuoted single text (.words (gap.addWhite c)) m.next cs
    else if isBreak c then readQuoted single text (.words (gap.addBreak c)) m.nextLine cs
    else if !gap.isNothing && atDocumentMark m (c :: cs) then none
    else if single && c = '\'' then readQuoted single (gap.join text) .quote m.next cs
    else if !single && c = '"' then some ⟨gap.join text, ⟨m.next, cs⟩, false⟩
    else if !single && c = '\\' then readQuoted single (gap.join text) .escape m.next cs
    else readQuoted single (c :: gap.join text) (.words .nothing) m.next cs
  | _, _, [] => none

end HostScript.Yaml
