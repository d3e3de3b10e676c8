/-!
# Bytes as text

Reading bytes as UTF-8. The machine takes one byte at a time and knows how many continuation bytes
are owed and within which bounds the next one lies, so that overlong forms, surrogates and values
beyond U+10FFFF are refused at the first byte that rules them out. Where text is refused, one
replacement character stands for the bytes taken so far, and reading starts afresh.
-/
namespace HostScript.Text

/-- A character of which some bytes have come: the bytes owed, the bounds of the next byte and the
bits so far. -/
structure PendingChar where
  owed : Nat
  low : Nat
  high : Nat
  value : Nat

inductive LeadByte where
  | char (c : Char)
  | pending (p : PendingChar)
  | refused

/-- The reading of a byte between two characters. -/
def leadByte (b : Nat) : LeadByte :=
  if b ≤ 0x7F then .char (Char.ofNat b)
  else if b < 0xC2 then .refused
  else if b ≤ 0xDF then .pending ⟨1, 0x80, 0xBF, b - 0xC0⟩
  else if b = 0xE0 then .pending ⟨2, 0xA0, 0xBF, 0⟩
  else if b = 0xED then .pending ⟨2, 0x80, 0x9F, 0xD⟩
  else if b ≤ 0xEF then .pending ⟨2, 0x80, 0xBF, b - 0xE0⟩
  else if b = 0xF0 then .pending ⟨3, 0x90, 0xBF, 0⟩
  else if b < 0xF4 then .pending ⟨3, 0x80, 0xBF, b - 0xF0⟩
  else if b = 0xF4 then .pending ⟨3, 0x80, 0x8F, 4⟩
  else .refused

/-- U+FFFD stands for bytes that are no text. -/
def replacement : Char := Char.ofNat 0xFFFD

/-- The characters a byte completes between two characters, and what is then pending. -/
def startChar (b : Nat) : List Char × Option PendingChar :=
  match leadByte b with
  | .char c => ([c], none)
  | .pending p => ([], some p)
  | .refused => ([replacement], none)

/-- One byte: the characters it completes, and what is then pending. -/
def takeByte : Option PendingChar → Nat → List Char × Option PendingChar
  | none, b => startChar b
  | some p, b =>
    if p.low ≤ b ∧ b ≤ p.high then
      let value := p.value * 64 + (b - 0x80)
      if p.owed ≤ 1 then ([Char.ofNat value], none)
      else ([], some ⟨p.owed - 1, 0x80, 0xBF, value⟩)
    else
      let next := startChar b
      (replacement :: next.1, next.2)

/-- Reads all bytes; a character that the end cuts off is replaced too. -/
def decodeBytes : Option PendingChar → List UInt8 → List Char
  | none, [] => []
  | some _, [] => [replacement]
  | p, b :: bs =>
    let step := takeByte p b.toNat
    step.1 ++ decodeBytes step.2 bs

/-- Bytes as text, with U+FFFD for whatever is no text. -/
def decodeLossy (bytes : ByteArray) : String := String.ofList (decodeBytes none bytes.toList)

end HostScript.Text
