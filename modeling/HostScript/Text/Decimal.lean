/-!
# Decimal numerals

Numbers written in base ten, and the reading of an unsigned number with a bound. A numeral has no
leading zeros, so different numbers have different numerals.
-/
namespace HostScript.Text

/-- The digit `0` to `9` of a number below ten. -/
def digitChar (n : Nat) : Char := Char.ofNat (48 + n % 10)

/-- The value of a decimal digit. -/
def digitValue? (c : Char) : Option Nat :=
  if '0' ≤ c ∧ c ≤ '9' then some (c.toNat - 48) else none

/-- The digits of a number, most significant first. -/
def decimalDigits (n : Nat) : List Char :=
  if n < 10 then [digitChar n] else decimalDigits (n / 10) ++ [digitChar n]
termination_by n

/-- The numeral of a natural number. -/
def natural (n : Nat) : String := String.ofList (decimalDigits n)

/-- The numeral of an integer: a minus sign stands before the digits of a negative one. -/
def integerDigits : Int → List Char
  | .ofNat n => decimalDigits n
  | .negSucc n => '-' :: decimalDigits (n + 1)

/-- The numeral of an integer. -/
def integer (n : Int) : String := String.ofList (integerDigits n)

/-- The numeral of a natural number, filled up with zeros on the left to a width. -/
def naturalPadded (width n : Nat) : String :=
  let digits := decimalDigits n
  String.ofList (List.replicate (width - digits.length) '0' ++ digits)

inductive NumeralFault where
  | empty
  | invalidDigit
  | tooLarge
  deriving DecidableEq, Repr

def NumeralFault.message : NumeralFault → String
  | .empty => "cannot parse integer from empty string"
  | .invalidDigit => "invalid digit found in string"
  | .tooLarge => "number too large to fit in target type"

/-- Reads digits onto the value read so far. The first character that is no digit, or that takes the
value to the limit, decides which fault it is. -/
def readDigits (limit : Nat) (value : Nat) : List Char → Except NumeralFault Nat
  | [] => .ok value
  | c :: cs =>
    match digitValue? c with
    | none => .error .invalidDigit
    | some d => if value * 10 + d < limit then readDigits limit (value * 10 + d) cs
      else .error .tooLarge

/-- Reads an unsigned number below the limit: an optional plus sign and at least one digit. -/
def readUnsigned (limit : Nat) : List Char → Except NumeralFault Nat
  | [] => .error .empty
  | '+' :: [] => .error .invalidDigit
  | '+' :: cs => readDigits limit 0 cs
  | cs => readDigits limit 0 cs

end HostScript.Text
