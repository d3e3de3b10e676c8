import HostScript.Json.Basic

/-!
# Numbers in JSON

The grammar of numbers: a minus sign at will, a whole part without leading zeros, and then perhaps a
fraction and an exponent.
-/
namespace HostScript.Numeral

def isDigit (c : Char) : Bool := (Text.digitValue? c).isSome

/-- The number that digits denote, read onto a number already there. -/
def ofDigits (value : Nat) : List Char → Nat
  | [] => value
  | c :: cs => ofDigits (value * 10 + (c.toNat - 48)) cs

/-- Reads an exponent; without one it is zero. -/
def readExponent : List Char → Option (Option Int)
  | [] => some none
  | e :: cs =>
    if e = 'e' || e = 'E' then
      let (negative, digits) := match cs with
        | '-' :: ds => (true, ds)
        | '+' :: ds => (false, ds)
        | ds => (false, ds)
      if digits.isEmpty || !digits.all isDigit then none
      else some (some (if negative then -(ofDigits 0 digits : Int) else ofDigits 0 digits))
    else none

/-- Reads a number without its sign. -/
def readUnsigned (negative : Bool) (cs : List Char) : Option Numeral :=
  let whole := cs.takeWhile isDigit
  let rest := cs.dropWhile isDigit
  if whole.isEmpty || (1 < whole.length && whole.head? = some '0') then none
  else match rest with
    | '.' :: more =>
      let fraction := more.takeWhile isDigit
      if fraction.isEmpty then none
      else match readExponent (more.dropWhile isDigit) with
        | none => none
        | some exponent =>
          some (.decimal negative (ofDigits (ofDigits 0 whole) fraction)
            (exponent.getD 0 - fraction.length))
    | _ =>
      match readExponent rest with
      | none => none
      | some (some exponent) => some (.decimal negative (ofDigits 0 whole) exponent)
      | some none =>
        let value := ofDigits 0 whole
        if negative then
          if value = 0 then some (.decimal true 0 0) else some (.integer (-value))
        else some (.integer value)

def read? : List Char → Option Numeral
  | '-' :: cs => readUnsigned true cs
  | cs => readUnsigned false cs

/-- How a number is written. -/
def chars : Numeral → List Char
  | .integer n => Text.integerDigits n
  | .decimal negative mantissa exponent =>
    (if negative then ['-'] else []) ++ Text.decimalDigits mantissa ++ 'e' ::
      Text.integerDigits exponent

end HostScript.Numeral
