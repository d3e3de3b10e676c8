import HostScript.Json.Numeral

/-!
# Scalars and what they mean

A scalar is a text with the style it was written in and perhaps a tag. A plain one without a tag means
what its text looks like: nothing, a truth value, an integer, a fraction, or else the text itself.
-/
namespace HostScript.Yaml

inductive ScalarStyle where
  | plain
  | singleQuoted
  | doubleQuoted
  | literal
  | folded
  deriving DecidableEq, Repr

structure Scalar where
  text : String
  style : ScalarStyle
  tag : Option String

/-- The tag of a type that every schema knows. -/
def coreTag (name : String) : String := "tag:yaml.org,2002:" ++ name

/-- Whether a tag is one that the document made up. -/
def isCustomTag : Option String → Bool
  | some tag => tag.toList.head? = some '!'
  | none => false

/-- The words for nothing. -/
def isNullWord (s : String) : Bool := s = "null" || s = "Null" || s = "NULL" || s = "~"

/-- The value of a word for a truth value. -/
def flagOfWord? (s : String) : Option Bool :=
  if s = "true" || s = "True" || s = "TRUE" then some true
  else if s = "false" || s = "False" || s = "FALSE" then some false
  else none

/-- The value of a character as a digit, letters included. -/
def digitIn? (base : Nat) (c : Char) : Option Nat :=
  let value :=
    if '0' ≤ c ∧ c ≤ '9' then some (c.toNat - 48)
    else if 'a' ≤ c ∧ c ≤ 'z' then some (c.toNat - 87)
    else if 'A' ≤ c ∧ c ≤ 'Z' then some (c.toNat - 55)
    else none
  value.filter (· < base)

/-- The number of a row of digits, of which there is at least one. -/
def numberIn? (base : Nat) : List Char → Option Nat
  | [] => none
  | cs => cs.foldlM (fun value c => (digitIn? base c).map (value * base + ·)) 0

/-- The magnitude behind a sign: in base sixteen, eight or two behind its letter, or else decimal. -/
def magnitude? : List Char → Option Nat
  | '0' :: 'x' :: cs => numberIn? 16 cs
  | '0' :: 'o' :: cs => numberIn? 8 cs
  | '0' :: 'b' :: cs => numberIn? 2 cs
  | cs => numberIn? 10 cs

/-- Decimal digits behind a zero, with or without a sign: a text and not a number. -/
def hasIdleZero (cs : List Char) : Bool :=
  let digits := match cs with
    | '-' :: ds => ds
    | '+' :: ds => ds
    | ds => ds
  match digits with
  | '0' :: d :: ds => (d :: ds).all Numeral.isDigit
  | _ => false

/-- The value of an integer that is not negative; one plus sign may stand in front. -/
def natural? (cs : List Char) : Option Nat :=
  if hasIdleZero cs then none
  else match cs with
    | '+' :: ds => magnitude? ds
    | ds => magnitude? ds

/-- The magnitude of an integer behind a minus sign. -/
def negated? : List Char → Option Nat
  | '-' :: cs => if hasIdleZero cs then none else magnitude? cs
  | _ => none

/-- Whether a text is a finite decimal fraction. -/
def isFiniteFraction (cs : List Char) : Bool :=
  let cs := match cs with
    | '-' :: ds => ds
    | ds => ds
  let whole := cs.takeWhile Numeral.isDigit
  let (fraction, rest) := match cs.dropWhile Numeral.isDigit with
    | '.' :: more => (more.takeWhile Numeral.isDigit, more.dropWhile Numeral.isDigit)
    | more => ([], more)
  if whole.isEmpty && fraction.isEmpty then false
  else match Numeral.readExponent rest with
    | none => false
    | some exponent =>
      Numeral.fitsDouble (Numeral.ofDigits (Numeral.ofDigits 0 whole) fraction)
        (exponent.getD 0 - fraction.length)

/-- Whether a text is the word for infinity. -/
def isInfinity (s : String) : Bool := s = ".inf" || s = ".Inf" || s = ".INF"

/-- Whether a text is the word for no number, which takes no sign. -/
def isNoNumber (s : String) : Bool := s = ".nan" || s = ".NaN" || s = ".NAN"

/-- Whether a text is a number that need not be whole: a finite fraction, an infinity or no number. One
plus sign may stand in front of the first two. -/
def isFraction (s : String) : Bool :=
  isNoNumber s ||
    match s.toList with
    | '+' :: '+' :: _ => false
    | '+' :: '-' :: _ => false
    | '+' :: cs => isInfinity (String.ofList cs) || isFiniteFraction cs
    | '-' :: cs => isInfinity (String.ofList cs) || isFiniteFraction ('-' :: cs)
    | cs => isInfinity s || isFiniteFraction cs

end HostScript.Yaml
