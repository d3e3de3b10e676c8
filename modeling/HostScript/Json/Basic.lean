import HostScript.Text.Decimal

/-!
# JSON values

Values of the JSON notation. An object keeps its members in order, with repeated keys. A string is absent
where an escape left half of a surrogate pair without the other half: such a string is well formed but
denotes no text. A number written with a fraction or an exponent, or as `-0`, is no integer.
-/
namespace HostScript

/-- A number as it was written. -/
inductive Numeral where
  | integer (value : Int)
  | decimal (negative : Bool) (mantissa : Nat) (exponent : Int)
  deriving DecidableEq

inductive Json where
  | null
  | bool (value : Bool)
  | number (value : Numeral)
  | string (text : Option String)
  | list (items : List Json)
  | map (members : List (Option String × Json))

namespace Json

/-- A string that is a text. -/
def text (s : String) : Json := .string (some s)

/-- A number that is an integer. -/
def integer (n : Int) : Json := .number (.integer n)

/-- A number that counts. -/
def natural (n : Nat) : Json := .integer n

/-- An object with text keys. -/
def object (members : List (String × Json)) : Json :=
  .map (members.map fun m => (some m.1, m.2))

/-- A value, or null in the absence of one. -/
def orNull : Option Json → Json
  | none => .null
  | some j => j

def text? : Json → Option String
  | .string s => s
  | _ => none

def integer? : Json → Option Int
  | .number (.integer n) => some n
  | _ => none

def bool? : Json → Option Bool
  | .bool b => some b
  | _ => none

def items? : Json → Option (List Json)
  | .list items => some items
  | _ => none

/-- The first member of an object under a key. -/
def get? (key : String) : Json → Option Json
  | .map members => members.lookup (some key)
  | _ => none

end Json

namespace Numeral

/-- The largest magnitude that rounds to a finite double lies below this bound, which is half a step
above the largest double. -/
def doubleBound : Nat := Nat.pow 2 1024 - Nat.pow 2 970

/-- Whether a decimal magnitude rounds to a finite double. The number of digits decides all cases but
those next to the bound. -/
def fitsDouble (mantissa : Nat) (exponent : Int) : Bool :=
  if mantissa = 0 then true
  else
    let magnitude : Int := (Text.decimalDigits mantissa).length + exponent
    if magnitude ≤ 308 then true
    else if 309 < magnitude then false
    else if 0 ≤ exponent then mantissa * Nat.pow 10 exponent.toNat < doubleBound
    else mantissa < doubleBound * Nat.pow 10 (-exponent).toNat

/-- Whether a number rounds to a finite double. -/
def isFinite : Numeral → Bool
  | .integer n => fitsDouble n.natAbs 0
  | .decimal _ mantissa exponent => fitsDouble mantissa exponent

end Numeral

end HostScript
