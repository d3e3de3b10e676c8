import HostScript.Fault

/-!
# Data in a document

The values that a step of a workflow is made of, whichever format it was written in. Keys of a map need
not be text. No field of a step is a fraction, so a fraction keeps no value.
-/
namespace HostScript

inductive Datum where
  | null
  | flag (value : Bool)
  | integer (value : Int)
  | real
  | text (value : String)
  | list (items : List Datum)
  | map (members : List (Datum × Datum))

/-- A result of reading data: without success there may be a flaw that can be named. -/
abbrev Decoded := Except (Option DataFlaw)

namespace Datum

def text? : Datum → Option String
  | .text s => some s
  | _ => none

/-- The value of an integer that fits into 64 bits with a sign. -/
def int64? : Datum → Option Int64
  | .integer n =>
    if -9223372036854775808 ≤ n ∧ n < 9223372036854775808 then some (Int64.ofInt n) else none
  | _ => none

def items? : Datum → Option (List Datum)
  | .list items => some items
  | _ => none

end Datum

end HostScript
