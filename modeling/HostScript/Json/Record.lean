import HostScript.Datum
import HostScript.Json.Basic

/-!
# Typed data in JSON

Records may be written as objects or as arrays. In an object the members stand in any order, members of
other names are passed over and none may be given twice. In an array the fields stand in their order and
those at the end may be left out. Whatever is passed over may be anything that is JSON.
-/
namespace HostScript.Json

/-- The value given for a name. No name may be given twice. -/
def member? (members : List (Option String × Json)) (name : String) : Option (Option Json) :=
  match members.filter (fun m => m.1 = some name) with
  | [] => some none
  | [m] => some (some m.2)
  | _ => none

/-- The values of the named fields of a record, each absent if it is not given. -/
def fields? (names : List String) : Json → Option (List (Option Json))
  | .map members =>
    if members.all (fun m => m.1.isSome) then names.mapM (member? members) else none
  | .list items =>
    if items.length ≤ names.length then
      some (items.map some ++ List.replicate (names.length - items.length) none)
    else none
  | _ => none

/-- Reads a field that has a default. -/
def fieldOr {α : Type} (default : α) (read? : Json → Option α) : Option Json → Option α
  | none => some default
  | some j => read? j

/-- Reads a value where null stands for none. -/
def optional? {α : Type} (read? : Json → Option α) : Json → Option (Option α)
  | .null => some none
  | j => (read? j).map some

/-- The value of an integer of 64 bits without a sign. -/
def uint64? : Json → Option UInt64
  | .number (.integer n) =>
    if 0 ≤ n ∧ n < UInt64.size then some (UInt64.ofNat n.toNat) else none
  | _ => none

def texts? : Json → Option (List String)
  | .list items => items.mapM text?
  | _ => none

/-- An integer beyond 64 bits counts as a fraction. -/
def numberDatum : Numeral → Datum
  | .integer n => if -9223372036854775808 ≤ n ∧ n < UInt64.size then .integer n else .real
  | .decimal _ _ _ => .real

/-- A value as data. Strings have to denote texts, numbers have to be finite and containers may nest so
deep only. -/
def datum? : Nat → Json → Option Datum
  | _, .null => some .null
  | _, .bool b => some (.flag b)
  | _, .number n => if n.isFinite then some (numberDatum n) else none
  | _, .string s => s.map .text
  | 0, .list _ => none
  | 0, .map _ => none
  | depth + 1, .list items => (items.mapM (datum? depth)).map .list
  | depth + 1, .map members =>
    (members.mapM fun (m : Option String × Json) =>
      match m.1, datum? depth m.2 with
      | some key, some d => some (Datum.text key, d)
      | _, _ => none).map .map

end HostScript.Json
