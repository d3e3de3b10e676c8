import HostScript.Command.Record
import HostScript.Json.Record

/-!
# Workflows

A workflow is a row of commands, perhaps with a name. As JSON it is an object with the members `name`
and `steps`; a step is an object whose member `action` says which command it is.
-/
namespace HostScript

structure Workflow where
  name : Option String
  steps : List Command
  deriving DecidableEq

/-- The value of a field in JSON. -/
def FieldValue.toJson : FieldValue → Json
  | .text s => .text s
  | .number n => .integer n.toInt
  | .texts ss => .list (ss.map .text)
  | .numbers ns => .list (ns.map fun n => .integer n.toInt)

namespace Command

/-- A command in JSON: its action and then every field. -/
def toJson (c : Command) : Json :=
  .object (("action", .text c.action.name) ::
    (c.action.fields.zip c.values).map fun (f, v) => (f.name, v.toJson))

/-- The command in data. As a map it has exactly one member `action`; as a list it starts with the
action. -/
def ofDatum : Datum → Decoded Command
  | .map members =>
    match members.filter (fun m => m.1.text? = some "action") with
    | [] => .error (some (.missingField "action"))
    | [m] =>
      match m.2 with
      | .text name =>
        match Action.ofText name with
        | .error e => .error e
        | .ok a => a.ofMembers (members.filter fun m => m.1.text? ≠ some "action")
      | _ => .error none
    | _ => .error none
  | .list (.text name :: items) =>
    match Action.ofText name with
    | .error e => .error e
    | .ok a => a.ofItems items
  | .list [] => .error (some (.missingField "action"))
  | _ => .error none

/-- Containers nest at most 127 deep, of which a document spends two around its steps. -/
def depthOfStep : Nat := 125

def ofJson? (j : Json) : Option Command :=
  match Json.datum? depthOfStep j with
  | none => none
  | some d => (ofDatum d).toOption

end Command

namespace Workflow

/-- The workflow without a name and without steps. -/
def empty : Workflow := ⟨none, []⟩

/-- A workflow in JSON. A name that is not there is left out. -/
def toJson (w : Workflow) : Json :=
  .object ((match w.name with
      | none => []
      | some name => [("name", .text name)]) ++
    [("steps", .list (w.steps.map Command.toJson))])

def ofJson? (j : Json) : Option Workflow :=
  match j.fields? ["name", "steps"] with
  | some [name, steps] => do
    let name ← Json.fieldOr none (Json.optional? Json.text?) name
    let steps ← Json.fieldOr [] (fun j => j.items?.bind fun items => items.mapM Command.ofJson?) steps
    some ⟨name, steps⟩
  | _ => none

/-- The script that calls all steps in order. -/
def script (w : Workflow) : Except Fault Script := Command.applyAll w.steps .empty

end Workflow

end HostScript
