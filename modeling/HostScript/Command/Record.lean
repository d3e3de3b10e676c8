import HostScript.Command
import HostScript.Datum

/-!
# Commands as records

Every action has a name and a row of fields, and every field a name, a kind and perhaps a default. This
one table serves reading and writing. A command is its action together with the values of the fields.
-/
namespace HostScript

inductive FieldKind where
  | text
  | number
  | texts
  | numbers
  deriving DecidableEq, Repr

inductive FieldValue where
  | text (value : String)
  | number (value : Int64)
  | texts (values : List String)
  | numbers (values : List Int64)
  deriving DecidableEq

/-- One field of a record. A field without a default has to be given. -/
structure Field where
  name : String
  kind : FieldKind
  default? : Option FieldValue

inductive Action where
  | activate
  | callback
  | checkValue
  | commandStart
  | commandEnd
  | fileSelection
  | listSelect
  | modalDialog
  | mouseDown
  | mouseUp
  | pushButton
  | tabChange
  | tableSelect
  | treeSelect
  | valueChange
  deriving DecidableEq, Repr

namespace Field

/-- A text that has to be given. -/
def needText (name : String) : Field := ⟨name, .text, none⟩

/-- A number that has to be given. -/
def needNumber (name : String) : Field := ⟨name, .number, none⟩

/-- A text with a default. -/
def mayText (name value : String) : Field := ⟨name, .text, some (.text value)⟩

/-- A number that is zero unless it is given. -/
def mayNumber (name : String) : Field := ⟨name, .number, some (.number 0)⟩

/-- Texts, none unless they are given. -/
def mayTexts (name : String) : Field := ⟨name, .texts, some (.texts [])⟩

/-- Numbers, none unless they are given. -/
def mayNumbers (name : String) : Field := ⟨name, .numbers, some (.numbers [])⟩

end Field

namespace Action

def all : List Action :=
  [.activate, .callback, .checkValue, .commandStart, .commandEnd, .fileSelection, .listSelect,
    .modalDialog, .mouseDown, .mouseUp, .pushButton, .tabChange, .tableSelect, .treeSelect,
    .valueChange]

theorem mem_all (a : Action) : a ∈ all := by cases a <;> simp [all]

def name : Action → String
  | .activate => "activate"
  | .callback => "callback"
  | .checkValue => "check_value"
  | .commandStart => "command_start"
  | .commandEnd => "command_end"
  | .fileSelection => "file_selection"
  | .listSelect => "list_select"
  | .modalDialog => "modal_dialog"
  | .mouseDown => "mouse_down"
  | .mouseUp => "mouse_up"
  | .pushButton => "push_button"
  | .tabChange => "tab_change"
  | .tableSelect => "table_select"
  | .treeSelect => "tree_select"
  | .valueChange => "value_change"

def ofName? (name : String) : Option Action := all.find? (·.name = name)

theorem ofName?_name (a : Action) : ofName? a.name = some a := by cases a <;> decide +kernel

def fields : Action → List Field
  | .activate => [.needText "dialog", .needText "field"]
  | .callback => [.needText "callback", .mayText "parameter" "", .mayText "frame" mainFrame]
  | .checkValue => [.needText "name", .needNumber "value"]
  | .commandStart => [.needText "command", .mayText "parameter" "", .mayText "frame" mainFrame]
  | .commandEnd => []
  | .fileSelection => [.mayTexts "items"]
  | .listSelect => [.needText "dialog", .needText "field", .mayTexts "items"]
  | .modalDialog => [.needNumber "value"]
  | .mouseDown => mouse
  | .mouseUp => mouse
  | .pushButton => [.needText "button", .needText "frame"]
  | .tabChange => [.needText "dialog", .needText "field", .needText "item"]
  | .tableSelect => [.needText "dialog", .needText "field", .mayNumbers "items"]
  | .treeSelect => [.needText "dialog", .needText "field", .needText "row"]
  | .valueChange => [.needText "dialog", .needText "field", .needText "data"]
where
  /-- The fields of both mouse actions. -/
  mouse : List Field :=
    [.needText "frame", .needText "subframe", .needNumber "x", .needNumber "y", .mayNumber "modifier"]

/-- The command of an action with values of the kinds of its fields. -/
def command? : Action → List FieldValue → Option Command
  | .activate, [.text dialog, .text field] => some (.activate dialog field)
  | .callback, [.text name, .text parameter, .text frame] => some (.callback name parameter frame)
  | .checkValue, [.text name, .number value] => some (.checkValue name value)
  | .commandStart, [.text command, .text parameter, .text frame] =>
    some (.commandStart command parameter frame)
  | .commandEnd, [] => some .commandEnd
  | .fileSelection, [.texts items] => some (.fileSelection items)
  | .listSelect, [.text dialog, .text field, .texts items] => some (.listSelect dialog field items)
  | .modalDialog, [.number value] => some (.modalDialog value)
  | .mouseDown, [.text frame, .text subframe, .number x, .number y, .number modifier] =>
    some (.mouseDown frame subframe x y modifier)
  | .mouseUp, [.text frame, .text subframe, .number x, .number y, .number modifier] =>
    some (.mouseUp frame subframe x y modifier)
  | .pushButton, [.text button, .text frame] => some (.pushButton button frame)
  | .tabChange, [.text dialog, .text field, .text item] => some (.tabChange dialog field item)
  | .tableSelect, [.text dialog, .text field, .numbers items] =>
    some (.tableSelect dialog field items)
  | .treeSelect, [.text dialog, .text field, .text row] => some (.treeSelect dialog field row)
  | .valueChange, [.text dialog, .text field, .text data] => some (.valueChange dialog field data)
  | _, _ => none

end Action

namespace Command

def action : Command → Action
  | .activate .. => .activate
  | .callback .. => .callback
  | .checkValue .. => .checkValue
  | .commandStart .. => .commandStart
  | .commandEnd => .commandEnd
  | .fileSelection .. => .fileSelection
  | .listSelect .. => .listSelect
  | .modalDialog .. => .modalDialog
  | .mouseDown .. => .mouseDown
  | .mouseUp .. => .mouseUp
  | .pushButton .. => .pushButton
  | .tabChange .. => .tabChange
  | .tableSelect .. => .tableSelect
  | .treeSelect .. => .treeSelect
  | .valueChange .. => .valueChange

/-- The values of a command, in the order of the fields of its action. -/
def values : Command → List FieldValue
  | .activate dialog field => [.text dialog, .text field]
  | .callback name parameter frame => [.text name, .text parameter, .text frame]
  | .checkValue name value => [.text name, .number value]
  | .commandStart command parameter frame => [.text command, .text parameter, .text frame]
  | .commandEnd => []
  | .fileSelection items => [.texts items]
  | .listSelect dialog field items => [.text dialog, .text field, .texts items]
  | .modalDialog value => [.number value]
  | .mouseDown frame subframe x y modifier =>
    [.text frame, .text subframe, .number x, .number y, .number modifier]
  | .mouseUp frame subframe x y modifier =>
    [.text frame, .text subframe, .number x, .number y, .number modifier]
  | .pushButton button frame => [.text button, .text frame]
  | .tabChange dialog field item => [.text dialog, .text field, .text item]
  | .tableSelect dialog field items => [.text dialog, .text field, .numbers items]
  | .treeSelect dialog field row => [.text dialog, .text field, .text row]
  | .valueChange dialog field data => [.text dialog, .text field, .text data]

/-- A command is its action with its values. -/
theorem command?_values (c : Command) : c.action.command? c.values = some c := by
  cases c <;> rfl

end Command

namespace FieldKind

def read? : FieldKind → Datum → Option FieldValue
  | .text, d => d.text?.map .text
  | .number, d => d.int64?.map .number
  | .texts, d => (d.items?.bind fun items => items.mapM Datum.text?).map .texts
  | .numbers, d => (d.items?.bind fun items => items.mapM Datum.int64?).map .numbers

end FieldKind

namespace Field

/-- The field that a key selects: by its name, or by its number in the row. A key that selects none is
passed over; a key that is neither text nor a number that counts is wrong. -/
def select (fields : List Field) : Datum → Decoded (Option Field)
  | .text name => .ok (fields.find? (·.name = name))
  | .integer n => if 0 ≤ n then .ok fields[n.toNat]? else .error none
  | _ => .error none

/-- Reads members in document order onto the values already read. A field given twice is wrong. -/
def assign (fields : List Field) (given : List (String × FieldValue)) :
    List (Datum × Datum) → Decoded (List (String × FieldValue))
  | [] => .ok given
  | (key, value) :: rest =>
    match select fields key with
    | .error e => .error e
    | .ok none => assign fields given rest
    | .ok (some f) =>
      if (given.lookup f.name).isSome then .error none
      else match f.kind.read? value with
        | none => .error none
        | some v => assign fields ((f.name, v) :: given) rest

/-- The values of all fields in order, with defaults for those not given. The first that is missing is
named. -/
def complete (given : List (String × FieldValue)) : List Field → Decoded (List FieldValue)
  | [] => .ok []
  | f :: fs =>
    match (given.lookup f.name).or f.default? with
    | none => .error (some (.missingField f.name))
    | some v =>
      match complete given fs with
      | .error e => .error e
      | .ok vs => .ok (v :: vs)

/-- Reads values by their position. Defaults stand in at the end, and nothing may be left over. -/
def positional : List Field → List Datum → Decoded (List FieldValue)
  | [], [] => .ok []
  | [], _ :: _ => .error none
  | f :: fs, [] =>
    match f.default? with
    | none => .error none
    | some v =>
      match positional fs [] with
      | .error e => .error e
      | .ok vs => .ok (v :: vs)
  | f :: fs, d :: ds =>
    match f.kind.read? d with
    | none => .error none
    | some v =>
      match positional fs ds with
      | .error e => .error e
      | .ok vs => .ok (v :: vs)

end Field

namespace Action

/-- The command with the given values. -/
def withValues (a : Action) : Decoded (List FieldValue) → Decoded Command
  | .error e => .error e
  | .ok values =>
    match a.command? values with
    | none => .error none
    | some c => .ok c

/-- The command whose fields are given by name. An action without fields looks at no member. -/
def ofMembers (a : Action) (members : List (Datum × Datum)) : Decoded Command :=
  if a.fields.isEmpty then a.withValues (.ok [])
  else match Field.assign a.fields [] members with
    | .error e => .error e
    | .ok given => a.withValues (Field.complete given a.fields)

/-- The command whose fields are given in order. -/
def ofItems (a : Action) (items : List Datum) : Decoded Command :=
  a.withValues (Field.positional a.fields items)

/-- The action of a name in a document. -/
def ofText (name : String) : Decoded Action :=
  match ofName? name with
  | none => .error (some (.unknownVariant name))
  | some a => .ok a

end Action

end HostScript
