import HostScript.Script.Operations

/-!
# Commands

A command is one call of a script as data. Applying it to a script adds exactly that call.
-/
namespace HostScript

inductive Command where
  | activate (dialog field : String)
  | callback (name parameter frame : String)
  | checkValue (name : String) (value : Int64)
  | commandStart (command parameter frame : String)
  | commandEnd
  | fileSelection (items : List String)
  | listSelect (dialog field : String) (items : List String)
  | modalDialog (value : Int64)
  | mouseDown (frame subframe : String) (x y modifier : Int64)
  | mouseUp (frame subframe : String) (x y modifier : Int64)
  | pushButton (button frame : String)
  | tabChange (dialog field item : String)
  | tableSelect (dialog field : String) (items : List Int64)
  | treeSelect (dialog field row : String)
  | valueChange (dialog field data : String)
  deriving DecidableEq

namespace Command

/-- Adds the command to a script. A callback without a name is refused, whatever its other fields
say. -/
def apply : Command → Script → Except Fault Script
  | .activate dialog field, s => .ok (s.activate dialog field)
  | .callback name parameter frame, s =>
    if name.isEmpty then s.callback name else .ok (s.callbackIn name parameter frame)
  | .checkValue name value, s => .ok (s.checkValue name value)
  | .commandStart command parameter frame, s => .ok (s.commandStart command parameter frame)
  | .commandEnd, s => .ok s.commandEnd
  | .fileSelection items, s => .ok (s.fileSelection items)
  | .listSelect dialog field items, s => .ok (s.listSelect dialog field items)
  | .modalDialog value, s => .ok (s.modalDialog value)
  | .mouseDown frame subframe x y modifier, s => .ok (s.mouseDown frame subframe x y modifier)
  | .mouseUp frame subframe x y modifier, s => .ok (s.mouseUp frame subframe x y modifier)
  | .pushButton button frame, s => .ok (s.pushButton button frame)
  | .tabChange dialog field item, s => .ok (s.tabChange dialog field item)
  | .tableSelect dialog field items, s => .ok (s.tableSelect dialog field items)
  | .treeSelect dialog field row, s => .ok (s.treeSelect dialog field row)
  | .valueChange dialog field data, s => .ok (s.valueChange dialog field data)

/-- Applies commands one after the other and stops at the first that is refused. -/
def applyAll : List Command → Script → Except Fault Script
  | [], s => .ok s
  | c :: cs, s =>
    match c.apply s with
    | .error f => .error f
    | .ok t => applyAll cs t

end Command

end HostScript
