import HostScript.Launcher.Program
import HostScript.Shell.Script

/-!
# The state of a shell

What a shell knows while it executes a script: the files, its arguments and variables, where its streams
go, and whether it has come to an end. A jump out of a loop or a function is kept until its place is
reached.
-/
namespace HostScript.Shell


inductive Sink where
  | output
  | errors
  | nowhere
  | file (location : Location)

/-- A jump under way: out of so many loops, to the next round of a loop, or out of a function. -/
inductive Jump where
  | leave (loops : Nat)
  | again (loops : Nat)
  | back

structure Machine where
  files : FileSystem
  name : String
  line : Nat
  arguments : List String
  bindings : List (String × String)
  functions : List (String × Statement)
  /-- Whether the shell ends when a command fails whose status is not asked for. -/
  strict : Bool
  /-- Whether a variable that is unset is a mistake. -/
  careful : Bool
  /-- Whether the status of what is executed is asked for. -/
  asked : Bool
  status : Nat
  /-- The status of the last command whose output was put into the present one. -/
  inner : Option Nat
  /-- The loops around what is executed. -/
  loops : Nat
  jump : Option Jump
  input : ByteArray
  out : Sink
  err : Sink
  output : ByteArray
  errors : ByteArray
  ending : Option Ending

namespace Machine

/-- A shell that begins on files, with the variables of its environment. -/
def start (files : FileSystem) (name : String) (bindings : List (String × String)) : Machine where
  files := files
  name := name
  line := 0
  arguments := []
  bindings := bindings
  functions := []
  strict := false
  careful := false
  asked := false
  status := 0
  inner := none
  loops := 0
  jump := none
  input := .empty
  out := .output
  err := .errors
  output := .empty
  errors := .empty
  ending := none

/-- Whether nothing more is executed at this place. -/
def stopped (m : Machine) : Bool := m.ending.isSome || m.jump.isSome

/-- How a shell that has done its work ended. -/
def result (m : Machine) : Ending := m.ending.getD (.exited m.status)

def send (m : Machine) (sink : Sink) (bytes : ByteArray) : Machine :=
  match sink with
  | .output => { m with output := m.output ++ bytes }
  | .errors => { m with errors := m.errors ++ bytes }
  | .nowhere => m
  | .file l =>
    match m.files.entry? l with
    | some (.file before) => { m with files := m.files.put l (.file (before ++ bytes)) }
    | _ => m

/-- What the shell puts in front of its complaints: its name and the line. -/
def mark (m : Machine) : String := m.name ++ ": " ++ Text.natural m.line ++ ": "

/-- Complains as the shell does, and sets the status. -/
def complain (m : Machine) (message : String) (status : Nat) : Machine :=
  { m.send m.err (m.mark ++ message ++ "\n").toUTF8 with status }

def finish (m : Machine) (e : Ending) : Machine := { m with ending := some e }

def assign (m : Machine) (name value : String) : Machine :=
  { m with bindings := (name, value) :: m.bindings.filter (·.1 ≠ name) }

def refuse (m : Machine) (message : String) : Machine :=
  (m.complain message 2).finish (.exited 2)

/-- What a machine keeps of a subshell: the files and what was written. -/
def absorb (m sub : Machine) : Machine :=
  { m with
    files := { sub.files with here := m.files.here }
    output := sub.output
    errors := sub.errors
    status := sub.result.status
    ending := match sub.ending with
      | some (.killed signal) => some (.killed signal)
      | _ => m.ending }

end Machine

end HostScript.Shell
