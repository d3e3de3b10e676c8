import HostScript.CommandLine.Shape
import HostScript.Environment
import HostScript.Task

/-!
# Requests

What the command line may ask for, and how it is spelled: print the script of a workflow, run a workflow,
run a ready-made task, or list the names of slots.
-/
namespace HostScript.CommandLine

inductive Request where
  | render (workflow : String) (envelope : Bool)
  | run (workflow : String) (config : Option String)
  | task (name : String) (task : Task) (config : Option String) (dryRun : Bool)
  | slots (count : Nat) (start : Option Nat)
  deriving DecidableEq

namespace Request

/-- The variable that names the configuration file. -/
def configVariable : String := "MACROKIT_CONFIG"

/-- The option that names the configuration file, whose path is not empty. -/
def configFlag : Flag :=
  ⟨"config", some 'c', some fun path => !path.isEmpty, some configVariable⟩

/-- The option that only prints the script of a task. -/
def dryRunFlag : Flag := ⟨"dry-run", none, none, none⟩

/-- A number of the machine. -/
def number? (text : String) : Option Nat := (Text.readUnsigned UInt64.size text.toList).toOption

def numberFlag (name : String) : Flag :=
  ⟨name, none, some fun text => (number? text).isSome, none⟩

def isPath (text : String) : Bool := !text.isEmpty

def isDrawing (text : String) : Bool := (Drawing.ofText text).toOption.isSome

/-- The shape of a ready-made task. The options of all tasks are known with each of them. -/
def taskShape (flags : List Flag) (operands : List (String → Bool)) : Shape :=
  .mk (flags ++ [configFlag, dryRunFlag]) operands []

def taskShapes : List (String × Shape) :=
  [("numbering", taskShape [⟨"all", none, none, none⟩] []),
    ("numbering-settings", taskShape [] []),
    ("drawing-list", taskShape [] []),
    ("drawing-properties", taskShape [] [isDrawing, fun _ => true]),
    ("auto-drawing-script", taskShape [] [fun _ => true]),
    ("ga-from-template", taskShape [] [fun _ => true])]

def shape : Shape :=
  .mk [] []
    [("render", .mk [⟨"envelope", none, none, none⟩] [isPath] []),
      ("run", .mk [configFlag] [isPath] []),
      ("task", .mk [configFlag, dryRunFlag] [] taskShapes),
      ("slots", .mk [numberFlag "count", numberFlag "start"] [] [])]

/-- The ready-made task that a level asks for. -/
def task? (l : Level) : Option Task :=
  match l.command, l.given.operands with
  | "numbering", [] => some (.performNumbering (l.given.has "all"))
  | "numbering-settings", [] => some .openNumberingSettings
  | "drawing-list", [] => some .openDrawingList
  | "drawing-properties", [kind, name] =>
    (Drawing.ofText kind).toOption.map fun kind => .openDrawingProperties kind name
  | "auto-drawing-script", [name] => some (.openAutoDrawingScript name)
  | "ga-from-template", [name] => some (.createGaDrawing name)
  | _, _ => none

/-- The path of the configuration file: given on some level, or else in the environment. -/
def config? (env : Environment) (levels : List Level) : Option String :=
  (innermost? levels configFlag.name).or (env.get? configVariable)

/-- The request of levels. -/
def ofLevels (env : Environment) (levels : List Level) : Option Request :=
  match levels with
  | [_, l] =>
    match l.command, l.given.operands with
    | "render", [workflow] => some (.render workflow (l.given.has "envelope"))
    | "run", [workflow] => some (.run workflow (config? env levels))
    | "slots", [] =>
      some (.slots (((l.given.value? "count").bind number?).getD 1)
        ((l.given.value? "start").bind number?))
    | _, _ => none
  | [_, _, l] =>
    (task? l).map fun task =>
      .task l.command task (config? env levels) (innermost? levels dryRunFlag.name).isSome
  | _ => none

/-- The request of a command line. -/
def ofArguments (env : Environment) (arguments : List String) : Except Refusal Request :=
  match read env.get? shape arguments with
  | .error r => .error r
  | .ok levels =>
    match ofLevels env levels with
    | some request => .ok request
    | none => .error .misuse

def usage : String :=
  "Usage: macrokit <COMMAND>\n\nCommands:\n" ++
  "  render <WORKFLOW> [--envelope]\n" ++
  "  run <WORKFLOW> [-c <CONFIG>]\n" ++
  "  task [-c <CONFIG>] [--dry-run] <TASK>\n" ++
  "  slots [--count <COUNT>] [--start <START>]\n\nTasks:\n" ++
  "  numbering [--all]\n" ++
  "  numbering-settings\n" ++
  "  drawing-list\n" ++
  "  drawing-properties <KIND> <NAME>\n" ++
  "  auto-drawing-script <NAME>\n" ++
  "  ga-from-template <NAME>\n"

end Request

end HostScript.CommandLine
