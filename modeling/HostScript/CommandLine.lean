import HostScript.CommandLine.Request
import HostScript.Launcher
import HostScript.Reading
import HostScript.Runner

/-!
# Answering a command line

A request is answered with an exit code, the files after it, what is printed and what is reported. A
failure is told with the step during which it occurred and its causes below. How the launcher starts its
program is left open.
-/
namespace HostScript.CommandLine

structure Failure where
  step : String
  fault : Fault

namespace Failure

/-- A cause with its lines indented. One of several has its number in front. -/
def indented (number : Option Nat) (cause : String) : String :=
  let front := match number with
    | none => "    "
    | some n =>
      let digits := Text.natural n
      String.ofList (List.replicate (5 - digits.length) ' ') ++ digits ++ ": "
  let margin := match number with
    | none => "\n    "
    | some _ => "\n       "
  front ++ String.ofList (cause.toList.flatMap fun c => if c = '\n' then margin.toList else [c])

/-- The causes of a failure, from the outermost to the one beneath all. -/
def causes (f : Failure) : List String := f.fault.message :: f.fault.beneath?.toList

def report (f : Failure) : String :=
  let lines := match f.causes with
    | [cause] => [indented none cause]
    | causes => causes.mapIdx fun i cause => indented (some i) cause
  "Error: " ++ f.step ++ "\n\nCaused by:\n" ++ "\n".intercalate lines

end Failure

structure Answer where
  code : Nat
  files : FileSystem
  output : String
  failure : Option Failure
  notices : List Notice

namespace Answer

/-- An answer without failure. -/
def printed (files : FileSystem) (output : String) (notices : List Notice) : Answer :=
  ⟨0, files, output, none, notices⟩

/-- The answer to a command line for which nothing is to be done. -/
def refused (files : FileSystem) : Refusal → Answer
  | .help => printed files Request.usage []
  | .misuse => ⟨2, files, "", none, []⟩

def failed (files : FileSystem) (notices : List Notice) (f : Failure) : Answer :=
  ⟨1, files, "", some f, notices⟩

end Answer

/-- Names the step during which a fault occurs. -/
def during {α : Type} (step : String) (result : Except Fault α) : Except Failure α :=
  result.mapError fun fault => ⟨step, fault⟩

def loadScript (files : FileSystem) (path : String) : Except Failure Script := do
  let w ← during ("Failed to read workflow " ++ path) (Workflow.load files path)
  during ("Invalid step in workflow " ++ path) w.script

/-- The configuration in a file, or the usual one, with what the environment says. -/
def loadConfig (env : Environment) (files : FileSystem) (path : Option String) :
    Except Failure (Config × List Notice) :=
  match path with
  | none => .ok (Config.usual.overridden env)
  | some path => do
    let c ← during ("Failed to load configuration from " ++ path) (Config.load files path)
    .ok (c.overridden env)

/-- The runner of a configuration. -/
def setUp (start : Starter) (env : Environment) (c : Config) : Except Failure (Runner Gate) := do
  let l ← during "Failed to set up the host" (c.host.launcher start env)
  .ok ⟨l.host, fun key => c.settings.option? env key, c.waitPolicy⟩

/-- The session that begins on files, with what is reported already. -/
def session (files : FileSystem) (slots : Slots) (notices : List Notice) : Session Gate :=
  ⟨files, .free, slots, 0, [], notices.reverse⟩

/-- The probes of a run of which the launcher is free: the first one finds it idle. -/
def patience : Nat := 1

def outcomeLine (o : Outcome) : String :=
  match o.status with
  | .executed => "Executed " ++ o.fileName ++ "\n"
  | .skipped => "Skipped " ++ o.fileName ++ " (host not connected)\n"

def taskLine (name : String) : RunEnd → String
  | .finished o => name ++ ": " ++ o.status.text ++ " (" ++ o.fileName ++ ")\n"
  | _ => name ++ ": failed, see log\n"

def runWorkflow (start : Starter) (env : Environment) (files : FileSystem) (slots : Slots)
    (workflow : String) (config : Option String) : Except Failure Answer := do
  let script ← loadScript files workflow
  let (c, notices) ← loadConfig env files config
  let runner ← setUp start env c
  let (ending, s) := runner.run patience script.text (session files slots notices)
  let told := s.notices.reverse
  match ending with
  | .finished o => .ok (.printed s.files (outcomeLine o) told)
  | .failed fault => .ok (.failed s.files told ⟨"Failed to run " ++ workflow, fault⟩)
  | .asleep _ => .ok (.printed s.files "" told)

/-- Runs a ready-made task, whose failure is only reported. -/
def runTask (start : Starter) (env : Environment) (files : FileSystem) (slots : Slots) (name : String)
    (task : Task) (config : Option String) : Except Failure Answer := do
  let (c, notices) ← loadConfig env files config
  let runner ← setUp start env c
  let (ending, s) := runner.runTask patience name task.script.text (session files slots notices)
  .ok (.printed s.files (taskLine name ending) s.notices.reverse)

/-- The names of the slots that are handed out next. -/
def slotNames (slots : Slots) (count : Nat) : List String := (slots.indexes count).map slotFileName

/-- The answer to a request. The rotation of slots is used unless the request names a start. -/
def answer (start : Starter) (env : Environment) (files : FileSystem) (slots : Slots)
    (request : Request) : Answer :=
  let result : Except Failure Answer := match request with
    | .render workflow enveloped => do
      let script ← loadScript files workflow
      .ok (.printed files (if enveloped then envelope script.text ++ "\n" else script.text) [])
    | .run workflow config => runWorkflow start env files slots workflow config
    | .task name task config dryRun =>
      if dryRun then .ok (.printed files task.script.text [])
      else runTask start env files slots name task config
    | .slots count first =>
      let slots := (first.map Slots.startingAt).getD slots
      .ok (.printed files (String.join ((slotNames slots count).map (· ++ "\n"))) [])
  match result with
  | .ok a => a
  | .error f => .failed files [] f

def respond (start : Starter) (env : Environment) (files : FileSystem) (slots : Slots)
    (arguments : List String) : Answer :=
  match Request.ofArguments env arguments with
  | .error r => .refused files r
  | .ok request => answer start env files slots request

end HostScript.CommandLine
