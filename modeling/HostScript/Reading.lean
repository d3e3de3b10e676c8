import HostScript.Config
import HostScript.Json.Reader
import HostScript.Text.Utf8
import HostScript.Workflow
import HostScript.Yaml.Reading

/-!
# Reading documents

A workflow or a configuration is a text in JSON or in YAML. JSON is tried first; if the text is not JSON
of the right shape, it is read as YAML, and what is wrong there is reported.
-/
namespace HostScript

namespace Yaml

/-- Containers nest at most 128 deep, of which a document spends two around its steps. -/
def depthOfStep : Nat := 126

/-- What is known of a step: its action and its other members, latest first. -/
structure StepMembers where
  action : Option Action
  others : List (Datum × Datum)

/-- Reads the members of a step in order. The action is recognised as soon as it is met. -/
def readStepMembers (d : Document) (depth : Nat) (known : StepMembers) :
    List (Node × Node) → Reading StepMembers
  | [] => pure known
  | (key, value) :: rest => do
    match ← readDatum d depth key with
    | .text "action" =>
      if known.action.isSome then wrong
      else
        let action ← Action.ofText (← readText d value)
        readStepMembers d depth { known with action := some action } rest
    | key =>
      let value ← readDatum d depth value
      readStepMembers d depth { known with others := (key, value) :: known.others } rest

def readStep (d : Document) (n : Node) : Reading Command := do
  match ← follow d n with
  | .map tag members =>
    if isCustomTag tag then wrong
    else
      let known ← readStepMembers d (depthOfStep - 1) ⟨none, []⟩ members
      match known.action with
      | none => throw (some (.missingField "action"))
      | some action => action.ofMembers known.others.reverse
  | .list tag [] => if isCustomTag tag then wrong else throw (some (.missingField "action"))
  | .list tag (first :: items) =>
    if isCustomTag tag then wrong
    else
      let action ← Action.ofText (← readText d first)
      action.ofItems (← items.mapM (readDatum d (depthOfStep - 1)))
  | _ => wrong

structure WorkflowParts where
  name : Option (Option String)
  steps : Option (List Command)

def readWorkflowMember (d : Document) (name : String) (value : Node) (known : WorkflowParts) :
    Reading WorkflowParts :=
  if name = "name" then
    readOnce known.name (readOptional d (readText d) value) fun v => { known with name := some v }
  else if name = "steps" then
    readOnce known.steps (readList d (readStep d) value) fun v => { known with steps := some v }
  else do passOver value; pure known

structure HostParts where
  program : Option (Option String)
  arguments : Option (List String)
  workingFolder : Option (Option String)
  connected : Option Bool
  drawingActive : Option Bool

def readHostMember (d : Document) (name : String) (value : Node) (known : HostParts) :
    Reading HostParts :=
  if name = "program" then
    readOnce known.program (readOptional d (readText d) value) fun v =>
      { known with program := some v }
  else if name = "args" then
    readOnce known.arguments (readList d (readText d) value) fun v =>
      { known with arguments := some v }
  else if name = "working_dir" then
    readOnce known.workingFolder (readOptional d (readText d) value) fun v =>
      { known with workingFolder := some v }
  else if name = "connected" then
    readOnce known.connected (readFlag d value) fun v => { known with connected := some v }
  else if name = "drawing_active" then
    readOnce known.drawingActive (readFlag d value) fun v => { known with drawingActive := some v }
  else do passOver value; pure known

def readHost (d : Document) (n : Node) : Reading HostConfig := do
  let parts ← readRecord d (readHostMember d) ⟨none, none, none, none, none⟩ n
  let usual := HostConfig.usual
  pure ⟨parts.program.getD usual.program, parts.arguments.getD usual.arguments,
    parts.workingFolder.getD usual.workingFolder, parts.connected.getD usual.connected,
    parts.drawingActive.getD usual.drawingActive⟩

structure ConfigParts where
  folder : Option (Option String)
  interval : Option UInt64
  timeout : Option (Option UInt64)
  host : Option HostConfig

def readConfigMember (d : Document) (name : String) (value : Node) (known : ConfigParts) :
    Reading ConfigParts :=
  if name = "macro_directory" then
    readOnce known.folder (readOptional d (readText d) value) fun v => { known with folder := some v }
  else if name = "poll_interval_ms" then
    readOnce known.interval (readUInt64 d value) fun v => { known with interval := some v }
  else if name = "wait_timeout_ms" then
    readOnce known.timeout (readOptional d (readUInt64 d) value) fun v =>
      { known with timeout := some v }
  else if name = "host" then
    readOnce known.host (readHost d value) fun v => { known with host := some v }
  else do passOver value; pure known

/-- Reads a whole document by its members. One without content has none. -/
def readDocument {α : Type} (d : Document) (read : String → Node → α → Reading α) (known : α) :
    Decoded α :=
  let result : Decoded (α × Nat) := match d.root with
    | none => .ok (known, 0)
    | some n => readRecord d read known n 0
  match result with
  | .error e => .error e
  | .ok (parts, _) => if d.sound then .ok parts else .error none

end Yaml

namespace Workflow

def ofYaml (text : String) : Decoded Workflow :=
  let d := Yaml.Document.ofText text
  match Yaml.readDocument d (Yaml.readWorkflowMember d) ⟨none, none⟩ with
  | .error e => .error e
  | .ok parts => .ok ⟨parts.name.getD none, parts.steps.getD []⟩

def parse (text : String) : Except Fault Workflow :=
  match (Json.parse? text).bind ofJson? with
  | some w => .ok w
  | none =>
    match ofYaml text with
    | .ok w => .ok w
    | .error flaw => .error (.unreadable .workflow flaw)

end Workflow

namespace Config

def ofYaml (text : String) : Decoded Config :=
  let d := Yaml.Document.ofText text
  match Yaml.readDocument d (Yaml.readConfigMember d) ⟨none, none, none, none⟩ with
  | .error e => .error e
  | .ok parts =>
    .ok ⟨parts.folder.getD usual.folder, parts.interval.getD usual.intervalMs,
      parts.timeout.getD usual.timeoutMs, parts.host.getD usual.host⟩

def parse (text : String) : Except Fault Config :=
  match (Json.parse? text).bind ofJson? with
  | some c => .ok c
  | none =>
    match ofYaml text with
    | .ok c => .ok c
    | .error flaw => .error (.unreadable .configuration flaw)

end Config

namespace FileSystem

def readText (fs : FileSystem) (path : String) : Except Fault String :=
  match fs.read path with
  | .error f => .error (.file path f)
  | .ok bytes =>
    match String.fromUTF8? bytes with
    | none => .error (.file path .notText)
    | some text => .ok text

end FileSystem

def Workflow.load (fs : FileSystem) (path : String) : Except Fault Workflow :=
  match fs.readText path with
  | .error f => .error f
  | .ok text => parse text

def Config.load (fs : FileSystem) (path : String) : Except Fault Config :=
  match fs.readText path with
  | .error f => .error f
  | .ok text => parse text

end HostScript
