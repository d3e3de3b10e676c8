import HostScript.Journal
import HostScript.Json.Record
import HostScript.Settings

/-!
# Configuration

How scripts are run: where their files go, how the wait for the host goes on, and which program is the
host. Every field has a default. The environment overrides a few of them.
-/
namespace HostScript

/-- How often and how long to wait for a busy host. Without a deadline the wait goes on for as long as
the host is busy. A wait may be called off during a probe, counted from the first under this policy; at
zero it is called off beforehand. -/
structure WaitPolicy where
  interval : Duration
  deadline : Option Duration
  calledOffAt : Option Nat
  deriving DecidableEq, Repr

/-- The interval between probes when none is given. -/
def usualInterval : Duration := .ofMilliseconds 100

/-- Probes at the usual interval without an end. -/
def WaitPolicy.usual : WaitPolicy := ⟨usualInterval, none, none⟩

/-- Which program is the host, and in which state it is. -/
structure HostConfig where
  program : Option String
  arguments : List String
  workingFolder : Option String
  connected : Bool
  drawingActive : Bool
  deriving DecidableEq

/-- The host that is used when nothing is said about it. -/
def HostConfig.usual : HostConfig := ⟨none, [], none, true, false⟩

structure Config where
  folder : Option String
  intervalMs : UInt64
  timeoutMs : Option UInt64
  host : HostConfig
  deriving DecidableEq

/-- The configuration that is used when nothing is given. -/
def Config.usual : Config := ⟨none, 100, none, .usual⟩

def HostConfig.fieldNames : List String :=
  ["program", "args", "working_dir", "connected", "drawing_active"]

def Config.fieldNames : List String :=
  ["macro_directory", "poll_interval_ms", "wait_timeout_ms", "host"]

/-- A number of 64 bits in JSON. -/
def uint64Json (n : UInt64) : Json := .natural n.toNat

/-- The host section in JSON, with every field. -/
def HostConfig.toJson (h : HostConfig) : Json :=
  .object [("program", .orNull (h.program.map .text)),
    ("args", .list (h.arguments.map .text)),
    ("working_dir", .orNull (h.workingFolder.map .text)),
    ("connected", .bool h.connected),
    ("drawing_active", .bool h.drawingActive)]

/-- A configuration in JSON, with every field. -/
def Config.toJson (c : Config) : Json :=
  .object [("macro_directory", .orNull (c.folder.map .text)),
    ("poll_interval_ms", uint64Json c.intervalMs),
    ("wait_timeout_ms", .orNull (c.timeoutMs.map uint64Json)),
    ("host", c.host.toJson)]

def HostConfig.ofJson? (j : Json) : Option HostConfig :=
  match j.fields? HostConfig.fieldNames with
  | some [program, arguments, workingFolder, connected, drawingActive] => do
    let program ← Json.fieldOr none (Json.optional? Json.text?) program
    let arguments ← Json.fieldOr [] Json.texts? arguments
    let workingFolder ← Json.fieldOr none (Json.optional? Json.text?) workingFolder
    let connected ← Json.fieldOr true Json.bool? connected
    let drawingActive ← Json.fieldOr false Json.bool? drawingActive
    some ⟨program, arguments, workingFolder, connected, drawingActive⟩
  | _ => none

def Config.ofJson? (j : Json) : Option Config :=
  match j.fields? Config.fieldNames with
  | some [folder, interval, timeout, host] => do
    let folder ← Json.fieldOr none (Json.optional? Json.text?) folder
    let interval ← Json.fieldOr 100 Json.uint64? interval
    let timeout ← Json.fieldOr none (Json.optional? Json.uint64?) timeout
    let host ← Json.fieldOr .usual HostConfig.ofJson? host
    some ⟨folder, interval, timeout, host⟩
  | _ => none

namespace Config

def folderVariable : String := "MACROKIT_MACRO_DIRECTORY"

def intervalVariable : String := "MACROKIT_POLL_INTERVAL_MS"

def timeoutVariable : String := "MACROKIT_WAIT_TIMEOUT_MS"

/-- A number of milliseconds in a variable, with blanks around it. A value that is no such number is
reported. -/
def milliseconds? (env : Environment) (name : String) : Option UInt64 × List Notice :=
  match env.get? name with
  | none => (none, [])
  | some value =>
    match Text.readUnsigned UInt64.size (Text.trimChars value.toList) with
    | .ok n => (some (UInt64.ofNat n), [])
    | .error fault => (none, [.variableIgnored name value fault])

/-- The folder in the environment, unless it is blank. -/
def folder? (env : Environment) : Option String :=
  (env.get? folderVariable).filter fun value => !Text.isBlankText value

/-- The configuration with what the environment says, and the variables that could not be used. -/
def overridden (env : Environment) (c : Config) : Config × List Notice :=
  let interval := milliseconds? env intervalVariable
  let timeout := milliseconds? env timeoutVariable
  ({ c with
      folder := (folder? env).or c.folder
      intervalMs := interval.1.getD c.intervalMs
      timeoutMs := timeout.1.or c.timeoutMs },
    interval.2 ++ timeout.2)

/-- The wait policy of a configuration. The interval is at least one millisecond. -/
def waitPolicy (c : Config) : WaitPolicy :=
  ⟨.ofMilliseconds (max c.intervalMs.toNat 1), c.timeoutMs.map fun ms => .ofMilliseconds ms.toNat,
    none⟩

/-- The configured folder is the only option; without one the environment is asked. -/
def settings (c : Config) : Settings :=
  match c.folder with
  | some folder => Settings.none.withOption folderOption folder
  | none => .usual

end Config

end HostScript
