import HostScript.Duration
import HostScript.FileSystem

/-!
# Faults

Everything that can go wrong in this library, as causes. Each cause belongs to one kind, and its message
is the heading of the kind followed by the detail of the cause.
-/
namespace HostScript

/-- What a reader found wrong with the data in a document that it could still name. -/
inductive DataFlaw where
  | missingField (name : String)
  | unknownVariant (name : String)
  deriving DecidableEq, Repr

def DataFlaw.message : DataFlaw → String
  | .missingField name => "missing field `" ++ name ++ "`"
  | .unknownVariant name => "unknown variant `" ++ name ++ "`"

/-- The documents that are read. -/
inductive Subject where
  | workflow
  | configuration
  deriving DecidableEq, Repr

def Subject.noun : Subject → String
  | .workflow => "workflow"
  | .configuration => "configuration"

/-- Why a launcher does not execute a script. -/
inductive HostFault where
  | occupied (path : String)
  | notStarted (program : String) (cause : FileFault)
  | ended (status : String) (output : String)
  deriving DecidableEq, Repr

def HostFault.message : HostFault → String
  | .occupied path => "a macro is already running, cannot submit " ++ path
  | .notStarted program cause => "failed to spawn " ++ program ++ ": " ++ cause.message
  | .ended status output => "launcher exited with " ++ status ++ ": " ++ output

inductive FaultKind where
  | invalidArgument
  | settings
  | file
  | timeout
  | cancelled
  | host
  | configuration
  deriving DecidableEq, Repr

/-- What a message of a kind starts with. -/
def FaultKind.heading : FaultKind → String
  | .invalidArgument => "Invalid argument"
  | .settings => "Settings lookup failed"
  | .file => "I/O error on"
  | .timeout => "Operation timed out"
  | .cancelled => "Operation cancelled"
  | .host => "Host error"
  | .configuration => "Invalid configuration"

inductive Fault where
  /-- A callback has no name. -/
  | emptyCallback
  /-- A text names no kind of drawing. -/
  | unknownDrawing (spelling : String)
  /-- An option of the host has no value. -/
  | optionUnset (key : String)
  /-- A file operation failed. -/
  | file (path : String) (cause : FileFault)
  /-- The host was still busy when the time to wait was over. -/
  | stillBusy (deadline : Duration)
  /-- The wait was called off. -/
  | calledOff
  /-- The launcher did not execute the script. -/
  | host (cause : HostFault)
  /-- A host fails in words of its own. Its fault may be of any kind, those included by which this library
  tells of its own phases. -/
  | told (kind : FaultKind) (detail : String) (beneath : Option String)
  /-- No launcher program is configured. -/
  | programUnset
  /-- A document cannot be read. -/
  | unreadable (subject : Subject) (flaw : Option DataFlaw)
  deriving DecidableEq, Repr

namespace Fault

def kind : Fault → FaultKind
  | .emptyCallback => .invalidArgument
  | .unknownDrawing _ => .invalidArgument
  | .optionUnset _ => .settings
  | .file _ _ => .file
  | .stillBusy _ => .timeout
  | .calledOff => .cancelled
  | .host _ => .host
  | .told kind _ _ => kind
  | .programUnset => .configuration
  | .unreadable _ _ => .configuration

/-- What follows the heading. -/
def detail : Fault → String
  | .emptyCallback => "callback name must not be empty"
  | .unknownDrawing spelling => "unknown drawing kind: " ++ spelling
  | .optionUnset key => key ++ " is not set"
  | .file path cause => path ++ ": " ++ cause.message
  | .stillBusy deadline => "host still running a macro after " ++ deadline.text
  | .calledOff => "wait for running macro was cancelled"
  | .host cause => cause.message
  | .told _ detail _ => detail
  | .programUnset => "host.program is not set"
  | .unreadable subject _ => "invalid " ++ subject.noun

/-- The message of a fault. A file fault names the path right behind its heading. -/
def message (f : Fault) : String :=
  f.kind.heading ++ (if f.kind = .file then " " else ": ") ++ f.detail

def isFile (f : Fault) : Bool := f.kind = .file

/-- The message of the fault beneath a fault, where there is one. -/
def beneath? : Fault → Option String
  | .file _ cause => some cause.message
  | .told _ _ beneath => beneath
  | _ => none

/-- The flaw that made a document unreadable, where the reader could name it. -/
def flaw? : Fault → Option DataFlaw
  | .unreadable _ flaw => flaw
  | _ => none

end Fault

end HostScript
