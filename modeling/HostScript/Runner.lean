import HostScript.Artifact
import HostScript.Config
import HostScript.Host
import HostScript.Script
import HostScript.Task

/-!
# Running scripts

A run takes the next slot, writes the script into the folder of the host, waits until the host is idle,
hands the script over under its name and removes the files again, whatever happened before. A session
is the world in which runs take place. The patience of a run is the number of probes after which it is
left asleep in its wait; a run that comes to an end with some patience comes to the same end with more.
-/
namespace HostScript

/-- What a run did to the host, and how it passed time. -/
inductive Deed where
  | probed (busy : Bool)
  | slept (time : Duration)
  | submitted (name : String) (files : FileSystem)

/-- The world of runs: the files, the host, the rotation of slots and what has happened so far. Deeds and
notices stand latest first. -/
structure Session (σ : Type) where
  files : FileSystem
  host : σ
  slots : Slots
  /-- The probes made under the present wait policy. -/
  probes : Nat
  deeds : List Deed
  notices : List Notice

namespace Session

def report {σ : Type} (s : Session σ) (n : Notice) : Session σ :=
  { s with notices := n :: s.notices }

def reportAll {σ : Type} (s : Session σ) (ns : List Notice) : Session σ :=
  ns.foldl report s

/-- Puts a sweep into effect. -/
def sweep {σ : Type} (s : Session σ) (w : Sweep) : Session σ :=
  { s with files := w.files }.reportAll w.notices

end Session

inductive WaitEnd where
  | idle
  | failed (fault : Fault)
  | asleep
  deriving DecidableEq

inductive DispatchEnd where
  | ended (status : Status)
  | failed (fault : Fault)
  | asleep
  deriving DecidableEq

/-- What a successful run has to tell. -/
structure Outcome where
  fileName : String
  status : Status
  deriving DecidableEq

/-- How a run stands. One that is asleep still owns its artifact. -/
inductive RunEnd where
  | finished (outcome : Outcome)
  | failed (fault : Fault)
  | asleep (artifact : Artifact)
  deriving DecidableEq

/-- What runs need to know: the host, its options and how to wait for it. -/
structure Runner (σ : Type) where
  host : Host σ
  option? : String → Option String
  policy : WaitPolicy

/-- A name as the host sees it: the last of its parts between backslashes and slashes. -/
def lastPart (name : List Char) : List Char :=
  (name.reverse.takeWhile fun c => c ≠ '\\' && c ≠ '/').reverse

/-- Whether the last part of a name has an extension that is not empty. -/
def hasExtension (name : String) : Bool :=
  let part := lastPart name.toList
  if part = ['.', '.'] then false
  else match (Path.splitExtension part).2 with
    | none => false
    | some extension => !extension.isEmpty

/-- The name under which a script is handed over. While a drawing is active the host starts from another
folder; a name without an extension is given that of scripts. -/
def submissionName (drawingActive : Bool) (name : String) : String :=
  let name := if drawingActive then "..\\drawings\\" ++ name else name
  if hasExtension name then name else name ++ ".cs"

namespace Runner

variable {σ : Type}

/-- The folder of the host's scripts. -/
def folder (r : Runner σ) : Except Fault String :=
  match r.option? folderOption with
  | none => .error (.optionUnset folderOption)
  | some folder => .ok folder

def probe (r : Runner σ) (s : Session σ) : Bool × Session σ :=
  let answer := r.host.probe s.host
  (answer.1, { s with
    host := answer.2
    probes := s.probes + 1
    deeds := .probed answer.1 :: s.deeds })

/-- Lets one interval pass. -/
def sleep (r : Runner σ) (s : Session σ) : Session σ :=
  { s with deeds := .slept r.policy.interval :: s.deeds }

/-- Whether a wait of so many nanoseconds has reached the deadline. -/
def isOverdue (r : Runner σ) (elapsed : Nat) : Option Duration :=
  r.policy.deadline.filter fun deadline => deadline.nanoseconds ≤ elapsed

/-- Whether the wait is called off by now. -/
def isCalledOff (r : Runner σ) (s : Session σ) : Bool :=
  match r.policy.calledOffAt with
  | none => false
  | some n => n ≤ s.probes

/-- The rounds of a wait. Each probes the host once; if it is busy, first the deadline and then the
calling off end the wait, and otherwise one interval passes. -/
def waitFrom (r : Runner σ) (elapsed : Nat) : Nat → Session σ → WaitEnd × Session σ
  | 0, s => (.asleep, s)
  | patience + 1, s =>
    match r.probe s with
    | (false, s) => (.idle, s)
    | (true, s) =>
      match r.isOverdue elapsed with
      | some deadline => (.failed (.stillBusy deadline), s)
      | none =>
        if r.isCalledOff s then (.failed .calledOff, s)
        else if patience = 0 then (.asleep, s)
        else r.waitFrom (elapsed + r.policy.interval.nanoseconds) patience (r.sleep s)

def wait (r : Runner σ) (patience : Nat) (s : Session σ) : WaitEnd × Session σ :=
  r.waitFrom 0 patience s

/-- Hands a script over to the host. A fault of the host is handed on as it is. -/
def submit (r : Runner σ) (name : String) (s : Session σ) : DispatchEnd × Session σ :=
  let done := r.host.submit name s.host s.files
  let s := { (s.report (.submitting name)) with
    host := done.host
    files := done.files
    deeds := .submitted name s.files :: s.deeds }.reportAll done.notices
  match done.result with
  | .ok () => (.ended .executed, s)
  | .error fault => (.failed fault, s)

/-- Waits for the host and hands a script over by its name. A host that is not connected is not waited
for. -/
def dispatch (r : Runner σ) (patience : Nat) (name : String) (s : Session σ) :
    DispatchEnd × Session σ :=
  if !r.host.isConnected s.host then (.ended .skipped, s)
  else
    let full := submissionName (r.host.isDrawingActive s.host) name
    match r.wait patience s with
    | (.asleep, s) => (.asleep, s)
    | (.failed fault, s) => (.failed fault, s)
    | (.idle, s) => r.submit full s

/-- Removes the files of a run and says how it ended. The failure of the run comes before that of the
removal, which is then only reported. -/
def conclude (a : Artifact) (result : Except Fault Status) (s : Session σ) : RunEnd × Session σ :=
  let swept := a.cleanup s.files
  let s := s.sweep swept
  match result, swept.fault? with
  | .ok status, none => (.finished ⟨a.fileName, status⟩, s.report (.runFinished a.fileName status))
  | .ok _, some fault => (.failed fault, s)
  | .error fault, none => (.failed fault, s)
  | .error fault, some other => (.failed fault, s.report (.cleanupFailedToo other))

/-- Writes a script into its envelope, has the host execute it and removes the files. -/
def run (r : Runner σ) (patience : Nat) (script : String) (s : Session σ) : RunEnd × Session σ :=
  let (fileName, slots) := s.slots.takeName
  let s := { s with slots }
  match r.folder with
  | .error fault => (.failed fault, s)
  | .ok folder =>
    let a : Artifact := ⟨folder, fileName⟩
    let contents := envelope script
    let s := s.report (a.writing contents)
    match a.write contents s.files with
    | .error fault => conclude a (.error fault) s
    | .ok files =>
      match r.dispatch patience ("..\\" ++ fileName) { s with files } with
      | (.asleep, s) => (.asleep a, s)
      | (.failed fault, s) => conclude a (.error fault) s
      | (.ended status, s) => conclude a (.ok status) s

/-- Gives up a run: one that is asleep lets its artifact go, another is over. -/
def abandon : RunEnd × Session σ → Session σ
  | (.asleep a, s) => s.sweep (a.release s.files)
  | (_, s) => s

/-- Runs a script as a task: failure is only reported. -/
def runTask (r : Runner σ) (patience : Nat) (label script : String) (s : Session σ) :
    RunEnd × Session σ :=
  match r.run patience script s with
  | (.finished outcome, s) =>
    (.finished outcome, s.report (.taskFinished label outcome.fileName outcome.status))
  | (.failed fault, s) => (.failed fault, s.report (.taskFailed label fault))
  | (.asleep a, s) => (.asleep a, s)

end Runner

end HostScript
