import HostScript.Artifact
import HostScript.Config
import HostScript.Host

/-!
# A host for rehearsals

Its answers are laid down in advance: how many probes find it busy, whether it fails, whether it leaves
byproducts and whether it deletes the script itself. It touches no files but those of the script.
-/
namespace HostScript

structure Rehearsal where
  connected : Bool
  drawingActive : Bool
  /-- The probes that still find it busy; all of them if negative. -/
  busy : Int
  failure : Option String
  byproducts : Bool
  removesScript : Bool
  /-- The folder in which it looks for scripts. -/
  folder : String

namespace Rehearsal

/-- Connected, idle and without failure. -/
def usual : Rehearsal := ⟨true, false, 0, none, false, false, "."⟩

/-- One probe takes one off the busy ones. -/
def probe (r : Rehearsal) : Bool × Rehearsal :=
  if r.busy = 0 then (false, r)
  else if r.busy < 0 then (true, r)
  else (true, { r with busy := r.busy - 1 })

/-- Where it looks for the script of a name: behind the last backslash is the file in its folder. -/
def scriptPath (r : Rehearsal) (name : String) : String :=
  Path.join r.folder (String.ofList ((name.toList.reverse.takeWhile (· ≠ '\\')).reverse))

/-- The script that it finds under a name. -/
def script? (r : Rehearsal) (files : FileSystem) (name : String) : Option String :=
  match files.read (r.scriptPath name) with
  | .ok bytes => String.fromUTF8? bytes
  | .error _ => none

/-- Writes a file if that can be done. -/
def leave (files : FileSystem) (path contents : String) : FileSystem :=
  (files.write path contents.toUTF8).toOption.getD files

/-- What taking a script does to the files. -/
def afterSubmission (r : Rehearsal) (files : FileSystem) (name : String) : FileSystem :=
  let path := r.scriptPath name
  let files :=
    if r.byproducts && (r.script? files name).isSome then
      byproductExtensions.foldl
        (fun files extension => leave files (Path.withExtension path extension) extension) files
    else files
  if r.removesScript then (files.remove path).toOption.getD files else files

def host : Host Rehearsal where
  isConnected r := r.connected
  isDrawingActive r := r.drawingActive
  probe := probe
  submit name r files :=
    ⟨r, r.afterSubmission files name, [],
      match r.failure with
      | none => .ok ()
      | some reason => .error (.told .host reason none)⟩

/-- A patience in which every wait ends that ends at all: the host becomes idle, the deadline is reached
or the wait is called off by then. -/
def patience (r : Rehearsal) (policy : WaitPolicy) : Nat :=
  let untilOverdue := match policy.deadline with
    | none => 0
    | some deadline => deadline.nanoseconds / policy.interval.nanoseconds + 1
  r.busy.toNat + untilOverdue + policy.calledOffAt.getD 0 + 1

end Rehearsal

end HostScript
