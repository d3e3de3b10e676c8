import HostScript.CommandLine

/-!
# Files on the disk

Which paths a request may touch, a file system that is furnished with what stands there, and what has to
be done on the disk so that it holds the files after the answer.
-/
namespace HostScript

namespace FileSystem

/-- The file system with an entry at a path, and with folders on the way there. -/
def furnish (fs : FileSystem) (path : String) (e : Entry) : FileSystem :=
  match fs.makeFolders path with
  | .error _ => fs
  | .ok made =>
    match made.find path with
    | .error _ => fs
    | .ok (l, _) => made.put l e

def pathOf (l : Location) : String := "/" ++ "/".intercalate l.reverse

inductive Change where
  | remove (path : String)
  | makeFolder (path : String)
  | write (path : String) (bytes : ByteArray)

/-- What takes the disk from one file system to another: removals, then folders from the outermost
inwards, then files. -/
def changes (before after : FileSystem) : List Change :=
  let removed := before.entries.filterMap fun (l, e) =>
    match e, after.entry? l with
    | .file _, none => some (.remove (pathOf l))
    | _, _ => none
  let fresh := after.entries.filter fun (l, e) => before.entry? l ≠ some e
  let folders := (fresh.filterMap fun (l, e) => if e = .folder then some l else none).mergeSort
    fun a b => a.length ≤ b.length
  let files := fresh.filterMap fun (l, e) =>
    match e with
    | .file bytes => some (.write (pathOf l) bytes)
    | .folder => none
  removed ++ folders.map (fun l => .makeFolder (pathOf l)) ++ files

end FileSystem

namespace CommandLine

def Request.documents : Request → List String
  | .render workflow _ => [workflow]
  | .run workflow config => workflow :: config.toList
  | .task _ _ config dryRun => if dryRun then [] else config.toList
  | .slots _ _ => []

/-- The configuration of a request, as soon as its documents are known. -/
def Request.configuration? (env : Environment) (files : FileSystem) : Request → Option Config
  | .run _ config => (loadConfig env files config).toOption.map (·.1)
  | .task _ _ config _ => (loadConfig env files config).toOption.map (·.1)
  | _ => none

/-- The folders and files that a run under a configuration may touch. -/
def runPaths (env : Environment) (slots : Slots) (c : Config) : List String :=
  c.host.workingFolder.toList ++
    match c.settings.option? env folderOption with
    | none => []
    | some folder => folder :: (Artifact.mk folder slots.takeName.1).paths

end CommandLine

end HostScript
