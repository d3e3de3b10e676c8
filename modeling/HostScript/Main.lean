import HostScript.CommandLine.Disk
import HostScript.Shell.Program

/-!
# The program

Reads what a command line may touch from the disk, answers it and puts the changes into effect. What is
printed goes to the output; reports and notices that matter go to the error stream.
-/
namespace HostScript.CommandLine

/-- What stands at a path on the disk. What cannot be read counts as missing. -/
def observe (path : String) : IO (Option Entry) := do
  try
    let bytes ← IO.FS.readBinFile path
    return some (.file bytes)
  catch
    | .inappropriateType _ _ _ => return some .folder
    | _ => return none

/-- Furnishes a file system with what stands at paths. -/
def observeAll (files : FileSystem) (paths : List String) : IO FileSystem :=
  paths.foldlM (fun files path => do
    match ← observe path with
    | none => return files
    | some entry => return files.furnish path entry) files

def perform : FileSystem.Change → IO Unit
  | .remove path => IO.FS.removeFile path
  | .makeFolder path => IO.FS.createDirAll path
  | .write path bytes => IO.FS.writeBinFile path bytes

/-- The variables of the environment that are asked for. -/
def observeEnvironment : IO Environment := do
  let names := [Request.configVariable, Config.folderVariable, Config.intervalVariable,
    Config.timeoutVariable, "MACROKIT_" ++ folderOption, folderOption]
  let found ← names.filterMapM fun name => do
    return (← IO.getEnv name).map fun value => (name, value)
  return ⟨found⟩

/-- The files as far as a command line may touch them. -/
def observeFiles (env : Environment) (slots : Slots) (arguments : List String) : IO FileSystem := do
  let here := (Path.parts (toString (← IO.currentDir))).reverse
  let bare : FileSystem := ⟨[], here, []⟩
  let bare := bare.furnish "." .folder
  match Request.ofArguments env arguments with
  | .error _ => return bare
  | .ok request =>
    let files ← observeAll bare request.documents
    match request.configuration? env files with
    | none => return files
    | some c => observeAll files (runPaths env slots c)

end HostScript.CommandLine

open HostScript HostScript.CommandLine in
def main (arguments : List String) : IO UInt32 := do
  let env ← observeEnvironment
  let slots := Slots.startingAt (← IO.rand 0 (slotCount - 1))
  let files ← observeFiles env slots arguments
  let a := respond Program.start env files slots arguments
  (files.changes a.files).forM perform
  for n in a.notices do
    if n.severity ≠ .info then IO.eprintln n.line
  if a.code = 2 then IO.eprint Request.usage
  IO.print a.output
  match a.failure with
  | some f => IO.eprintln f.report
  | none => pure ()
  return UInt32.ofNat a.code
