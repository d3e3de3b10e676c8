import HostScript.Journal
import HostScript.Slot

/-!
# Artifacts

A script file and the files that the host compiles next to it. Clean-up and letting go both remove the
three paths in one order, and go on after a failure; they differ in what they report.
-/
namespace HostScript

namespace FileSystem

/-- Removes a file; that there is none is no fault. -/
def clear (fs : FileSystem) (path : String) : Except FileFault FileSystem :=
  match fs.remove path with
  | .ok fs' => .ok fs'
  | .error .missing => .ok fs
  | .error f => .error f

end FileSystem

/-- The extensions of the files that the host leaves next to a compiled script. -/
def byproductExtensions : List String := ["dll", "pdb"]

/-- A script file in a folder. -/
structure Artifact where
  folder : String
  fileName : String
  deriving DecidableEq

/-- What the removal of several files came to. -/
structure Sweep where
  files : FileSystem
  notices : List Notice
  fault? : Option Fault

namespace Sweep

/-- The sweep that has not begun. -/
def start (fs : FileSystem) : Sweep := ⟨fs, [], none⟩

/-- Removes one more file. A failure is reported, and the first one is kept. -/
def remove (report : String → FileFault → Notice) (s : Sweep) (path : String) : Sweep :=
  match s.files.clear path with
  | .ok files => { s with files }
  | .error f =>
    { s with
      notices := s.notices ++ [report path f]
      fault? := s.fault?.or (some (.file path f)) }

def removeAll (report : String → FileFault → Notice) (s : Sweep) (paths : List String) : Sweep :=
  paths.foldl (remove report) s

end Sweep

namespace Artifact

def path (a : Artifact) : String := Path.join a.folder a.fileName

/-- The script file and every byproduct, in the order of their removal. -/
def paths (a : Artifact) : List String :=
  a.path :: byproductExtensions.map (Path.withExtension a.path)

def write (a : Artifact) (contents : String) (fs : FileSystem) : Except Fault FileSystem :=
  match fs.write a.path contents.toUTF8 with
  | .ok fs' => .ok fs'
  | .error f => .error (.file a.path f)

/-- The notice that announces the writing. -/
def writing (a : Artifact) (contents : String) : Notice := .writing a.path contents.utf8ByteSize

/-- The report of a failure during clean-up. -/
def cleanupReport (path : String) (f : FileFault) : Notice := .notRemoved path (.file path f)

/-- The report of a failure after an artifact was let go. -/
def releaseReport (path : String) (f : FileFault) : Notice := .leftBehind path f

/-- Removes the script file and its byproducts. Every path is tried; the first failure counts. -/
def cleanup (a : Artifact) (fs : FileSystem) : Sweep :=
  (Sweep.start fs).removeAll cleanupReport a.paths

/-- Lets an artifact go that was not cleaned up. Failures are only reported. -/
def release (a : Artifact) (fs : FileSystem) : Sweep :=
  (Sweep.start fs).removeAll releaseReport a.paths

end Artifact

/-- An artifact in someone's hands, and whether its clean-up was completed. -/
structure Custody where
  artifact : Artifact
  cleaned : Bool
  deriving DecidableEq

namespace Custody

/-- Takes charge of an artifact. -/
def ofArtifact (a : Artifact) : Custody := ⟨a, false⟩

/-- Cleans up. Even if a file could not be removed there is nothing left to do. -/
def cleanup (c : Custody) (fs : FileSystem) : Sweep × Custody :=
  (c.artifact.cleanup fs, { c with cleaned := true })

/-- A clean-up that is broken off after so many removals. -/
def breakOff (removals : Nat) (c : Custody) (fs : FileSystem) : Sweep × Custody :=
  ((Sweep.start fs).removeAll Artifact.cleanupReport (c.artifact.paths.take removals), c)

/-- Lets go of an artifact. What was not cleaned up is removed then. -/
def drop (c : Custody) (fs : FileSystem) : Sweep :=
  if c.cleaned then Sweep.start fs else c.artifact.release fs

end Custody

end HostScript
