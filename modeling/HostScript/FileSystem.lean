import HostScript.Path

/-!
# A file system

Folders and files under one root, and a folder in which paths that are not absolute start. A location
lists the names on the way up to the root, innermost first. Looking up a path walks down its parts, so
that the first part which is missing, or is no folder, decides the fault.

A folder may be locked: no entry is then made in it or removed from it, while the files in it are read and
written over as before. Other permissions are left out, and so are links: every path leads to one place, and
every place is reached through the folders above it only.
-/
namespace HostScript

inductive FileFault where
  | missing
  | denied
  | present
  | notFolder
  | isFolder
  | nameTooLong
  | notEmpty
  | nulInName
  | nulInArgument
  | notText
  deriving DecidableEq, Repr

namespace FileFault

/-- What the system calls a fault. -/
def text : FileFault → String
  | .missing => "No such file or directory"
  | .denied => "Permission denied"
  | .present => "File exists"
  | .notFolder => "Not a directory"
  | .isFolder => "Is a directory"
  | .nameTooLong => "File name too long"
  | .notEmpty => "Directory not empty"
  | .nulInName => "file name contained an unexpected NUL byte"
  | .nulInArgument => "nul byte found in provided data"
  | .notText => "stream did not contain valid UTF-8"

/-- The number of a fault, for the faults that the system reports. -/
def number? : FileFault → Option Nat
  | .missing => some 2
  | .denied => some 13
  | .present => some 17
  | .notFolder => some 20
  | .isFolder => some 21
  | .nameTooLong => some 36
  | .notEmpty => some 39
  | .nulInName => none
  | .nulInArgument => none
  | .notText => none

def message (f : FileFault) : String :=
  match f.number? with
  | none => f.text
  | some n => f.text ++ " (os error " ++ toString n ++ ")"

end FileFault

/-- The names from an entry up to the root. The root itself is the empty list. -/
abbrev Location := List String

inductive Entry where
  | folder
  | file (bytes : ByteArray)

/-- Files are equal when their bytes are. -/
def Entry.decideEq : (a b : Entry) → Decidable (a = b)
  | .folder, .folder => isTrue rfl
  | .folder, .file _ => isFalse (by simp)
  | .file _, .folder => isFalse (by simp)
  | .file a, .file b =>
    if h : a.data = b.data then isTrue (by rw [ByteArray.ext h])
    else isFalse fun same => h (by injection same with same; rw [same])

instance : DecidableEq Entry := Entry.decideEq

/-- The entries below the root, the folder in which relative paths start, and the folders that are locked. -/
structure FileSystem where
  entries : List (Location × Entry)
  here : Location
  locked : List Location

namespace FileSystem

/-- What stands at a location; the root is always a folder. -/
def entry? (fs : FileSystem) : Location → Option Entry
  | [] => some .folder
  | l => fs.entries.lookup l

/-- Whether no entry can be made or removed in a folder. -/
def isLocked (fs : FileSystem) (folder : Location) : Bool := fs.locked.contains folder

/-- The file system with one location freed. -/
def erase (fs : FileSystem) (l : Location) : FileSystem :=
  { fs with entries := fs.entries.filter (·.1 ≠ l) }

/-- The file system with an entry at a location, whatever stood there. -/
def put (fs : FileSystem) (l : Location) (e : Entry) : FileSystem :=
  { fs with entries := (l, e) :: (fs.erase l).entries }

/-- A name has at most 255 bytes. -/
def nameFits (name : String) : Bool := name.utf8ByteSize ≤ 255

/-- What stands under a name in a folder. -/
def child (fs : FileSystem) (folder : Location) (name : String) : Except FileFault Entry :=
  if !nameFits name then .error .nameTooLong
  else match fs.entry? (name :: folder) with
    | none => .error .missing
    | some e => .ok e

/-- Walks from folder to folder. `.` stays, and `..` goes up, where the root is its own parent. -/
def descend (fs : FileSystem) : Location → List String → Except FileFault Location
  | l, [] => .ok l
  | l, name :: names =>
    if name = "." then descend fs l names
    else if name = ".." then descend fs l.tail names
    else match fs.child l name with
      | .error f => .error f
      | .ok .folder => descend fs (name :: l) names
      | .ok (.file _) => .error .notFolder

/-- Where a path leads: a name in a folder, or a folder that the path does not name. -/
inductive Target where
  | named (folder : Location) (name : String)
  | folder (location : Location)

/-- Finds the target of a path: all parts but the last are walked, the last is not looked at. -/
def target (fs : FileSystem) (path : String) : Except FileFault Target :=
  if path.toList.contains (Char.ofNat 0) then .error .nulInName
  else if path.isEmpty then .error .missing
  else if 4096 ≤ path.utf8ByteSize then .error .nameTooLong
  else
    let start := if Path.isAbsolute path then [] else fs.here
    let parts := Path.parts path
    match parts.getLast? with
    | none => .ok (.folder start)
    | some name =>
      match fs.descend start parts.dropLast with
      | .error f => .error f
      | .ok l =>
        if name = "." then .ok (.folder l)
        else if name = ".." then .ok (.folder l.tail)
        else .ok (.named l name)

def read (fs : FileSystem) (path : String) : Except FileFault ByteArray :=
  match fs.target path with
  | .error f => .error f
  | .ok (.folder _) => .error .isFolder
  | .ok (.named l name) =>
    match fs.child l name with
    | .error f => .error f
    | .ok .folder => .error .isFolder
    | .ok (.file bytes) => if Path.endsInSlash path then .error .notFolder else .ok bytes

/-- The location that writing to a path fills. -/
def writable (fs : FileSystem) (path : String) : Except FileFault Location :=
  match fs.target path with
  | .error f => .error f
  | .ok (.folder _) => .error .isFolder
  | .ok (.named l name) =>
    if Path.endsInSlash path then .error .isFolder
    else match fs.child l name with
      | .ok .folder => .error .isFolder
      | .ok (.file _) => .ok (name :: l)
      | .error .missing => if fs.isLocked l then .error .denied else .ok (name :: l)
      | .error f => .error f

/-- Writes a whole file, new or over an old one. -/
def write (fs : FileSystem) (path : String) (bytes : ByteArray) : Except FileFault FileSystem :=
  match fs.writable path with
  | .error f => .error f
  | .ok l => .ok (fs.put l (.file bytes))

/-- The location that removing the file at a path frees. What is wrong with the path comes before the lock
of the folder, and the lock before what kind of entry it is. -/
def removable (fs : FileSystem) (path : String) : Except FileFault Location :=
  match fs.target path with
  | .error f => .error f
  | .ok (.folder _) => .error .isFolder
  | .ok (.named l name) =>
    match fs.child l name with
    | .error f => .error f
    | .ok .folder =>
      if Path.endsInSlash path then .error .isFolder
      else if fs.isLocked l then .error .denied
      else .error .isFolder
    | .ok (.file _) =>
      if Path.endsInSlash path then .error .notFolder
      else if fs.isLocked l then .error .denied
      else .ok (name :: l)

def remove (fs : FileSystem) (path : String) : Except FileFault FileSystem :=
  match fs.removable path with
  | .error f => .error f
  | .ok l => .ok (fs.erase l)

/-- The location of whatever exists at a path, with what it is. -/
def find (fs : FileSystem) (path : String) : Except FileFault (Location × Entry) :=
  match fs.target path with
  | .error f => .error f
  | .ok (.folder l) => .ok (l, .folder)
  | .ok (.named l name) =>
    match fs.child l name with
    | .error f => .error f
    | .ok .folder => .ok (name :: l, .folder)
    | .ok (.file bytes) =>
      if Path.endsInSlash path then .error .notFolder else .ok (name :: l, .file bytes)

def findFolder (fs : FileSystem) (path : String) : Except FileFault Location :=
  match fs.find path with
  | .error f => .error f
  | .ok (l, .folder) => .ok l
  | .ok (_, .file _) => .error .notFolder

def makeFolder (fs : FileSystem) (path : String) : Except FileFault FileSystem :=
  match fs.target path with
  | .error f => .error f
  | .ok (.folder _) => .error .present
  | .ok (.named l name) =>
    match fs.child l name with
    | .ok _ => .error .present
    | .error .missing => if fs.isLocked l then .error .denied else .ok (fs.put (name :: l) .folder)
    | .error f => .error f

/-- Makes every folder on a way that is not there yet. -/
def makeWay (fs : FileSystem) : Location → List String → Except FileFault FileSystem
  | _, [] => .ok fs
  | l, name :: names =>
    if name = "." then makeWay fs l names
    else if name = ".." then makeWay fs l.tail names
    else match fs.child l name with
      | .ok .folder => makeWay fs (name :: l) names
      | .ok (.file _) => .error (if names.isEmpty then .present else .notFolder)
      | .error .missing =>
        if fs.isLocked l then .error .denied
        else makeWay (fs.put (name :: l) .folder) (name :: l) names
      | .error f => .error f

/-- Makes a folder and all folders above it that are not there yet. -/
def makeFolders (fs : FileSystem) (path : String) : Except FileFault FileSystem :=
  if path.isEmpty then .error .missing
  else fs.makeWay (if Path.isAbsolute path then [] else fs.here) (Path.parts path)

/-- The entries inside a folder, at any depth, with the location of the folder cut off. -/
def below (fs : FileSystem) (folder : Location) : List (Location × Entry) :=
  fs.entries.filterMap fun (l, e) =>
    let own := l.length - folder.length
    if 0 < own && l.drop own = folder then some (l.take own, e) else none

def names (fs : FileSystem) (folder : Location) : List String :=
  (fs.below folder).filterMap fun
    | ([name], _) => some name
    | _ => none

/-- Whether a location is another one or lies inside it. -/
def isWithin (l m : Location) : Bool := l.length ≤ m.length && m.drop (m.length - l.length) = l

/-- The file system without an entry and without everything inside it. -/
def eraseAll (fs : FileSystem) (l : Location) : FileSystem :=
  { fs with
    entries := fs.entries.filter fun (m, _) => !isWithin l m
    locked := fs.locked.filter fun m => !isWithin l m }

/-- Whether an entry can be removed with everything inside it: no folder that would lose an entry is
locked. -/
def canEraseAll (fs : FileSystem) (l : Location) : Bool :=
  !fs.isLocked l.tail && fs.locked.all fun m => !isWithin l m || (fs.below m).isEmpty

/-- Removes a file, or a folder with all it holds. -/
def removeAll (fs : FileSystem) (path : String) : Except FileFault FileSystem :=
  match fs.find path with
  | .error f => .error f
  | .ok (l, _) => if fs.canEraseAll l then .ok (fs.eraseAll l) else .error .denied

end FileSystem

end HostScript
