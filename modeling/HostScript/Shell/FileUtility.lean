import HostScript.Shell.Call
import HostScript.Text.Decimal

/-!
# Utilities for files

Copying, moving, removing and making files and folders. A utility goes on with its next operand after a
failure, and reports the failure with its exit status.
-/
namespace HostScript.Shell

/-- Applies an action to every operand. A failure is put into words and makes the status one. -/
def forOperands (call : Call) (operands : List String)
    (act : FileSystem → String → Except String FileSystem) : Reply :=
  operands.foldl (fun r operand =>
    match act r.files operand with
    | .ok files => { r with files }
    | .error message => r.complain call.name message 1) (.silent call.files 0)

/-- Removes files, and folders with the option for it. -/
def rm : Utility := fun call =>
  let (letters, operands) := options call.arguments
  let force := letters.contains 'f'
  let deep := letters.contains 'r' || letters.contains 'R'
  let quiet := letters.contains 'd'
  if operands.isEmpty && !force then (Reply.silent call.files 1).misuse call.name "missing operand"
  else forOperands call operands fun files path =>
    let failure (f : FileFault) := "cannot remove " ++ shellQuoted path ++ ": " ++ f.text
    match files.find path with
    | .error f => if force && (f = .missing || f = .notFolder) then .ok files else .error (failure f)
    | .ok (l, .folder) =>
      if !deep && !(quiet && (files.below l).isEmpty) then .error (failure .isFolder)
      else if files.canEraseAll l then .ok (files.eraseAll l)
      else .error (failure .denied)
    | .ok (l, .file _) =>
      if files.canEraseAll l then .ok (files.erase l) else .error (failure .denied)

/-- The front parts of a path, from the first to the whole. -/
def fronts (path : String) : List String :=
  let cs := path.toList
  (((List.range cs.length).filter fun i => cs[i]? = some '/' && 0 < i).map fun i =>
    String.ofList (cs.take i)) ++ [path]

/-- Makes folders, with the option for it also those above. -/
def mkdir : Utility := fun call =>
  let (letters, operands) := options call.arguments
  if operands.isEmpty then (Reply.silent call.files 1).misuse call.name "missing operand"
  else forOperands call operands fun files path =>
    let made := if letters.contains 'p' then files.makeFolders path else files.makeFolder path
    match made with
    | .ok files => .ok files
    | .error f =>
      let isBlocked (front : String) : Bool := match files.find front with
        | .ok (_, .file _) => true
        | _ => false
      let culprit := if letters.contains 'p' then ((fronts path).find? isBlocked).getD path else path
      .error ("cannot create directory " ++ curvedQuoted culprit ++ ": " ++ f.text)

def rmdir : Utility := fun call =>
  let (_, operands) := options call.arguments
  if operands.isEmpty then (Reply.silent call.files 1).misuse call.name "missing operand"
  else forOperands call operands fun files path =>
    let failure (f : FileFault) := "failed to remove " ++ shellQuoted path ++ ": " ++ f.text
    match files.find path with
    | .error f => .error (failure f)
    | .ok (_, .file _) => .error (failure .notFolder)
    | .ok (l, .folder) =>
      if !(files.below l).isEmpty then .error (failure .notEmpty)
      else if files.canEraseAll l then .ok (files.eraseAll l)
      else .error (failure .denied)

/-- Makes files that are not there yet. -/
def touch : Utility := fun call =>
  let (letters, operands) := options call.arguments
  if operands.isEmpty then (Reply.silent call.files 1).misuse call.name "missing file operand"
  else forOperands call operands fun files path =>
    match files.find path with
    | .ok _ => .ok files
    | .error .missing =>
      if letters.contains 'c' then .ok files
      else match files.write path .empty with
        | .ok files => .ok files
        | .error f =>
          let f := if f = .isFolder then .missing else f
          .error ("cannot touch " ++ shellQuoted path ++ ": " ++ f.text)
    | .error f => .error ("cannot touch " ++ shellQuoted path ++ ": " ++ f.text)

/-- The path that copying or moving to a target leads to: inside it if it is a folder. -/
def destination (files : FileSystem) (source target : String) : String :=
  match files.find target with
  | .ok (_, .folder) => Path.join target ((Path.name? source).getD source)
  | _ => target

def isFile : Except FileFault (Location × Entry) → Bool
  | .ok (_, .file _) => true
  | _ => false

/-- Whether what was found is a location or lies inside it. -/
def isInside (l : Location) : Except FileFault (Location × Entry) → Bool
  | .ok (m, _) => FileSystem.isWithin l m
  | .error _ => false

/-- Copies one file, or with the option for it a folder with all it holds. -/
def copyOne (deep : Bool) (target : String) (files : FileSystem) (source : String) :
    Except String FileSystem :=
  match files.find source with
  | .error f => .error ("cannot stat " ++ shellQuoted source ++ ": " ++ f.text)
  | .ok (l, entry) =>
    let path := destination files source target
    let same : Bool := match files.find path with
      | .ok (m, _) => decide (l = m)
      | .error _ => false
    match entry with
    | .folder =>
      if !deep then .error ("-r not specified; omitting directory " ++ shellQuoted source)
      else if same || isInside l (files.find target) then
        .error ("cannot copy a directory, " ++ shellQuoted source ++ ", into itself, " ++
          shellQuoted path)
      else if isFile (files.find path) then
        .error ("cannot overwrite non-directory " ++ shellQuoted path ++ " with directory " ++
          shellQuoted source)
      else match files.makeFolders path with
        | .error f => .error ("cannot create directory " ++ shellQuoted path ++ ": " ++ f.text)
        | .ok made =>
          match made.find path with
          | .error f => .error ("cannot stat " ++ shellQuoted path ++ ": " ++ f.text)
          | .ok (m, _) =>
            if made.isLocked m && !(files.below l).isEmpty then
              .error ("cannot create directory " ++ curvedQuoted path ++ ": " ++ FileFault.denied.text)
            else .ok ((files.below l).foldl (fun files (n, e) => files.put (n ++ m) e) made)
    | .file bytes =>
      if same then
        .error (shellQuoted source ++ " and " ++ shellQuoted path ++ " are the same file")
      else match files.write path bytes with
        | .ok files => .ok files
        | .error f =>
          let f := if f = .isFolder && Path.endsInSlash path then .notFolder else f
          .error ("cannot create regular file " ++ shellQuoted path ++ ": " ++ f.text)

/-- Moves one file, or a folder with all it holds. -/
def moveOne (target : String) (files : FileSystem) (source : String) : Except String FileSystem :=
  match files.find source with
  | .error f => .error ("cannot stat " ++ shellQuoted source ++ ": " ++ f.text)
  | .ok (l, entry) =>
    let path := destination files source target
    let same : Bool := match files.find path with
      | .ok (m, _) => decide (l = m)
      | .error _ => false
    if entry = .folder && (same || isInside l (files.find target)) then
      .error ("cannot move " ++ shellQuoted source ++ " to a subdirectory of itself, " ++
        shellQuoted path)
    else if same then
      .error (shellQuoted source ++ " and " ++ shellQuoted path ++ " are the same file")
    else if entry = .folder && isFile (files.find path) then
      .error ("cannot overwrite non-directory " ++ shellQuoted path ++ " with directory " ++
        shellQuoted source)
    else if entry ≠ .folder && Path.endsInSlash path then
      .error ("cannot move " ++ shellQuoted source ++ " to " ++ shellQuoted path ++ ": " ++
        FileFault.notFolder.text)
    else
      let refused (f : FileFault) :=
        "cannot move " ++ shellQuoted source ++ " to " ++ shellQuoted path ++ ": " ++ f.text
      match files.target path with
      | .error f => .error (refused f)
      | .ok (.folder _) => .error (refused .present)
      | .ok (.named folder name) =>
        if files.isLocked folder || !files.canEraseAll l then .error (refused .denied)
        else
          let moved := (files.below l).map fun (n, e) => (n ++ name :: folder, e)
          let cleared := files.eraseAll l
          .ok (moved.foldl (fun files (n, e) => files.put n e) (cleared.put (name :: folder) entry))

/-- Copies or moves the operands to the last of them. -/
def transfer (call : Call) (operands : List String)
    (one : String → FileSystem → String → Except String FileSystem) : Reply :=
  let silent := Reply.silent call.files 1
  match operands.getLast? with
  | none => silent.misuse call.name "missing file operand"
  | some target =>
    match operands.dropLast with
    | [] =>
      silent.misuse call.name ("missing destination file operand after " ++ shellQuoted target)
    | [source] =>
      match call.files.find source, call.files.find target with
      | .ok _, .error f =>
        if f = .missing then forOperands call [source] (one target)
        else silent.complain call.name ("cannot stat " ++ shellQuoted target ++ ": " ++ f.text) 1
      | _, _ => forOperands call [source] (one target)
    | sources =>
      match call.files.find target with
      | .ok (_, .folder) => forOperands call sources (one target)
      | .ok _ =>
        silent.complain call.name ("target " ++ shellQuoted target ++ ": " ++ FileFault.notFolder.text) 1
      | .error f => silent.complain call.name ("target " ++ shellQuoted target ++ ": " ++ f.text) 1

def cp : Utility := fun call =>
  let (letters, operands) := options call.arguments
  let deep := letters.any fun c => c = 'r' || c = 'R' || c = 'a'
  transfer call operands (copyOne deep)

def mv : Utility := fun call =>
  let (_, operands) := options call.arguments
  transfer call operands moveOne

/-- Lists names in order, one on a line. -/
def ls : Utility := fun call =>
  let (letters, operands) := options call.arguments
  let shown (name : String) := letters.contains 'a' || name.toList.head? ≠ some '.'
  let listing (files : FileSystem) (l : Location) : String :=
    let names := (files.names l ++ [".", ".."]).filter shown
    let names := names.mergeSort fun a b => a ≤ b
    String.join ((names.map fun name => name ++ "\n"))
  let operands := if operands.isEmpty then ["."] else operands
  operands.foldl (fun r operand =>
    match call.files.find operand with
    | .error f => r.complain call.name ("cannot access " ++ shellQuoted operand ++ ": " ++ f.text) 2
    | .ok (_, .file _) => r.write (operand ++ "\n")
    | .ok (l, .folder) =>
      if operands.length = 1 || letters.contains 'd' then
        r.write (if letters.contains 'd' then operand ++ "\n" else listing call.files l)
      else r.write (operand ++ ":\n" ++ listing call.files l)) (.silent call.files 0)

end HostScript.Shell
