import HostScript.Shell.FileUtility
import HostScript.Shell.LineUtility
import HostScript.Shell.Redirection

/-!
# The programs that are known

Programs by their names: the utilities, the shell itself, and the program that starts another one with
further variables. Nothing else may be executed.
-/
namespace HostScript.Shell.Machine

/-- Puts a reply into effect. -/
def takeReply (m : Machine) (r : Reply) : Machine :=
  let m := { m with files := { r.files with here := m.files.here } }
  { (m.send m.out r.output).send m.err r.errors with status := r.status }

/-- The utilities that are programs of their own. -/
def programs : List (String × Utility) :=
  [("true", fun call => .silent call.files 0), ("false", fun call => .silent call.files 1),
    ("echo", echo), ("printf", printf IntegerFault.inProgram), ("test", testReply TestFault.inProgram),
    ("[", testReply TestFault.inProgram), ("cat", cat), ("cp", cp), ("mv", mv), ("rm", rm),
    ("mkdir", mkdir), ("rmdir", rmdir), ("touch", touch), ("ls", ls), ("head", head), ("tail", tail),
    ("wc", wc), ("tee", tee), ("sed", sed), ("grep", grep), ("basename", basename),
    ("dirname", dirname), ("sleep", sleep), ("tr", tr), ("cut", cut),
    ("pwd", fun call => (Reply.silent call.files 0).write
      ("/" ++ "/".intercalate call.files.here.reverse ++ "\n"))]

def shells : List String := ["sh", "dash"]

/-- Finds a program by its name. A name without a slash is looked up among those that are known; a path
leads to one only in their folders, and nothing else may be executed. -/
def locate (files : FileSystem) (name : String) : Except FileFault String :=
  let known (base : String) : Bool :=
    shells.contains base || base = "env" || (programs.lookup base).isSome
  if name.toList.contains '/' then
    match files.find name with
    | .ok _ => .error .denied
    | .error .missing =>
      let base := (Path.name? name).getD name
      if (name = "/bin/" ++ base || name = "/usr/bin/" ++ base) && known base then .ok base
      else .error .missing
    | .error f => .error f
  else if known name then .ok name
  else if name = "." || name = ".." then .error .denied
  else .error .missing

/-- The options in front of the arguments of a shell, as letters, with what follows them. -/
def shellOptions : List String → List Char × List String
  | [] => ([], [])
  | a :: rest =>
    if a = "--" then ([], rest)
    else match a.toList with
      | '-' :: c :: cs =>
        let (letters, operands) := shellOptions rest
        (c :: cs ++ letters, operands)
      | _ => ([], a :: rest)

/-- Executes a shell as a program of its own. Its script is an argument, a file or what it can read. -/
def executeShell (run : List Char → Machine → Machine) (name : String) (arguments : List String)
    (m : Machine) : Machine :=
  let (letters, operands) := shellOptions arguments
  let m := { start m.files name m.bindings with
    input := m.input, out := m.out, err := m.err, output := m.output, errors := m.errors
    strict := letters.contains 'e', careful := letters.contains 'u' }
  if letters.contains 'c' then
    match operands with
    | [] => m.complain "-c requires an argument" 2
    | script :: rest =>
      run script.toList { m with name := rest.head?.getD name, arguments := rest.drop 1 }
  else match operands with
    | [] => run (Text.decodeLossy m.input).toList m
    | file :: rest =>
      match m.files.read file with
      | .ok bytes => run (Text.decodeLossy bytes).toList { m with name := file, arguments := rest }
      | .error .isFolder => m
      | .error f => m.complain ("cannot open " ++ file ++ ": " ++ openFault false f) 2

/-- Executes a program that was found. -/
def executeFound (run : List Char → Machine → Machine) (base name : String) (arguments : List String)
    (m : Machine) : Machine :=
  if shells.contains base then
    let inner := executeShell run name arguments m
    { m with
      files := { inner.files with here := m.files.here }
      output := inner.output
      errors := inner.errors
      status := inner.result.status }
  else match programs.lookup base with
    | some u => m.takeReply (u ⟨name, arguments, m.input, m.files, m.bindings⟩)
    | none => m

/-- Takes the assignments in front of arguments as variables. -/
def takeBindings (bindings : List (String × String)) :
    List String → List (String × String) × List String
  | [] => (bindings, [])
  | a :: rest =>
    match a.toList.dropWhile (· ≠ '=') with
    | [] => (bindings, a :: rest)
    | _ :: value =>
      takeBindings ((String.ofList (a.toList.takeWhile (· ≠ '=')), String.ofList value) :: bindings) rest

/-- Whether a program that cannot be found leaves the status for one that is not there. -/
def isLost (f : FileFault) : Bool := f = .missing || f = .notFolder

/-- Executes a program with further variables, or writes all variables. -/
def executeInEnvironment (run : List Char → Machine → Machine) (name : String)
    (arguments : List String) (m : Machine) : Machine :=
  match takeBindings m.bindings arguments with
  | (bindings, []) =>
    let lines := bindings.map fun (name, value) => name ++ "=" ++ value ++ "\n"
    m.takeReply ((Reply.silent m.files 0).write (String.join lines))
  | (bindings, program :: rest) =>
    match locate m.files program with
    | .error f =>
      m.takeReply ((Reply.silent m.files 0).complain name
        (curvedQuoted program ++ ": " ++ f.text) (if isLost f then 127 else 126))
    | .ok base => { executeFound run base program rest { m with bindings } with bindings := m.bindings }

/-- Executes a program. A complaint about its name may have a mark in front. -/
def executeProgram (run : List Char → Machine → Machine) (mark name : String)
    (arguments : List String) (m : Machine) : Machine :=
  match locate m.files name with
  | .error f =>
    m.complain (mark ++ name ++ ": " ++ if isLost f then "not found" else f.text)
      (if isLost f then 127 else 126)
  | .ok base =>
    if base = "env" then executeInEnvironment run name arguments m
    else executeFound run base name arguments m

end HostScript.Shell.Machine
