import HostScript.Shell.Catalogue

/-!
# Commands of the shell itself

Commands that change the shell: its variables, arguments, options and folder, jumps, signals and its end.
Any other name is that of a function of the script or of a program.
-/
namespace HostScript.Shell.Machine

/-- Prefixes what a utility inside the shell complains about. -/
def shellReply (m : Machine) (r : Reply) : Reply :=
  if r.errors.isEmpty then r
  else { r with errors := m.mark.toUTF8 ++ r.errors }

/-- The utilities that the shell has built in, where they differ from the programs. -/
def builtins : List (String × Utility) :=
  [("test", testReply TestFault.inShell), ("[", testReply TestFault.inShell),
    ("printf", printf IntegerFault.inShell)]

/-- The number of a signal given by number or name. -/
def signalNumber? (s : String) : Option Nat :=
  match s.toNat? with
  | some n => some n
  | none =>
    let name := if s.startsWith "SIG" then (s.drop 3).toString else s
    (signalNames.find? (·.2 = name)).map (·.1)

/-- Sends a signal. One to the shell itself ends it; there are no other processes. -/
def kill (m : Machine) (arguments : List String) : Machine :=
  let (signal, targets) := match arguments with
    | "-s" :: s :: rest => (s, rest)
    | a :: rest => if a.startsWith "-" then ((a.drop 1).toString, rest) else ("TERM", a :: rest)
    | [] => ("TERM", [])
  match signalNumber? signal, targets with
  | some 0, _ => { m with status := 0 }
  | some n, "2" :: _ => m.finish (.killed n)
  | some _, _ :: _ => m.complain "kill: No such process" 1
  | _, _ => m.complain "kill: Usage: kill [-s sigspec | -signum | -sigspec] [pid | job]..." 2

/-- A number that a command of the shell takes, or a complaint. -/
def numberArgument (m : Machine) (command : String) (usual : Nat) :
    List String → Except Machine Nat
  | [] => .ok usual
  | a :: _ =>
    match a.toNat? with
    | some n => if a.toList.all Char.isDigit then .ok n else .error (illegal a)
    | none => .error (illegal a)
where
  /-- The complaint about a text that is no number. -/
  illegal (a : String) : Machine := m.complain (command ++ ": Illegal number: " ++ a) 2

/-- Assigns what arguments of the form `name=value` say. -/
def assignAll (m : Machine) (arguments : List String) : Machine :=
  arguments.foldl (fun m a =>
    match a.toList.dropWhile (· ≠ '=') with
    | _ :: value =>
      m.assign (String.ofList (a.toList.takeWhile (· ≠ '='))) (String.ofList value)
    | [] => m) { m with status := 0 }

def changeFolder (m : Machine) (path : String) : Machine :=
  match m.files.find path with
  | .ok (l, .folder) => { m with files := { m.files with here := l }, status := 0 }
  | _ => m.complain ("cd: can't cd to " ++ path) 2

/-- Applies the arguments of `set`: options of the shell and new arguments. -/
def change (m : Machine) : List String → Machine
  | [] => { m with status := 0 }
  | a :: rest =>
    if a = "--" then { m with arguments := rest, status := 0 }
    else match a.toList with
      | '-' :: letters =>
        { m with
          strict := m.strict || letters.contains 'e'
          careful := m.careful || letters.contains 'u' }.change rest
      | '+' :: letters =>
        { m with
          strict := m.strict && !letters.contains 'e'
          careful := m.careful && !letters.contains 'u' }.change rest
      | _ => { m with arguments := a :: rest, status := 0 }

/-- Gives the words of a line to variables, the last of which gets all that is left. -/
def assignWords (m : Machine) (cs : List Char) : List String → Machine
  | [] => m
  | [name] => m.assign name (String.ofList cs)
  | name :: names =>
    let isGap (c : Char) : Bool := c = ' ' || c = '\t'
    (m.assign name (String.ofList (cs.takeWhile fun c => !isGap c))).assignWords
      ((cs.dropWhile fun c => !isGap c).dropWhile isGap) names

/-- Takes a line of what can be read into variables. It fails on a line that does not end. -/
def takeLine (m : Machine) (names : List String) : Machine :=
  let bytes := m.input.toList
  let line := bytes.takeWhile (· ≠ 10)
  let text := Text.trim (Text.decodeLossy ⟨line.toArray⟩)
  { m.assignWords text.toList (names.filter (· ≠ "-r")) with
    input := ⟨(bytes.drop (line.length + 1)).toArray⟩
    status := if line.length < bytes.length then 0 else 1 }

/-- Begins a jump over so many loops. Outside of loops there is none. -/
def jumpOver (m : Machine) (jump : Nat → Jump) (command : String) (arguments : List String) : Machine :=
  match m.numberArgument command 1 arguments with
  | .error m => m.finish (.exited 2)
  | .ok n =>
    if m.loops = 0 then { m with status := 0 }
    else { m with jump := some (jump (min n m.loops)), status := 0 }

/-- Executes a function of the script with its own arguments. -/
def callFunction (call : Statement → Machine → Machine) (body : Statement) (arguments : List String)
    (m : Machine) : Machine :=
  let done := call body { m with arguments, loops := 0 }
  { done with
    arguments := m.arguments
    loops := m.loops
    jump := none }

/-- Executes a command by its name and arguments. -/
def invoke (run : List Char → Machine → Machine) (call : Statement → Machine → Machine) (m : Machine)
    (name : String) (arguments : List String) : Machine :=
  match name with
  | ":" => { m with status := 0 }
  | "exit" =>
    match m.numberArgument "exit" m.status arguments with
    | .ok n => { m with status := n % 256 }.finish (.exited (n % 256))
    | .error m => m.finish (.exited 2)
  | "return" =>
    match m.numberArgument "return" m.status arguments with
    | .ok n => { m with status := n % 256, jump := some .back }
    | .error m => m.finish (.exited 2)
  | "break" => m.jumpOver .leave "break" arguments
  | "continue" => m.jumpOver .again "continue" arguments
  | "cd" => m.changeFolder (arguments.head?.getD "/")
  | "export" => m.assignAll arguments
  | "readonly" => m.assignAll arguments
  | "local" => m.assignAll arguments
  | "unset" =>
    { m with bindings := m.bindings.filter fun v => !arguments.contains v.1, status := 0 }
  | "set" => m.change arguments
  | "shift" =>
    match m.numberArgument "shift" 1 arguments with
    | .ok n =>
      if n ≤ m.arguments.length then { m with arguments := m.arguments.drop n, status := 0 }
      else m.refuse "shift: can't shift that many"
    | .error m => m.finish (.exited 2)
  | "read" => m.takeLine arguments
  | "umask" => { m with status := 0 }
  | "trap" => { m with status := 0 }
  | "wait" => { m with status := 0 }
  | "kill" => m.kill arguments
  | "eval" => run (" ".intercalate arguments).toList m
  | _ =>
    match m.functions.lookup name, builtins.lookup name with
    | some body, _ => m.callFunction call body arguments
    | none, some u =>
      m.takeReply (m.shellReply (u ⟨name, arguments, m.input, m.files, m.bindings⟩))
    | none, none => m.executeProgram run "" name arguments

end HostScript.Shell.Machine
