import HostScript.Shell.Execution

/-!
# Programs in a shell

One way to start programs: shells and the usual utilities are executed by the interpreter. A program can
read nothing.
-/
namespace HostScript.Program

open Shell (Machine)

/-- The fuel of a program: more than a script that ends can use. -/
def fuel : Nat := 100000

/-- Whether a text that goes to the program holds a character that ends texts there. -/
def holdsNul (p : Program) : Bool :=
  (p.name :: p.folder.toList ++ p.arguments).any fun s => s.toList.contains (Char.ofNat 0)

/-- The files as the program sees them, from its own folder. -/
def entered (p : Program) (files : FileSystem) : Except FileFault FileSystem :=
  match p.folder with
  | none => .ok files
  | some path => (files.findFolder path).map fun l => { files with here := l }

/-- Runs a program that was found to its end. -/
def run (p : Program) (base : String) (files : FileSystem) : Completed :=
  let begun := Machine.start files p.name p.environment.bindings
  if Machine.shells.contains base then
    let m := Machine.executeShell (Machine.interpret fuel) p.name p.arguments begun
    ⟨m.files, m.result, m.errors⟩
  else
    let m := Machine.executeProgram (Machine.interpret fuel) "" p.name p.arguments begun
    ⟨m.files, .exited m.status, m.errors⟩

/-- Starts a program, unless there is none to be started. The folder in which paths start is that of the
caller again afterwards. -/
def start : Starter := fun p files =>
  if p.holdsNul then .error .nulInArgument
  else match p.entered files with
    | .error f => .error f
    | .ok inside =>
      match Machine.locate inside p.name with
      | .error f => .error f
      | .ok base =>
        let done := p.run base inside
        .ok { done with files := { done.files with here := files.here } }

end HostScript.Program
