import HostScript.Environment
import HostScript.FileSystem
import HostScript.Text.Decimal

/-!
# Programs of others

A program is started with arguments, in a folder and with variables, and comes back with how it ended, what
it wrote to its error stream and the files that it left. What it does in between is not known here: whoever
starts programs brings the knowledge of how that is done.
-/
namespace HostScript

structure Program where
  name : String
  arguments : List String
  /-- Another folder to start in. -/
  folder : Option String
  environment : Environment

inductive Ending where
  | exited (status : Nat)
  | killed (signal : Nat)
  deriving DecidableEq

def signalNames : List (Nat × String) :=
  [(1, "HUP"), (2, "INT"), (3, "QUIT"), (4, "ILL"), (5, "TRAP"), (6, "ABRT"), (7, "BUS"), (8, "FPE"),
    (9, "KILL"), (10, "USR1"), (11, "SEGV"), (12, "USR2"), (13, "PIPE"), (14, "ALRM"), (15, "TERM")]

def Ending.text : Ending → String
  | .exited status => "exit status: " ++ Text.natural status
  | .killed signal =>
    "signal: " ++ Text.natural signal ++
      match signalNames.lookup signal with
      | some name => " (SIG" ++ name ++ ")"
      | none => ""

/-- The status by which a shell knows an ending. -/
def Ending.status : Ending → Nat
  | .exited status => status
  | .killed signal => 128 + signal

structure Completed where
  files : FileSystem
  ending : Ending
  errors : ByteArray

/-- A way to start programs: on the files that it finds a program cannot be started, or it runs to its
end. -/
abbrev Starter := Program → FileSystem → Except FileFault Completed

end HostScript
