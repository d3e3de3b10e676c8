import HostScript.Config
import HostScript.Host
import HostScript.Launcher.Gate
import HostScript.Launcher.Program
import HostScript.Text.Blank
import HostScript.Text.Utf8

/-!
# Launchers

A host for which every script is executed by a program of its own: the program gets the name of the
script as its last argument, and has executed the script when it ends with status zero. What it writes to
its error stream explains a failure. How programs are started is up to the launcher.
-/
namespace HostScript

/-- A host that starts a program for every script. -/
structure Launcher where
  start : Starter
  program : String
  arguments : List String
  workingFolder : Option String
  connected : Bool
  drawingActive : Bool
  environment : Environment

def HostConfig.launcher (c : HostConfig) (start : Starter) (environment : Environment) :
    Except Fault Launcher :=
  match c.program with
  | none => .error .programUnset
  | some program =>
    .ok ⟨start, program, c.arguments, c.workingFolder, c.connected, c.drawingActive, environment⟩

namespace Launcher

/-- The program with its arguments for one script. -/
def call (l : Launcher) (path : String) : Program :=
  ⟨l.program, l.arguments ++ [path], l.workingFolder, l.environment⟩

/-- What the end of a program says about the script, with what is reported. -/
def verdict (done : Completed) : Except Fault Unit × List Notice :=
  if done.ending = .exited 0 then (.ok (), [])
  else
    let output := Text.trim (Text.decodeLossy done.errors)
    (.error (.host (.ended done.ending.text output)), [.launcherFailed output])

/-- What becomes of a script whose submission was let in, once its program has ended or could not be
started. The gate is left in either case. -/
def settle (l : Launcher) (client : Nat) (path : String) (entered : Gate) (files : FileSystem) :
    Except FileFault Completed → Submission Gate
  | .error f =>
    ⟨entered.leave client, files, [.launching l.program path, .notLaunched f],
      .error (.host (.notStarted l.program f))⟩
  | .ok done =>
    let (result, notices) := verdict done
    ⟨(entered.start client).leave client, done.files, .launching l.program path :: notices, result⟩

def submit (l : Launcher) (client : Nat) (path : String) (g : Gate) (files : FileSystem) :
    Submission Gate :=
  match g.enter client path with
  | .error cause => ⟨g, files, [], .error (.host cause)⟩
  | .ok entered => l.settle client path entered files (l.start (l.call path) files)

/-- What two scripts came to that were handed over together. -/
structure Joint where
  results : List (Except Fault Unit)
  host : Gate
  files : FileSystem
  notices : List Notice

/-- Hands two scripts over together, the first of them first. The second one comes to the gate while the
launcher of the first is at work; if there is none, it comes when the first is over. -/
def submitTogether (l : Launcher) (first second : String) (g : Gate) (files : FileSystem) : Joint :=
  let one := l.submit 0 first g files
  match g.enter 0 first, l.start (l.call first) files with
  | .ok entered, .ok _ =>
    let two := l.submit 1 second (entered.start 0) one.files
    ⟨[one.result, two.result], two.host.leave 0, two.files,
      one.notices.take 1 ++ two.notices ++ one.notices.drop 1⟩
  | _, _ =>
    let two := l.submit 1 second one.host one.files
    ⟨[one.result, two.result], two.host, two.files, one.notices ++ two.notices⟩

/-- The launcher as the host of runs, which are its only client. -/
def host (l : Launcher) : Host Gate where
  isConnected _ := l.connected
  isDrawingActive _ := l.drawingActive
  probe g := (g.occupied, g)
  submit path g files := l.submit 0 path g files

end Launcher

end HostScript
