import HostScript.Fault
import HostScript.Text.Quoted

/-!
# The journal

What a run reports while it goes on. A notice holds the facts; its line is made from them in one place.
-/
namespace HostScript

/-- What became of a script that was handed over. -/
inductive Status where
  | executed
  | skipped
  deriving DecidableEq, Repr

def Status.text : Status → String
  | .executed => "Executed"
  | .skipped => "SkippedNotConnected"

inductive Severity where
  | info
  | warning
  | error
  deriving DecidableEq, Repr

def Severity.text : Severity → String
  | .info => "INFO"
  | .warning => "WARN"
  | .error => "ERROR"

inductive Notice where
  /-- A script of so many bytes is about to be written. -/
  | writing (path : String) (bytes : Nat)
  /-- Clean-up could not remove a file. -/
  | notRemoved (path : String) (fault : Fault)
  /-- A file of an artifact that was let go could not be removed. -/
  | leftBehind (path : String) (cause : FileFault)
  /-- A script is handed to the host under a name. -/
  | submitting (name : String)
  /-- A run ended well. -/
  | runFinished (fileName : String) (status : Status)
  /-- A run failed, and so did its clean-up. -/
  | cleanupFailedToo (fault : Fault)
  /-- A task ended well. -/
  | taskFinished (label fileName : String) (status : Status)
  /-- A task failed. -/
  | taskFailed (label : String) (fault : Fault)
  /-- A variable of the environment holds no number. -/
  | variableIgnored (key value : String) (fault : Text.NumeralFault)
  /-- A launcher program is started for a script. -/
  | launching (program path : String)
  /-- A launcher program could not be started. -/
  | notLaunched (cause : FileFault)
  /-- A launcher program ended badly. -/
  | launcherFailed (output : String)
  deriving DecidableEq, Repr

namespace Notice

def severity : Notice → Severity
  | .writing _ _ => .info
  | .notRemoved _ _ => .warning
  | .leftBehind _ _ => .warning
  | .submitting _ => .info
  | .runFinished _ _ => .info
  | .cleanupFailedToo _ => .warning
  | .taskFinished _ _ _ => .info
  | .taskFailed _ _ => .error
  | .variableIgnored _ _ _ => .warning
  | .launching _ _ => .info
  | .notLaunched _ => .error
  | .launcherFailed _ => .error

/-- The wording of a notice, with its facts behind it where they are not part of the sentence. -/
def wording : Notice → String
  | .writing path bytes =>
    "Writing macro script to " ++ path ++ " (" ++ Text.natural bytes ++ " bytes)"
  | .notRemoved path fault => "Failed to remove " ++ path ++ ": " ++ fault.message
  | .leftBehind path cause => "Failed to remove " ++ path ++ ": " ++ cause.message
  | .submitting name => "Submitting macro " ++ name
  | .runFinished fileName status =>
    "Macro run finished file_name=" ++ fileName ++ " status=" ++ status.text
  | .cleanupFailedToo fault => "Cleanup after failed run also failed: " ++ fault.message
  | .taskFinished label fileName status =>
    "Task finished task=" ++ label ++ " file_name=" ++ fileName ++ " status=" ++ status.text
  | .taskFailed label fault => "Task failed: " ++ fault.message ++ " task=" ++ label
  | .variableIgnored key value fault =>
    "Ignoring " ++ key ++ "=" ++ Text.quoted value ++ ": " ++ fault.message
  | .launching program path => "Launching " ++ program ++ " for macro " ++ path
  | .notLaunched cause => "Failed to spawn macro launcher: " ++ cause.message
  | .launcherFailed output => "Macro launcher failed: " ++ output

def line (n : Notice) : String := n.severity.text ++ " " ++ n.wording

end Notice

end HostScript
