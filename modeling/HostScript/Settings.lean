import HostScript.Environment
import HostScript.Text.Blank

/-!
# Options of the host

An option is looked up by its key, either in a table or in the environment. In the environment the key
with a stem in front is asked for first, and the bare key only if that is unset; a value that is blank
counts as no value.
-/
namespace HostScript

/-- The option that names the folder of the host's scripts. -/
def folderOption : String := "XS_MACRO_DIRECTORY"

inductive Settings where
  /-- A table, with the newest entry first. -/
  | table (options : List (String × String))
  /-- The environment, with a stem for its keys. -/
  | environment (stem : String)

namespace Settings

def none : Settings := .table []

/-- The environment with the usual stem. -/
def usual : Settings := .environment "MACROKIT_"

/-- Adds an option to a table. The newest value of a key counts. -/
def withOption (key value : String) : Settings → Settings
  | .table options => .table ((key, value) :: options)
  | s => s

def option? (env : Environment) (key : String) : Settings → Option String
  | .table options => options.lookup key
  | .environment stem =>
    ((env.get? (stem ++ key)).or (env.get? key)).filter fun value => !Text.isBlankText value

end Settings

end HostScript
