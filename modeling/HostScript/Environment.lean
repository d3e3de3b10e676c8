/-!
# The environment

Variables with their values. A variable that is not listed is unset, and so is to every reader one whose
value is no Unicode text.
-/
namespace HostScript

structure Environment where
  bindings : List (String × String)

namespace Environment

def empty : Environment := ⟨[]⟩

def get? (env : Environment) (name : String) : Option String := env.bindings.lookup name

end Environment

end HostScript
