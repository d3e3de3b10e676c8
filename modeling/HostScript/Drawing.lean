import HostScript.Fault
import HostScript.Text.LowerCase

/-!
# Kinds of drawings

The kinds of drawings that share one layout of their properties dialog, with the spellings that are
understood for each. Case does not matter, and an underscore counts as a hyphen.
-/
namespace HostScript

inductive Drawing where
  | singlePart
  | assembly
  | castUnit
  | generalArrangement
  deriving DecidableEq, Repr

namespace Drawing

def all : List Drawing := [.singlePart, .assembly, .castUnit, .generalArrangement]

/-- The constructive name of a kind. -/
def identifier : Drawing → String
  | .singlePart => "SinglePart"
  | .assembly => "Assembly"
  | .castUnit => "CastUnit"
  | .generalArrangement => "GeneralArrangement"

/-- The full spelling of a kind. -/
def text : Drawing → String
  | .singlePart => "single-part"
  | .assembly => "assembly"
  | .castUnit => "cast-unit"
  | .generalArrangement => "general-arrangement"

/-- The spellings that are understood, in lower case and with hyphens. -/
def spellings : Drawing → List String
  | .singlePart => ["single-part", "single", "w"]
  | .assembly => ["assembly", "a"]
  | .castUnit => ["cast-unit", "cu"]
  | .generalArrangement => ["general-arrangement", "ga", "g"]

/-- What the names of dialogs and fields for a kind start with. -/
def dialogStem : Drawing → String
  | .singlePart => "wdraw"
  | .assembly => "adraw"
  | .castUnit => "cudraw"
  | .generalArrangement => "gdraw"

/-- A text in lower case and with hyphens for underscores. -/
def plainSpelling (s : String) : String :=
  String.ofList ((Text.lowerCase s).toList.map fun c => if c = '_' then '-' else c)

/-- The kind that a text names. -/
def ofText (s : String) : Except Fault Drawing :=
  let spelling := plainSpelling s
  match all.find? (fun k => k.spellings.contains spelling) with
  | some k => .ok k
  | none => .error (.unknownDrawing spelling)

end Drawing

end HostScript
