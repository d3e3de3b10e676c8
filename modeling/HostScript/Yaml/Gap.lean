import HostScript.Yaml.Cursor

/-!
# White space inside scalars

Between two words of a scalar stands white space, or line breaks with white space around them. White
space on one line is kept. Of several breaks the first is dropped, and a single one becomes a space; a
first break that is a separator is kept like the others. Texts stand latest character first.
-/
namespace HostScript.Yaml

inductive Gap where
  | nothing
  | white (chars : List Char)
  | breaks (first others : List Char)

namespace Gap

def isNothing : Gap → Bool
  | .nothing => true
  | _ => false

def hasBreak : Gap → Bool
  | .breaks _ _ => true
  | _ => false

/-- One more space or tab. -/
def addWhite (c : Char) : Gap → Gap
  | .nothing => .white [c]
  | .white chars => .white (c :: chars)
  | .breaks first others => .breaks first others

/-- One more break. -/
def addBreak (c : Char) : Gap → Gap
  | .breaks first others => .breaks first (c :: others)
  | _ => .breaks [c] []

/-- What a gap means, behind the text before it. -/
def join (text : List Char) : Gap → List Char
  | .nothing => text
  | .white chars => chars ++ text
  | .breaks ['\n'] [] => ' ' :: text
  | .breaks ['\n'] others => others ++ text
  | .breaks first others => others ++ first ++ text

end Gap

/-- A scalar that was read, with the place behind it. -/
structure ScalarRead where
  text : List Char
  cursor : Cursor
  /-- Whether a line ended behind the last word. -/
  brokeOff : Bool

end HostScript.Yaml
