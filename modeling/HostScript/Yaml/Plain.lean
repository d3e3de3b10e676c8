import HostScript.Yaml.Gap

/-!
# Plain scalars

Words without quotes. They end before a colon that ends a word, before a comment, before a mark of a
document, at an indicator inside brackets, and on a line that is indented too little outside them.
-/
namespace HostScript.Yaml

/-- The indicators that end a plain scalar inside brackets. -/
def isFlowIndicator (c : Char) : Bool := c = ',' || c = '[' || c = ']' || c = '{' || c = '}'

/-- Whether a plain scalar that goes on after a gap stops before a word. -/
def stopsBeforeWord (inBrackets : Bool) (floor : Nat) (m : Mark) (rest : List Char) : Bool :=
  (!inBrackets && m.column < floor) || atDocumentMark m rest || rest.head? = some '#'

/-- Whether a plain scalar stops before a character of a word. -/
def stopsBefore (inBrackets : Bool) (c : Char) (rest : List Char) : Bool :=
  (c = ':' && endsWord rest) || (inBrackets && isFlowIndicator c)

/-- Whether a colon inside brackets is followed by an indicator, which is refused. -/
def isStrayColon (inBrackets : Bool) (c : Char) (rest : List Char) : Bool :=
  inBrackets && c = ':' &&
    match rest with
    | d :: _ => d = '?' || isFlowIndicator d
    | [] => false

/-- Reads a plain scalar. Outside brackets its lines start at the floor or to the right of it; a tab must
not stand in for that indentation. -/
def readPlain (inBrackets : Bool) (floor : Nat) (text : List Char) (gap : Gap) (m : Mark) :
    List Char → Option ScalarRead
  | [] => some ⟨text, ⟨m, []⟩, gap.hasBreak⟩
  | c :: cs =>
    if isWhite c then
      if gap.hasBreak && m.column < floor && c = '\t' then none
      else readPlain inBrackets floor text (gap.addWhite c) m.next cs
    else if isBreak c then readPlain inBrackets floor text (gap.addBreak c) m.nextLine cs
    else if !gap.isNothing && stopsBeforeWord inBrackets floor m (c :: cs) then
      some ⟨text, ⟨m, c :: cs⟩, gap.hasBreak⟩
    else if isStrayColon inBrackets c cs then none
    else if stopsBefore inBrackets c cs then some ⟨text, ⟨m, c :: cs⟩, gap.hasBreak⟩
    else readPlain inBrackets floor (c :: gap.join text) .nothing m.next cs

end HostScript.Yaml
