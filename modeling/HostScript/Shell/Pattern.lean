/-!
# Patterns

Patterns of the shell, in which `*` stands for any text, `?` for any character and brackets for one of
several, and patterns of lines, in which a star repeats what precedes it. Both are rows of symbols.
-/
namespace HostScript.Shell

/-- What one character of a text is compared with. -/
inductive Symbol where
  | char (c : Char)
  | anyChar
  | set (negated : Bool) (ranges : List (Char × Char))
  deriving DecidableEq

def Symbol.accepts : Symbol → Char → Bool
  | .char d, c => c = d
  | .anyChar, _ => true
  | .set negated ranges, c => (ranges.any fun r => r.1 ≤ c && c ≤ r.2) != negated

/-- The ranges between brackets, up to the closing one, which may also stand first. -/
def setRanges (ranges : List (Char × Char)) : List Char → Option (List (Char × Char) × List Char)
  | [] => none
  | ']' :: cs => if ranges.isEmpty then setRanges [(']', ']')] cs else some (ranges, cs)
  | a :: '-' :: b :: cs =>
    if b = ']' then some (('-', '-') :: (a, a) :: ranges, cs) else setRanges ((a, b) :: ranges) cs
  | c :: cs => setRanges ((c, c) :: ranges) cs

/-- The set that an opening bracket starts, with what follows it. -/
def readSet (cs : List Char) : Option (Symbol × List Char) :=
  match cs with
  | '!' :: rest => (setRanges [] rest).map fun r => (.set true r.1, r.2)
  | '^' :: rest => (setRanges [] rest).map fun r => (.set true r.1, r.2)
  | rest => (setRanges [] rest).map fun r => (.set false r.1, r.2)

/-! ## Shell patterns -/

inductive Glob where
  | one (s : Symbol)
  | anyText
  deriving DecidableEq

def Glob.matches : List Glob → List Char → Bool
  | [], [] => true
  | [], _ :: _ => false
  | .anyText :: gs, [] => Glob.matches gs []
  | .anyText :: gs, c :: cs => Glob.matches gs (c :: cs) || Glob.matches (.anyText :: gs) cs
  | .one _ :: _, [] => false
  | .one s :: gs, c :: cs => s.accepts c && Glob.matches gs cs
termination_by gs cs => gs.length + cs.length

/-- A character of a word with whether it was quoted. A quoted one stands for itself. -/
abbrev Marked := Char × Bool

/-- The pattern of a word. Each step reads at least one character. -/
def globsFrom : Nat → List Marked → List Glob
  | 0, _ => []
  | _, [] => []
  | fuel + 1, (c, quoted) :: cs =>
    if quoted then .one (.char c) :: globsFrom fuel cs
    else if c = '*' then .anyText :: globsFrom fuel cs
    else if c = '?' then .one .anyChar :: globsFrom fuel cs
    else if c = '[' then
      match readSet (cs.map (·.1)) with
      | some (s, rest) => .one s :: globsFrom fuel (cs.drop (cs.length - rest.length))
      | none => .one (.char c) :: globsFrom fuel cs
    else .one (.char c) :: globsFrom fuel cs

/-- The pattern of a word. -/
def globs (cs : List Marked) : List Glob := globsFrom cs.length cs

/-- Whether a word has anything in it that is not itself. -/
def isPattern (cs : List Marked) : Bool :=
  cs.any fun (c, quoted) => !quoted && (c = '*' || c = '?' || c = '[')

/-! ## Line patterns -/

structure Repeat where
  symbol : Symbol
  starred : Bool

/-- A line pattern, with whether it is tied to the start and to the end. -/
structure LinePattern where
  atStart : Bool
  atEnd : Bool
  parts : List Repeat

/-- The parts of a line pattern. -/
def repeatsFrom : Nat → List Char → List Repeat
  | 0, _ => []
  | _, [] => []
  | fuel + 1, c :: cs =>
    let (symbol, rest) : Symbol × List Char :=
      if c = '.' then (.anyChar, cs)
      else if c = '[' then (readSet cs).getD (.char c, cs)
      else if c = '\\' then
        match cs with
        | d :: ds => (.char d, ds)
        | [] => (.char c, [])
      else (.char c, cs)
    match rest with
    | '*' :: more => ⟨symbol, true⟩ :: repeatsFrom fuel more
    | more => ⟨symbol, false⟩ :: repeatsFrom fuel more

def LinePattern.ofText (text : List Char) : LinePattern :=
  let (atStart, text) := match text with
    | '^' :: cs => (true, cs)
    | cs => (false, cs)
  let (atEnd, text) :=
    if text.getLast? = some '$' then (true, text.dropLast) else (false, text)
  ⟨atStart, atEnd, repeatsFrom text.length text⟩

/-- What follows the longest match at the start of a text. -/
def matchRest (atEnd : Bool) : List Repeat → List Char → Option (List Char)
  | [], cs => if atEnd && !cs.isEmpty then none else some cs
  | r :: rs, [] => if r.starred then matchRest atEnd rs [] else none
  | r :: rs, c :: cs =>
    if r.starred then
      if r.symbol.accepts c then
        match matchRest atEnd (r :: rs) cs with
        | some rest => some rest
        | none => matchRest atEnd rs (c :: cs)
      else matchRest atEnd rs (c :: cs)
    else if r.symbol.accepts c then matchRest atEnd rs cs
    else none
termination_by rs cs => rs.length + cs.length

/-- The text before the first match, and what follows the match. -/
def LinePattern.find? (p : LinePattern) : List Char → Option (List Char × List Char)
  | [] => (matchRest p.atEnd p.parts []).map fun rest => ([], rest)
  | c :: cs =>
    match matchRest p.atEnd p.parts (c :: cs) with
    | some rest => some ([], rest)
    | none =>
      if p.atStart then none
      else (p.find? cs).map fun (before, rest) => (c :: before, rest)

end HostScript.Shell
