/-!
# Words of the shell

A word is a row of pieces: text, values of parameters and output of commands. Quotes keep a piece from
being split and from being a pattern. Reading a script cuts it into words and operators.
-/
namespace HostScript.Shell

inductive Parameter where
  | position (n : Nat)
  | count
  | status
  | process
  /-- All arguments, as one text or one by one. -/
  | all (joined : Bool)
  | named (name : String)

inductive Amendment where
  | none
  | length
  /-- Another value for one that is unset, or also for one that is empty. -/
  | otherwise (orEmpty : Bool)
  /-- The same, where the parameter keeps the other value. -/
  | assigned (orEmpty : Bool)
  /-- A message that ends the shell for a value that is unset, or also for one that is empty. -/
  | demanded (orEmpty : Bool)
  /-- Another value for one that is set, or only for one that is not empty. -/
  | instead (orEmpty : Bool)
  /-- Cuts the shortest or the longest match of a pattern off the front or the back. -/
  | cut (back longest : Bool)

inductive Piece where
  | text (quoted : Bool) (chars : List Char)
  | parameter (quoted : Bool) (p : Parameter) (amendment : Amendment) (operand : List Piece)
  | output (quoted : Bool) (script : List Char)
  | calculation (quoted : Bool) (formula : List Piece)

abbrev Word := List Piece

/-- A word or an operator with the line on which it stands, or the number of a stream in front of a
redirection. A quote or a bracket without its other half ends the script. -/
inductive Lexeme where
  | word (line : Nat) (w : Word)
  | operator (line : Nat) (name : String)
  | stream (number : Nat)
  | unterminated (line : Nat)

/-- The text of a word without quotes and without values. -/
def bareText? : Word → Option String
  | [.text false chars] => some (String.ofList chars)
  | _ => none

def startsName (c : Char) : Bool := c.isAlpha || c = '_'

def isNameChar (c : Char) : Bool := c.isAlphanum || c = '_'

/-- The parameter of one character. -/
def shortParameter? (c : Char) : Option Parameter :=
  if c.isDigit then some (.position (c.toNat - 48))
  else if c = '#' then some .count
  else if c = '?' then some .status
  else if c = '$' then some .process
  else if c = '@' then some (.all false)
  else if c = '*' then some (.all true)
  else none

/-- The parameter of a name in braces, with what follows it. -/
def longParameter? (cs : List Char) : Option (Parameter × List Char) :=
  match cs with
  | c :: rest =>
    if startsName c then
      some (.named (String.ofList (cs.takeWhile isNameChar)), cs.dropWhile isNameChar)
    else if c.isDigit then
      some (.position ((cs.takeWhile Char.isDigit).foldl (fun n d => n * 10 + (d.toNat - 48)) 0),
        cs.dropWhile Char.isDigit)
    else (shortParameter? c).map fun p => (p, rest)
  | [] => none

/-- The amendment in front of an operand, with what follows it. -/
def readAmendment : List Char → Option (Amendment × List Char)
  | ':' :: '-' :: cs => some (.otherwise true, cs)
  | '-' :: cs => some (.otherwise false, cs)
  | ':' :: '=' :: cs => some (.assigned true, cs)
  | '=' :: cs => some (.assigned false, cs)
  | ':' :: '?' :: cs => some (.demanded true, cs)
  | '?' :: cs => some (.demanded false, cs)
  | ':' :: '+' :: cs => some (.instead true, cs)
  | '+' :: cs => some (.instead false, cs)
  | '#' :: '#' :: cs => some (.cut false true, cs)
  | '#' :: cs => some (.cut false false, cs)
  | '%' :: '%' :: cs => some (.cut true true, cs)
  | '%' :: cs => some (.cut true false, cs)
  | _ => none

/-- The text up to a closing parenthesis of the same depth. -/
def readParenthesis : Nat → List Char → Option (List Char × List Char)
  | _, [] => none
  | depth, c :: cs =>
    if c = ')' && depth = 0 then some ([], cs)
    else
      let depth := if c = '(' then depth + 1 else if c = ')' then depth - 1 else depth
      (readParenthesis depth cs).map fun (inside, rest) => (c :: inside, rest)

/-- The formula that the text between parentheses is if it stands in a second pair of them. -/
def formula? (inside : List Char) : Option (List Char) :=
  match inside with
  | '(' :: cs =>
    match readParenthesis 0 cs with
    | some (formula, []) => some formula
    | _ => none
  | _ => none

/-- Where the reading of a word stops: at what ends a word, at a double quote, at a brace, or at the end
of a formula. -/
inductive Stop where
  | wordEnd
  | quote
  | brace
  | formulaEnd
  deriving DecidableEq

/-- The characters of which operators are made. -/
def isOperatorChar (c : Char) : Bool :=
  c = ';' || c = '&' || c = '|' || c = '<' || c = '>' || c = '(' || c = ')' || c = '\n'

/-- Puts a character in front of a word. -/
def consChar (quoted : Bool) (c : Char) : Word → Word
  | .text q cs :: rest => if q = quoted then .text q (c :: cs) :: rest
    else .text quoted [c] :: .text q cs :: rest
  | rest => .text quoted [c] :: rest

/-- Reads a word. Every step takes at least one character. Without the closing quote or bracket there is
no word. -/
def readWord (stop : Stop) : Nat → List Char → Option (Word × List Char)
  | 0, _ => none
  | _, [] => if stop = .wordEnd || stop = .formulaEnd then some ([], []) else none
  | fuel + 1, c :: cs =>
    let quoted : Bool := stop = .quote || stop = .formulaEnd
    let continueWith (p : Piece) (rest : List Char) :=
      (readWord stop fuel rest).map fun (w, rest) => (p :: w, rest)
    let continueChar (quoted : Bool) (c : Char) (rest : List Char) :=
      (readWord stop fuel rest).map fun (w, rest) => (consChar quoted c w, rest)
    if stop = .quote && c = '"' then some ([], cs)
    else if stop = .brace && c = '}' then some ([], cs)
    else if stop = .wordEnd && (c = ' ' || c = '\t' || isOperatorChar c) then some ([], c :: cs)
    else if c = '\\' then
      match cs with
      | [] => continueChar true c []
      | '\n' :: rest => readWord stop fuel rest
      | d :: rest =>
        if quoted && !(d = '$' || d = '\x60' || d = '"' || d = '\\') then continueChar true c cs
        else continueChar true d rest
    else if c = '\'' && !quoted then
      let inside := cs.takeWhile (· ≠ '\'')
      match cs.dropWhile (· ≠ '\'') with
      | [] => none
      | _ :: rest => continueWith (.text true inside) rest
    else if c = '"' && !quoted then
      match readWord .quote fuel cs with
      | none => none
      | some (inside, rest) =>
        (readWord stop fuel rest).map fun (w, rest) => (.text true [] :: inside ++ w, rest)
    else if c = '\x60' then
      let inside := cs.takeWhile (· ≠ '\x60')
      match cs.dropWhile (· ≠ '\x60') with
      | [] => none
      | _ :: rest => continueWith (.output quoted inside) rest
    else if c = '$' then
      match cs with
      | '(' :: rest =>
        match readParenthesis 0 rest with
        | none => none
        | some (inside, rest) =>
          match formula? inside with
          | none => continueWith (.output quoted inside) rest
          | some formula =>
            match readWord .formulaEnd fuel formula with
            | none => none
            | some (formula, _) => continueWith (.calculation quoted formula) rest
      | '{' :: '#' :: '}' :: rest => continueWith (.parameter quoted .count .none []) rest
      | '{' :: '#' :: rest =>
        match longParameter? rest with
        | some (p, '}' :: rest) => continueWith (.parameter quoted p .length []) rest
        | _ => none
      | '{' :: rest =>
        match longParameter? rest with
        | some (p, '}' :: rest) => continueWith (.parameter quoted p .none []) rest
        | some (p, rest) =>
          match readAmendment rest with
          | none => none
          | some (amendment, rest) =>
            match readWord .brace fuel rest with
            | none => none
            | some (operand, rest) => continueWith (.parameter quoted p amendment operand) rest
        | none => none
      | d :: rest =>
        if startsName d then
          continueWith (.parameter quoted
            (.named (String.ofList (cs.takeWhile isNameChar))) .none []) (cs.dropWhile isNameChar)
        else match shortParameter? d with
          | some p => continueWith (.parameter quoted p .none []) rest
          | none => continueChar quoted c cs
      | [] => continueChar quoted c []
    else continueChar quoted c cs

/-- The operators, longer ones before their beginnings. -/
def operators : List (List Char) :=
  [[';', ';'], ['&', '&'], ['|', '|'], ['<', '<', '-'], ['<', '<'], ['>', '>'], ['>', '&'], ['<', '&'],
    ['>', '|'], [';'], ['&'], ['|'], ['<'], ['>'], ['('], [')'], ['\n']]

/-- The number of a stream: a single digit right in front of a redirection. -/
def streamNumber? : List Char → Option Nat
  | d :: e :: _ => if d.isDigit && (e = '<' || e = '>') then some (d.toNat - 48) else none
  | _ => none

/-- The line on which a script goes on that has so much left. -/
def lineNumber (script left : List Char) : Nat :=
  (script.take (script.length - left.length)).count '\n' + 1

/-- The lines in front of a line that marks the end, with what follows it. Tabs in front may be left
out. -/
def hereLines (bare : Bool) (mark : List Char) : Nat → List Char → List Char × List Char
  | 0, cs => ([], cs)
  | _, [] => ([], [])
  | fuel + 1, cs =>
    let strip (line : List Char) : List Char := if bare then line.dropWhile (· = '\t') else line
    let line := strip (cs.takeWhile (· ≠ '\n'))
    let rest := (cs.dropWhile (· ≠ '\n')).drop 1
    if line = mark then ([], rest)
    else
      let (more, rest) := hereLines bare mark fuel rest
      (line ++ '\n' :: more, rest)

/-- The characters of a word with its quotes taken off, and whether there were any. -/
def unquoted (w : Word) : List Char × Bool :=
  (w.flatMap fun
    | .text _ cs => cs
    | _ => [],
  w.any fun
    | .text quoted _ => quoted
    | _ => false)

/-- Takes a text that stands in the script below the line on which it is asked for. It is expanded unless
the word that marks its end is quoted. -/
def takeHere (bare : Bool) (cs : List Char) : Option (Word × List Char) :=
  match readWord .wordEnd (cs.length + 2) (cs.dropWhile fun c => c = ' ' || c = '\t') with
  | none => none
  | some (w, rest) =>
    let (mark, literal) := unquoted w
    let line := rest.takeWhile (· ≠ '\n')
    let below := (rest.dropWhile (· ≠ '\n')).drop 1
    let (text, after) := hereLines bare mark (below.length + 1) below
    let left := line ++ '\n' :: after
    if literal then some ([.text true text], left)
    else (readWord .formulaEnd (text.length + 2) text).map fun (w, _) => (w, left)

/-- Cuts what is left of a script into words and operators. Comments and joined lines are left out. -/
def lexemesFrom (script : List Char) : Nat → List Char → List Lexeme
  | 0, _ => []
  | _, [] => []
  | fuel + 1, c :: cs =>
    let line := lineNumber script (c :: cs)
    if c = ' ' || c = '\t' then lexemesFrom script fuel cs
    else if c = '#' then lexemesFrom script fuel (cs.dropWhile (· ≠ '\n'))
    else match operators.find? fun o => o.isPrefixOf (c :: cs) with
      | some ('<' :: '<' :: dash) =>
        match takeHere (!dash.isEmpty) (cs.drop (1 + dash.length)) with
        | none => [.unterminated line]
        | some (w, left) => .operator line "<<" :: .word line w :: lexemesFrom script fuel left
      | some o =>
        .operator line (String.ofList o) :: lexemesFrom script fuel ((c :: cs).drop o.length)
      | none =>
        match streamNumber? (c :: cs) with
        | some n => .stream n :: lexemesFrom script fuel cs
        | none =>
          match readWord .wordEnd (cs.length + 2) (c :: cs) with
          | none => [.unterminated (lineNumber script [])]
          | some ([], rest) => lexemesFrom script fuel rest
          | some (w, rest) => .word line w :: lexemesFrom script fuel rest

def lexemes (script : List Char) : List Lexeme := lexemesFrom script (script.length + 1) script

end HostScript.Shell
