import HostScript.Shell.Word

/-!
# Scripts of the shell

The structure of a script: simple commands with assignments and redirections, lists, pipelines and the
compound commands. Reading goes from left to right with one lexeme in sight. A script is read line by
line, so that what stands before a mistake is executed.
-/
namespace HostScript.Shell

inductive RedirectKind where
  | read
  | write
  | append
  | duplicate
  /-- What can be read stands in the script. -/
  | here
  deriving DecidableEq

structure Redirect where
  stream : Nat
  kind : RedirectKind
  target : Word

/-- What a simple command consists of, with its line. -/
structure SimpleCommand where
  line : Nat
  assignments : List (String × Word)
  words : List Word
  redirects : List Redirect

inductive Statement where
  | nothing
  | simple (command : SimpleCommand)
  | sequence (first second : Statement)
  | both (first second : Statement)
  | either (first second : Statement)
  | negated (body : Statement)
  | pipe (source sink : Statement)
  | grouped (body : Statement) (redirects : List Redirect)
  | subshell (body : Statement) (redirects : List Redirect)
  | choice (condition yes no : Statement)
  | loop (untilTrue : Bool) (condition body : Statement)
  | each (name : String) (words : List Word) (body : Statement)
  | cases (word : Word) (arms : List (List Word × Statement))
  | define (name : String) (body : Statement)

/-! ## Mistakes -/

/-- A place where a script cannot be read: what stands there, and what should. -/
structure SyntaxFault where
  found : Option Lexeme
  expected : Option String

/-- The words that are reserved where a command may begin. -/
def reservedWords : List String :=
  ["if", "then", "elif", "else", "fi", "for", "in", "while", "until", "do", "done", "case", "esac",
    "\x7b", "\x7d", "!"]

/-- What a lexeme is called in a message. -/
def Lexeme.title : Lexeme → String
  | .word _ w =>
    match (bareText? w).filter reservedWords.contains with
    | some s => "\"" ++ s ++ "\""
    | none => "word"
  | .operator _ o =>
    if o = "\n" then "newline"
    else if o.toList.any fun c => c = '<' || c = '>' then "redirection"
    else "\"" ++ o ++ "\""
  | .stream _ => "redirection"
  | .unterminated _ => "end of file"

def SyntaxFault.message (f : SyntaxFault) : String :=
  match f.found with
  | some (.unterminated _) => "Syntax error: Unterminated quoted string"
  | found =>
    let title := match found with
      | some lexeme => lexeme.title
      | none => "end of file"
    "Syntax error: " ++ title ++ " unexpected" ++
      match f.expected with
      | some s => " (expecting \"" ++ s ++ "\")"
      | none => ""

/-- The line of a mistake, which is the last one where the script has ended. -/
def SyntaxFault.line (last : Nat) (f : SyntaxFault) : Nat :=
  match f.found with
  | some (.word line _) => line
  | some (.operator line _) => line
  | some (.unterminated line) => line
  | _ => last

/-- A statement that was read, with what follows it. -/
abbrev Parsed := Except SyntaxFault (Statement × List Lexeme)

/-- The mistake at the front of what is left. -/
def unexpected (lexemes : List Lexeme) (expected : Option String) : SyntaxFault :=
  ⟨lexemes.head?, expected⟩

/-! ## Redirections and simple commands -/

/-- The kind of redirection that an operator stands for. -/
def redirectKind? (operator : String) : Option RedirectKind :=
  if operator = "<" then some .read
  else if operator = "<<" then some .here
  else if operator = ">" || operator = ">|" then some .write
  else if operator = ">>" then some .append
  else if operator = ">&" || operator = "<&" then some .duplicate
  else none

/-- The stream that a redirection is about when none is named. -/
def RedirectKind.usualStream (k : RedirectKind) (operator : String) : Nat :=
  if k = .read || k = .here || operator = "<&" then 0 else 1

def readRedirects : List Lexeme → List Redirect × List Lexeme
  | .stream n :: .operator i o :: .word j w :: rest =>
    match redirectKind? o with
    | some kind =>
      let (more, rest) := readRedirects rest
      (⟨n, kind, w⟩ :: more, rest)
    | none => ([], .stream n :: .operator i o :: .word j w :: rest)
  | .operator i o :: .word j w :: rest =>
    match redirectKind? o with
    | some kind =>
      let (more, rest) := readRedirects rest
      (⟨kind.usualStream o, kind, w⟩ :: more, rest)
    | none => ([], .operator i o :: .word j w :: rest)
  | rest => ([], rest)

/-- The assignment that a word is, if it starts with a name and an equals sign. -/
def assignment? : Word → Option (String × Word)
  | .text false chars :: rest =>
    let name := chars.takeWhile isNameChar
    match name, chars.dropWhile isNameChar with
    | c :: _, '=' :: value =>
      if startsName c then some (String.ofList name, .text false value :: rest) else none
    | _, _ => none
  | _ => none

/-- Reads a simple command onto what is already read of it. -/
def readSimple (command : SimpleCommand) : Nat → List Lexeme → SimpleCommand × List Lexeme
  | 0, rest => (command, rest)
  | fuel + 1, lexemes =>
    match readRedirects lexemes with
    | (r :: rs, rest) =>
      readSimple { command with redirects := command.redirects ++ r :: rs } fuel rest
    | ([], .word _ w :: rest) =>
      match (if command.words.isEmpty then assignment? w else none) with
      | some a => readSimple { command with assignments := command.assignments ++ [a] } fuel rest
      | none => readSimple { command with words := command.words ++ [w] } fuel rest
    | ([], rest) => (command, rest)

/-! ## Compound commands -/

def reserved? : List Lexeme → Option String
  | .word _ w :: _ => (bareText? w).filter reservedWords.contains
  | _ => none

def operator? : List Lexeme → Option String
  | .operator _ o :: _ => some o
  | _ => none

def frontLine : List Lexeme → Nat
  | .word line _ :: _ => line
  | .operator line _ :: _ => line
  | .stream _ :: .operator line _ :: _ => line
  | _ => 1

def expectWord (word : String) (lexemes : List Lexeme) : Except SyntaxFault (List Lexeme) :=
  match lexemes with
  | .word _ w :: rest =>
    if bareText? w = some word then .ok rest else .error (unexpected lexemes (some word))
  | _ => .error (unexpected lexemes (some word))

def expectOperator (name : String) (lexemes : List Lexeme) : Except SyntaxFault (List Lexeme) :=
  match lexemes with
  | .operator _ o :: rest =>
    if o = name then .ok rest else .error (unexpected lexemes (some name))
  | _ => .error (unexpected lexemes (some name))

def skipLines : List Lexeme → List Lexeme
  | .operator _ "\n" :: rest => skipLines rest
  | rest => rest

def skipSeparators : List Lexeme → List Lexeme
  | .operator line o :: rest =>
    if o = "\n" || o = ";" then skipSeparators rest else .operator line o :: rest
  | rest => rest

/-- Whether a list of commands ends here. -/
def endsList (lexemes : List Lexeme) : Bool :=
  lexemes.isEmpty || operator? lexemes = some ")" || operator? lexemes = some ";;" ||
    match reserved? lexemes with
    | some word => ["then", "elif", "else", "fi", "do", "done", "esac", "\x7d"].contains word
    | none => false

/-- The name of a function, if its definition begins here. -/
def function? : List Lexeme → Option (String × List Lexeme)
  | .word _ w :: .operator _ "(" :: .operator _ ")" :: rest =>
    (bareText? w).map fun name => (name, rest)
  | _ => none

/-- Reads words up to something else. -/
def readWords : List Lexeme → List Word × List Lexeme
  | .word _ w :: rest =>
    let (more, rest) := readWords rest
    (w :: more, rest)
  | rest => ([], rest)

/-- Reads the patterns of an arm, up to its parenthesis. -/
def readPatterns : List Lexeme → Except SyntaxFault (List Word × List Lexeme)
  | .word _ w :: .operator line o :: rest =>
    if o = ")" then .ok ([w], rest)
    else if o = "|" then (readPatterns rest).map fun (ws, rest) => (w :: ws, rest)
    else .error (unexpected (.operator line o :: rest) (some ")"))
  | .word _ _ :: rest => .error (unexpected rest (some ")"))
  | rest => .error (unexpected rest (some ")"))

/-- The lists of commands: those of one line, those inside a compound command, of which there is at least
one, and those of which there may be none. -/
inductive ListKind where
  | line
  | body
  | rest
  deriving DecidableEq

mutual

/-- Reads commands up to the end of their list. -/
def readList (kind : ListKind) : Nat → List Lexeme → Parsed
  | 0, lexemes => .error (unexpected lexemes none)
  | fuel + 1, lexemes =>
    let lexemes := if kind = .line then lexemes else skipLines lexemes
    if endsList lexemes then
      if kind = .body && !lexemes.isEmpty then .error (unexpected lexemes none)
      else .ok (.nothing, lexemes)
    else do
      let (first, rest) ← readConditional fuel lexemes
      match rest with
      | .operator line o :: more =>
        if o = ";" || o = "&" || (o = "\n" && kind ≠ .line) then
          if kind = .line && operator? more = some "\n" then .ok (first, more)
          else
            let (second, rest) ← readList (if kind = .line then .line else .rest) fuel more
            .ok (.sequence first second, rest)
        else .ok (first, .operator line o :: more)
      | _ => .ok (first, rest)

/-- Reads pipelines joined by conditions. -/
def readConditional : Nat → List Lexeme → Parsed
  | 0, lexemes => .error (unexpected lexemes none)
  | fuel + 1, lexemes => do
    let (first, rest) ← readPipeline fuel lexemes
    readConditions fuel first rest

/-- Reads further pipelines onto those already read. -/
def readConditions : Nat → Statement → List Lexeme → Parsed
  | 0, _, lexemes => .error (unexpected lexemes none)
  | fuel + 1, first, lexemes =>
    match operator? lexemes with
    | some "&&" => do
      let (second, rest) ← readPipeline fuel (skipLines (lexemes.drop 1))
      readConditions fuel (.both first second) rest
    | some "||" => do
      let (second, rest) ← readPipeline fuel (skipLines (lexemes.drop 1))
      readConditions fuel (.either first second) rest
    | _ => .ok (first, lexemes)

def readPipeline : Nat → List Lexeme → Parsed
  | 0, lexemes => .error (unexpected lexemes none)
  | fuel + 1, lexemes =>
    if reserved? lexemes = some "!" then
      (readPipeline fuel (lexemes.drop 1)).map fun (s, rest) => (.negated s, rest)
    else do
      let (source, rest) ← readCommand fuel lexemes
      if operator? rest = some "|" then
        let (sink, rest) ← readPipeline fuel (skipLines (rest.drop 1))
        .ok (.pipe source sink, rest)
      else .ok (source, rest)

/-- Reads a command with the redirections of a compound one. -/
def readCommand : Nat → List Lexeme → Parsed
  | 0, lexemes => .error (unexpected lexemes none)
  | fuel + 1, lexemes =>
    match operator? lexemes, reserved? lexemes with
    | some "(", _ => do
      let (body, rest) ← readList .body fuel (lexemes.drop 1)
      let (redirects, rest) := readRedirects (← expectOperator ")" rest)
      .ok (.subshell body redirects, rest)
    | _, some "\x7b" => do
      let (body, rest) ← readList .body fuel (lexemes.drop 1)
      let (redirects, rest) := readRedirects (← expectWord "\x7d" rest)
      .ok (.grouped body redirects, rest)
    | _, some "if" => do
      let (body, rest) ← readChoice fuel (lexemes.drop 1)
      let (redirects, rest) := readRedirects rest
      .ok (.grouped body redirects, rest)
    | _, some "while" => readLoop fuel false (lexemes.drop 1)
    | _, some "until" => readLoop fuel true (lexemes.drop 1)
    | _, some "for" => readEach fuel (lexemes.drop 1)
    | _, some "case" => readCases fuel (lexemes.drop 1)
    | _, some _ => .error (unexpected lexemes none)
    | _, none =>
      match function? lexemes with
      | some (name, rest) => do
        let (body, rest) ← readCommand fuel (skipLines rest)
        .ok (.define name body, rest)
      | none =>
        let (command, rest) := readSimple ⟨frontLine lexemes, [], [], []⟩ fuel lexemes
        if command.words.isEmpty && command.assignments.isEmpty && command.redirects.isEmpty then
          .error (unexpected rest none)
        else match rest with
          | .unterminated _ :: _ => .error (unexpected rest none)
          | _ => .ok (.simple command, rest)

/-- Reads a condition and its branches, behind `if` or `elif`. -/
def readChoice : Nat → List Lexeme → Parsed
  | 0, lexemes => .error (unexpected lexemes none)
  | fuel + 1, lexemes => do
    let (condition, rest) ← readList .body fuel lexemes
    let (yes, rest) ← readList .body fuel (← expectWord "then" rest)
    match reserved? rest with
    | some "elif" =>
      let (no, rest) ← readChoice fuel (rest.drop 1)
      .ok (.choice condition yes no, rest)
    | some "else" =>
      let (no, rest) ← readList .body fuel (rest.drop 1)
      .ok (.choice condition yes no, ← expectWord "fi" rest)
    | _ => .ok (.choice condition yes .nothing, ← expectWord "fi" rest)

def readBody : Nat → List Lexeme → Parsed
  | 0, lexemes => .error (unexpected lexemes none)
  | fuel + 1, lexemes => do
    let (body, rest) ← readList .body fuel (← expectWord "do" (skipSeparators lexemes))
    .ok (body, ← expectWord "done" rest)

/-- Reads a loop behind its first word. -/
def readLoop : Nat → Bool → List Lexeme → Parsed
  | 0, _, lexemes => .error (unexpected lexemes none)
  | fuel + 1, untilTrue, lexemes => do
    let (condition, rest) ← readList .body fuel lexemes
    let (body, rest) ← readBody fuel rest
    let (redirects, rest) := readRedirects rest
    .ok (.grouped (.loop untilTrue condition body) redirects, rest)

/-- Reads a loop over words behind its first word. Without words it goes over the arguments. -/
def readEach : Nat → List Lexeme → Parsed
  | 0, lexemes => .error (unexpected lexemes none)
  | fuel + 1, lexemes =>
    match lexemes with
    | .word _ [.text false name] :: rest => do
      let (words, rest) := if reserved? (skipLines rest) = some "in" then
          readWords ((skipLines rest).drop 1)
        else ([[.parameter true (.all false) .none []]], rest)
      let (body, rest) ← readBody fuel rest
      let (redirects, rest) := readRedirects rest
      .ok (.grouped (.each (String.ofList name) words body) redirects, rest)
    | _ => .error (unexpected lexemes none)

/-- Reads a selection behind its first word. -/
def readCases : Nat → List Lexeme → Parsed
  | 0, lexemes => .error (unexpected lexemes none)
  | fuel + 1, lexemes =>
    match lexemes with
    | .word _ w :: rest => do
      let rest ← expectWord "in" (skipLines rest)
      let (arms, rest) ← readArms fuel (skipLines rest)
      let (redirects, rest) := readRedirects rest
      .ok (.grouped (.cases w arms) redirects, rest)
    | _ => .error (unexpected lexemes none)

/-- Reads the arms of a selection and its last word. -/
def readArms : Nat → List Lexeme →
    Except SyntaxFault (List (List Word × Statement) × List Lexeme)
  | 0, lexemes => .error (unexpected lexemes none)
  | fuel + 1, lexemes =>
    if reserved? lexemes = some "esac" then .ok ([], lexemes.drop 1)
    else do
      let (patterns, rest) ←
        readPatterns (if operator? lexemes = some "(" then lexemes.drop 1 else lexemes)
      let (body, rest) ← readList .rest fuel rest
      if operator? rest = some ";;" then
        let (arms, rest) ← readArms fuel (skipLines (rest.drop 1))
        .ok ((patterns, body) :: arms, rest)
      else .ok ([(patterns, body)], ← expectWord "esac" (skipLines rest))

end

/-- Reads the statement of the next line, of which there is none at the end of a script. -/
def readLine (lexemes : List Lexeme) : Except SyntaxFault (Option (Statement × List Lexeme)) :=
  let lexemes := skipLines lexemes
  if lexemes.isEmpty then .ok none
  else match readList .line (8 * lexemes.length + 8) lexemes with
    | .error f => .error f
    | .ok (s, rest) =>
      if rest.isEmpty || operator? rest = some "\n" then .ok (some (s, rest))
      else .error (unexpected rest none)

end HostScript.Shell
