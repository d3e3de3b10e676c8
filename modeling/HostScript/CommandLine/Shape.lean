/-!
# The shape of a command line

A command takes options, operands and further commands, each in a list. Arguments are read from left to
right, and each command has a level of its own, on which an option may be given once. An option that is
not given may have a variable of the environment in its place.
-/
namespace HostScript.CommandLine

/-- An option: its long name, its letter if it has one, and which values it accepts. An option that
accepts none is a flag. -/
structure Flag where
  name : String
  letter : Option Char
  accepts : Option (String → Bool)
  /-- The variable that stands for the option when it is not given. -/
  variableName : Option String

/-- What a command takes. Operands are described by the values that they accept. -/
inductive Shape where
  | mk (flags : List Flag) (operands : List (String → Bool)) (commands : List (String × Shape))

namespace Shape

def flags : Shape → List Flag
  | .mk flags _ _ => flags

def operands : Shape → List (String → Bool)
  | .mk _ operands _ => operands

def commands : Shape → List (String × Shape)
  | .mk _ _ commands => commands

end Shape

inductive Refusal where
  | help
  | misuse
  deriving DecidableEq, Repr

/-- What is given on one level. A flag has the empty value. -/
structure Given where
  values : List (String × String)
  operands : List String

/-- A command with what is given on its level. -/
structure Level where
  command : String
  given : Given

namespace Given

def none : Given := ⟨[], []⟩

def value? (g : Given) (name : String) : Option String := g.values.lookup name

def has (g : Given) (name : String) : Bool := (g.value? name).isSome

/-- Adds an option, which must not be given already, with an acceptable value. -/
def add (g : Given) (f : Flag) (value : String) : Except Refusal Given :=
  if g.has f.name then .error .misuse
  else if (f.accepts.map fun accepts => accepts value).getD true then
    .ok { g with values := (f.name, value) :: g.values }
  else .error .misuse

end Given

/-- How a single argument is to be taken. -/
inductive Argument where
  | optionsEnd
  | long (name : String) (value : Option String)
  | short (letters : List Char)
  | plain (text : String)

/-- Takes an argument apart. A lone hyphen is a plain argument. -/
def Argument.ofText (text : String) : Argument :=
  match text.toList with
  | ['-', '-'] => .optionsEnd
  | '-' :: '-' :: cs =>
    let name := String.ofList (cs.takeWhile (· ≠ '='))
    match cs.dropWhile (· ≠ '=') with
    | [] => .long name none
    | _ :: value => .long name (some (String.ofList value))
  | '-' :: c :: cs => .short (c :: cs)
  | _ => .plain text

/-- Takes letters behind a hyphen: flags, and at the end perhaps an option with its value behind it. An
option without one waits for the next argument. -/
def takeLetters (s : Shape) (g : Given) : List Char → Except Refusal (Given × Option Flag)
  | [] => .ok (g, none)
  | c :: cs =>
    if c = 'h' then .error .help
    else match s.flags.find? (·.letter = some c) with
      | none => .error .misuse
      | some f =>
        if f.accepts.isNone then
          match g.add f "" with
          | .error r => .error r
          | .ok g => takeLetters s g cs
        else match cs with
          | [] => .ok (g, some f)
          | '=' :: value => (g.add f (String.ofList value)).map fun g => (g, none)
          | value => (g.add f (String.ofList value)).map fun g => (g, none)

/-- Takes a long option with the value behind its equals sign. -/
def takeLong (s : Shape) (g : Given) (name : String) (value : Option String) :
    Except Refusal (Given × Option Flag) :=
  if name = "help" then (if value.isNone then .error .help else .error .misuse)
  else match s.flags.find? (·.name = name), value with
    | none, _ => .error .misuse
    | some f, some value =>
      if f.accepts.isNone then .error .misuse else (g.add f value).map fun g => (g, none)
    | some f, none =>
      if f.accepts.isNone then (g.add f "").map fun g => (g, none) else .ok (g, some f)

/-- Takes an operand, if there is room for one that accepts it. -/
def takeOperand (s : Shape) (g : Given) (text : String) : Except Refusal Given :=
  match s.operands[g.operands.length]? with
  | none => .error .misuse
  | some accepts =>
    if accepts text then .ok { g with operands := g.operands ++ [text] } else .error .misuse

/-- Ends a level: variables stand in for options that are not given, and no operand may be missing. -/
def endLevel (env : String → Option String) (s : Shape) (g : Given) : Except Refusal Given :=
  if g.operands.length < s.operands.length then .error .misuse
  else s.flags.foldlM (fun g f =>
    if g.has f.name then .ok g
    else match f.variableName.bind env with
      | none => .ok g
      | some value =>
        if (f.accepts.map fun accepts => accepts value).getD true then .ok g else .error .misuse) g

/-- Follows the names of commands behind the word for help. -/
def helpOn (s : Shape) : List String → Refusal
  | [] => .help
  | name :: rest =>
    match s.commands.lookup name with
    | some inner => helpOn inner rest
    | none => if name = "help" && !s.commands.isEmpty && rest.isEmpty then .help else .misuse

/-- Reads the arguments of a level, with the option that waits for a value and whether options have
ended. -/
def readLevel (env : String → Option String) (s : Shape) (name : String) (g : Given)
    (waiting : Option Flag) (plainOnly : Bool) : List String → Except Refusal (List Level)
  | [] =>
    if waiting.isSome || !s.commands.isEmpty then .error .misuse
    else (endLevel env s g).map fun g => [⟨name, g⟩]
  | text :: rest =>
    if plainOnly then
      match takeOperand s g text with
      | .error r => .error r
      | .ok g => readLevel env s name g waiting true rest
    else
      let command := if waiting.isSome then none else s.commands.lookup text
      match command with
      | some inner => do
        let levels ← readLevel env inner text .none none false rest
        let g ← endLevel env s g
        .ok (⟨name, g⟩ :: levels)
      | none =>
        if waiting.isNone && text = "help" && !s.commands.isEmpty then .error (helpOn s rest)
        else match Argument.ofText text, waiting with
          | .optionsEnd, _ => readLevel env s name g waiting true rest
          | .long _ _, some _ => .error .misuse
          | .short _, some _ => .error .misuse
          | .plain value, some f =>
            match g.add f value with
            | .error r => .error r
            | .ok g => readLevel env s name g none false rest
          | .long option value, none =>
            match takeLong s g option value with
            | .error r => .error r
            | .ok (g, waiting) => readLevel env s name g waiting false rest
          | .short letters, none =>
            match takeLetters s g letters with
            | .error r => .error r
            | .ok (g, waiting) => readLevel env s name g waiting false rest
          | .plain text, none =>
            match takeOperand s g text with
            | .error r => .error r
            | .ok g => readLevel env s name g none false rest

/-- The levels of a command line, from the outermost command inwards. -/
def read (env : String → Option String) (s : Shape) (arguments : List String) :
    Except Refusal (List Level) :=
  readLevel env s "" .none none false arguments

/-- The value of an option that is known on several levels: the innermost one counts. -/
def innermost? (levels : List Level) (name : String) : Option String :=
  (levels.reverse.filterMap fun l => l.given.value? name).head?

end HostScript.CommandLine
