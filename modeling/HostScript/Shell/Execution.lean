import HostScript.Shell.Builtin

/-!
# Execution of scripts

Statements are executed on a machine. Each step spends fuel, of which a program gets more than a script
that ends can use. After the end of the shell, or while a jump is under way, nothing is executed.
-/
namespace HostScript.Shell.Machine

/-- The commands whose failing redirections end the shell. -/
def isSpecial (name : String) : Bool :=
  [":", "exit", "export", "readonly", "unset", "set", "shift", "trap", "eval", "exec", "return",
    "break", "continue"].contains name

/-- Executes a simple command. Redirections last as long as it does, and so do its assignments, unless it
is nothing but assignments. -/
def simple (run : List Char → Machine → Machine) (call : Statement → Machine → Machine) (fuel : Nat)
    (m : Machine) (c : SimpleCommand) : Machine :=
  let (texts, m) := allFields run fuel { m with line := c.line, inner := none } c.words
  let assigned := c.assignments.foldl (fun m (name, w) =>
    let (value, m) := oneText run fuel m w
    m.assign name value) m
  if assigned.stopped then assigned
  else match redirect run fuel assigned c.redirects with
    | .error (message, failed) =>
      let failed := { restore c.redirects m (failed.complain message 2) with bindings := m.bindings }
      if (texts.head?.map isSpecial).getD false then failed.finish (.exited 2) else failed
    | .ok ready =>
      match texts with
      | [] => { restore c.redirects m ready with status := ready.inner.getD 0 }
      | "exec" :: [] => { ready with bindings := m.bindings, status := 0 }
      | "exec" :: name :: arguments =>
        let done := ready.executeProgram run "exec: " name arguments
        done.finish (done.ending.getD (.exited done.status))
      | name :: arguments =>
        let done := restore c.redirects m (ready.invoke run call name arguments)
        if c.assignments.isEmpty then done else { done with bindings := m.bindings }

/-- Ends a strict shell after a failure whose status is not asked for. -/
def insist (m : Machine) : Machine :=
  if m.strict && !m.asked && m.status ≠ 0 && !m.stopped then m.finish (.exited m.status) else m

/-- Does something that asks for a status. -/
def asking (act : Machine → Machine) (m : Machine) : Machine :=
  { act { m with asked := true } with asked := m.asked }

/-- The machine inside one more loop. -/
def enterLoop (m : Machine) : Machine := { m with loops := m.loops + 1 }

/-- The machine behind a loop. -/
def leaveLoop (m : Machine) : Machine := { m with loops := m.loops - 1 }

/-- Takes a jump at the end of a round, and says whether the loop goes on. -/
def afterRound (m : Machine) : Bool × Machine :=
  if m.ending.isSome then (false, m)
  else match m.jump with
    | none => (true, m)
    | some (.leave n) => (false, { m with jump := if n ≤ 1 then none else some (.leave (n - 1)) })
    | some (.again n) =>
      if n ≤ 1 then (true, { m with jump := none })
      else (false, { m with jump := some (.again (n - 1)) })
    | some .back => (false, m)

mutual

/-- Executes a statement. After an end or a jump nothing is executed. -/
def execute : Nat → Statement → Machine → Machine
  | 0, _, m => m
  | fuel + 1, s, m =>
    if m.stopped then m
    else
      let run := interpret fuel
      match s with
      | .nothing => m
      | .simple command => (m.simple run (execute fuel) fuel command).insist
      | .sequence first second => execute fuel second (execute fuel first m)
      | .both first second =>
        let m := m.asking (execute fuel first)
        if m.status = 0 then execute fuel second m else m
      | .either first second =>
        let m := m.asking (execute fuel first)
        if m.status = 0 then m else execute fuel second m
      | .negated body =>
        let m := m.asking (execute fuel body)
        if m.stopped then m else { m with status := if m.status = 0 then 1 else 0 }
      | .pipe source sink =>
        let left := execute fuel source { m with out := .output, output := .empty }
        let between := m.absorb { left with output := m.output }
        let right := execute fuel sink { between with input := left.output }
        (between.absorb right).insist
      | .grouped body redirects =>
        match redirect run fuel m redirects with
        | .error (message, failed) => (restore redirects m (failed.complain message 2)).insist
        | .ok ready => restore redirects m (execute fuel body ready)
      | .subshell body redirects =>
        match redirect run fuel m redirects with
        | .error (message, failed) => (restore redirects m (failed.complain message 2)).insist
        | .ok ready => (m.absorb (execute fuel body ready)).insist
      | .choice question yes no =>
        let m := m.asking (execute fuel question)
        if m.status = 0 then execute fuel yes m else execute fuel no { m with status := 0 }
      | .loop untilTrue question body => (rounds fuel untilTrue question body 0 m.enterLoop).leaveLoop
      | .each name words body =>
        let (texts, m) := allFields run fuel m words
        let oneRound (state : Bool × Machine) (text : String) : Bool × Machine :=
          if state.1 then (execute fuel body (state.2.assign name text)).afterRound else state
        (texts.foldl oneRound (true, { m.enterLoop with status := 0 })).2.leaveLoop
      | .cases w arms =>
        let (text, m) := oneText run fuel m w
        let chosen := arms.find? fun (patterns, _) => patterns.any fun p =>
          Glob.matches (globs (charsOf (bits run fuel m p).1)) text.toList
        match chosen with
        | some (_, body) => execute fuel body { m with status := 0 }
        | none => { m with status := 0 }
      | .define name body => { m with functions := (name, body) :: m.functions, status := 0 }

/-- Executes the rounds of a loop. Its status is that of the last round, which is handed on. -/
def rounds : Nat → Bool → Statement → Statement → Nat → Machine → Machine
  | 0, _, _, _, _, m => m
  | fuel + 1, untilTrue, question, body, status, m =>
    match (m.asking (execute fuel question)).afterRound with
    | (false, m) => m
    | (true, m) =>
      if (m.status = 0) = untilTrue then { m with status }
      else match (execute fuel body m).afterRound with
        | (false, m) => m
        | (true, m) => rounds fuel untilTrue question body m.status m

/-- Executes a script line by line. A line that cannot be read ends the shell. -/
def executeLines : Nat → Nat → List Lexeme → Machine → Machine
  | 0, _, _, m => m
  | fuel + 1, last, lexemes, m =>
    if m.stopped then m
    else match readLine lexemes with
      | .error f => { m with line := f.line last }.refuse f.message
      | .ok none => m
      | .ok (some (s, rest)) => executeLines fuel last rest (execute fuel s m)

def interpret : Nat → List Char → Machine → Machine
  | 0, _, m => m
  | fuel + 1, script, m => executeLines fuel (lineNumber script []) (lexemes script) m

end

end HostScript.Shell.Machine
