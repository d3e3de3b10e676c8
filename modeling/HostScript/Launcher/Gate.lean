import HostScript.Fault

/-!
# One launcher at a time

A gate lets one submission in and turns others away until that one is over. It keeps a flag, which is all
that a client can ask for, and beside it the submissions that are under way and the launchers that were
left at work when their submission was given up. The flag belongs to the submission: it is freed when the
submission ends, however it ends.
-/
namespace HostScript

/-- A submission that was let in: whose it is, and whether its launcher is at work. -/
structure Visit where
  client : Nat
  started : Bool
  deriving DecidableEq, Repr

structure Gate where
  /-- The answer to the question whether a script is being executed. -/
  occupied : Bool
  visits : List Visit
  /-- The launchers at work whose submission was given up. -/
  strays : Nat
  deriving DecidableEq, Repr

inductive GateEvent where
  /-- A client wants to submit the script of a name. -/
  | attempt (client : Nat) (path : String)
  /-- The launcher of a client goes to work. -/
  | start (client : Nat)
  /-- The submission of a client ends: its launcher has ended, well or not, or could not be started. -/
  | finish (client : Nat)
  /-- A client gives its submission up. Its launcher goes on. -/
  | abandon (client : Nat)
  /-- A launcher whose submission was given up ends. -/
  | exit
  deriving DecidableEq, Repr

namespace Gate

/-- The gate at which nothing has happened. -/
def free : Gate := ⟨false, [], 0⟩

/-- Lets a client in, or says why not. -/
def enter (client : Nat) (path : String) (g : Gate) : Except HostFault Gate :=
  if g.occupied then .error (.occupied path)
  else .ok { g with occupied := true, visits := ⟨client, false⟩ :: g.visits }

/-- The submission of a client, if it has one under way. -/
def visit? (client : Nat) (g : Gate) : Option Visit := g.visits.find? (·.client = client)

/-- Notes that the launcher of a client is at work. -/
def start (client : Nat) (g : Gate) : Gate :=
  match g.visit? client with
  | none => g
  | some v => { g with visits := { v with started := true } :: g.visits.erase v }

/-- Ends the submission of a client and frees the flag. A client without one changes nothing. -/
def leave (client : Nat) (g : Gate) : Gate :=
  match g.visit? client with
  | none => g
  | some v => { g with occupied := false, visits := g.visits.erase v }

/-- Gives up the submission of a client, which frees the flag as any other end does. -/
def abandon (client : Nat) (g : Gate) : Gate :=
  match g.visit? client with
  | none => g
  | some v => { g.leave client with strays := g.strays + if v.started then 1 else 0 }

def step (g : Gate) : GateEvent → Gate
  | .attempt client path => (g.enter client path).toOption.getD g
  | .start client => g.start client
  | .finish client => g.leave client
  | .abandon client => g.abandon client
  | .exit => { g with strays := g.strays - 1 }

def after (g : Gate) (events : List GateEvent) : Gate := events.foldl step g

/-- The launchers at work. -/
def launchers (g : Gate) : Nat := g.visits.countP (·.started) + g.strays

end Gate

end HostScript
