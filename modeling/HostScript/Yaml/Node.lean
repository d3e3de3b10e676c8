import HostScript.Yaml.Event

/-!
# Nodes of a YAML document

Events are gathered into nodes. Where the events stop too early every open collection ends in a cut, so
that a reader who goes through a node in order meets the cut where the text became unreadable. An alias
keeps the number of its anchor; anchors are numbered by the names known before them, and a number that is
given again belongs to the later node.
-/
namespace HostScript.Yaml

inductive Node where
  | scalar (value : Scalar)
  | alias (number : Nat)
  | list (tag : Option String) (items : List Node)
  | map (tag : Option String) (members : List (Node × Node))
  | cut

/-- An open collection with the place of its event, if it has an anchor. What it holds stands last
first. -/
inductive Frame where
  | list (place : Option Nat) (tag : Option String) (items : List Node)
  | map (place : Option Nat) (tag : Option String) (members : List (Node × Node))
  | member (place : Option Nat) (tag : Option String) (members : List (Node × Node)) (key : Node)

structure Gathering where
  frames : List Frame
  root : Option Node
  /-- The number of events so far. -/
  count : Nat
  /-- The names of anchors with their numbers. -/
  names : List (String × Nat)
  /-- The places of the nodes that numbers belong to, latest first. -/
  places : List (Nat × Nat)
  /-- The nodes with an anchor, by their place. -/
  placed : List (Nat × Node)

namespace Gathering

def start : Gathering := ⟨[], none, 0, [], [], []⟩

/-- Gives the present place an anchor. -/
def nameAnchor (g : Gathering) : Option String → Gathering × Option Nat
  | none => (g, none)
  | some name =>
    let number := g.names.length
    ({ g with
        names := (name, number) :: g.names.filter (·.1 ≠ name)
        places := (number, g.count) :: g.places }, some g.count)

/-- Keeps a node under its place. -/
def keep (g : Gathering) (place : Option Nat) (n : Node) : Gathering :=
  match place with
  | none => g
  | some p => { g with placed := (p, n) :: g.placed }

/-- Puts a whole node where it belongs. -/
def add (g : Gathering) (n : Node) : Gathering :=
  match g.frames with
  | [] => { g with root := some n }
  | .list place tag items :: rest => { g with frames := .list place tag (n :: items) :: rest }
  | .map place tag members :: rest => { g with frames := .member place tag members n :: rest }
  | .member place tag members key :: rest =>
    { g with frames := .map place tag ((key, n) :: members) :: rest }

/-- Closes the innermost collection. -/
def close (g : Gathering) : Gathering :=
  match g.frames with
  | [] => g
  | .list place tag items :: rest =>
    let n := Node.list tag items.reverse
    ({ g with frames := rest }.keep place n).add n
  | .map place tag members :: rest =>
    let n := Node.map tag members.reverse
    ({ g with frames := rest }.keep place n).add n
  | .member place tag members key :: rest =>
    let n := Node.map tag ((key, .cut) :: members).reverse
    ({ g with frames := rest }.keep place n).add n

def advance (g : Gathering) : Gathering := { g with count := g.count + 1 }

/-- Takes an event. An alias without an anchor before it cannot be taken. -/
def take? (g : Gathering) : Event → Option Gathering
  | .alias name =>
    match g.names.lookup name with
    | none => none
    | some number => some (g.add (.alias number)).advance
  | .scalar anchor value =>
    let (g, place) := g.nameAnchor anchor
    some ((g.keep place (.scalar value)).add (.scalar value)).advance
  | .listStart anchor tag =>
    let (g, place) := g.nameAnchor anchor
    some { g with frames := .list place tag [] :: g.frames }.advance
  | .mapStart anchor tag =>
    let (g, place) := g.nameAnchor anchor
    some { g with frames := .map place tag [] :: g.frames }.advance
  | .listEnd => some g.close.advance
  | .mapEnd => some g.close.advance

/-- Takes events as long as they can be taken, and says whether all could. -/
def takeAll (g : Gathering) : List Event → Gathering × Bool
  | [] => (g, true)
  | e :: es =>
    match g.take? e with
    | none => (g, false)
    | some g => g.takeAll es

/-- Marks the place where the text became unreadable. -/
def cutOff (g : Gathering) : Gathering :=
  match g.frames with
  | [] => match g.root with
    | none => { g with root := some .cut }
    | some _ => g
  | .map place tag members :: rest =>
    { g with frames := .map place tag ((.cut, .cut) :: members) :: rest }
  | _ => g.add .cut

/-- Closes all collections with a cut in each. -/
def closeAll : Nat → Gathering → Gathering
  | 0, g => g
  | depth + 1, g => closeAll depth g.cutOff.close

end Gathering

/-- A document: its node, the nodes that aliases stand for by number, how often aliases may be followed,
and whether the whole text could be read. -/
structure Document where
  root : Option Node
  anchored : List (Nat × Node)
  limit : Nat
  sound : Bool

def Document.ofEvents (events : Events) : Document :=
  let (g, taken) := Gathering.start.takeAll events.list
  let whole := taken && g.frames.isEmpty && (g.root.isSome || events.sound)
  let closed := if whole then g else (g.closeAll g.frames.length).cutOff
  ⟨closed.root,
    closed.places.filterMap fun (number, place) =>
      (closed.placed.lookup place).map fun n => (number, n),
    100 * max g.count 1, events.sound && taken⟩

def Document.ofText (text : String) : Document := .ofEvents (eventsOf (tokensOf text))

end HostScript.Yaml
