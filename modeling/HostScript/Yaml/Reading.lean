import HostScript.Datum
import HostScript.Yaml.Node

/-!
# Typed data in YAML

A node is read by the type that is expected. Reading goes through the document in order and stops at the
first thing that is wrong. Aliases are followed, but only so often in one document. What a map holds
under other names is passed over. In a step values are taken as what they look like before they are
typed, and made-up tags are refused.
-/
namespace HostScript.Yaml

/-- Reading with a count of the aliases followed. -/
abbrev Reading := StateT Nat Decoded

/-- Nothing that could be named is wrong. -/
def wrong {α : Type} : Reading α := throw none

/-- The node itself, or the one that an alias stands for. -/
def follow (d : Document) : Node → Reading Node
  | .alias number => do
    let count ← get
    if d.limit ≤ count then wrong
    else
      set (count + 1)
      match d.anchored.lookup number with
      | some (.alias _) => wrong
      | some .cut => wrong
      | some n => pure n
      | none => wrong
  | .cut => wrong
  | n => pure n

/-- Whether a scalar is plain, or literal with the tag of its type. -/
def Scalar.mayBe (s : Scalar) (type : String) : Bool :=
  s.style = .plain || (s.style = .literal && s.tag = some (coreTag type))

/-- Whether a scalar is plain and empty, which any collection may be. -/
def Scalar.isVacant (s : Scalar) : Bool := s.style = .plain && s.text.isEmpty

/-- A text: any scalar. -/
def readText (d : Document) (n : Node) : Reading String := do
  match ← follow d n with
  | .scalar s => pure s.text
  | _ => wrong

def readFlag (d : Document) (n : Node) : Reading Bool := do
  match ← follow d n with
  | .scalar s =>
    match flagOfWord? s.text with
    | some b => if s.mayBe "bool" then pure b else wrong
    | none => wrong
  | _ => wrong

/-- An integer of 64 bits without a sign. -/
def readUInt64 (d : Document) (n : Node) : Reading UInt64 := do
  match ← follow d n with
  | .scalar s =>
    match natural? s.text.toList with
    | some n => if s.mayBe "int" && n < UInt64.size then pure (UInt64.ofNat n) else wrong
    | none => wrong
  | _ => wrong

/-- Whether a scalar says that there is no value. -/
def Scalar.isAbsent (s : Scalar) : Decoded Bool :=
  if s.style ≠ .plain then .ok false
  else match s.tag with
    | none => .ok (s.text.isEmpty || isNullWord s.text)
    | some tag =>
      if tag = coreTag "null" then if isNullWord s.text then .ok true else .error none
      else .ok false

/-- A value that may be absent. -/
def readOptional {α : Type} (d : Document) (read : Node → Reading α) (n : Node) :
    Reading (Option α) := do
  let n ← follow d n
  match n with
  | .scalar s => if ← s.isAbsent then pure none else some <$> read n
  | _ => some <$> read n

def readList {α : Type} (d : Document) (read : Node → Reading α) (n : Node) : Reading (List α) := do
  match ← follow d n with
  | .list _ items => items.mapM read
  | .scalar s => if s.isVacant then pure [] else wrong
  | _ => wrong

/-- Passes a node over. -/
def passOver : Node → Reading Unit
  | .cut => wrong
  | _ => pure ()

/-- Reads the members of a map in order onto what is known. -/
def readMembers {α : Type} (d : Document) (read : String → Node → α → Reading α) (known : α) :
    List (Node × Node) → Reading α
  | [] => pure known
  | (key, value) :: rest => do
    let name ← readText d key
    let known ← read name value known
    readMembers d read known rest

/-- A record: a map, or nothing at all. -/
def readRecord {α : Type} (d : Document) (read : String → Node → α → Reading α) (known : α)
    (n : Node) : Reading α := do
  match ← follow d n with
  | .map _ members => readMembers d read known members
  | .scalar s => if s.isVacant then pure known else wrong
  | _ => wrong

/-- Reads a field that is not known yet. -/
def readOnce {α β : Type} (known : Option α) (read : Reading α) (set : α → β) : Reading β :=
  if known.isSome then wrong else set <$> read

/-- An integer has at most 64 bits; one of up to 128 bits is refused, a longer one is a fraction. -/
def integerDatum? (cs : List Char) : Option (Decoded Datum) :=
  match natural? cs with
  | some n =>
    if n < UInt64.size then some (.ok (.integer n))
    else if n < UInt64.size * UInt64.size then some (.error none) else none
  | none =>
    match negated? cs with
    | some n =>
      if n ≤ UInt64.size / 2 then some (.ok (.integer (-n)))
      else if n ≤ UInt64.size * UInt64.size / 2 then some (.error none) else none
    | none => none

/-- What a plain scalar without a tag looks like. -/
def plainDatum (s : String) : Decoded Datum :=
  if s.isEmpty || isNullWord s then .ok .null
  else match flagOfWord? s with
    | some b => .ok (.flag b)
    | none =>
      match integerDatum? s.toList with
      | some d => d
      | none =>
        if !hasIdleZero s.toList && isFraction s then .ok .real else .ok (.text s)

/-- A scalar as data. A tag of a type makes it one of that type; another tag makes it a text. -/
def Scalar.datum (s : Scalar) : Decoded Datum :=
  match s.tag with
  | none => if s.style = .plain then plainDatum s.text else .ok (.text s.text)
  | some tag =>
    if isCustomTag s.tag then .error none
    else if tag = coreTag "bool" then
      match flagOfWord? s.text with
      | some b => .ok (.flag b)
      | none => .error none
    else if tag = coreTag "int" then (integerDatum? s.text.toList).getD (.error none)
    else if tag = coreTag "float" then if isFraction s.text then .ok .real else .error none
    else if tag = coreTag "null" then if isNullWord s.text then .ok .null else .error none
    else .ok (.text s.text)

/-- A node as data. Containers may nest so deep only. -/
def readDatum (d : Document) : Nat → Node → Reading Datum
  | depth, n => do
    match ← follow d n, depth with
    | .scalar s, _ => s.datum
    | .list tag items, depth + 1 =>
      if isCustomTag tag then wrong else Datum.list <$> items.mapM (readDatum d depth)
    | .map tag members, depth + 1 =>
      if isCustomTag tag then wrong
      else Datum.map <$> members.mapM fun (key, value) => do
        let key ← readDatum d depth key
        let value ← readDatum d depth value
        pure (key, value)
    | _, _ => wrong

end HostScript.Yaml
