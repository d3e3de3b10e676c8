import HostScript.Yaml.Token

/-!
# Events of a YAML document

The tokens of the first document are taken as the nodes that they open, fill and close. What is still
expected stands on a stack of goals, so that nodes may nest without limit. Every goal looks at the next
token, and takes it or not; when the tokens run out, the events stop.
-/
namespace HostScript.Yaml

/-- A step through the nodes of a document. Collections keep their tag as it is; a scalar drops the tag
`!`, which says only that it is one. -/
inductive Event where
  | alias (name : String)
  | scalar (anchor : Option String) (value : Scalar)
  | listStart (anchor tag : Option String)
  | listEnd
  | mapStart (anchor tag : Option String)
  | mapEnd

/-- A place where a node may be left out. -/
inductive Vacancy where
  | afterDash
  | afterLooseDash
  | blockPart
  | flowKeyPart
  | flowValuePart
  | pairPart
  deriving DecidableEq

namespace Vacancy

/-- Whether a token says that the node was left out. -/
def isLeftOut : Vacancy → Token → Bool
  | .afterDash, .item => true
  | .afterDash, .blockEnd => true
  | .afterLooseDash, .item => true
  | .afterLooseDash, .key => true
  | .afterLooseDash, .value => true
  | .afterLooseDash, .blockEnd => true
  | .blockPart, .key => true
  | .blockPart, .value => true
  | .blockPart, .blockEnd => true
  | .flowKeyPart, .value => true
  | .flowKeyPart, .comma => true
  | .flowKeyPart, .flowMapEnd => true
  | .flowValuePart, .comma => true
  | .flowValuePart, .flowMapEnd => true
  | .pairPart, .comma => true
  | .pairPart, .flowListEnd => true
  | _, _ => false

/-- Whether block collections may stand at the place. -/
def inBlock : Vacancy → Bool
  | .afterDash => true
  | .afterLooseDash => true
  | .blockPart => true
  | _ => false

/-- Whether a list without indentation may stand at the place. -/
def takesLooseList : Vacancy → Bool
  | .blockPart => true
  | _ => false

end Vacancy

inductive Goal where
  /-- A node, with the anchor and the tag already read. -/
  | node (inBlock takesLooseList : Bool) (anchor : Option String) (tag : Option TagName)
  | vacancy (place : Vacancy)
  /-- Items of a block list, and of one that is not indented. -/
  | blockItem
  | looseItem
  /-- Members of a block map. -/
  | blockKey
  | blockValue
  /-- Items of a list in brackets; `first` behind the bracket or a comma. -/
  | flowItem (first : Bool)
  /-- The one member of a map without brackets inside a list in brackets. -/
  | pairKey
  | pairValue
  | pairEnd
  /-- Members of a map in brackets; `first` behind the bracket or a comma. -/
  | flowKey (first : Bool)
  | flowValue
  | flowBareValue

/-- The scalar of a node that was left out. -/
def emptyScalar (anchor tag : Option String) : Event := .scalar anchor ⟨"", .plain, tag⟩

/-- The node goal without properties. -/
def Goal.flowNode : Goal := .node false false none none

/-- What a goal does at a token: the events it makes, the goals that take its place, and whether the
token is taken. -/
structure Move where
  events : List Event
  goals : List Goal
  taken : Bool

/-- Handles of tags with what they stand for. -/
abbrev Handles := List (String × String)

/-- The handles that every document knows. -/
def usualHandles : Handles := [("!", "!"), ("!!", coreTag "")]

/-- A tag in full. A tag whose handle is unknown has none. -/
def fullTag? (handles : Handles) : Option TagName → Option (Option String)
  | none => some none
  | some name =>
    if name.handle.isEmpty then some (some name.suffix)
    else (handles.lookup name.handle).map fun stem => some (stem ++ name.suffix)

/-- The content of a node whose properties are read. -/
def nodeMove? (inBlock takesLooseList : Bool) (anchor tag : Option String) : Token → Option Move
  | .item =>
    if takesLooseList then some ⟨[.listStart anchor tag], [.looseItem], false⟩ else bare
  | .scalar text style =>
    some ⟨[.scalar anchor ⟨text, style, if tag = some "!" then none else tag⟩], [], true⟩
  | .flowList => some ⟨[.listStart anchor tag], [.flowItem true], true⟩
  | .flowMap => some ⟨[.mapStart anchor tag], [.flowKey true], true⟩
  | .blockList => if inBlock then some ⟨[.listStart anchor tag], [.blockItem], true⟩ else bare
  | .blockMap => if inBlock then some ⟨[.mapStart anchor tag], [.blockKey], true⟩ else bare
  | _ => bare
where
  /-- A node that is nothing but its properties. -/
  bare : Option Move :=
    if anchor.isSome || tag.isSome then some ⟨[emptyScalar anchor tag], [], false⟩ else none

/-- What a goal does at a token. -/
def Goal.move? (handles : Handles) : Goal → Token → Option Move
  | .node _ _ none none, .alias name => some ⟨[.alias name], [], true⟩
  | .node inBlock loose none tag, .anchor name =>
    some ⟨[], [.node inBlock loose (some name) tag], true⟩
  | .node inBlock loose anchor none, .tag name =>
    some ⟨[], [.node inBlock loose anchor (some name)], true⟩
  | .node inBlock loose anchor tag, t =>
    (fullTag? handles tag).bind fun tag => nodeMove? inBlock loose anchor tag t
  | .vacancy place, t =>
    if place.isLeftOut t then some ⟨[emptyScalar none none], [], false⟩
    else some ⟨[], [.node place.inBlock place.takesLooseList none none], false⟩
  | .blockItem, .item => some ⟨[], [.vacancy .afterDash, .blockItem], true⟩
  | .blockItem, .blockEnd => some ⟨[.listEnd], [], true⟩
  | .blockItem, _ => none
  | .looseItem, .item => some ⟨[], [.vacancy .afterLooseDash, .looseItem], true⟩
  | .looseItem, _ => some ⟨[.listEnd], [], false⟩
  | .blockKey, .key => some ⟨[], [.vacancy .blockPart, .blockValue], true⟩
  | .blockKey, .blockEnd => some ⟨[.mapEnd], [], true⟩
  | .blockKey, _ => none
  | .blockValue, .value => some ⟨[], [.vacancy .blockPart, .blockKey], true⟩
  | .blockValue, _ => some ⟨[emptyScalar none none], [.blockKey], false⟩
  | .flowItem _, .flowListEnd => some ⟨[.listEnd], [], true⟩
  | .flowItem true, .key =>
    some ⟨[.mapStart none none], [.pairKey, .pairValue, .pairEnd, .flowItem false], true⟩
  | .flowItem true, _ => some ⟨[], [.flowNode, .flowItem false], false⟩
  | .flowItem false, .comma => some ⟨[], [.flowItem true], true⟩
  | .flowItem false, _ => none
  | .pairKey, .value => some ⟨[emptyScalar none none], [], true⟩
  | .pairKey, .comma => some ⟨[emptyScalar none none], [], true⟩
  | .pairKey, .flowListEnd => some ⟨[emptyScalar none none], [], true⟩
  | .pairKey, _ => some ⟨[], [.flowNode], false⟩
  | .pairValue, .value => some ⟨[], [.vacancy .pairPart], true⟩
  | .pairValue, _ => some ⟨[emptyScalar none none], [], false⟩
  | .pairEnd, _ => some ⟨[.mapEnd], [], false⟩
  | .flowKey _, .flowMapEnd => some ⟨[.mapEnd], [], true⟩
  | .flowKey true, .key => some ⟨[], [.vacancy .flowKeyPart, .flowValue], true⟩
  | .flowKey true, _ => some ⟨[], [.flowNode, .flowBareValue], false⟩
  | .flowKey false, .comma => some ⟨[], [.flowKey true], true⟩
  | .flowKey false, _ => none
  | .flowValue, .value => some ⟨[], [.vacancy .flowValuePart, .flowKey false], true⟩
  | .flowValue, _ => some ⟨[emptyScalar none none], [.flowKey false], false⟩
  | .flowBareValue, _ => some ⟨[emptyScalar none none], [.flowKey false], false⟩

/-- The events of a document, latest first, with the tokens behind it; these are absent if the document
is not whole. -/
structure Walk where
  events : List Event
  rest : Option (List Token)

/-- Pursues goals until none is left. Each token lets a bounded number of goals come and go. -/
def pursue (handles : Handles) : Nat → List Goal → List Token → List Event → Walk
  | _, [], tokens, events => ⟨events, some tokens⟩
  | _, _ :: _, [], events => ⟨events, none⟩
  | 0, _ :: _, _ :: _, events => ⟨events, none⟩
  | fuel + 1, g :: goals, t :: tokens, events =>
    match g.move? handles t with
    | none => ⟨events, none⟩
    | some move =>
      pursue handles fuel (move.goals ++ goals) (if move.taken then tokens else t :: tokens)
        (move.events.reverse ++ events)

/-- What the directives in front of a document said. -/
structure Preamble where
  versioned : Bool
  handles : Handles

/-- Takes directives. A version is given once, and is 1.1 or 1.2; a handle is given once. -/
def takeDirectives (p : Preamble) : List Token → Option (Preamble × List Token)
  | .directive (.version major minor) :: rest =>
    if p.versioned || major ≠ 1 || (minor ≠ 1 && minor ≠ 2) then none
    else takeDirectives { p with versioned := true } rest
  | .directive (.handle handle stem) :: rest =>
    if (p.handles.lookup handle).isSome then none
    else takeDirectives { p with handles := (handle, stem) :: p.handles } rest
  | rest => some (p, rest)

/-- The events of the first document, whether it is whole, and whether the text ends behind it. -/
structure Events where
  list : List Event
  sound : Bool

/-- Whether nothing but ends of documents stands before the end of the text. -/
def endsStream : List Token → Bool
  | .documentEnd :: rest => endsStream rest
  | .streamEnd :: _ => true
  | _ => false

/-- The events of a document with content. -/
def documentEvents (complete : Bool) (handles : Handles) (tokens : List Token) : Events :=
  let walk := pursue handles (16 * tokens.length + 16) [.node true false none none] tokens []
  ⟨walk.events.reverse, complete && (walk.rest.map endsStream).getD false⟩

/-- The events of the first document. A text without any has none, and is sound. -/
def eventsOf (tokens : Tokens) : Events :=
  match tokens.list with
  | [] => ⟨[], false⟩
  | .streamEnd :: _ => ⟨[], tokens.complete⟩
  | .directive _ :: _ => explicit
  | .documentStart :: _ => explicit
  | list => documentEvents tokens.complete usualHandles list
where
  /-- A document behind directives and its mark. -/
  explicit : Events :=
    match takeDirectives ⟨false, []⟩ tokens.list with
    | some (p, .documentStart :: rest) =>
      match rest with
      | [] => ⟨[], false⟩
      | .directive _ :: _ => vacant rest
      | .documentStart :: _ => vacant rest
      | .documentEnd :: _ => vacant rest
      | .streamEnd :: _ => vacant rest
      | _ => documentEvents tokens.complete (p.handles ++ usualHandles) rest
    | _ => ⟨[], false⟩
  /-- A document without content. -/
  vacant (rest : List Token) : Events :=
    ⟨[emptyScalar none none], tokens.complete && endsStream rest⟩

end HostScript.Yaml
