import HostScript.Yaml.Block
import HostScript.Yaml.Plain
import HostScript.Yaml.Property
import HostScript.Yaml.QuotedScalar

/-!
# Tokens of a YAML text

A text is cut into tokens from left to right. A key that no question mark announces is noticed only at
its colon; the place where it may have begun is kept until then, and the key token is put in there
afterwards. Such a key stays on one line and within 1024 characters. Where the text cannot be cut any
further, the tokens in front of the first place that may still be a key are settled.
-/
namespace HostScript.Yaml

inductive Token where
  | directive (d : Directive)
  | documentStart
  | documentEnd
  | streamEnd
  | blockList
  | blockMap
  | blockEnd
  | flowList
  | flowListEnd
  | flowMap
  | flowMapEnd
  | item
  | comma
  | key
  | value
  | alias (name : String)
  | anchor (name : String)
  | tag (name : TagName)
  | scalar (text : String) (style : ScalarStyle)

/-- A place where a key may have begun: the depth in brackets, whether nothing but a key may stand there,
the number of its first token and where it is. -/
structure KeyPlace where
  depth : Nat
  required : Bool
  number : Nat
  mark : Mark

structure Scan where
  cursor : Cursor
  /-- The tokens so far, latest first, and how many they are. -/
  tokens : List Token
  count : Nat
  /-- The first column inside the innermost block, and those of the blocks around it. -/
  floor : Nat
  floors : List Nat
  /-- The depth in brackets. -/
  depth : Nat
  keyAllowed : Bool
  /-- The places of possible keys, innermost first, at most one for each depth. -/
  keys : List KeyPlace

namespace Scan

def start (text : List Char) : Scan := ⟨⟨Mark.start, text⟩, [], 0, 0, [], 0, true, []⟩

def inBrackets (s : Scan) : Bool := 0 < s.depth

/-- Adds a token at the end. -/
def emit (s : Scan) (t : Token) : Scan := { s with tokens := t :: s.tokens, count := s.count + 1 }

/-- Puts a token in front of the token of a number. -/
def insert (s : Scan) (number : Nat) (t : Token) : Scan :=
  let later := s.count - number
  { s with
    tokens := s.tokens.take later ++ t :: s.tokens.drop later
    count := s.count + 1 }

/-- Whether a key that began at a place could still end here. -/
def isFresh (s : Scan) (k : KeyPlace) : Bool :=
  k.mark.line = s.cursor.mark.line && s.cursor.mark.index ≤ k.mark.index + 1024

/-- Gives up the places whose key would be too long. A required key must not be given up. -/
def dropStale? (s : Scan) : Option Scan :=
  if s.keys.any fun k => k.required && !s.isFresh k then none
  else some { s with keys := s.keys.filter s.isFresh }

/-- The tokens in front of which no key token can come any more. -/
def settled (s : Scan) : Nat :=
  match s.keys.getLast? with
  | none => s.count
  | some k => k.number

/-- Gives up the place of the present depth. -/
def dropKey? (s : Scan) : Option Scan :=
  match s.keys with
  | [] => some s
  | k :: ks =>
    if k.depth ≠ s.depth then some s
    else if k.required then none
    else some { s with keys := ks }

/-- Keeps the present place, if a key is allowed here. -/
def saveKey? (s : Scan) : Option Scan :=
  if s.keyAllowed then do
    let s ← s.dropKey?
    let required := !s.inBrackets && s.floor = s.cursor.mark.column + 1
    some { s with keys := ⟨s.depth, required, s.count, s.cursor.mark⟩ :: s.keys }
  else some s

/-- Opens a block at a column, unless one that reaches as far is open. Its token comes in front of the
token of a number. -/
def openBlock (s : Scan) (column number : Nat) (t : Token) : Scan :=
  if s.inBrackets || column < s.floor then s
  else { s.insert number t with floor := column + 1, floors := s.floor :: s.floors }

/-- The floors that stay when blocks to the right of a limit are closed, and how many are closed. -/
def closedFloors (limit floor : Nat) : List Nat → Nat × List Nat × Nat
  | [] => (floor, [], 0)
  | f :: fs =>
    if limit < floor then
      let (kept, rest, closed) := closedFloors limit f fs
      (kept, rest, closed + 1)
    else (floor, f :: fs, 0)

/-- Closes the blocks whose first column lies to the right of a limit. -/
def closeBlocks (s : Scan) (limit : Nat) : Scan :=
  if s.inBrackets then s
  else
    let (floor, floors, closed) := closedFloors limit s.floor s.floors
    { s with
      floor, floors
      tokens := List.replicate closed .blockEnd ++ s.tokens
      count := s.count + closed }

/-- Goes on by characters of one line. -/
def skip (s : Scan) (n : Nat) : Scan :=
  { s with cursor := ⟨s.cursor.mark.forward n, s.cursor.rest.drop n⟩ }

/-- Closes everything at the end of the text. -/
def scanEnd? (s : Scan) : Option Scan := do
  let mark := s.cursor.mark
  let mark := if mark.column = 0 then mark else ⟨mark.index, mark.line + 1, 0⟩
  let s ← ({ s with cursor := ⟨mark, []⟩ }.closeBlocks 0).dropKey?
  some ({ s with keyAllowed := false }.emit .streamEnd)

def scanDirective? (s : Scan) : Option Scan := do
  let s ← (s.closeBlocks 0).dropKey?
  let (directive, cursor) ← readDirective (s.skip 1).cursor
  some ({ s with keyAllowed := false, cursor }.emit (.directive directive))

/-- A mark of a document. -/
def scanDocumentMark? (s : Scan) (t : Token) : Option Scan := do
  let s ← (s.closeBlocks 0).dropKey?
  some ({ s with keyAllowed := false }.skip 3 |>.emit t)

def scanOpening? (s : Scan) (t : Token) : Option Scan := do
  let s ← s.saveKey?
  some ({ s with depth := s.depth + 1, keyAllowed := true }.skip 1 |>.emit t)

def scanClosing? (s : Scan) (t : Token) : Option Scan := do
  let s ← s.dropKey?
  some ({ s with depth := s.depth - 1, keyAllowed := false }.skip 1 |>.emit t)

def scanComma? (s : Scan) : Option Scan := do
  let s ← s.dropKey?
  some ({ s with keyAllowed := true }.skip 1 |>.emit .comma)

/-- A dash in front of an item. -/
def scanItem? (s : Scan) : Option Scan := do
  if !s.inBrackets && !s.keyAllowed then none
  let s ← (s.openBlock s.cursor.mark.column s.count .blockList).dropKey?
  some ({ s with keyAllowed := true }.skip 1 |>.emit .item)

/-- A question mark in front of a key. -/
def scanKey? (s : Scan) : Option Scan := do
  if !s.inBrackets && !s.keyAllowed then none
  let s ← (s.openBlock s.cursor.mark.column s.count .blockMap).dropKey?
  some ({ s with keyAllowed := !s.inBrackets }.skip 1 |>.emit .key)

/-- A colon in front of a value. If a key may have begun at this depth, it did. -/
def scanValue? (s : Scan) : Option Scan :=
  match s.keys with
  | k :: ks =>
    if k.depth = s.depth then
      let s := (({ s with keys := ks }.insert k.number .key).openBlock k.mark.column k.number .blockMap)
      some ({ s with keyAllowed := false }.skip 1 |>.emit .value)
    else withoutKey s
  | [] => withoutKey s
where
  /-- A colon without a key. -/
  withoutKey (s : Scan) : Option Scan := do
    if !s.inBrackets && !s.keyAllowed then none
    let s := s.openBlock s.cursor.mark.column s.count .blockMap
    some ({ s with keyAllowed := !s.inBrackets }.skip 1 |>.emit .value)

def scanName? (s : Scan) (token : String → Token) : Option Scan := do
  let s ← s.saveKey?
  let (name, cursor) ← readAnchor (s.skip 1).cursor
  some ({ s with keyAllowed := false, cursor }.emit (token name))

def scanTag? (s : Scan) : Option Scan := do
  let s ← s.saveKey?
  let (name, cursor) ← readTag s.inBrackets s.cursor
  some ({ s with keyAllowed := false, cursor }.emit (.tag name))

def scanBlockScalar? (s : Scan) (style : ScalarStyle) : Option Scan := do
  let s ← s.dropKey?
  let read ← readBlockScalar (style = .folded) s.floor (s.skip 1).cursor
  some ({ s with keyAllowed := true, cursor := read.cursor }.emit
    (.scalar (String.ofList read.text.reverse) style))

def scanQuoted? (s : Scan) (style : ScalarStyle) : Option Scan := do
  let s ← s.saveKey?
  let c := (s.skip 1).cursor
  let read ← readQuoted (style = .singleQuoted) [] (.words .nothing) c.mark c.rest
  some ({ s with keyAllowed := false, cursor := read.cursor }.emit
    (.scalar (String.ofList read.text.reverse) style))

def scanPlain? (s : Scan) : Option Scan := do
  let s ← s.saveKey?
  let read ← readPlain s.inBrackets s.floor [] .nothing s.cursor.mark s.cursor.rest
  some ({ s with keyAllowed := read.brokeOff, cursor := read.cursor }.emit
    (.scalar (String.ofList read.text.reverse) .plain))

/-- Whether a plain scalar may start with a character. -/
def startsPlain (inBrackets : Bool) (c : Char) (rest : List Char) : Bool :=
  if c = '-' then
    match rest with
    | d :: _ => !isWhite d
    | [] => true
  else if c = '?' || c = ':' then !inBrackets && !endsWord rest
  else !(isWhite c || isFlowIndicator c ||
    ['#', '&', '*', '!', '|', '>', '\'', '"', '%', '@', '\x60'].contains c)

/-- Cuts the next token at a character that is no space. -/
def scanAt? (s : Scan) (c : Char) (rest : List Char) : Option Scan :=
  let mark := s.cursor.mark
  if mark.column = 0 && c = '%' then s.scanDirective?
  else if isDocumentMark '-' mark (c :: rest) then s.scanDocumentMark? .documentStart
  else if isDocumentMark '.' mark (c :: rest) then s.scanDocumentMark? .documentEnd
  else if c = '[' then s.scanOpening? .flowList
  else if c = '{' then s.scanOpening? .flowMap
  else if c = ']' then s.scanClosing? .flowListEnd
  else if c = '}' then s.scanClosing? .flowMapEnd
  else if c = ',' then s.scanComma?
  else if c = '-' && endsWord rest then s.scanItem?
  else if c = '?' && (s.inBrackets || endsWord rest) then s.scanKey?
  else if c = ':' && (s.inBrackets || endsWord rest) then s.scanValue?
  else if c = '*' then s.scanName? .alias
  else if c = '&' then s.scanName? .anchor
  else if c = '!' then s.scanTag?
  else if c = '|' && !s.inBrackets then s.scanBlockScalar? .literal
  else if c = '>' && !s.inBrackets then s.scanBlockScalar? .folded
  else if c = '\'' then s.scanQuoted? .singleQuoted
  else if c = '"' then s.scanQuoted? .doubleQuoted
  else if startsPlain s.inBrackets c rest then s.scanPlain?
  else none

/-- Cuts the next token, and says whether it is the last. -/
def next? (s : Scan) : Option (Scan × Bool) := do
  let reached := approach s.inBrackets false s.keyAllowed s.cursor.mark s.cursor.rest
  let s ← { s with keyAllowed := reached.keyAllowed, cursor := reached.cursor }.dropStale?
  let s := s.closeBlocks (s.cursor.mark.column + 1)
  match s.cursor.rest with
  | [] => (← s.scanEnd?, true)
  | c :: rest => (← s.scanAt? c rest, false)

end Scan

/-- The tokens of a text, as far as it can be cut, and whether that is to the end. -/
structure Tokens where
  list : List Token
  complete : Bool

/-- The tokens of a state that are settled. -/
def Scan.cutOff (s : Scan) (settled : Nat) : Tokens :=
  ⟨(s.tokens.drop (s.count - settled)).reverse, false⟩

/-- Cuts tokens until the text is at its end. Each token but the last takes at least one character. -/
def Scan.cut (settled : Nat) : Nat → Scan → Tokens
  | 0, s => s.cutOff settled
  | fuel + 1, s =>
    match s.dropStale? with
    | none => s.cutOff settled
    | some s =>
      match s.next? with
      | none => s.cutOff s.settled
      | some (t, false) => t.cut s.settled fuel
      | some (t, true) =>
        match t.dropStale? with
        | none => t.cutOff s.settled
        | some t => ⟨t.tokens.reverse, true⟩

/-- The tokens of a text. A text with a character that may not stand in it has none. -/
def tokensOf (text : String) : Tokens :=
  if text.toList.all isAllowed then
    let chars := plainBreaks text.toList
    (Scan.start chars).cut 0 (chars.length + 1)
  else ⟨[], false⟩

end HostScript.Yaml
