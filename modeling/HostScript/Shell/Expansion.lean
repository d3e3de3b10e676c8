import HostScript.Shell.Calculation
import HostScript.Shell.Machine
import HostScript.Shell.Pattern
import HostScript.Shell.Test
import HostScript.Text.Utf8

/-!
# Expansion of words

A word becomes fields: its parameters, the output of its commands and its formulas are put in, values
without quotes are split at blanks, and a field that is a pattern is replaced by the paths that match it.
-/
namespace HostScript.Shell

/-- What an expansion adds to the fields: marked characters, or the end of a field. -/
inductive Bit where
  | chars (cs : List Marked)
  | field

/-- The name of a parameter in a message. -/
def Parameter.title : Parameter → String
  | .position n => Text.natural n
  | .count => "#"
  | .status => "?"
  | .process => "$"
  | .all joined => if joined then "*" else "@"
  | .named name => name

namespace Machine

def value? (m : Machine) : Parameter → Option String
  | .position 0 => some m.name
  | .position (n + 1) => m.arguments[n]?
  | .count => some (Text.natural m.arguments.length)
  | .status => some (Text.natural m.status)
  | .process => some "2"
  | .all _ => some (" ".intercalate m.arguments)
  | .named name => m.bindings.lookup name

def quotedBits (s : String) : List Bit := [.chars (s.toList.map fun c => (c, true))]

/-- Text without quotes, split at blanks. -/
def splitBits : List Char → List Bit
  | [] => []
  | c :: cs =>
    if c = ' ' || c = '\t' || c = '\n' then .field :: splitBits cs
    else .chars [(c, false)] :: splitBits cs

/-- A value, split unless it is quoted. -/
def valueBits (quoted : Bool) (s : String) : List Bit :=
  if quoted then quotedBits s else splitBits s.toList

/-- The fields that bits make up. A field exists as soon as something was put into it. -/
def fieldsOf (bits : List Bit) : List (List Marked) :=
  let step (acc : List (List Marked) × Option (List Marked)) : Bit →
      List (List Marked) × Option (List Marked)
    | .chars cs => (acc.1, some (acc.2.getD [] ++ cs))
    | .field => match acc.2 with
      | none => acc
      | some f => (acc.1 ++ [f], none)
  let (fields, last) := bits.foldl step ([], none)
  match last with
  | none => fields
  | some f => fields ++ [f]

/-- The characters of bits, with blanks between fields. -/
def charsOf (bits : List Bit) : List Marked :=
  bits.flatMap fun
    | .chars cs => cs
    | .field => [(' ', false)]

/-- Cuts the part that a pattern matches off one end. -/
def cutMatch (back longest : Bool) (pattern : List Glob) (cs : List Char) : List Char :=
  let lengths := List.range (cs.length + 1)
  let lengths := if longest then lengths.reverse else lengths
  let fits (n : Nat) :=
    Glob.matches pattern (if back then cs.drop (cs.length - n) else cs.take n)
  match lengths.find? fits with
  | none => cs
  | some n => if back then cs.take (cs.length - n) else cs.drop n

/-- The integer in a variable; what is no integer counts as zero. -/
def integerIn (m : Machine) (name : String) : Int :=
  ((m.bindings.lookup name).bind integerText?).getD 0

/-- Puts the value of a parameter into words, unless the parameter is amended. -/
def parameterBits (m : Machine) (quoted : Bool) (p : Parameter) : List Bit × Machine :=
  match p, quoted with
  | .all false, true => ((m.arguments.map quotedBits).intersperse [.field] |>.flatten, m)
  | .all _, false =>
    ((m.arguments.map fun a => splitBits a.toList).intersperse [.field] |>.flatten, m)
  | _, _ =>
    match m.value? p with
    | some v => (valueBits quoted v, m)
    | none => ([], if m.careful then m.refuse (p.title ++ ": parameter not set") else m)

/-- The bits of what a command wrote, without the line feeds at its end. -/
def outputBits (quoted : Bool) (bytes : ByteArray) : List Bit :=
  let text := (Text.decodeLossy bytes).toList.reverse.dropWhile (· = '\n')
  valueBits quoted (String.ofList text.reverse)

def textOf (bits : List Bit) : String := String.ofList ((charsOf bits).map (·.1))

/-- Expands a word into bits. Commands are executed by the function that is handed in; a piece inside an
operand spends fuel. -/
def bits (run : List Char → Machine → Machine) : Nat → Machine → Word → List Bit × Machine
  | 0, m, _ => ([], m)
  | _, m, [] => ([], m)
  | fuel + 1, m, piece :: rest =>
    let (first, m) : List Bit × Machine := match piece with
      | .text quoted cs => ([.chars (cs.map fun c => (c, quoted))], m)
      | .output quoted script =>
        let sub := run script { m with out := .output, output := .empty }
        (outputBits quoted sub.output,
          { m with
            files := { sub.files with here := m.files.here }
            errors := sub.errors
            inner := some sub.result.status })
      | .calculation quoted formula =>
        let (found, m) := bits run fuel m formula
        match calculate m.integerIn (textOf found) with
        | some n => (valueBits quoted (Text.integer n), m)
        | none => ([], m.refuse ("arithmetic expression: expecting primary: \"" ++ textOf found ++ "\""))
      | .parameter quoted p amendment operand =>
        let value := m.value? p
        let given (orEmpty : Bool) := value.filter fun v => !(orEmpty && v.isEmpty)
        let other (_ : Unit) := bits run fuel m operand
        match amendment with
        | .none => m.parameterBits quoted p
        | .length => (valueBits quoted (Text.natural (value.getD "").length), m)
        | .otherwise orEmpty =>
          match given orEmpty with
          | some v => (valueBits quoted v, m)
          | none => other ()
        | .assigned orEmpty =>
          match given orEmpty with
          | some v => (valueBits quoted v, m)
          | none =>
            let (found, m) := other ()
            (found, m.assign p.title (textOf found))
        | .demanded orEmpty =>
          match given orEmpty with
          | some v => (valueBits quoted v, m)
          | none =>
            let (found, m) := other ()
            let message := if found.isEmpty then "parameter not set" else textOf found
            ([], m.refuse (p.title ++ ": " ++ message))
        | .instead orEmpty =>
          match given orEmpty with
          | some _ => other ()
          | none => ([], m)
        | .cut back longest =>
          let (pattern, m) := other ()
          let kept := cutMatch back longest (globs (charsOf pattern)) (value.getD "").toList
          (valueBits quoted (String.ofList kept), m)
    let (others, m) := bits run fuel m rest
    (first ++ others, m)

/-- Whether a word is nothing but all arguments one by one, which may be none. -/
def isArgumentList : Word → Bool
  | [.text true [], .parameter true (.all false) .none []] => true
  | [.parameter true (.all false) .none []] => true
  | _ => false

/-- Extends paths by the names in their folders that a pattern matches. -/
def extendPaths (files : FileSystem) (pattern : List Marked) (fronts : List String) : List String :=
  if isPattern pattern then
    fronts.flatMap fun front =>
      match files.find (if front.isEmpty then "." else front) with
      | .ok (l, .folder) =>
        let hidden := (pattern.head?).map (·.1) = some '.'
        let names := (files.names l).filter fun name =>
          (hidden || name.toList.head? ≠ some '.') && Glob.matches (globs pattern) name.toList
        (names.mergeSort (fun a b => a ≤ b)).map fun name => front ++ name
      | _ => []
  else
    let name := String.ofList (pattern.map (·.1))
    (fronts.map (· ++ name)).filter fun path => path.isEmpty || (files.find path).toOption.isSome

/-- The paths that a pattern matches, part by part. -/
def matchPaths (files : FileSystem) : List (List Marked) → List String → List String
  | [], fronts => fronts
  | [part], fronts => extendPaths files part fronts
  | part :: rest, fronts =>
    matchPaths files rest ((extendPaths files part fronts).map (· ++ "/"))

/-- A field as texts: the paths it matches, if it is a pattern that matches any. -/
def fieldTexts (files : FileSystem) (field : List Marked) : List String :=
  let plain := String.ofList (field.map (·.1))
  if isPattern field then
    match matchPaths files (field.splitOnP (·.1 = '/')) [""] with
    | [] => [plain]
    | paths => paths
  else [plain]

def fields (run : List Char → Machine → Machine) (fuel : Nat) (m : Machine) (w : Word) :
    List String × Machine :=
  let (found, m) := bits run fuel m w
  if isArgumentList w && m.arguments.isEmpty then ([], m)
  else ((fieldsOf found).flatMap (fieldTexts m.files), m)

def allFields (run : List Char → Machine → Machine) (fuel : Nat) (m : Machine) :
    List Word → List String × Machine
  | [] => ([], m)
  | w :: ws =>
    let (first, m) := fields run fuel m w
    let (rest, m) := allFields run fuel m ws
    (first ++ rest, m)

def oneText (run : List Char → Machine → Machine) (fuel : Nat) (m : Machine) (w : Word) :
    String × Machine :=
  let (found, m) := bits run fuel m w
  (textOf found, m)

end Machine

end HostScript.Shell
