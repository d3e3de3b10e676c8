import HostScript.Shell.Call
import HostScript.Text.Decimal

/-!
# Tests

The conditions of `test`: about one text, about files, and between two texts or two integers. How many
arguments there are decides how they are taken.
-/
namespace HostScript.Shell

inductive TestFault where
  | noBracket
  | noArgument (last : String)
  | notBinary (first operator : String)
  | notUnary (operator : String)
  | notNumber (text : String)

/-- The message of a shell about a fault. -/
def TestFault.inShell : TestFault → String
  | .noBracket => "missing ]"
  | .noArgument last => last ++ ": unexpected operator"
  | .notBinary first _ => first ++ ": unexpected operator"
  | .notUnary operator => operator ++ ": unexpected operator"
  | .notNumber text => "Illegal number: " ++ text

/-- The message of a program about a fault. -/
def TestFault.inProgram : TestFault → String
  | .noBracket => "missing " ++ curvedQuoted "]"
  | .noArgument last => "missing argument after " ++ curvedQuoted last
  | .notBinary _ operator => curvedQuoted operator ++ ": binary operator expected"
  | .notUnary operator => curvedQuoted operator ++ ": unary operator expected"
  | .notNumber text => "invalid integer " ++ curvedQuoted text

/-- The integer that a text is. -/
def integerText? (s : String) : Option Int :=
  let digits? (cs : List Char) : Option Nat :=
    if !cs.isEmpty && cs.all Char.isDigit then
      some (cs.foldl (fun n d => n * 10 + (d.toNat - 48)) 0)
    else none
  match s.toList with
  | '-' :: cs => (digits? cs).map fun n => -(n : Int)
  | '+' :: cs => (digits? cs).map fun n => (n : Int)
  | cs => (digits? cs).map fun n => (n : Int)

/-- A condition on one argument. -/
def unaryTest (files : FileSystem) (operator operand : String) : Option Bool :=
  let found := files.find operand
  match operator with
  | "-n" => some (!operand.isEmpty)
  | "-z" => some operand.isEmpty
  | "-e" => some found.toOption.isSome
  | "-r" => some found.toOption.isSome
  | "-w" => some found.toOption.isSome
  | "-f" => some (match found with
      | .ok (_, .file _) => true
      | _ => false)
  | "-d" => some (match found with
      | .ok (_, .folder) => true
      | _ => false)
  | "-x" => some (match found with
      | .ok (_, .folder) => true
      | _ => false)
  | "-s" => some (match found with
      | .ok (_, .file bytes) => !bytes.isEmpty
      | .ok (_, .folder) => true
      | _ => false)
  | "-h" => some false
  | "-L" => some false
  | "-t" => some false
  | _ => none

def integerRelation? (operator : String) : Option (Int → Int → Bool) :=
  match operator with
  | "-eq" => some fun a b => a = b
  | "-ne" => some fun a b => a ≠ b
  | "-lt" => some fun a b => a < b
  | "-le" => some fun a b => a ≤ b
  | "-gt" => some fun a b => b < a
  | "-ge" => some fun a b => b ≤ a
  | _ => none

/-- A condition on two arguments with an operator between them. -/
def binaryTest (first operator second : String) : Option (Except TestFault Bool) :=
  match operator with
  | "=" => some (.ok (first = second))
  | "==" => some (.ok (first = second))
  | "!=" => some (.ok (first ≠ second))
  | "-a" => some (.ok (!first.isEmpty && !second.isEmpty))
  | "-o" => some (.ok (!first.isEmpty || !second.isEmpty))
  | _ =>
    (integerRelation? operator).map fun holds =>
      match integerText? first, integerText? second with
      | some a, some b => .ok (holds a b)
      | none, _ => .error (.notNumber first)
      | _, none => .error (.notNumber second)

/-- Whether a condition of up to three arguments holds. -/
def shortCondition (files : FileSystem) : List String → Except TestFault Bool
  | [] => .ok false
  | [s] => .ok (!s.isEmpty)
  | [a, b] =>
    if a = "!" then .ok b.isEmpty
    else match unaryTest files a b with
      | some holds => .ok holds
      | none =>
        if a.toList.head? = some '-' && a.length = 2 then .error (.notUnary a)
        else .error (.noArgument b)
  | [a, b, c] =>
    match binaryTest a b c with
    | some result => result
    | none =>
      if a = "!" then (shortCondition files [b, c]).map (!·)
      else if a = "(" && c = ")" then .ok (!b.isEmpty)
      else .error (.notBinary a b)
  | a :: rest => .error (.noArgument ((rest.getLast?).getD a))

/-- Splits arguments at every occurrence of one. -/
def splitArguments (mark : String) : List String → List (List String)
  | [] => [[]]
  | a :: rest =>
    match splitArguments mark rest with
    | [] => [[a]]
    | first :: others => if a = mark then [] :: first :: others else (a :: first) :: others

/-- Whether all conditions of a list hold. -/
def allHold (files : FileSystem) : List (List String) → Except TestFault Bool
  | [] => .ok true
  | c :: cs => do
    let first ← if c.length = 4 && c.head? = some "!" then (shortCondition files (c.drop 1)).map (!·)
      else shortCondition files c
    let others ← allHold files cs
    .ok (first && others)

/-- Whether one condition of a list of joined ones holds. -/
def oneHolds (files : FileSystem) : List (List String) → Except TestFault Bool
  | [] => .ok false
  | c :: cs => do
    let first ← allHold files (splitArguments "-a" c)
    let others ← oneHolds files cs
    .ok (first || others)

/-- Whether a condition holds. A longer one is made of short ones. -/
def condition (files : FileSystem) (arguments : List String) : Except TestFault Bool :=
  if arguments.length ≤ 3 then shortCondition files arguments
  else oneHolds files (splitArguments "-o" arguments)

/-- The exit status of a condition, with a message where it is none. -/
def testReply (wording : TestFault → String) : Utility := fun call =>
  let result :=
    if call.name = "[" then
      if call.arguments.getLast? = some "]" then condition call.files call.arguments.dropLast
      else .error .noBracket
    else condition call.files call.arguments
  match result with
  | .ok true => .silent call.files 0
  | .ok false => .silent call.files 1
  | .error fault => (Reply.silent call.files 2).complain call.name (wording fault) 2

end HostScript.Shell
