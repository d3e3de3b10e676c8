import HostScript.Text.Decimal

/-!
# Calculations of the shell

Formulas over integers, with the usual signs and their ranks. A name stands for the integer in the
variable of that name. A condition has the value one or zero.
-/
namespace HostScript.Shell

inductive Sign where
  | number (n : Int)
  | name (s : String)
  | operator (s : String)
  deriving DecidableEq

/-- The operators between two operands with their ranks; a higher one binds closer. -/
def ranks : List (String × Nat) :=
  [("||", 1), ("&&", 2), ("|", 3), ("^", 4), ("&", 5), ("==", 6), ("!=", 6), ("<=", 7), (">=", 7),
    ("<", 7), (">", 7), ("<<", 8), (">>", 8), ("+", 9), ("-", 9), ("*", 10), ("/", 10), ("%", 10)]

/-- The operators as characters, longer ones before their beginnings. -/
def operatorTexts : List String :=
  ["||", "&&", "==", "!=", "<=", ">=", "<<", ">>", "|", "^", "&", "<", ">", "+", "-", "*", "/", "%",
    "(", ")", "!", "~"]

/-- Cuts a formula into its parts. -/
def signs : Nat → List Char → Option (List Sign)
  | 0, _ => none
  | _, [] => some []
  | fuel + 1, c :: cs =>
    if c = ' ' || c = '\t' || c = '\n' then signs fuel cs
    else if c.isDigit then
      let digits := (c :: cs).takeWhile Char.isDigit
      let n : Nat := digits.foldl (fun n d => n * 10 + (d.toNat - 48)) 0
      (signs fuel ((c :: cs).drop digits.length)).map (.number n :: ·)
    else if c.isAlpha || c = '_' then
      let isPart (d : Char) : Bool := d.isAlphanum || d = '_'
      let name := (c :: cs).takeWhile isPart
      (signs fuel ((c :: cs).drop name.length)).map (.name (String.ofList name) :: ·)
    else match operatorTexts.find? fun o => o.toList.isPrefixOf (c :: cs) with
      | none => none
      | some o => (signs fuel ((c :: cs).drop o.length)).map (.operator o :: ·)

/-- One for a condition that holds, and zero for one that does not. -/
def truth (b : Bool) : Int := if b then 1 else 0

/-- The value of an operator between two operands. Division by zero has none. -/
def applySign (o : String) (a b : Int) : Option Int :=
  match o with
  | "||" => some (truth (a ≠ 0 || b ≠ 0))
  | "&&" => some (truth (a ≠ 0 && b ≠ 0))
  | "==" => some (truth (a = b))
  | "!=" => some (truth (a ≠ b))
  | "<=" => some (truth (a ≤ b))
  | ">=" => some (truth (b ≤ a))
  | "<" => some (truth (a < b))
  | ">" => some (truth (b < a))
  | "+" => some (a + b)
  | "-" => some (a - b)
  | "*" => some (a * b)
  | "/" => if b = 0 then none else some (a.tdiv b)
  | "%" => if b = 0 then none else some (a.tmod b)
  | _ => none

mutual

/-- Reads an operand with the signs in front of it. -/
def readOperand (value : String → Int) : Nat → List Sign → Option (Int × List Sign)
  | 0, _ => none
  | _, .number n :: rest => some (n, rest)
  | _, .name s :: rest => some (value s, rest)
  | fuel + 1, .operator o :: rest =>
    match o with
    | "-" => (readOperand value fuel rest).map fun (a, rest) => (-a, rest)
    | "+" => readOperand value fuel rest
    | "!" => (readOperand value fuel rest).map fun (a, rest) => (truth (a = 0), rest)
    | "~" => (readOperand value fuel rest).map fun (a, rest) => (-a - 1, rest)
    | "(" =>
      match readFormula value 0 fuel rest with
      | some (a, .operator ")" :: rest) => some (a, rest)
      | _ => none
    | _ => none
  | _, [] => none

/-- Reads a formula up to an operator whose rank is not above a given one. -/
def readFormula (value : String → Int) (rank : Nat) : Nat → List Sign → Option (Int × List Sign)
  | 0, _ => none
  | fuel + 1, signs =>
    match readOperand value fuel signs with
    | none => none
    | some (a, rest) => readOperators value rank a fuel rest

/-- Reads further operators and operands onto a value. -/
def readOperators (value : String → Int) (rank : Nat) (a : Int) :
    Nat → List Sign → Option (Int × List Sign)
  | 0, _ => none
  | fuel + 1, .operator o :: rest =>
    match (ranks.lookup o).filter fun r => rank < r with
    | none => some (a, .operator o :: rest)
    | some r =>
      match readFormula value r fuel rest with
      | none => none
      | some (b, rest) =>
        match applySign o a b with
        | none => none
        | some c => readOperators value rank c fuel rest
  | _, rest => some (a, rest)

end

/-- The value of a formula. One without content is zero. -/
def calculate (value : String → Int) (formula : String) : Option Int := do
  let found ← signs (formula.length + 1) formula.toList
  if found.isEmpty then some 0
  else match readFormula value 0 (3 * found.length + 3) found with
    | some (a, []) => some a
    | _ => none

end HostScript.Shell
