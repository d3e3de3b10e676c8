import HostScript.Proofs.Replay
import Mathlib

/-!
# Lines and bytes of a script

A script grows by one call with each step of its builder, and its size is reported in lines and in bytes.
The bytes add up. So do the lines as soon as there is a step: a call ends with a line feed, so that there are
as many lines as line feeds, which are those of the first text, one for each step and those in the texts that
the steps are given.
-/
namespace HostScript

namespace Text

/-! ## Line feeds and lines -/

def feeds (s : String) : ℕ := s.toList.count '\n'

/-- A line without the carriage return that may stand between it and its line feed. -/
def withoutReturn (line : List Char) : List Char :=
  if line.getLast? = some '\r' then line.dropLast else line

/-- The lines of what follows after the characters of a line that has begun. -/
def linesFrom (begun : List Char) : List Char → List String
  | [] => if begun = [] then [] else [String.ofList begun]
  | c :: cs =>
    if c = '\n' then String.ofList (withoutReturn begun) :: linesFrom [] cs else linesFrom (begun ++ [c]) cs

/-- The lines of a text without their ends. What stands behind the last line feed is a line if it is not
empty, and it keeps its carriage return. -/
def lines (s : String) : List String := linesFrom [] s.toList

@[simp] lemma feeds_empty : feeds "" = 0 := rfl

@[simp] lemma feeds_append (s t : String) : feeds (s ++ t) = feeds s + feeds t := by
  simp [feeds]

lemma feeds_eq_zero_iff {s : String} : feeds s = 0 ↔ '\n' ∉ s.toList := List.count_eq_zero

lemma utf8ByteSize_join (texts : List String) :
    (String.join texts).utf8ByteSize = (texts.map String.utf8ByteSize).sum := by
  induction texts with
  | nil => rfl
  | cons x texts ih => rw [String.join_cons, String.utf8ByteSize_append, ih, List.map_cons, List.sum_cons]

lemma length_linesFrom (begun cs : List Char) :
    (linesFrom begun cs).length = countLines (decide (begun ≠ [])) cs := by
  induction cs generalizing begun with
  | nil => by_cases hbegun : begun = [] <;> simp [linesFrom, countLines, hbegun]
  | cons c cs ih =>
    rw [linesFrom, countLines]
    by_cases hc : c = '\n'
    · simp [hc, ih]
    · simp [hc, ih]

/-- Lines are counted without being written down. -/
theorem length_lines (s : String) : (lines s).length = lineCount s := length_linesFrom [] s.toList

example : lines "\na\r\nb\r" = ["", "a", "b\r"] := by decide +kernel

lemma countLines_append_feed (begun : Bool) (cs : List Char) :
    countLines begun (cs ++ ['\n']) = cs.count '\n' + 1 := by
  induction cs generalizing begun with
  | nil => rfl
  | cons c cs ih =>
    rw [List.cons_append, countLines]
    by_cases hc : c = '\n'
    · rw [if_pos hc, ih, hc, List.count_cons_self]
    · rw [if_neg hc, ih, List.count_cons_of_ne hc]

/-- A text that ends with a line feed has a line for each line feed. -/
theorem lineCount_append_feed (s : String) : lineCount (s ++ "\n") = feeds s + 1 := by
  rw [lineCount, String.toList_append]
  exact countLines_append_feed false s.toList

lemma linesFrom_append_feed {line : List Char} (hline : '\n' ∉ line) (begun rest : List Char) :
    linesFrom begun (line ++ '\n' :: rest) =
      String.ofList (withoutReturn (begun ++ line)) :: linesFrom [] rest := by
  induction line generalizing begun with
  | nil => simp [linesFrom]
  | cons c line ih =>
    rw [List.mem_cons, not_or] at hline
    rw [List.cons_append, linesFrom, if_neg (Ne.symm hline.1), ih hline.2, List.append_assoc,
      List.singleton_append]

/-- A line is read back if it has no line feed in it and no carriage return at its end. -/
lemma lines_append_feed {line : String} (hfeeds : feeds line = 0)
    (hreturn : line.toList.getLast? ≠ some '\r') (rest : String) :
    lines (line ++ "\n" ++ rest) = line :: lines rest := by
  have htext : (line ++ "\n" ++ rest).toList = line.toList ++ '\n' :: rest.toList := by
    simp
  rw [lines, htext, linesFrom_append_feed (feeds_eq_zero_iff.mp hfeeds), List.nil_append, withoutReturn,
    if_neg hreturn, String.ofList_toList, lines]

end Text

/-! ## The line of a call -/

/-- The text of an argument, if it is one. -/
def Argument.strings : Argument → List String
  | .text value => [value]
  | .number _ => []

lemma Action.feeds_operation (a : Action) : Text.feeds a.operation = 0 := by
  cases a <;> decide

namespace Argument

/-- An argument has the line feeds of its text, and a number has none. -/
lemma feeds_written (a : Argument) : Text.feeds a.written = (a.strings.map Text.feeds).sum := by
  cases a with
  | text value => simp [written, strings, Text.feeds]
  | number value =>
    have hdigits : '\n' ∉ (Argument.number value).written.toList := by
      intro hfeed
      rw [toList_written_number] at hfeed
      have hnumeral := Text.isNumeral_of_mem_integerDigits hfeed
      exact absurd hnumeral (by simp [Text.IsNumeral])
    rw [Text.feeds_eq_zero_iff.mpr hdigits]
    rfl

lemma feeds_writtenArguments (as : List Argument) :
    Text.feeds (writtenArguments as) = ((as.flatMap strings).map Text.feeds).sum := by
  fun_induction writtenArguments as with
  | case1 => rfl
  | case2 a => simp [feeds_written]
  | case3 a b rest ih =>
    have hcomma : Text.feeds ", " = 0 := rfl
    simp [hcomma, ih, feeds_written]

end Argument

namespace Command

def strings (c : Command) : List String := c.arguments.flatMap Argument.strings

/-- The call of a command, as it stands on its line. -/
def statement (c : Command) : String := "akit." ++ c.call.1 ++ "(" ++ ", ".intercalate c.call.2 ++ ");"

lemma line_eq (c : Command) : c.line = c.statement ++ "\n" := by
  have hend : ");\n" = ");" ++ "\n" := rfl
  rw [line, statement, hend, ← String.append_assoc]

/-- Nothing in a line brings a line feed with it but the text arguments and the end. -/
theorem feeds_statement (c : Command) : Text.feeds c.statement = (c.strings.map Text.feeds).sum := by
  have hends : Text.feeds "akit." = 0 ∧ Text.feeds "(" = 0 ∧ Text.feeds ");\n" = 1 ∧
      Text.feeds "\n" = 1 := by decide
  have hline : Text.feeds c.text = (c.strings.map Text.feeds).sum + 1 := by
    rw [text, callText, Text.feeds_append, Text.feeds_append, Text.feeds_append, Text.feeds_append,
      Argument.feeds_writtenArguments, ← strings, c.action.feeds_operation]
    omega
  rw [text_eq_line, line_eq, Text.feeds_append] at hline
  omega

lemma getLast?_statement (c : Command) : c.statement.toList.getLast? = some ';' := by
  rw [statement, String.toList_append, List.getLast?_append]
  rfl

end Command

/-! ## The steps of a builder -/

namespace Script

/-- A step of a builder of scripts: a function that is called like a command, with all the fields of the
command, or a callback with fewer of them. -/
inductive Step where
  | full (c : Command)
  | callback (name : String)
  | callbackWith (name parameter : String)
  deriving DecidableEq

namespace Step

def perform : Step → Script → Except Fault Script
  | .full c, s => .ok (c.addTo s)
  | .callback name, s => s.callback name
  | .callbackWith name parameter, s => .ok (s.callbackWith name parameter)

/-- Performs steps one after the other and stops at the first that is refused. -/
def performAll : List Step → Script → Except Fault Script
  | [], s => .ok s
  | step :: steps, s =>
    match step.perform s with
    | .error e => .error e
    | .ok t => performAll steps t

def strings : Step → List String
  | .full c => c.strings
  | .callback name => [name]
  | .callbackWith name parameter => [name, parameter]

/-- The command that a step writes. -/
def command : Step → Command
  | .full c => c
  | .callback name => .callback name "" mainFrame
  | .callbackWith name parameter => .callback name parameter mainFrame

/-- A step adds the line of its command, or it is a callback without a name. -/
theorem perform_eq (step : Step) (s : Script) : step.perform s =
    if step = .callback "" then .error .emptyCallback else .ok (s.append step.command.line) := by
  cases step with
  | full c => simp [perform, command, c.addTo_eq]
  | callback name =>
    have hadd := (Command.callback name "" mainFrame).addTo_eq s
    rw [perform, Script.callback]
    by_cases hname : name = ""
    · simp [hname]
    · simp [hname, command, ← hadd, Command.addTo, Script.callbackWith]
  | callbackWith name parameter =>
    have hadd := (Command.callback name parameter mainFrame).addTo_eq s
    simp [perform, command, ← hadd, Command.addTo, Script.callbackWith]

/-- What a step fills in by itself has no line feed. -/
lemma sum_feeds (step : Step) :
    (step.strings.map Text.feeds).sum = (step.command.strings.map Text.feeds).sum := by
  have hframe : Text.feeds mainFrame = 0 := by decide
  cases step <;>
    simp [strings, command, Command.strings, Command.arguments, Command.values, FieldValue.arguments,
      Argument.strings, hframe]

/-- The text that a row of steps adds. -/
def added (steps : List Step) : String := String.join (steps.map fun step => step.command.line)

lemma added_cons (step : Step) (steps : List Step) :
    added (step :: steps) = step.command.statement ++ "\n" ++ added steps := by
  rw [added, List.map_cons, String.join_cons, Command.line_eq, added]

/-- A row of steps is refused for a callback without a name, or every step writes its line. -/
theorem performAll_eq (steps : List Step) (s : Script) : performAll steps s =
    if .callback "" ∈ steps then .error .emptyCallback else .ok (s.append (added steps)) := by
  induction steps generalizing s with
  | nil => simp [performAll, added, Script.append]
  | cons step steps ih =>
    rw [performAll, perform_eq]
    by_cases hstep : step = .callback ""
    · simp [hstep]
    · have hrest : .callback "" ∈ step :: steps ↔ .callback "" ∈ steps := by simp [Ne.symm hstep]
      simp only [if_neg hstep, ih, hrest, Script.append, added_cons, Command.line_eq, String.append_assoc]

end Step

/-! ## What is reported -/

/-- A script is shown with so many lines and bytes, on one line or on several. -/
def Shows (t : Script) (lines bytes : ℕ) : Prop :=
  t.summary = "MacroBuilder \x7b lines: " ++ toString lines ++ ", bytes: " ++ toString bytes ++ " \x7d" ∧
    t.summaryLines = "MacroBuilder \x7b\n    lines: " ++ toString lines ++ ",\n    bytes: " ++
      toString bytes ++ ",\n\x7d"

lemma shows_lines_bytes (t : Script) : t.Shows t.lines t.bytes := by
  rw [Shows, ← Text.natural_eq_toString, ← Text.natural_eq_toString]
  exact ⟨rfl, rfl⟩

namespace Step

lemma feeds_added (steps : List Step) :
    Text.feeds (added steps) = steps.length + ((steps.flatMap strings).map Text.feeds).sum := by
  have hfeed : Text.feeds "\n" = 1 := rfl
  induction steps with
  | nil => rfl
  | cons step steps ih =>
    rw [added_cons, Text.feeds_append, Text.feeds_append, Command.feeds_statement, ← sum_feeds, hfeed, ih,
      List.flatMap_cons, List.map_append, List.sum_append, List.length_cons]
    omega

/-- Behind a line feed every step ends its lines. -/
lemma lineCount_feed_added (s : String) (steps : List Step) :
    Text.lineCount (s ++ "\n" ++ added steps) = Text.feeds (s ++ "\n" ++ added steps) := by
  induction steps generalizing s with
  | nil =>
    have hnil : added [] = "" := rfl
    rw [hnil, String.append_empty, Text.lineCount_append_feed, Text.feeds_append]
    rfl
  | cons step steps ih =>
    have hnext := ih (s ++ "\n" ++ step.command.statement)
    rwa [added_cons, ← String.append_assoc, ← String.append_assoc]

/-- After a step there is a line for each line feed, whether or not the first text ended with one. -/
theorem lineCount_added {steps : List Step} (hsteps : steps ≠ []) (s : String) :
    Text.lineCount (s ++ added steps) = Text.feeds (s ++ added steps) := by
  obtain ⟨step, rest, rfl⟩ := List.exists_cons_of_ne_nil hsteps
  have hbehind := lineCount_feed_added (s ++ step.command.statement) rest
  rwa [added_cons, ← String.append_assoc, ← String.append_assoc]

/-- Steps that are given no line feed write one line each. -/
theorem lines_added {steps : List Step} (h : ∀ step ∈ steps, ∀ x ∈ step.strings, Text.feeds x = 0) :
    Text.lines (added steps) = steps.map fun step => step.command.statement := by
  induction steps with
  | nil => rfl
  | cons step steps ih =>
    rw [List.forall_mem_cons] at h
    have hfeeds : Text.feeds step.command.statement = 0 := by
      rw [Command.feeds_statement, ← sum_feeds, List.sum_eq_zero_iff_forall_eq_nat, List.forall_mem_map]
      exact h.1
    have hreturn : step.command.statement.toList.getLast? ≠ some '\r' := by
      rw [Command.getLast?_statement]
      decide
    rw [added_cons, Text.lines_append_feed hfeeds hreturn, ih h.2, List.map_cons]

end Step

/-- What is reported of a script that steps have written behind a first text. -/
structure Tally (s : String) (steps : List Step) (t : Script) : Prop where
  /-- Each step adds a text of its own to whatever is there, and the bytes of these texts add up. -/
  bytes : ∃ texts : List String,
    List.Forall₂ (fun step x => ∀ u, step.perform u = .ok (u.append x)) steps texts ∧
    t.text = s ++ String.join texts ∧ t.bytes = s.utf8ByteSize + (texts.map String.utf8ByteSize).sum
  lines : steps ≠ [] →
    t.lines = Text.feeds s + steps.length + ((steps.flatMap Step.strings).map Text.feeds).sum
  lines_of_nil : steps = [] → t.lines = (Text.lines s).length
  /-- An empty script gets one line for each step and no more exactly if no step is given a line feed. -/
  lines_eq_length_iff : s = "" →
    (t.lines = steps.length ↔ ∀ step ∈ steps, ∀ x ∈ step.strings, '\n' ∉ x.toList)
  /-- Each of them is then one whole call. -/
  calls : s = "" → t.lines = steps.length →
    Text.lines t.text = steps.map fun step => step.command.statement
  shown : t.Shows t.lines t.bytes

/-- An empty script has a line for each step and for each line feed that the steps are given. -/
lemma Step.lineCount_added_empty (steps : List Step) :
    Text.lineCount (added steps) = steps.length + ((steps.flatMap strings).map Text.feeds).sum := by
  by_cases hsteps : steps = []
  · subst hsteps
    rfl
  · rw [← feeds_added, ← String.empty_append (s := added steps), lineCount_added hsteps]

lemma Step.lineCount_added_eq_length_iff {steps : List Step} : Text.lineCount (added steps) = steps.length ↔
    ∀ step ∈ steps, ∀ x ∈ step.strings, Text.feeds x = 0 := by
  rw [lineCount_added_empty, Nat.add_eq_left, List.sum_eq_zero_iff_forall_eq_nat, List.forall_mem_map,
    List.forall_mem_flatMap]

lemma tally_added {steps : List Step} (hnamed : .callback "" ∉ steps) (s : String) :
    Tally s steps ⟨s ++ Step.added steps⟩ where
  bytes := by
    refine ⟨steps.map fun step => step.command.line, ?_, rfl, ?_⟩
    · refine List.forall₂_map_right_iff.mpr (List.forall₂_same.mpr fun step hstep u => ?_)
      have hne : step ≠ .callback "" := fun heq => hnamed (heq ▸ hstep)
      rw [Step.perform_eq, if_neg hne]
    · rw [Script.bytes, String.utf8ByteSize_append, Step.added, Text.utf8ByteSize_join]
  lines hsteps := by
    rw [Script.lines, Step.lineCount_added hsteps, Text.feeds_append, Step.feeds_added, Nat.add_assoc]
  lines_of_nil hnil := by
    have hadded : Step.added [] = "" := rfl
    rw [hnil, Script.lines, hadded, String.append_empty, Text.length_lines]
  lines_eq_length_iff hs := by
    rw [hs, Script.lines, String.empty_append, Step.lineCount_added_eq_length_iff]
    simp only [Text.feeds_eq_zero_iff]
  calls hs hlength := by
    rw [hs, Script.lines, String.empty_append] at hlength
    rw [hs, String.empty_append, Step.lines_added (Step.lineCount_added_eq_length_iff.mp hlength)]
  shown := shows_lines_bytes _

/-- Steps are refused as a whole for a callback without a name, or they are all counted. -/
theorem tally_performAll (s : String) (steps : List Step) :
    (.callback "" ∈ steps ∧ Step.performAll steps ⟨s⟩ = .error .emptyCallback) ∨
      .callback "" ∉ steps ∧ ∃ t, Step.performAll steps ⟨s⟩ = .ok t ∧ Tally s steps t := by
  rw [Step.performAll_eq]
  by_cases hempty : .callback "" ∈ steps
  · exact .inl ⟨hempty, if_pos hempty⟩
  · exact .inr ⟨hempty, _, if_neg hempty, tally_added hempty s⟩

example : (Step.performAll [.callback "x\ny", .full .commandEnd] ⟨"a\r\nb"⟩).map lines = .ok 4 := by
  decide +kernel

end Script

end HostScript
