import HostScript.Proofs.Text
import HostScript.Workflow

/-!
# Commands and their calls

Applying a command adds the call of its operation with its values as arguments, so that a workflow
writes the calls of its steps one after the other. As long as no text holds a double quote, every
argument ends where its own writing says, and a script can be taken apart into its calls in one way
only. An operation and its arguments belong to one command.
-/
namespace HostScript

/-- The arguments that hold a value: a list takes one for each of its items. -/
def FieldValue.arguments : FieldValue → List Argument
  | .text value => [.text value]
  | .number value => [.number value]
  | .texts values => values.map .text
  | .numbers values => values.map .number

/-- No text of the value holds a double quote. -/
def FieldValue.Unquoted : FieldValue → Prop
  | .text value => '"' ∉ value.toList
  | .number _ => True
  | .texts values => ∀ value ∈ values, '"' ∉ value.toList
  | .numbers _ => True

/-- The operation of the host that an action calls. -/
def Action.operation : Action → String
  | .activate => "Activate"
  | .callback => "Callback"
  | .checkValue => "CheckValue"
  | .commandStart => "CommandStart"
  | .commandEnd => "CommandEnd"
  | .fileSelection => "FileSelection"
  | .listSelect => "ListSelect"
  | .modalDialog => "ModalDialog"
  | .mouseDown => "MouseDown"
  | .mouseUp => "MouseUp"
  | .pushButton => "PushButton"
  | .tabChange => "TabChange"
  | .tableSelect => "TableSelect"
  | .treeSelect => "TreeSelect"
  | .valueChange => "ValueChange"

lemma Action.operation_injective : Function.Injective Action.operation := by
  intro a b h
  cases a <;> cases b <;> first | rfl | exact absurd h (by decide)

lemma Action.paren_notMem_operation (a : Action) : '(' ∉ a.operation.toList := by
  cases a <;> decide

namespace Command

/-- The arguments of the call of a command. -/
def arguments (c : Command) : List Argument := c.values.flatMap FieldValue.arguments

/-- The call of a command. -/
def text (c : Command) : String := callText c.action.operation c.arguments

def texts : List Command → String
  | [] => ""
  | c :: cs => c.text ++ texts cs

/-- A callback without a name, which is refused. -/
def isNameless : Command → Bool
  | .callback name _ _ => name.isEmpty
  | _ => false

/-- No text of the command holds a double quote. -/
def Unquoted (c : Command) : Prop := ∀ value ∈ c.values, value.Unquoted

/-- A command adds its call, or it is a callback without a name. -/
theorem apply_eq (c : Command) (s : Script) :
    c.apply s = if c.isNameless then .error .emptyCallback else .ok (s.append c.text) := by
  cases c with
  | callback name parameter frame =>
    by_cases h : name.isEmpty = true
    · simp [apply, isNameless, Script.callback, h]
    · simp [apply, isNameless, h, Script.callbackIn, Script.call, text, arguments, values,
        FieldValue.arguments, action, Action.operation]
  | _ => simp [apply, isNameless, text, arguments, values, FieldValue.arguments, action,
      Action.operation, Script.activate, Script.checkValue, Script.commandStart, Script.commandEnd,
      Script.fileSelection, Script.listSelect, Script.modalDialog, Script.mouseDown, Script.mouseUp,
      Script.pushButton, Script.tabChange, Script.tableSelect, Script.treeSelect,
      Script.valueChange, Script.select, Script.call]

/-- Commands that are not refused write their calls in order. -/
theorem text_of_applyAll {cs : List Command} {s t : Script} (h : applyAll cs s = .ok t) :
    t.text = s.text ++ texts cs := by
  induction cs generalizing s with
  | nil =>
    rw [applyAll] at h
    rw [← Except.ok.inj h, texts, String.append_empty]
  | cons c cs ih =>
    rw [applyAll, apply_eq] at h
    by_cases hc : c.isNameless = true
    · simp [hc] at h
    · rw [if_neg hc] at h
      rw [ih h, Script.append, texts, String.append_assoc]

/-- The values of one action are told apart by the arguments that hold them: only the last field of an
action is a list. -/
lemma eq_of_call_eq {c d : Command} (haction : c.action = d.action)
    (harguments : c.arguments = d.arguments) : c = d := by
  have htexts (xs ys : List String) : xs.map Argument.text = ys.map .text ↔ xs = ys :=
    List.map_inj_right fun _ _ => Argument.text.inj
  have hnumbers (xs ys : List Int64) : xs.map Argument.number = ys.map .number ↔ xs = ys :=
    List.map_inj_right fun _ _ => Argument.number.inj
  cases c <;> cases d <;> cases haction <;>
    simp_all [arguments, values, FieldValue.arguments]

end Command

namespace Argument

/-- An argument that is no text with a double quote. -/
def Unquoted : Argument → Prop
  | .text value => '"' ∉ value.toList
  | .number _ => True

/-- What stands behind an argument does not go on with its numeral. -/
def Ends (u : List Char) : Prop := ∀ c ∈ u.head?, ¬ Text.IsNumeral c

lemma ends_cons {c : Char} {u : List Char} (h : ¬ Text.IsNumeral c) : Ends (c :: u) := by
  intro d hd
  rw [List.head?_cons, Option.mem_some_iff] at hd
  rwa [← hd]

lemma toList_written_text (value : String) (u : List Char) :
    (Argument.text value).written.toList ++ u = '"' :: (value.toList ++ '"' :: u) := by
  simp [written, String.toList_append]

lemma toList_written_number (value : Int64) :
    (Argument.number value).written.toList = Text.integerDigits value.toInt := by
  simp [written, Text.integer]

/-- A number does not begin as a text does. -/
lemma written_text_ne_number {value : String} {number : Int64} {u v : List Char} :
    (Argument.text value).written.toList ++ u ≠ (Argument.number number).written.toList ++ v := by
  intro h
  rw [toList_written_text, toList_written_number] at h
  cases hdigits : Text.integerDigits number.toInt with
  | nil => exact Text.integerDigits_ne_nil _ hdigits
  | cons c cs =>
    rw [hdigits, List.cons_append] at h
    have hc : c ∈ Text.integerDigits number.toInt := by rw [hdigits]; exact List.mem_cons_self
    have hquote := Text.isNumeral_of_mem_integerDigits hc
    rw [← (List.cons.inj h).1] at hquote
    exact absurd hquote (by simp [Text.IsNumeral])

/-- The writing of an argument says where it ends. -/
theorem written_append_inj {a b : Argument} (ha : a.Unquoted) (hb : b.Unquoted) {u v : List Char}
    (hu : Ends u) (hv : Ends v) (h : a.written.toList ++ u = b.written.toList ++ v) :
    a = b ∧ u = v := by
  cases a with
  | text x =>
    cases b with
    | text y =>
      rw [toList_written_text, toList_written_text] at h
      have hquote (value : String) (hvalue : '"' ∉ value.toList) : ∀ c ∈ value.toList, c ≠ '"' := by
        intro c hc heq
        exact hvalue (heq ▸ hc)
      obtain ⟨hxy, huv⟩ := Text.eq_and_eq_of_append_eq (hquote x ha) (hquote y hb)
        (by simp) (by simp) (List.cons.inj h).2
      exact ⟨by rw [String.toList_inj.mp hxy], (List.cons.inj huv).2⟩
    | number n => exact absurd h written_text_ne_number
  | number m =>
    cases b with
    | text y => exact absurd h.symm written_text_ne_number
    | number n =>
      rw [toList_written_number, toList_written_number] at h
      obtain ⟨hmn, huv⟩ := Text.eq_and_eq_of_append_eq
        (fun _ => Text.isNumeral_of_mem_integerDigits)
        (fun _ => Text.isNumeral_of_mem_integerDigits) hu hv h
      exact ⟨by rw [Int64.toInt_inj.mp (Text.integerDigits_injective hmn)], huv⟩

/-- Arguments behind the first one, each with what stands before it. -/
def following (as : List Argument) : List Char :=
  as.flatMap fun a => ',' :: ' ' :: a.written.toList

lemma toList_writtenArguments_cons (a : Argument) (as : List Argument) :
    (writtenArguments (a :: as)).toList = a.written.toList ++ following as := by
  induction as generalizing a with
  | nil => simp [writtenArguments, following]
  | cons b bs ih =>
    rw [writtenArguments, String.toList_append, String.toList_append, ih b]
    simp [following]

lemma not_isNumeral_comma : ¬ Text.IsNumeral ',' := by simp [Text.IsNumeral]

lemma not_isNumeral_paren : ¬ Text.IsNumeral ')' := by simp [Text.IsNumeral]

lemma ends_following (as : List Argument) (u : List Char) : Ends (following as ++ ')' :: u) := by
  cases as with
  | nil => exact ends_cons not_isNumeral_paren
  | cons a as => exact ends_cons not_isNumeral_comma

/-- A comma goes on with the arguments, and a parenthesis ends them. -/
lemma following_append_inj {as bs : List Argument} (has : ∀ a ∈ as, a.Unquoted)
    (hbs : ∀ b ∈ bs, b.Unquoted) {u v : List Char}
    (h : following as ++ ')' :: u = following bs ++ ')' :: v) : as = bs ∧ u = v := by
  induction as generalizing bs with
  | nil =>
    cases bs with
    | nil => exact ⟨rfl, (List.cons.inj h).2⟩
    | cons b bs => simp [following] at h
  | cons a as ih =>
    cases bs with
    | nil => simp [following] at h
    | cons b bs =>
      have hrest : a.written.toList ++ (following as ++ ')' :: u) =
          b.written.toList ++ (following bs ++ ')' :: v) := by simpa [following] using h
      obtain ⟨hab, htail⟩ := written_append_inj (has a List.mem_cons_self)
        (hbs b List.mem_cons_self) (ends_following as u) (ends_following bs v) hrest
      obtain ⟨hlist, huv⟩ := ih (fun c hc => has c (List.mem_cons_of_mem a hc))
        (fun c hc => hbs c (List.mem_cons_of_mem b hc)) htail
      exact ⟨by rw [hab, hlist], huv⟩

lemma written_append_ne_paren (a : Argument) (w u : List Char) :
    a.written.toList ++ w ≠ ')' :: u := by
  cases a with
  | text x => rw [toList_written_text]; simp
  | number n =>
    intro h
    rw [toList_written_number] at h
    cases hdigits : Text.integerDigits n.toInt with
    | nil => exact Text.integerDigits_ne_nil _ hdigits
    | cons c cs =>
      rw [hdigits, List.cons_append] at h
      have hc : c ∈ Text.integerDigits n.toInt := by rw [hdigits]; exact List.mem_cons_self
      have hparen := Text.isNumeral_of_mem_integerDigits hc
      rw [(List.cons.inj h).1] at hparen
      exact not_isNumeral_paren hparen

/-- The arguments of a call end at one place only. -/
theorem writtenArguments_append_inj {as bs : List Argument} (has : ∀ a ∈ as, a.Unquoted)
    (hbs : ∀ b ∈ bs, b.Unquoted) {u v : List Char}
    (h : (writtenArguments as).toList ++ ')' :: u = (writtenArguments bs).toList ++ ')' :: v) :
    as = bs ∧ u = v := by
  cases as with
  | nil =>
    cases bs with
    | nil => exact ⟨rfl, by simpa [writtenArguments] using h⟩
    | cons b bs =>
      rw [toList_writtenArguments_cons, List.append_assoc] at h
      exact absurd h.symm (written_append_ne_paren b _ _)
  | cons a as =>
    cases bs with
    | nil =>
      rw [toList_writtenArguments_cons, List.append_assoc] at h
      exact absurd h (written_append_ne_paren a _ _)
    | cons b bs =>
      rw [toList_writtenArguments_cons, toList_writtenArguments_cons, List.append_assoc,
        List.append_assoc] at h
      obtain ⟨hab, htail⟩ := written_append_inj (has a List.mem_cons_self)
        (hbs b List.mem_cons_self) (ends_following as u) (ends_following bs v) h
      obtain ⟨hlist, huv⟩ := following_append_inj (fun c hc => has c (List.mem_cons_of_mem a hc))
        (fun c hc => hbs c (List.mem_cons_of_mem b hc)) htail
      exact ⟨by rw [hab, hlist], huv⟩

end Argument

namespace Command

lemma unquoted_of_mem_arguments {c : Command} (hc : c.Unquoted) {a : Argument}
    (ha : a ∈ c.arguments) : a.Unquoted := by
  obtain ⟨value, hvalue, ha⟩ := List.mem_flatMap.mp ha
  have h := hc value hvalue
  cases value with
  | text x =>
    rw [FieldValue.arguments, List.mem_singleton] at ha
    rw [ha]
    exact h
  | number n =>
    rw [FieldValue.arguments, List.mem_singleton] at ha
    rw [ha]
    trivial
  | texts xs =>
    obtain ⟨x, hx, rfl⟩ := List.mem_map.mp ha
    exact h x hx
  | numbers ns =>
    obtain ⟨n, -, rfl⟩ := List.mem_map.mp ha
    trivial

lemma toList_text_append (c : Command) (u : List Char) :
    c.text.toList ++ u = "akit.".toList ++ (c.action.operation.toList ++
      '(' :: ((writtenArguments c.arguments).toList ++ ')' :: ';' :: '\n' :: u)) := by
  simp [text, callText, String.toList_append]

/-- A command can be read off the beginning of a text. -/
theorem text_append_inj {c d : Command} (hc : c.Unquoted) (hd : d.Unquoted) {u v : List Char}
    (h : c.text.toList ++ u = d.text.toList ++ v) : c = d ∧ u = v := by
  rw [toList_text_append, toList_text_append] at h
  have hcall := List.append_cancel_left h
  have hparen (a : Action) : ∀ x ∈ a.operation.toList, x ≠ '(' := by
    intro x hx heq
    exact a.paren_notMem_operation (heq ▸ hx)
  obtain ⟨hoperation, hrest⟩ := Text.eq_and_eq_of_append_eq (hparen c.action) (hparen d.action)
    (by simp) (by simp) hcall
  obtain ⟨harguments, hend⟩ := Argument.writtenArguments_append_inj
    (fun _ => unquoted_of_mem_arguments hc) (fun _ => unquoted_of_mem_arguments hd)
    (List.cons.inj hrest).2
  have haction := Action.operation_injective (String.toList_inj.mp hoperation)
  exact ⟨eq_of_call_eq haction harguments, by simpa using hend⟩

/-- Calls one after the other can be taken apart in one way only. -/
theorem texts_injOn {cs ds : List Command} (hcs : ∀ c ∈ cs, c.Unquoted)
    (hds : ∀ d ∈ ds, d.Unquoted) (h : texts cs = texts ds) : cs = ds := by
  have hnonempty (c : Command) (t : String) : (c.text ++ t).toList ≠ "".toList := by
    rw [String.toList_append, toList_text_append]
    simp
  induction cs generalizing ds with
  | nil =>
    cases ds with
    | nil => rfl
    | cons d ds => exact absurd (congrArg String.toList h.symm) (hnonempty d (texts ds))
  | cons c cs ih =>
    cases ds with
    | nil => exact absurd (congrArg String.toList h) (hnonempty c (texts cs))
    | cons d ds =>
      have hlists := congrArg String.toList h
      rw [texts, texts, String.toList_append, String.toList_append] at hlists
      obtain ⟨hcd, hrest⟩ := text_append_inj (hcs c List.mem_cons_self) (hds d List.mem_cons_self)
        hlists
      have htail := ih (fun x hx => hcs x (List.mem_cons_of_mem c hx))
        (fun x hx => hds x (List.mem_cons_of_mem d hx)) (String.toList_inj.mp hrest)
      rw [hcd, htail]

end Command

namespace Workflow

/-- A script without double quotes in its texts comes from one row of steps only, whatever else the
texts hold. -/
theorem steps_eq_of_script_eq {v w : Workflow} {s t : Script} (hv : ∀ c ∈ v.steps, c.Unquoted)
    (hw : ∀ c ∈ w.steps, c.Unquoted) (hs : v.script = .ok s) (ht : w.script = .ok t)
    (h : s.text = t.text) : v.steps = w.steps := by
  rw [Command.text_of_applyAll hs, Command.text_of_applyAll ht] at h
  apply Command.texts_injOn hv hw
  simpa [Script.empty] using h

/-- The texts of these steps look like the calls around them. -/
theorem steps_eq_of_script_eq_lookalikes :
    let steps : List Command :=
      [.activate ");\nakit.CommandEnd(" ", \\", .tableSelect "t" "f" [-1, 20], .commandEnd]
    let script : Script := ⟨"akit.Activate(\");\nakit.CommandEnd(\", \", \\\");\n" ++
      "akit.TableSelect(\"t\", \"f\", -1, 20);\nakit.CommandEnd();\n"⟩
    (∀ c ∈ steps, c.Unquoted) ∧ (Workflow.mk none steps).script = .ok script ∧
      (Workflow.mk (some "again") steps).script = .ok script ∧
      (Workflow.mk none steps).steps = (Workflow.mk (some "again") steps).steps := by
  intro steps script
  have hunquoted : ∀ c ∈ steps, c.Unquoted := by
    simp [steps, Command.Unquoted, Command.values, FieldValue.Unquoted]
  have hplain : (Workflow.mk none steps).script = .ok script := by decide +kernel
  have hnamed : (Workflow.mk (some "again") steps).script = .ok script := by decide +kernel
  exact ⟨hunquoted, hplain, hnamed, steps_eq_of_script_eq hunquoted hunquoted hplain hnamed rfl⟩

end Workflow

end HostScript
