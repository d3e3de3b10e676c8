import HostScript.Proofs.Calls
import HostScript.Proofs.Record

/-!
# Replaying steps

Steps that are applied to a script one after the other write what each of them writes by itself, behind the
text that is there already. So the steps of two workflows in a row write the one script and then the other,
and a script can be taken up again where it ended. Only a callback without a name is refused, and with it
the whole row. What a step writes is the line of one operation of the host.
-/
namespace HostScript

/-! ## What a step writes -/

/-- A text argument as it stands in a call. -/
def quoted (text : String) : String := "\"" ++ text ++ "\""

namespace Command

/-- The operation that a command calls, and its arguments as they stand in the call. -/
def call : Command → String × List String
  | .activate dialog field => ("Activate", [quoted dialog, quoted field])
  | .callback name parameter frame => ("Callback", [quoted name, quoted parameter, quoted frame])
  | .checkValue name value => ("CheckValue", [quoted name, toString value.toInt])
  | .commandStart command parameter frame =>
    ("CommandStart", [quoted command, quoted parameter, quoted frame])
  | .commandEnd => ("CommandEnd", [])
  | .fileSelection items => ("FileSelection", items.map quoted)
  | .listSelect dialog field items => ("ListSelect", quoted dialog :: quoted field :: items.map quoted)
  | .modalDialog value => ("ModalDialog", [toString value.toInt])
  | .mouseDown frame subframe x y modifier =>
    ("MouseDown", [quoted frame, quoted subframe, toString x.toInt, toString y.toInt,
      toString modifier.toInt])
  | .mouseUp frame subframe x y modifier =>
    ("MouseUp", [quoted frame, quoted subframe, toString x.toInt, toString y.toInt,
      toString modifier.toInt])
  | .pushButton button frame => ("PushButton", [quoted button, quoted frame])
  | .tabChange dialog field item => ("TabChange", [quoted dialog, quoted field, quoted item])
  | .tableSelect dialog field items =>
    ("TableSelect", quoted dialog :: quoted field :: items.map fun row => toString row.toInt)
  | .treeSelect dialog field row => ("TreeSelect", [quoted dialog, quoted field, quoted row])
  | .valueChange dialog field data => ("ValueChange", [quoted dialog, quoted field, quoted data])

/-- The line of a command in a script. -/
def line (c : Command) : String :=
  "akit." ++ c.call.1 ++ "(" ++ ", ".intercalate c.call.2 ++ ");\n"

/-- The function of scripts that is called like a command, with the fields of the command. -/
def addTo : Command → Script → Script
  | .activate dialog field, s => s.activate dialog field
  | .callback name parameter frame, s => s.callbackIn name parameter frame
  | .checkValue name value, s => s.checkValue name value
  | .commandStart command parameter frame, s => s.commandStart command parameter frame
  | .commandEnd, s => s.commandEnd
  | .fileSelection items, s => s.fileSelection items
  | .listSelect dialog field items, s => s.listSelect dialog field items
  | .modalDialog value, s => s.modalDialog value
  | .mouseDown frame subframe x y modifier, s => s.mouseDown frame subframe x y modifier
  | .mouseUp frame subframe x y modifier, s => s.mouseUp frame subframe x y modifier
  | .pushButton button frame, s => s.pushButton button frame
  | .tabChange dialog field item, s => s.tabChange dialog field item
  | .tableSelect dialog field items, s => s.tableSelect dialog field items
  | .treeSelect dialog field row, s => s.treeSelect dialog field row
  | .valueChange dialog field data, s => s.valueChange dialog field data

lemma writtenArguments_eq_intercalate (as : List Argument) :
    writtenArguments as = ", ".intercalate (as.map Argument.written) := by
  induction as with
  | nil => rfl
  | cons a as ih =>
    cases as with
    | nil => simp [writtenArguments]
    | cons b rest =>
      rw [writtenArguments, ih]
      simp [String.append_assoc]

lemma written_arguments (c : Command) : c.arguments.map Argument.written = c.call.2 := by
  have htext (text : String) : (Argument.text text).written = quoted text := rfl
  have hnumber (value : Int64) : (Argument.number value).written = toString value.toInt :=
    Text.integer_eq_toString _
  cases c <;> simp [arguments, values, FieldValue.arguments, call, htext, hnumber]

lemma text_eq_line (c : Command) : c.text = c.line := by
  have hoperation : c.action.operation = c.call.1 := by cases c <;> rfl
  rw [text, callText, writtenArguments_eq_intercalate, written_arguments, hoperation, line]

lemma isNameless_iff {c : Command} :
    c.isNameless = true ↔ ∃ parameter frame, c = .callback "" parameter frame := by
  cases c <;> simp [isNameless]

lemma isNameless_eq_false_iff {c : Command} :
    c.isNameless = false ↔ ∀ parameter frame, c ≠ .callback "" parameter frame := by
  rw [← Bool.not_eq_true, isNameless_iff, not_exists]
  exact forall_congr' fun _ => not_exists

lemma apply_of_named {c : Command} (h : ∀ parameter frame, c ≠ .callback "" parameter frame)
    (s : Script) : c.apply s = .ok (c.addTo s) := by
  cases c with
  | callback name parameter frame =>
    have hname : name ≠ "" := fun hname => h parameter frame (by rw [hname])
    simp [apply, addTo, hname]
  | _ => rfl

/-- Every function adds the line of its command at the end. -/
lemma addTo_eq (c : Command) (s : Script) : c.addTo s = s.append c.line := by
  rw [← text_eq_line]
  cases hc : c.isNameless with
  | true =>
    obtain ⟨parameter, frame, rfl⟩ := isNameless_iff.mp hc
    rfl
  | false =>
    have happly := apply_eq c s
    rw [apply_of_named (isNameless_eq_false_iff.mp hc), hc, if_neg Bool.false_ne_true] at happly
    exact Except.ok.inj happly

/-! ## Rows of steps -/

lemma texts_eq_join (cs : List Command) : texts cs = String.join (cs.map line) := by
  induction cs with
  | nil => rfl
  | cons c cs ih => rw [texts, ih, text_eq_line, List.map_cons, String.join_cons]

/-- A row of steps is refused as a whole, or every step writes its line. -/
theorem applyAll_eq (cs : List Command) (s : Script) :
    applyAll cs s = if cs.any isNameless then .error .emptyCallback else .ok (s.append (texts cs)) := by
  induction cs generalizing s with
  | nil => simp [applyAll, Script.append, texts]
  | cons c cs ih =>
    rw [applyAll, apply_eq, List.any_cons]
    cases hc : c.isNameless with
    | true => rfl
    | false => simp [ih, texts, Script.append, String.append_assoc]

lemma any_isNameless_eq_false_iff {cs : List Command} : cs.any isNameless = false ↔
    ∀ c ∈ cs, ∀ parameter frame, c ≠ .callback "" parameter frame := by
  rw [List.any_eq_false]
  exact forall₂_congr fun c _ => by rw [Bool.not_eq_true, isNameless_eq_false_iff]

lemma any_isNameless_of_applyAll {cs : List Command} {s t : Script} (h : applyAll cs s = .ok t) :
    cs.any isNameless = false := by
  rw [applyAll_eq] at h
  cases hany : cs.any isNameless with
  | true => simp [hany] at h
  | false => rfl

lemma applyAll_append (cs ds : List Command) (s : Script) :
    applyAll (cs ++ ds) s = (applyAll cs s).bind (applyAll ds) := by
  induction cs generalizing s with
  | nil => rfl
  | cons c cs ih =>
    rw [List.cons_append, applyAll, applyAll]
    cases c.apply s with
    | error e => rfl
    | ok t => exact ih t

end Command

/-! ## Callbacks with their defaults -/

namespace Field

/-- Members that select no field are passed over. -/
lemma assign_passed {fields : List Field} {before : List (Datum × Datum)}
    (h : ∀ m ∈ before, select fields m.1 = .ok none) (given : List (String × FieldValue))
    (rest : List (Datum × Datum)) :
    assign fields given (before ++ rest) = assign fields given rest := by
  induction before with
  | nil => rfl
  | cons m before ih =>
    rw [List.cons_append, assign, h m List.mem_cons_self]
    exact ih fun n hn => h n (List.mem_cons_of_mem m hn)

/-- What is given after members were read was given before, or one of the members that select its field
says it. -/
lemma eq_some_of_assign {fields : List Field} {members : List (Datum × Datum)}
    {given given' : List (String × FieldValue)} (h : assign fields given members = .ok given')
    {name : String} {v : FieldValue} (hv : given'.lookup name = some v) : given.lookup name = some v ∨
      ∃ m ∈ members, ∃ f, select fields m.1 = .ok (some f) ∧ f.name = name ∧ f.kind.read? m.2 = some v := by
  induction members generalizing given with
  | nil =>
    obtain rfl := Except.ok.inj h
    exact .inl hv
  | cons m members ih =>
    have hlater (hlater : ∃ n ∈ members, ∃ f, select fields n.1 = .ok (some f) ∧ f.name = name ∧
        f.kind.read? n.2 = some v) : ∃ n ∈ m :: members, ∃ f, select fields n.1 = .ok (some f) ∧
        f.name = name ∧ f.kind.read? n.2 = some v := by
      obtain ⟨n, hn, hsays⟩ := hlater
      exact ⟨n, List.mem_cons_of_mem m hn, hsays⟩
    rw [assign] at h
    cases hselect : select fields m.1 with
    | error e =>
      rw [hselect] at h
      contradiction
    | ok f? =>
      simp only [hselect] at h
      cases f? with
      | none => exact (ih h).imp_right hlater
      | some f =>
        dsimp only at h
        cases hread : f.kind.read? m.2 with
        | none => simp [hread] at h
        | some w =>
          simp only [hread] at h
          split at h
          · contradiction
          · rcases ih h with hbefore | hmember
            · rw [List.lookup_cons] at hbefore
              by_cases hname : name = f.name
              · rw [beq_iff_eq.mpr hname] at hbefore
                obtain rfl := Option.some.inj hbefore
                exact .inr ⟨m, List.mem_cons_self, f, hselect, hname.symm, hread⟩
              · rw [beq_false_of_ne hname] at hbefore
                exact .inl hbefore
            · exact .inr (hlater hmember)

end Field

namespace Action

/-- The field for the name of a callback. -/
def callbackName : Field := .needText "callback"

/-- A callback that is read from members for its name alone has the usual parameter and frame. -/
lemma eq_callback_of_ofMembers {members : List (Datum × Datum)} {c : Command}
    (hmembers : ∀ m ∈ members, ∀ f, Field.select callback.fields m.1 = .ok (some f) → f = callbackName)
    (h : callback.ofMembers members = .ok c) :
    ∃ m ∈ members, ∃ name, m.2 = .text name ∧ c = .callback name "" mainFrame := by
  have hfields : callback.fields.isEmpty = false := rfl
  rw [ofMembers, hfields, if_neg Bool.false_ne_true] at h
  cases hassign : Field.assign callback.fields [] members with
  | error e => simp [hassign] at h
  | ok given =>
    simp only [hassign] at h
    have hsaid (key : String) (v : FieldValue) (hv : given.lookup key = some v) :
        key = "callback" ∧ ∃ m ∈ members, ∃ name, m.2 = .text name ∧ v = .text name := by
      rcases Field.eq_some_of_assign hassign hv with hbefore | ⟨m, hm, f, hselect, rfl, hread⟩
      · contradiction
      · obtain rfl := hmembers m hm f hselect
        obtain ⟨name, htext, rfl⟩ := Option.map_eq_some_iff.mp hread
        refine ⟨rfl, m, hm, name, ?_, rfl⟩
        cases hvalue : m.2 <;> simp_all [Datum.text?]
    have hnone (key : String) (hkey : key ≠ "callback") : given.lookup key = none := by
      cases hv : given.lookup key with
      | none => rfl
      | some v => exact absurd (hsaid key v hv).1 hkey
    cases hname : given.lookup "callback" with
    | none => simp [fields, Field.complete, Field.needText, hname, withValues] at h
    | some v =>
      obtain ⟨-, m, hm, name, htext, rfl⟩ := hsaid _ v hname
      refine ⟨m, hm, name, htext, ?_⟩
      have hcomplete : Field.complete given callback.fields =
          .ok [.text name, .text "", .text mainFrame] := by
        simp [fields, Field.complete, Field.needText, Field.mayText, hname,
          hnone "parameter" (by decide), hnone "frame" (by decide)]
      rw [hcomplete] at h
      exact (Except.ok.inj h).symm

/-- A callback is read from the member for its name, among others that are passed over. -/
lemma callback_ofMembers {before after : List (Datum × Datum)}
    (hbefore : ∀ m ∈ before, Field.select callback.fields m.1 = .ok none)
    (hafter : ∀ m ∈ after, Field.select callback.fields m.1 = .ok none) (name : String) :
    callback.ofMembers (before ++ (.text "callback", .text name) :: after) =
      .ok (.callback name "" mainFrame) := by
  have hassign : Field.assign callback.fields [] (before ++ (.text "callback", .text name) :: after) =
      .ok [("callback", .text name)] := by
    rw [Field.assign_passed hbefore]
    change Field.assign callback.fields [("callback", .text name)] after = _
    rw [← List.append_nil after, Field.assign_passed hafter]
    rfl
  have hfields : callback.fields.isEmpty = false := rfl
  rw [ofMembers, hfields, if_neg Bool.false_ne_true, hassign]
  rfl

end Action

/-- A callback step that leaves out its parameter and its frame, in every form that a step may have, is the
callback of its name, and it is refused where that is refused. -/
structure ShortCallback : Prop where
  /-- Whatever the members are: if none of them is for the parameter or the frame, a callback that is read
  has a name that is a text among them, and the usual parameter and frame. -/
  only : ∀ members c, (∀ m ∈ members, ∀ f, Field.select Action.callback.fields m.1 = .ok (some f) →
      f = Action.callbackName) → Action.callback.ofMembers members = .ok c →
    ∃ m ∈ members, ∃ name, m.2 = .text name ∧ c = .callback name "" "main_frame"
  /-- The name may be any text, with any members beside it that are for no field. -/
  members : ∀ before after name, (∀ m ∈ before ++ after, Field.select Action.callback.fields m.1 = .ok none) →
    Action.callback.ofMembers (before ++ (.text "callback", .text name) :: after) =
      .ok (.callback name "" "main_frame")
  items : ∀ name, Action.callback.ofItems [.text name] = .ok (.callback name "" "main_frame")
  object : ∀ name, Command.ofJson? (.object [("action", .text "callback"), ("callback", .text name)]) =
    some (.callback name "" "main_frame")
  array : ∀ name, Command.ofJson? (.list [.text "callback", .text name]) =
    some (.callback name "" "main_frame")
  applied : ∀ name s, (Command.callback name "" "main_frame").apply s = Script.callback s name

theorem Action.shortCallback : ShortCallback where
  only members c hmembers h := eq_callback_of_ofMembers hmembers h
  members before after name h := callback_ofMembers (fun m hm => h m (List.mem_append_left _ hm))
    (fun m hm => h m (List.mem_append_right _ hm)) name
  items name := rfl
  object name := rfl
  array name := rfl
  applied name s := by
    by_cases hname : name = ""
    · subst hname
      rfl
    · simp [Command.apply, Script.callback, Script.callbackWith, mainFrame, hname]

structure ReplayLaws : Prop where
  /-- A row of steps is refused for a callback without a name and for nothing else. -/
  accepted : ∀ cs s, (∃ t, Command.applyAll cs s = .ok t) ↔
    ∀ c ∈ cs, ∀ parameter frame, c ≠ .callback "" parameter frame
  /-- Behind the text that was there stands what each step writes into an empty script. -/
  text : ∀ cs s t, Command.applyAll cs s = .ok t → ∃ added : List String,
    List.Forall₂ (fun c a => Command.apply c .empty = .ok ⟨a⟩) cs added ∧
      t.text = s.text ++ String.join added
  refused : ∀ cs s e, Command.applyAll cs s = .error e →
    e.kind = .invalidArgument ∧ e.message = "Invalid argument: callback name must not be empty"
  /-- The script of two rows of steps is the script of the one and then of the other, and replaying the
  other on the script of the one gives the same. -/
  joined : ∀ name xs ys t u, Workflow.script ⟨name, xs⟩ = .ok t → Workflow.script ⟨name, ys⟩ = .ok u →
    Workflow.script ⟨name, xs ++ ys⟩ = .ok ⟨t.text ++ u.text⟩ ∧
      Command.applyAll ys ⟨t.text⟩ = .ok ⟨t.text ++ u.text⟩
  /-- A step does what the function of its name does. -/
  applied : ∀ c s, (∀ parameter frame, c ≠ .callback "" parameter frame) →
    Command.apply c s = .ok (c.addTo s)
  /-- And that function writes the line of the step. -/
  line : ∀ c s, (Command.addTo c s).text = s.text ++ c.line
  shortCallback : ShortCallback

/-- Replay is concatenation, and it fails as a whole. -/
theorem replayLaws : ReplayLaws where
  accepted cs s := by
    rw [Command.applyAll_eq, ← Command.any_isNameless_eq_false_iff]
    cases cs.any Command.isNameless <;> simp
  text cs s t h := by
    have hnamed := Command.any_isNameless_eq_false_iff.mp (Command.any_isNameless_of_applyAll h)
    refine ⟨cs.map Command.line, ?_, ?_⟩
    · refine List.forall₂_map_right_iff.mpr (List.forall₂_same.mpr fun c hc => ?_)
      rw [Command.apply_of_named (hnamed c hc), Command.addTo_eq, Script.append, Script.empty,
        String.empty_append]
    · rw [Command.text_of_applyAll h, Command.texts_eq_join]
  refused cs s e h := by
    obtain rfl : e = .emptyCallback := by
      rw [Command.applyAll_eq] at h
      split at h
      · exact (Except.error.inj h).symm
      · contradiction
    exact ⟨rfl, by decide⟩
  joined name xs ys t u hxs hys := by
    have hnamed : ys.any Command.isNameless = false := Command.any_isNameless_of_applyAll hys
    have hreseed : Command.applyAll ys t = .ok ⟨t.text ++ u.text⟩ := by
      rw [Command.applyAll_eq, hnamed, if_neg Bool.false_ne_true, Command.text_of_applyAll hys, Script.empty,
        String.empty_append, Script.append]
    refine ⟨?_, hreseed⟩
    have hxs : Command.applyAll xs .empty = .ok t := hxs
    rw [Workflow.script, Command.applyAll_append, hxs]
    exact hreseed
  applied c s h := Command.apply_of_named h s
  line c s := by rw [c.addTo_eq s, Script.append]
  shortCallback := Action.shortCallback

example : Workflow.script ⟨none, [.tableSelect "t" "f" [-1, 20], .callback "go" "" "main_frame"]⟩ =
    .ok ⟨"akit.TableSelect(\"t\", \"f\", -1, 20);\nakit.Callback(\"go\", \"\", \"main_frame\");\n"⟩ := by
  decide +kernel

end HostScript
