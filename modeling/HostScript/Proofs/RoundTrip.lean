import HostScript.Proofs.Association
import HostScript.Proofs.Scanning
import HostScript.Reading
import Mathlib.Data.List.Nodup

/-!
# Documents that were written are read back

A workflow or a configuration in any notation of its JSON value is read as itself. A step is written with
every field of its action under the name of the field, and the names of one action differ, so that each
member selects the field that it was written for.
-/
namespace HostScript

lemma mapM_map_eq_some {α β γ : Type} {f : α → β} {g : β → Option γ} {k : α → γ} {xs : List α}
    (h : ∀ x ∈ xs, g (f x) = some (k x)) : (xs.map f).mapM g = some (xs.map k) := by
  induction xs with
  | nil => rfl
  | cons x xs ih =>
    rw [List.map_cons, List.mapM_cons, h x List.mem_cons_self,
      ih fun y hy => h y (List.mem_cons_of_mem x hy)]
    rfl

/-- Reading back one by one what was written one by one. -/
lemma mapM_map_self {α β : Type} {f : α → β} {g : β → Option α} (h : ∀ x, g (f x) = some x)
    (xs : List α) : (xs.map f).mapM g = some xs := by
  simpa using mapM_map_eq_some (k := id) fun x (_ : x ∈ xs) => h x

/-! ## Numbers -/

lemma Numeral.isFinite_integer {n : ℤ} (h : n.natAbs < Nat.pow 10 20) :
    (Numeral.integer n).isFinite = true := by
  rw [isFinite, fitsDouble]
  split
  · rfl
  · have hlength := Text.length_decimalDigits_le (by decide) h
    rw [if_pos (by omega)]

/-- An integer of 64 bits, with a sign or without, is data as it is. -/
lemma Json.datum?_integer {n : ℤ} (hlow : -9223372036854775808 ≤ n) (hhigh : n < UInt64.size)
    (depth : ℕ) : Json.datum? depth (.integer n) = some (.integer n) := by
  have hsize : UInt64.size = 18446744073709551616 := rfl
  have hpow : Nat.pow 10 20 = 100000000000000000000 := rfl
  have hfinite : (Numeral.integer n).isFinite = true := Numeral.isFinite_integer (by omega)
  have hdatum : Json.datum? depth (.number (.integer n)) =
      if (Numeral.integer n).isFinite then some (Json.numberDatum (.integer n)) else none := by
    cases depth <;> rfl
  rw [Json.integer, hdatum, if_pos hfinite, Json.numberDatum, if_pos ⟨hlow, hhigh⟩]

/-! ## Fields of a step -/

namespace FieldValue

/-- The kind of field that holds a value. -/
def kind : FieldValue → FieldKind
  | .text _ => .text
  | .number _ => .number
  | .texts _ => .texts
  | .numbers _ => .numbers

/-- A value of a field as data. -/
def toDatum : FieldValue → Datum
  | .text s => .text s
  | .number n => .integer n.toInt
  | .texts ss => .list (ss.map .text)
  | .numbers ns => .list (ns.map fun n => .integer n.toInt)

lemma int64?_toInt (n : Int64) : (Datum.integer n.toInt).int64? = some n := by
  have hlow := n.le_toInt
  have hhigh := n.toInt_lt
  rw [Datum.int64?, if_pos ⟨by omega, by omega⟩, Int64.ofInt_toInt]

lemma datum?_toInt (depth : ℕ) (n : Int64) :
    Json.datum? depth (.integer n.toInt) = some (.integer n.toInt) := by
  have hlow := n.le_toInt
  have hhigh := n.toInt_lt
  have hsize : UInt64.size = 18446744073709551616 := rfl
  exact Json.datum?_integer (by omega) (by omega) depth

lemma datum?_toJson (depth : ℕ) (v : FieldValue) :
    Json.datum? (depth + 1) v.toJson = some v.toDatum := by
  cases v with
  | text s => rfl
  | number n => exact datum?_toInt _ n
  | texts ss =>
    have htext (s : String) : Json.datum? depth (.text s) = some (.text s) := by cases depth <;> rfl
    rw [toJson, Json.datum?, mapM_map_eq_some fun s _ => htext s]
    rfl
  | numbers ns =>
    rw [toJson, Json.datum?, mapM_map_eq_some fun n _ => datum?_toInt depth n]
    rfl

/-- A value is read back from its data, as a value of its kind. -/
lemma read?_toDatum (v : FieldValue) : v.kind.read? v.toDatum = some v := by
  cases v with
  | text s => rfl
  | number n =>
    rw [kind, toDatum, FieldKind.read?, int64?_toInt]
    rfl
  | texts ss =>
    have htexts : (ss.map Datum.text).mapM Datum.text? = some ss :=
      mapM_map_self (f := Datum.text) (g := Datum.text?) (fun _ => rfl) ss
    simp [kind, toDatum, FieldKind.read?, Datum.items?, htexts]
  | numbers ns =>
    have hnumbers := mapM_map_self int64?_toInt ns
    simp [kind, toDatum, FieldKind.read?, Datum.items?, hnumbers]

end FieldValue

namespace Field

/-- A field with its value, as a member of a map. -/
def member (r : Field × FieldValue) : Datum × Datum := (.text r.1.name, r.2.toDatum)

lemma find?_name {fields : List Field} (hnodup : (fields.map Field.name).Nodup) {f : Field}
    (hf : f ∈ fields) : fields.find? (fun g => g.name = f.name) = some f := by
  induction fields with
  | nil => contradiction
  | cons g fields ih =>
    rw [List.map_cons, List.nodup_cons] at hnodup
    rcases List.mem_cons.mp hf with rfl | hf
    · simp
    · have hne : g.name ≠ f.name := fun h => hnodup.1 (h ▸ List.mem_map_of_mem hf)
      rw [List.find?_cons_of_neg (by simpa using hne)]
      exact ih hnodup.2 hf

/-- Members for different fields are all taken. -/
lemma assign_members {fields : List Field} (hfields : (fields.map Field.name).Nodup)
    {rows : List (Field × FieldValue)} (hmem : ∀ r ∈ rows, r.1 ∈ fields)
    (hkind : ∀ r ∈ rows, r.2.kind = r.1.kind) (hrows : (rows.map fun r => r.1.name).Nodup)
    {given : List (String × FieldValue)} (hgiven : ∀ r ∈ rows, given.lookup r.1.name = none) :
    assign fields given (rows.map member) =
      .ok ((rows.map fun r => (r.1.name, r.2)).reverse ++ given) := by
  induction rows generalizing given with
  | nil => rfl
  | cons r rows ih =>
    rw [List.map_cons, List.nodup_cons] at hrows
    have hselect : select fields (.text r.1.name) = .ok (some r.1) := by
      rw [select, find?_name hfields (hmem r List.mem_cons_self)]
    have hread : r.1.kind.read? r.2.toDatum = some r.2 := by
      rw [← hkind r List.mem_cons_self, r.2.read?_toDatum]
    have hnext : ∀ s ∈ rows, ((r.1.name, r.2) :: given).lookup s.1.name = none := by
      intro s hs
      have hne : (s.1.name == r.1.name) = false :=
        beq_false_of_ne fun h => hrows.1 (h ▸ List.mem_map_of_mem hs)
      rw [List.lookup_cons, hne]
      exact hgiven s (List.mem_cons_of_mem r hs)
    have hrest := ih (fun s hs => hmem s (List.mem_cons_of_mem r hs))
      (fun s hs => hkind s (List.mem_cons_of_mem r hs)) hrows.2 hnext
    rw [List.map_cons, member, assign, hselect]
    simp only [hgiven r List.mem_cons_self, hread, hrest]
    simp

lemma complete_rows {given : List (String × FieldValue)} {rows : List (Field × FieldValue)}
    (h : ∀ r ∈ rows, given.lookup r.1.name = some r.2) :
    complete given (rows.map Prod.fst) = .ok (rows.map Prod.snd) := by
  induction rows with
  | nil => rfl
  | cons r rows ih =>
    rw [List.map_cons, complete, h r List.mem_cons_self, Option.some_or,
      ih fun s hs => h s (List.mem_cons_of_mem r hs)]
    rfl

end Field

/-! ## Steps -/

namespace Action

/-- No action has two fields of one name, or one that is called like the name of the action itself. -/
lemma nodup_names (a : Action) : ("action" :: a.fields.map Field.name).Nodup := by
  cases a <;> decide

end Action

namespace Command

/-- The fields of a command with their values. -/
def rows (c : Command) : List (Field × FieldValue) := c.action.fields.zip c.values

lemma map_fst_rows (c : Command) : c.rows.map Prod.fst = c.action.fields := by cases c <;> rfl

lemma map_snd_rows (c : Command) : c.rows.map Prod.snd = c.values := by cases c <;> rfl

lemma kind_of_mem_rows {c : Command} {r : Field × FieldValue} (h : r ∈ c.rows) :
    r.2.kind = r.1.kind := by
  have hkinds : c.rows.map (fun r => r.2.kind) = c.rows.map fun r => r.1.kind := by
    cases c <;> rfl
  exact List.map_inj_left.mp hkinds r h

lemma map_name_rows (c : Command) :
    (c.rows.map fun r => r.1.name) = c.action.fields.map Field.name := by
  rw [← map_fst_rows, List.map_map]
  rfl

lemma toJson_eq (c : Command) : c.toJson = .map ((some "action", .text c.action.name) ::
    c.rows.map fun r => (some r.1.name, r.2.toJson)) := by
  rw [toJson, Json.object, List.map_cons, List.map_map]
  rfl

lemma datum?_toJson (c : Command) : Json.datum? depthOfStep c.toJson =
    some (.map ((.text "action", .text c.action.name) :: c.rows.map Field.member)) := by
  -- Of the depth that a step may have, the map takes one level and a list in it another.
  have hdepth : depthOfStep = 123 + 1 + 1 := rfl
  rw [toJson_eq, hdepth, Json.datum?, List.mapM_cons, mapM_map_eq_some (k := Field.member)]
  · rfl
  · intro r _
    rw [FieldValue.datum?_toJson]
    rfl

/-- The values of a command are read back from its members. -/
lemma ofMembers_rows (c : Command) :
    c.action.ofMembers (c.rows.map Field.member) = .ok c := by
  have hvalues : c.action.withValues (.ok c.values) = .ok c := by
    rw [Action.withValues, command?_values]
  have hfields : (c.action.fields.map Field.name).Nodup := (List.nodup_cons.mp c.action.nodup_names).2
  have hnames : (c.rows.map fun r => r.1.name).Nodup := by rwa [map_name_rows]
  rw [Action.ofMembers]
  split
  · -- An action without fields looks at no member, and its command has no values.
    next hempty =>
    have hnone : c.values = [] := by
      have hrows : c.rows = [] := by rw [rows, List.isEmpty_iff.mp hempty, List.zip_nil_left]
      rw [← map_snd_rows, hrows, List.map_nil]
    rwa [hnone] at hvalues
  · rw [Field.assign_members hfields ?_ (fun r => kind_of_mem_rows) hnames fun r _ => rfl,
      List.append_nil]
    · have hcomplete : Field.complete (c.rows.map fun r => (r.1.name, r.2)).reverse c.action.fields =
          .ok c.values := by
        rw [← map_fst_rows, ← map_snd_rows]
        refine Field.complete_rows fun r hr => lookup_eq_some_of_mem ?_ ?_
        · rw [List.map_reverse, List.map_map, List.nodup_reverse]
          exact hnames
        · exact List.mem_reverse.mpr (List.mem_map_of_mem hr)
      simp only [hcomplete, hvalues]
    · intro r hr
      rw [← map_fst_rows]
      exact List.mem_map_of_mem hr

theorem ofJson?_toJson (c : Command) : ofJson? c.toJson = some c := by
  have hnot : ∀ m ∈ c.rows.map Field.member, m.1.text? ≠ some "action" := by
    intro m hm
    obtain ⟨r, hr, rfl⟩ := List.mem_map.mp hm
    intro h
    have hname : r.1.name = "action" := Option.some.inj h
    refine (List.nodup_cons.mp c.action.nodup_names).1 ?_
    rw [← map_name_rows, ← hname]
    exact List.mem_map_of_mem hr
  have haction : ((Datum.text "action", Datum.text c.action.name) :: c.rows.map Field.member).filter
      (fun m => m.1.text? = some "action") = [(.text "action", .text c.action.name)] := by
    rw [List.filter_cons_of_pos (by rfl),
      List.filter_eq_nil_iff.mpr fun m hm => by simpa using hnot m hm]
  have hothers : ((Datum.text "action", Datum.text c.action.name) :: c.rows.map Field.member).filter
      (fun m => m.1.text? ≠ some "action") = c.rows.map Field.member := by
    rw [List.filter_cons_of_neg (by simp [Datum.text?]),
      List.filter_eq_self.mpr fun m hm => by simpa using hnot m hm]
  have hname : Action.ofText c.action.name = .ok c.action := by
    rw [Action.ofText, Action.ofName?_name]
  rw [ofJson?, datum?_toJson]
  simp only [ofDatum, haction, hothers, hname, ofMembers_rows]
  rfl

end Command

/-! ## Records -/

namespace Json

lemma optional?_of_ne_null {α : Type} {g : Json → Option α} {j : Json} (hnull : j ≠ .null) {x : α}
    (h : g j = some x) : optional? g j = some (some x) := by
  rw [optional?.eq_2 _ _ hnull, h, Option.map_some]

lemma optional?_orNull {α : Type} {g : Json → Option α} {f : α → Json} (hnull : ∀ x, f x ≠ .null)
    (h : ∀ x, g (f x) = some x) (x : Option α) : optional? g (orNull (x.map f)) = some x := by
  cases x with
  | none => rfl
  | some x => exact optional?_of_ne_null (hnull x) (h x)

lemma text_ne_null (s : String) : text s ≠ .null := by
  intro h
  cases h

lemma optional?_text (s : Option String) : optional? text? (orNull (s.map text)) = some s :=
  optional?_orNull (f := text) text_ne_null (fun _ => rfl) s

lemma uint64?_uint64Json (n : UInt64) : uint64? (uint64Json n) = some n := by
  have hlt := n.toNat_lt_size
  rw [uint64Json, natural, integer, uint64?, if_pos ⟨by omega, by omega⟩, Int.toNat_natCast,
    UInt64.ofNat_toNat]

lemma optional?_uint64 (n : Option UInt64) :
    optional? uint64? (orNull (n.map uint64Json)) = some n :=
  optional?_orNull (f := uint64Json) (fun _ h => by cases h) uint64?_uint64Json n

end Json

theorem Workflow.ofJson?_toJson (w : Workflow) : ofJson? w.toJson = some w := by
  obtain ⟨name, steps⟩ := w
  have hsteps := mapM_map_self Command.ofJson?_toJson steps
  cases name with
  | none =>
    simp [toJson, ofJson?, Json.object, Json.fields?, Json.member?, Json.fieldOr, Json.items?, hsteps]
  | some name =>
    have hname := Json.optional?_of_ne_null (g := Json.text?) (Json.text_ne_null name) rfl
    simp [toJson, ofJson?, Json.object, Json.fields?, Json.member?, Json.fieldOr, Json.items?, hsteps,
      hname]

theorem HostConfig.ofJson?_toJson (h : HostConfig) : ofJson? h.toJson = some h := by
  have harguments := mapM_map_self (f := Json.text) (g := Json.text?) (fun _ => rfl) h.arguments
  simp [toJson, ofJson?, fieldNames, Json.object, Json.fields?, Json.member?, Json.fieldOr,
    Json.optional?_text, Json.texts?, harguments, Json.bool?]

theorem Config.ofJson?_toJson (c : Config) : ofJson? c.toJson = some c := by
  have hfields : c.toJson.fields? fieldNames = some [some (.orNull (c.folder.map .text)),
      some (uint64Json c.intervalMs), some (.orNull (c.timeoutMs.map uint64Json)),
      some c.host.toJson] := by
    simp [toJson, fieldNames, Json.object, Json.fields?, Json.member?]
  rw [ofJson?, hfields]
  dsimp only
  rw [Json.fieldOr, Json.fieldOr, Json.fieldOr, Json.fieldOr, Json.optional?_text,
    Json.uint64?_uint64Json, Json.optional?_uint64, HostConfig.ofJson?_toJson]
  rfl

/-! ## Texts -/

/-- A value that was written is read back, in either style of writing and from every other notation. -/
structure ReadBack {α : Type} (toJson : α → Json) (parse : String → Except Fault α) (x : α) : Prop where
  print : parse (toJson x).print = .ok x
  printNarrow : parse (toJson x).printNarrow = .ok x
  spelled : ∀ text : String, (toJson x).Spells text.toList → parse text = .ok x

/-- Whatever takes every notation takes in particular what is written. -/
lemma ReadBack.of_spelled {α : Type} {f : α → Json} {g : String → Except Fault α} {x : α}
    (h : ∀ text : String, (f x).Spells text.toList → g text = .ok x) : ReadBack f g x where
  print := h _ (by rw [Json.print, String.toList_ofList]; exact Json.spells_chars false _)
  printNarrow := h _ (by rw [Json.printNarrow, String.toList_ofList]; exact Json.spells_chars true _)
  spelled := h

/-- Every workflow and every configuration is read back from what is written for it. -/
theorem parse_toJson : (∀ w : Workflow, ReadBack Workflow.toJson Workflow.parse w) ∧
    ∀ c : Config, ReadBack Config.toJson Config.parse c := by
  constructor
  · refine fun w => .of_spelled fun text htext => ?_
    rw [Workflow.parse, Json.parse?_of_spells htext, Option.bind_some, w.ofJson?_toJson]
  · refine fun c => .of_spelled fun text htext => ?_
    rw [Config.parse, Json.parse?_of_spells htext, Option.bind_some, c.ofJson?_toJson]

end HostScript
