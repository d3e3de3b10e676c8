import HostScript.Proofs.Record
import Mathlib.Logic.Relation

/-!
# Presentations of a document

A document may be edited without saying anything else: the members of an object change places, members come
in that are no fields, and members with the default of their field are left out or written out. An object
says the same about each of its fields before and after such an edit, and so a document is read as the same
workflow or the same configuration after any number of them.
-/
namespace HostScript

namespace Json

/-! ## Edits of an object -/

/-- A field of an object, with the values that say no more than its absence. -/
structure Slot where
  name : String
  IsDefault : Json → Prop

/-- The slot of a field that is read with a default. -/
def slot {α : Type} (name : String) (default : α) (read? : Json → Option α) : Slot :=
  ⟨name, fun j => read? j = some default⟩

/-- What may be known of the objects of a kind without reading them: their fields, and what may stand in the
members that are none. -/
structure Form where
  slots : List Slot
  Passable : Json → Prop
  nodup : (slots.map Slot.name).Nodup

/-- One edit of the members of an object. -/
inductive Edit (form : Form) : List (Option String × Json) → List (Option String × Json) → Prop
  /-- The members change places. -/
  | permute {members members' : List (Option String × Json)} (h : members.Perm members') :
    Edit form members members'
  /-- A member comes in that is no field. -/
  | insert (before after : List (Option String × Json)) {key : String} {j : Json}
    (hkey : ∀ s ∈ form.slots, s.name ≠ key) (hj : form.Passable j) :
    Edit form (before ++ after) (before ++ (some key, j) :: after)
  /-- A member with the default of its field is left out. -/
  | leaveOut (before after : List (Option String × Json)) {s : Slot} {j : Json}
    (hs : s ∈ form.slots) (hj : s.IsDefault j) :
    Edit form (before ++ (some s.name, j) :: after) (before ++ after)
  /-- The default of a field without a member is written out. -/
  | writeOut (before after : List (Option String × Json)) {s : Slot} {j : Json}
    (hs : s ∈ form.slots) (hj : s.IsDefault j)
    (habsent : ∀ m ∈ before ++ after, m.1 ≠ some s.name) :
    Edit form (before ++ after) (before ++ (some s.name, j) :: after)

section Members

variable {before after members members' : List (Option String × Json)} {name : String}

lemma member?_perm (h : members.Perm members') (name : String) :
    member? members name = member? members' name := by
  have hfilter := h.filter fun m => m.1 = some name
  rw [member?, member?]
  generalize members.filter (fun m => m.1 = some name) = xs at hfilter ⊢
  generalize members'.filter (fun m => m.1 = some name) = ys at hfilter ⊢
  rcases xs with _ | ⟨m, _ | ⟨n, rest⟩⟩
  · rw [List.nil_perm.mp hfilter]
  · rw [List.singleton_perm.mp hfilter]
  · rcases ys with _ | ⟨_, _ | ⟨_, _⟩⟩
    · simp at hfilter
    · simp at hfilter
    · rfl

lemma member?_append_cons_of_ne {key : String} (h : key ≠ name) (j : Json) :
    member? (before ++ (some key, j) :: after) name = member? (before ++ after) name := by
  simp [member?, List.filter_append, h]

/-- A member of a name counts if it is the only one. -/
lemma member?_append_cons_self (j : Json) : member? (before ++ (some name, j) :: after) name =
    if ∀ m ∈ before ++ after, m.1 ≠ some name then some (some j) else none := by
  have habsent : (∀ m ∈ before ++ after, m.1 ≠ some name) ↔
      before.filter (fun m => m.1 = some name) = [] ∧ after.filter (fun m => m.1 = some name) = [] := by
    rw [List.forall_mem_append]
    simp
  rw [member?, List.filter_append, List.filter_cons_of_pos (by simp), if_congr habsent rfl rfl]
  generalize before.filter (fun m => m.1 = some name) = xs
  generalize after.filter (fun m => m.1 = some name) = ys
  rcases xs with _ | ⟨_, _ | ⟨_, _⟩⟩
  · cases ys with
    | nil => rfl
    | cons m ys => rfl
  · simp
  · simp

lemma member?_of_absent (h : ∀ m ∈ members, m.1 ≠ some name) : member? members name = some none := by
  have hnone : members.filter (fun m => m.1 = some name) = [] := by simpa using h
  rw [member?, hnone]

/-- If anything is said about a field that has a member, then that is its only member. -/
lemma said_append_cons_self_iff {α : Type} {default? : Option α} {read? : Json → Option α} {j : Json}
    {v : α} : said default? read? (before ++ (some name, j) :: after) name = some v ↔
      (∀ m ∈ before ++ after, m.1 ≠ some name) ∧ read? j = some v := by
  rw [said, member?_append_cons_self]
  split
  · next habsent => exact (and_iff_right habsent).symm
  · next hpresent => exact ⟨fun h => by contradiction, fun h => absurd h.1 hpresent⟩

lemma said_of_absent {α : Type} {default? : Option α} {read? : Json → Option α}
    (h : ∀ m ∈ members, m.1 ≠ some name) : said default? read? members name = default? := by
  rw [said, member?_of_absent h]
  rfl

lemma said_append_cons_of_ne {α : Type} {default? : Option α} {read? : Json → Option α} {key : String}
    (h : key ≠ name) (j : Json) : said default? read? (before ++ (some key, j) :: after) name =
      said default? read? (before ++ after) name := by
  rw [said, said, member?_append_cons_of_ne h]

lemma isSome_keys_append_cons {key : Option String} {j j' : Json}
    (h : ∀ m ∈ before ++ (key, j) :: after, m.1.isSome = true) :
    ∀ m ∈ before ++ (key, j') :: after, m.1.isSome = true := by
  simpa only [List.forall_mem_append, List.forall_mem_cons] using h

end Members

/-- A form knows a field: it lists its name, and with it the default that the field has. -/
structure Form.Knows {α : Type} (form : Form) (name : String) (default? : Option α)
    (read? : Json → Option α) : Prop where
  listed : ∃ s ∈ form.slots, s.name = name
  default : ∀ s ∈ form.slots, s.name = name → ∀ j, s.IsDefault j →
    ∃ v, default? = some v ∧ read? j = some v

lemma Form.knows_of_mem {α : Type} {form : Form} {name : String} {default : α}
    {read? : Json → Option α} (h : slot name default read? ∈ form.slots) :
    form.Knows name (some default) read? := by
  refine ⟨⟨_, h, rfl⟩, fun s hs hname j hj => ⟨default, rfl, ?_⟩⟩
  obtain rfl := List.inj_on_of_nodup_map form.nodup hs h hname
  exact hj

namespace Edit

variable {form : Form} {members members' : List (Option String × Json)}

/-- No edit changes what an object says about a field. -/
theorem said_eq_some (h : Edit form members members') {α : Type} {name : String} {default? : Option α}
    {read? : Json → Option α} (hknows : form.Knows name default? read?) {v : α}
    (hsaid : said default? read? members name = some v) :
    said default? read? members' name = some v := by
  cases h with
  | permute h => rwa [said, ← member?_perm h, ← said]
  | insert before after hkey hj =>
    obtain ⟨s, hs, rfl⟩ := hknows.listed
    rwa [said_append_cons_of_ne (hkey s hs).symm]
  | @leaveOut before after s j hs hj =>
    by_cases hname : s.name = name
    · subst hname
      obtain ⟨w, hdefault, hread⟩ := hknows.default s hs rfl j hj
      obtain ⟨habsent, hread'⟩ := said_append_cons_self_iff.mp hsaid
      rw [said_of_absent habsent, hdefault, ← hread, hread']
    · rwa [said_append_cons_of_ne hname] at hsaid
  | @writeOut before after s j hs hj habsent =>
    by_cases hname : s.name = name
    · subst hname
      obtain ⟨w, hdefault, hread⟩ := hknows.default s hs rfl j hj
      rw [said_of_absent habsent, hdefault, ← hread] at hsaid
      exact said_append_cons_self_iff.mpr ⟨habsent, hsaid⟩
    · rwa [said_append_cons_of_ne hname]

/-- What holds of all members holds of all members after an edit, if it holds of those that may come in. -/
lemma forall_mem (h : Edit form members members') {p : Option String × Json → Prop}
    (hpassable : ∀ key j, form.Passable j → p (some key, j))
    (hdefault : ∀ s ∈ form.slots, ∀ j, s.IsDefault j → p (some s.name, j))
    (hmembers : ∀ m ∈ members, p m) : ∀ m ∈ members', p m := by
  cases h with
  | permute h => exact fun m hm => hmembers m (h.mem_iff.mpr hm)
  | insert before after hkey hj =>
    simp only [List.forall_mem_append, List.forall_mem_cons] at hmembers ⊢
    exact ⟨hmembers.1, hpassable _ _ hj, hmembers.2⟩
  | leaveOut before after hs hj =>
    simp only [List.forall_mem_append, List.forall_mem_cons] at hmembers ⊢
    exact ⟨hmembers.1, hmembers.2.2⟩
  | writeOut before after hs hj habsent =>
    simp only [List.forall_mem_append, List.forall_mem_cons] at hmembers ⊢
    exact ⟨hmembers.1, hdefault _ hs _ hj, hmembers.2⟩

lemma isSome_keys (h : Edit form members members') (hmembers : ∀ m ∈ members, m.1.isSome = true) :
    ∀ m ∈ members', m.1.isSome = true :=
  h.forall_mem (fun _ _ _ => rfl) (fun _ _ _ _ => rfl) hmembers

end Edit

end Json

/-! ## Edits of a step -/

namespace Json

/-- What may stand inside a step: strings that are texts and numbers that are finite, with containers nested
at most so deep. -/
inductive Within : ℕ → Json → Prop
  | null (depth : ℕ) : Within depth .null
  | bool (depth : ℕ) (b : Bool) : Within depth (.bool b)
  | number (depth : ℕ) {n : Numeral} (h : n.isFinite = true) : Within depth (.number n)
  | text (depth : ℕ) (s : String) : Within depth (.text s)
  | list {depth : ℕ} {items : List Json} (h : ∀ j ∈ items, Within depth j) :
    Within (depth + 1) (.list items)
  | map {depth : ℕ} {members : List (Option String × Json)} (hkeys : ∀ m ∈ members, m.1.isSome = true)
    (h : ∀ m ∈ members, Within depth m.2) : Within (depth + 1) (.map members)

lemma Within.isSome_datum? {depth : ℕ} {j : Json} (h : Within depth j) :
    (datum? depth j).isSome = true := by
  induction h with
  | null depth => cases depth <;> rfl
  | bool depth b => cases depth <;> rfl
  | number depth h => cases depth <;> simp [datum?, h]
  | text depth s => cases depth <;> rfl
  | list _ ih => rw [datum?, Option.isSome_map, mapM_eq_some_iff.mpr ⟨ih, rfl⟩, Option.isSome_some]
  | map hkeys _ ih =>
    have hmembers := mapM_eq_some_iff.mpr
      ⟨fun m hm => isSome_memberDatum?_iff.mpr ⟨hkeys m hm, ih m hm⟩, rfl⟩
    rw [datum?_map, Option.isSome_map, hmembers, Option.isSome_some]

end Json

/-- The slot of a field of a step. A field that has to be given has no default. -/
def Field.slot (f : Field) : Json.Slot :=
  ⟨f.name, fun j => ∃ v, f.default? = some v ∧ f.readJson? j = some v⟩

/-- What may stand in the object of a step besides its action, which has no default. -/
def Action.form (a : Action) : Json.Form where
  slots := ⟨"action", fun _ => False⟩ :: a.fields.map Field.slot
  Passable := Json.Within (Command.depthOfStep - 1)
  nodup := by
    rw [List.map_cons, List.map_map]
    exact a.nodup_names

namespace Command

/-- One edit of the object of a step. -/
inductive Edit : Json → Json → Prop
  | members {a : Action} {members members' : List (Option String × Json)}
    (haction : (some "action", Json.text a.name) ∈ members) (h : Json.Edit a.form members members') :
    Edit (.map members) (.map members')

lemma knows_action (a : Action) : a.form.Knows "action" none some where
  listed := ⟨⟨"action", fun _ => False⟩, List.mem_cons_self, rfl⟩
  default s hs hname j hj := by
    obtain rfl := List.inj_on_of_nodup_map a.form.nodup hs
      (List.mem_cons_self : ⟨"action", fun _ => False⟩ ∈ a.form.slots) hname
    contradiction

lemma knows_field {a : Action} {f : Field} (hf : f ∈ a.fields) :
    a.form.Knows f.name f.default? f.readJson? := by
  have hslot : f.slot ∈ a.form.slots := List.mem_cons_of_mem _ (List.mem_map_of_mem hf)
  refine ⟨⟨_, hslot, rfl⟩, fun s hs hname j hj => ?_⟩
  obtain rfl := List.inj_on_of_nodup_map a.form.nodup hs hslot hname
  exact hj

lemma said_action {members : List (Option String × Json)} {j : Json} :
    Json.said none some members "action" = some j ↔ Json.member? members "action" = some (some j) := by
  rw [Json.said]
  rcases Json.member? members "action" with _ | _ | i <;> simp

/-- A default of a field can be read as data. -/
lemma isSome_of_isDefault {a : Action} {s : Json.Slot} (hs : s ∈ a.form.slots) {j : Json}
    (hj : s.IsDefault j) : (Json.datum? (depthOfStep - 1) j).isSome = true := by
  rcases List.mem_cons.mp hs with rfl | hs
  · contradiction
  · obtain ⟨f, -, rfl⟩ := List.mem_map.mp hs
    obtain ⟨v, -, hread⟩ := hj
    rw [Field.readJson?] at hread
    cases hdatum : Json.datum? (depthOfStep - 1) j with
    | none =>
      rw [hdatum] at hread
      contradiction
    | some d => rfl

/-- The action of a step that is read is the one that any member names. -/
lemma action_eq {members : List (Option String × Json)} {c : Command} {a : Action}
    (hmember : Json.member? members "action" = some (some (.text c.action.name)))
    (haction : (some "action", Json.text a.name) ∈ members) : c.action = a := by
  obtain ⟨before, after, rfl⟩ := List.append_of_mem haction
  rw [Json.member?_append_cons_self] at hmember
  split at hmember
  · have hname : a.name = c.action.name := by simpa [Json.text] using hmember
    exact (Action.name_injective hname).symm
  · contradiction

/-- A step is read as the same command after an edit. -/
theorem ofJson?_edit {j j' : Json} {c : Command} (h : Edit j j') (hj : ofJson? j = some c) :
    ofJson? j' = some c := by
  obtain ⟨haction, h⟩ := h
  obtain ⟨hread, hmember, hvalues⟩ := ofJson?_map_iff.mp hj
  obtain rfl := action_eq hmember haction
  rw [ofJson?_map_iff]
  refine ⟨h.forall_mem ?_ ?_ hread, ?_, ?_⟩
  · intro key j hpassable
    exact Json.isSome_memberDatum?_iff.mpr ⟨rfl, hpassable.isSome_datum?⟩
  · intro s hs j hdefault
    exact Json.isSome_memberDatum?_iff.mpr ⟨rfl, isSome_of_isDefault hs hdefault⟩
  · exact said_action.mp (h.said_eq_some (knows_action _) (said_action.mpr hmember))
  · rw [← hvalues]
    refine mapM_congr_of_mem fun f hf => ?_
    obtain ⟨v, hv⟩ := Option.isSome_iff_exists.mp ((mapM_eq_some_iff.mp hvalues).1 f hf)
    rw [hv, h.said_eq_some (knows_field hf) hv]

end Command

/-! ## Edits of a workflow -/

namespace Workflow

def form : Json.Form where
  slots := [Json.slot "name" none (Json.optional? Json.text?), Json.slot "steps" [] readSteps?]
  Passable _ := True
  nodup := by decide

/-- One edit of a workflow: of its own object or of the object of one step, whether the workflow itself is
written as an object or as an array. -/
inductive Edit : Json → Json → Prop
  | members {members members' : List (Option String × Json)} (h : Json.Edit form members members') :
    Edit (.map members) (.map members')
  | step (before after : List (Option String × Json)) (done left : List Json) {j j' : Json}
    (h : Command.Edit j j') :
    Edit (.map (before ++ (some "steps", .list (done ++ j :: left)) :: after))
      (.map (before ++ (some "steps", .list (done ++ j' :: left)) :: after))
  | stepOfRow (name : Json) (done left : List Json) {j j' : Json} (h : Command.Edit j j') :
    Edit (.list [name, .list (done ++ j :: left)]) (.list [name, .list (done ++ j' :: left)])

/-- Steps are read as the same commands after an edit of one of them. -/
lemma readSteps?_edit {done left : List Json} {j j' : Json} (h : Command.Edit j j') {cs : List Command}
    (hcs : readSteps? (.list (done ++ j :: left)) = some cs) :
    readSteps? (.list (done ++ j' :: left)) = some cs := by
  change (done ++ j :: left).mapM Command.ofJson? = some cs at hcs
  have hj := (mapM_eq_some_iff.mp hcs).1 j (by simp)
  obtain ⟨c, hc⟩ := Option.isSome_iff_exists.mp hj
  change (done ++ j' :: left).mapM Command.ofJson? = some cs
  rwa [List.mapM_append, List.mapM_cons, Command.ofJson?_edit h hc, ← hc, ← List.mapM_cons,
    ← List.mapM_append]

lemma ofJson?_row {name steps : Json} : ofJson? (.list [name, steps]) =
    (Json.optional? Json.text? name).bind fun name =>
      (readSteps? steps).bind fun steps => some ⟨name, steps⟩ := by
  simp [ofJson?, readSteps?, Json.fields?, Json.fieldOr]

/-- A workflow is read as itself after an edit. -/
theorem ofJson?_edit {j j' : Json} {w : Workflow} (h : Edit j j') (hj : ofJson? j = some w) :
    ofJson? j' = some w := by
  cases h with
  | members h =>
    rw [ofJson?_map_iff] at hj ⊢
    obtain ⟨hkeys, hname, hsteps⟩ := hj
    exact ⟨h.isSome_keys hkeys, h.said_eq_some (Json.Form.knows_of_mem (by simp [form])) hname,
      h.said_eq_some (Json.Form.knows_of_mem (by simp [form])) hsteps⟩
  | step before after done left h =>
    rw [ofJson?_map_iff] at hj ⊢
    obtain ⟨hkeys, hname, hsteps⟩ := hj
    obtain ⟨habsent, hsteps⟩ := Json.said_append_cons_self_iff.mp hsteps
    refine ⟨Json.isSome_keys_append_cons hkeys, ?_, ?_⟩
    · rwa [Json.said_append_cons_of_ne (by decide)] at hname ⊢
    · exact Json.said_append_cons_self_iff.mpr ⟨habsent, readSteps?_edit h hsteps⟩
  | stepOfRow name done left h =>
    rw [ofJson?_row] at hj ⊢
    obtain ⟨name, hname, hj⟩ := Option.bind_eq_some_iff.mp hj
    obtain ⟨steps, hsteps, hj⟩ := Option.bind_eq_some_iff.mp hj
    rw [hname, readSteps?_edit h hsteps]
    exact hj

end Workflow

/-! ## Edits of a configuration -/

namespace HostConfig

def form : Json.Form where
  slots := [Json.slot "program" none (Json.optional? Json.text?), Json.slot "args" [] Json.texts?,
    Json.slot "working_dir" none (Json.optional? Json.text?), Json.slot "connected" true Json.bool?,
    Json.slot "drawing_active" false Json.bool?]
  Passable _ := True
  nodup := by decide

/-- A host section is read as itself after an edit. -/
lemma ofJson?_edit {members members' : List (Option String × Json)}
    (h : Json.Edit form members members') {host : HostConfig} (hj : ofJson? (.map members) = some host) :
    ofJson? (.map members') = some host := by
  rw [ofJson?_map_iff] at hj ⊢
  obtain ⟨hkeys, hprogram, harguments, hfolder, hconnected, hdrawing⟩ := hj
  exact ⟨h.isSome_keys hkeys, h.said_eq_some (Json.Form.knows_of_mem (by simp [form])) hprogram,
    h.said_eq_some (Json.Form.knows_of_mem (by simp [form])) harguments,
    h.said_eq_some (Json.Form.knows_of_mem (by simp [form])) hfolder,
    h.said_eq_some (Json.Form.knows_of_mem (by simp [form])) hconnected,
    h.said_eq_some (Json.Form.knows_of_mem (by simp [form])) hdrawing⟩

end HostConfig

namespace Config

def form : Json.Form where
  slots := [Json.slot "macro_directory" none (Json.optional? Json.text?),
    Json.slot "poll_interval_ms" 100 Json.uint64?,
    Json.slot "wait_timeout_ms" none (Json.optional? Json.uint64?),
    Json.slot "host" HostConfig.usual HostConfig.ofJson?]
  Passable _ := True
  nodup := by decide

/-- One edit of a configuration: of its own object or of the object of its host section, whether the
configuration itself is written as an object or as an array. -/
inductive Edit : Json → Json → Prop
  | members {members members' : List (Option String × Json)} (h : Json.Edit form members members') :
    Edit (.map members) (.map members')
  | host (before after : List (Option String × Json)) {members members' : List (Option String × Json)}
    (h : Json.Edit HostConfig.form members members') :
    Edit (.map (before ++ (some "host", .map members) :: after))
      (.map (before ++ (some "host", .map members') :: after))
  | hostOfRow (folder interval timeout : Json) {members members' : List (Option String × Json)}
    (h : Json.Edit HostConfig.form members members') :
    Edit (.list [folder, interval, timeout, .map members])
      (.list [folder, interval, timeout, .map members'])

lemma ofJson?_row {folder interval timeout host : Json} :
    ofJson? (.list [folder, interval, timeout, host]) =
      (Json.optional? Json.text? folder).bind fun folder =>
        (Json.uint64? interval).bind fun interval =>
          (Json.optional? Json.uint64? timeout).bind fun timeout =>
            (HostConfig.ofJson? host).bind fun host => some ⟨folder, interval, timeout, host⟩ := by
  simp [ofJson?, fieldNames, Json.fields?, Json.fieldOr]

/-- A configuration is read as itself after an edit. -/
theorem ofJson?_edit {j j' : Json} {c : Config} (h : Edit j j') (hj : ofJson? j = some c) :
    ofJson? j' = some c := by
  cases h with
  | members h =>
    rw [ofJson?_map_iff] at hj ⊢
    obtain ⟨hkeys, hfolder, hinterval, htimeout, hhost⟩ := hj
    exact ⟨h.isSome_keys hkeys, h.said_eq_some (Json.Form.knows_of_mem (by simp [form])) hfolder,
      h.said_eq_some (Json.Form.knows_of_mem (by simp [form])) hinterval,
      h.said_eq_some (Json.Form.knows_of_mem (by simp [form])) htimeout,
      h.said_eq_some (Json.Form.knows_of_mem (by simp [form])) hhost⟩
  | host before after h =>
    rw [ofJson?_map_iff] at hj ⊢
    obtain ⟨hkeys, hfolder, hinterval, htimeout, hhost⟩ := hj
    obtain ⟨habsent, hhost⟩ := Json.said_append_cons_self_iff.mp hhost
    refine ⟨Json.isSome_keys_append_cons hkeys, ?_, ?_, ?_, ?_⟩
    · rwa [Json.said_append_cons_of_ne (by decide)] at hfolder ⊢
    · rwa [Json.said_append_cons_of_ne (by decide)] at hinterval ⊢
    · rwa [Json.said_append_cons_of_ne (by decide)] at htimeout ⊢
    · exact Json.said_append_cons_self_iff.mpr ⟨habsent, HostConfig.ofJson?_edit h hhost⟩
  | @hostOfRow folder interval timeout members members' h =>
    rw [ofJson?_row] at hj ⊢
    cases hhost : HostConfig.ofJson? (.map members) with
    | none => simp [hhost] at hj
    | some host => rwa [HostConfig.ofJson?_edit h hhost, ← hhost]

end Config

/-! ## Edits of a text -/

/-- Whatever is made of a document by edits, every text of it is read as the value, those that are written
for it among them. -/
structure Steadfast {α : Type} (Edit : Json → Json → Prop) (parse : String → Except Fault α) (j : Json)
    (x : α) : Prop where
  read : ∀ j', Relation.ReflTransGen Edit j j' → ∀ text : String, Json.parse? text = some j' →
    parse text = .ok x
  written : ∀ j', Relation.ReflTransGen Edit j j' → ReadBack (fun _ => j') parse x

/-- It is enough that single edits keep the value. -/
lemma Steadfast.of_edit {α : Type} {Edit : Json → Json → Prop} {parse : String → Except Fault α}
    (ofJson? : Json → Option α) {x : α}
    (hedit : ∀ j j', Edit j j' → ofJson? j = some x → ofJson? j' = some x)
    (hparse : ∀ text j, Json.parse? text = some j → ofJson? j = some x → parse text = .ok x)
    {j : Json} (hj : ofJson? j = some x) : Steadfast Edit parse j x := by
  have hedits : ∀ j', Relation.ReflTransGen Edit j j' → ofJson? j' = some x := by
    intro j' h
    induction h with
    | refl => exact hj
    | tail _ hlast ih => exact hedit _ _ hlast ih
  exact ⟨fun j' h text htext => hparse text j' htext (hedits j' h),
    fun j' h => .of_spelled fun text htext => hparse text j' (Json.parse?_of_spells htext) (hedits j' h)⟩

lemma Workflow.parse_of_json {text : String} {j : Json} {w : Workflow} (htext : Json.parse? text = some j)
    (hj : ofJson? j = some w) : parse text = .ok w := by
  rw [parse, htext, Option.bind_some, hj]

lemma Config.parse_of_json {text : String} {j : Json} {c : Config} (htext : Json.parse? text = some j)
    (hj : ofJson? j = some c) : parse text = .ok c := by
  rw [parse, htext, Option.bind_some, hj]

/-- A text in JSON that is read as a workflow or as a configuration is read as the same one after any number
of edits, and the script of the workflow is the same. -/
theorem steadfast_of_parse :
    (∀ (text : String) (j : Json) (w : Workflow), Json.parse? text = some j → Workflow.ofJson? j = some w →
      Workflow.parse text = .ok w ∧ Steadfast Workflow.Edit Workflow.parse j w ∧
        ∀ j', Relation.ReflTransGen Workflow.Edit j j' → ∀ text' : String, Json.parse? text' = some j' →
          (Workflow.parse text').bind Workflow.script = w.script) ∧
    ∀ (text : String) (j : Json) (c : Config), Json.parse? text = some j → Config.ofJson? j = some c →
      Config.parse text = .ok c ∧ Steadfast Config.Edit Config.parse j c := by
  constructor
  · intro text j w htext hj
    have hw : Steadfast Workflow.Edit Workflow.parse j w :=
      .of_edit Workflow.ofJson? (fun _ _ => Workflow.ofJson?_edit) (fun _ _ => Workflow.parse_of_json) hj
    refine ⟨Workflow.parse_of_json htext hj, hw, fun j' h text' htext' => ?_⟩
    rw [hw.read j' h text' htext']
    rfl
  · intro text j c htext hj
    exact ⟨Config.parse_of_json htext hj,
      .of_edit Config.ofJson? (fun _ _ => Config.ofJson?_edit) (fun _ _ => Config.parse_of_json) hj⟩

/-- A step that is told in another order, with a remark and with its modifier, and a configuration that
leaves out that its host is connected. -/
theorem steadfast_of_parse_remarks :
    let step : List (Option String × Json) := [(some "action", .text "mouse_up"), (some "frame", .text "f"),
      (some "subframe", .text "s"), (some "x", .natural 1), (some "y", .natural 2)]
    let workflow (step : List (Option String × Json)) : Json := .map [(some "steps", .list [.map step])]
    let told : List (Option String × Json) :=
      (some "modifier", .natural 0) :: (some "why", .list [.bool true]) :: step.reverse
    let host : Json := .map [(some "host", .map [(some "connected", .bool true)])]
    let interval : Json := .map [(some "host", .map []), (some "poll_interval_ms", .natural 100)]
    Json.parse? (workflow step).print = some (workflow step) ∧
      Workflow.ofJson? (workflow step) = some ⟨none, [.mouseUp "f" "s" 1 2 0]⟩ ∧
      Relation.ReflTransGen Workflow.Edit (workflow step) (workflow told) ∧
      Workflow.parse (workflow told).print = .ok ⟨none, [.mouseUp "f" "s" 1 2 0]⟩ ∧
      Json.parse? host.print = some host ∧ Config.ofJson? host = some .usual ∧
      Relation.ReflTransGen Config.Edit host interval ∧ Config.parse interval.print = .ok .usual := by
  intro step workflow told host interval
  have hstep {members members' : List (Option String × Json)}
      (haction : (some "action", Json.text "mouse_up") ∈ members)
      (h : Json.Edit (Action.form .mouseUp) members members') :
      Workflow.Edit (workflow members) (workflow members') :=
    .step [] [] [] [] (.members (a := .mouseUp) haction h)
  have hwhy : Json.Edit (Action.form .mouseUp) step.reverse
      ((some "why", .list [.bool true]) :: step.reverse) :=
    .insert [] step.reverse (by decide) (.list (by simp [Json.Within.bool]))
  have hmodifier : Json.Edit (Action.form .mouseUp) ((some "why", .list [.bool true]) :: step.reverse)
      told :=
    .writeOut (s := (Field.mayNumber "modifier").slot) [] _
      (List.mem_cons_of_mem _ (List.mem_map_of_mem (by simp [Action.fields, Action.fields.mouse])))
      ⟨.number 0, rfl, by decide⟩ (by decide)
  have hedits : Relation.ReflTransGen Workflow.Edit (workflow step) (workflow told) :=
    .tail (.tail (.single (hstep (by simp [step]) (.permute step.reverse_perm.symm)))
      (hstep (by simp [step]) hwhy)) (hstep (by simp [step]) hmodifier)
  have hhost : Config.Edit host (.map [(some "host", .map [])]) :=
    .host [] [] (.leaveOut [] [] (s := Json.slot "connected" true Json.bool?) (by simp [HostConfig.form]) rfl)
  have hinterval : Config.Edit (.map [(some "host", .map [])]) interval :=
    .members (.writeOut [(some "host", .map [])] [] (s := Json.slot "poll_interval_ms" 100 Json.uint64?)
      (by simp [Config.form]) rfl (by decide))
  have htext : Json.parse? (workflow step).print = some (workflow step) := Json.parse?_ofList_chars false _
  have hworkflow : Workflow.ofJson? (workflow step) = some ⟨none, [.mouseUp "f" "s" 1 2 0]⟩ := by
    decide +kernel
  have htext' : Json.parse? host.print = some host := Json.parse?_ofList_chars false _
  have hconfig : Config.ofJson? host = some .usual := by decide +kernel
  have hedits' : Relation.ReflTransGen Config.Edit host interval := .tail (.single hhost) hinterval
  refine ⟨htext, hworkflow, hedits, ?_, htext', hconfig, hedits', ?_⟩
  · exact ((steadfast_of_parse.1 _ _ _ htext hworkflow).2.1.written _ hedits).print
  · exact ((steadfast_of_parse.2 _ _ _ htext' hconfig).2.written _ hedits').print

end HostScript
