import HostScript.Proofs.RoundTrip
import Mathlib.Data.List.Forall2

/-!
# What an object says about its fields

An object is read field by field: a field has the value of its only member, or its default where it has no
member, and nothing where it has several. Neither the order of the members nor members of other names have
a part in that. All objects of a document are of this kind, a step with its action no less than a
configuration.
-/
namespace HostScript

lemma mapM_eq_some_iff {α β : Type} {f : α → Option β} {xs : List α} {ys : List β} :
    xs.mapM f = some ys ↔ (∀ x ∈ xs, (f x).isSome = true) ∧ xs.filterMap f = ys := by
  induction xs generalizing ys with
  | nil => simp
  | cons x xs ih =>
    rw [List.mapM_cons, List.forall_mem_cons]
    cases hx : f x with
    | none => simp
    | some y =>
      cases hxs : xs.mapM f with
      | none =>
        have hnot : ¬ ∀ x ∈ xs, (f x).isSome = true := fun hall => by
          rw [ih.mpr ⟨hall, rfl⟩] at hxs
          contradiction
        simp [hnot]
      | some zs =>
        obtain ⟨hall, rfl⟩ := ih.mp hxs
        simp only [List.filterMap_cons, hx, Option.isSome_some, true_and]
        constructor
        · intro h
          exact ⟨hall, Option.some.inj h⟩
        · rintro ⟨-, rfl⟩
          rfl

lemma mapM_congr_of_mem {α β : Type} {f g : α → Option β} {xs : List α} (h : ∀ x ∈ xs, f x = g x) :
    xs.mapM f = xs.mapM g := by
  induction xs with
  | nil => rfl
  | cons x xs ih =>
    rw [List.mapM_cons, List.mapM_cons, h x List.mem_cons_self,
      ih fun y hy => h y (List.mem_cons_of_mem x hy)]

namespace Json

/-- What the members of an object say about a field, given its default, if it has one, and how it is
read. -/
def said {α : Type} (default? : Option α) (read? : Json → Option α)
    (members : List (Option String × Json)) (name : String) : Option α :=
  (member? members name).bind fun
    | none => default?
    | some j => read? j

lemma said_some {α : Type} (default : α) (read? : Json → Option α)
    (members : List (Option String × Json)) (name : String) :
    said (some default) read? members name = (member? members name).bind (fieldOr default read?) := by
  cases hmember : member? members name with
  | none => simp [said, hmember]
  | some o => cases o <;> simp [said, hmember, fieldOr]

/-! ## Members of data -/

/-- A member as data. -/
def memberDatum? (depth : ℕ) (m : Option String × Json) : Option (Datum × Datum) :=
  match m.1, datum? depth m.2 with
  | some key, some d => some (.text key, d)
  | _, _ => none

lemma datum?_map (depth : ℕ) (members : List (Option String × Json)) :
    datum? (depth + 1) (.map members) = (members.mapM (memberDatum? depth)).map .map := by
  rw [datum?]
  rfl

lemma memberDatum?_eq_some_iff {depth : ℕ} {m : Option String × Json} {d : Datum × Datum} :
    memberDatum? depth m = some d ↔
      ∃ key, m.1 = some key ∧ d.1 = .text key ∧ datum? depth m.2 = some d.2 := by
  obtain ⟨key?, j⟩ := m
  obtain ⟨k, v⟩ := d
  cases key? with
  | none => simp [memberDatum?]
  | some key => cases hd : datum? depth j <;> simp [memberDatum?, hd, eq_comm]

lemma isSome_memberDatum?_iff {depth : ℕ} {m : Option String × Json} :
    (memberDatum? depth m).isSome = true ↔ m.1.isSome = true ∧ (datum? depth m.2).isSome = true := by
  obtain ⟨key?, j⟩ := m
  cases key? with
  | none => simp [memberDatum?]
  | some key => cases hd : datum? depth j <;> simp [memberDatum?, hd]

lemma text_of_mem_filterMap {depth : ℕ} {members : List (Option String × Json)} {d : Datum × Datum}
    (h : d ∈ members.filterMap (memberDatum? depth)) : ∃ key, d.1 = .text key := by
  obtain ⟨m, -, hm⟩ := List.mem_filterMap.mp h
  obtain ⟨key, -, hkey, -⟩ := memberDatum?_eq_some_iff.mp hm
  exact ⟨key, hkey⟩

/-- The members of a name are the same ones before and after reading them as data. -/
lemma filter_filterMap_memberDatum? (depth : ℕ) (members : List (Option String × Json))
    (name : String) :
    (members.filterMap (memberDatum? depth)).filter (fun d => d.1.text? = some name) =
      (members.filter fun m => m.1 = some name).filterMap (memberDatum? depth) := by
  rw [List.filter_filterMap, List.filterMap_filter]
  congr 1
  funext m
  cases hm : memberDatum? depth m with
  | none => simp
  | some d =>
    obtain ⟨key, hkey, htext, -⟩ := memberDatum?_eq_some_iff.mp hm
    by_cases hname : key = name
    · simp [hkey, htext, Datum.text?, hname]
    · simp [hkey, htext, Datum.text?, hname]

lemma datum?_eq_text_iff {depth : ℕ} {j : Json} {s : String} :
    datum? depth j = some (.text s) ↔ j = .text s := by
  constructor
  · intro h
    cases j with
    | string text? => cases depth <;> cases text? <;> simp_all [datum?, text]
    | number n => cases depth <;> cases n <;> simp [datum?, numberDatum] at h <;> split at h <;> simp at h
    | _ => cases depth <;> simp [datum?] at h
  · rintro rfl
    cases depth <;> rfl

end Json

/-! ## Fields of a step -/

namespace Field

/-- What the members of a field say about it one after the other, if there is no other value of the field
before them. -/
def gathered (f : Field) (before? : Option FieldValue) : List (Datum × Datum) → Option (Option FieldValue)
  | [] => some before?
  | m :: members =>
    match before? with
    | some _ => none
    | none => (f.kind.read? m.2).bind fun v => gathered f (some v) members

/-- The members that are called like a field. -/
def named (f : Field) (members : List (Datum × Datum)) : List (Datum × Datum) :=
  members.filter fun m => m.1.text? = some f.name

variable {fields : List Field}

lemma eq_of_name_eq (hfields : (fields.map name).Nodup) {f g : Field} (hf : f ∈ fields)
    (hg : g ∈ fields) (h : f.name = g.name) : f = g :=
  List.inj_on_of_nodup_map hfields hf hg h

lemma named_cons_self (f : Field) (d : Datum) (members : List (Datum × Datum)) :
    f.named ((.text f.name, d) :: members) = (.text f.name, d) :: f.named members := by
  simp [named, Datum.text?]

lemma named_cons_of_ne {f : Field} {key : String} (h : f.name ≠ key) (d : Datum)
    (members : List (Datum × Datum)) : f.named ((.text key, d) :: members) = f.named members := by
  simp [named, Datum.text?, Ne.symm h]

/-- Reading members in order gathers for each field what the members of its name say. -/
lemma assign_eq_ok_iff (hfields : (fields.map name).Nodup) {members : List (Datum × Datum)}
    (htext : ∀ m ∈ members, ∃ key, m.1 = .text key) {before : List (String × FieldValue)}
    {said : Field → Option FieldValue} :
    (∃ given, assign fields before members = .ok given ∧
        ∀ f ∈ fields, given.lookup f.name = said f) ↔
      ∀ f ∈ fields, f.gathered (before.lookup f.name) (f.named members) = some (said f) := by
  induction members generalizing before with
  | nil => simp [assign, gathered, named]
  | cons m members ih =>
    have hrest := fun before => @ih (fun n hn => htext n (List.mem_cons_of_mem m hn)) before
    obtain ⟨key, hkey⟩ := htext m List.mem_cons_self
    obtain ⟨k, value⟩ := m
    obtain rfl : k = .text key := hkey
    rw [assign, select]
    cases hfind : fields.find? (·.name = key) with
    | none =>
      -- The member is passed over, and it is called like none of the fields.
      have hother : ∀ f ∈ fields, f.name ≠ key := by
        simpa using List.find?_eq_none.mp hfind
      simp only [hrest]
      refine forall₂_congr fun f hf => ?_
      rw [named_cons_of_ne (hother f hf)]
    | some g =>
      have hg : g ∈ fields := List.mem_of_find?_eq_some hfind
      obtain rfl : g.name = key := by simpa using List.find?_some hfind
      dsimp only
      cases hbefore : before.lookup g.name with
      | some w =>
        rw [Option.isSome_some, if_pos rfl]
        constructor
        · rintro ⟨given, h, -⟩
          contradiction
        · intro h
          have hself := h g hg
          rw [hbefore, named_cons_self, gathered] at hself
          contradiction
      | none =>
        rw [Option.isSome_none, if_neg Bool.false_ne_true]
        cases hread : g.kind.read? value with
        | none =>
          constructor
          · rintro ⟨given, h, -⟩
            contradiction
          · intro h
            have hself := h g hg
            rw [hbefore, named_cons_self, gathered, hread] at hself
            contradiction
        | some v =>
          dsimp only
          rw [hrest]
          refine forall₂_congr fun f hf => ?_
          by_cases hname : f.name = g.name
          · obtain rfl := eq_of_name_eq hfields hf hg hname
            rw [List.lookup_cons_self, hbefore, named_cons_self, gathered, hread, Option.bind_some]
          · rw [List.lookup_cons, beq_false_of_ne hname, named_cons_of_ne hname]

/-- What the members of data say about a field. -/
def told (f : Field) (members : List (Datum × Datum)) : Option FieldValue :=
  (f.gathered none (f.named members)).bind fun v? => v?.or f.default?

lemma complete_eq_ok_iff {given : List (String × FieldValue)} {values : List FieldValue} :
    complete given fields = .ok values ↔
      fields.mapM (fun f => (given.lookup f.name).or f.default?) = some values := by
  induction fields generalizing values with
  | nil => simp [complete, pure]
  | cons f fields ih =>
    rw [complete, List.mapM_cons]
    cases hvalue : (given.lookup f.name).or f.default? with
    | none => simp
    | some v =>
      cases hrest : complete given fields with
      | error e =>
        cases hmapM : fields.mapM (fun f => (given.lookup f.name).or f.default?) with
        | none => simp
        | some vs =>
          rw [ih.mpr hmapM] at hrest
          contradiction
      | ok vs => simp [ih.mp hrest]

/-- Fields that are read by name have the values that the members say. -/
lemma exists_assign_complete_iff (hfields : (fields.map name).Nodup) {members : List (Datum × Datum)}
    (htext : ∀ m ∈ members, ∃ key, m.1 = .text key) {values : List FieldValue} :
    (∃ given, assign fields [] members = .ok given ∧ complete given fields = .ok values) ↔
      fields.mapM (fun f => f.told members) = some values := by
  constructor
  · rintro ⟨given, hassign, hcomplete⟩
    have hgathered := (assign_eq_ok_iff hfields htext).mp ⟨given, hassign, fun f _ => rfl⟩
    rw [← complete_eq_ok_iff.mp hcomplete]
    refine mapM_congr_of_mem fun f hf => ?_
    have hf' := hgathered f hf
    rw [List.lookup_nil] at hf'
    rw [told, hf', Option.bind_some]
  · intro htold
    have hsome := (mapM_eq_some_iff.mp htold).1
    have hgathered : ∀ f ∈ fields, f.gathered (List.lookup f.name []) (f.named members) =
        some ((f.gathered none (f.named members)).getD none) := by
      intro f hf
      have hf := hsome f hf
      rw [List.lookup_nil]
      cases h : f.gathered none (f.named members) with
      | none =>
        rw [told, h] at hf
        contradiction
      | some v? => rfl
    obtain ⟨given, hassign, hlookup⟩ := (assign_eq_ok_iff hfields htext).mpr hgathered
    refine ⟨given, hassign, ?_⟩
    rw [complete_eq_ok_iff, ← htold]
    refine mapM_congr_of_mem fun f hf => ?_
    have hf' := hgathered f hf
    rw [List.lookup_nil] at hf'
    rw [told, hf', hlookup f hf, Option.bind_some]

/-- How the value of a field stands in a step. -/
def readJson? (f : Field) (j : Json) : Option FieldValue :=
  (Json.datum? (Command.depthOfStep - 1) j).bind f.kind.read?

/-- Read as data, the members of an object say the same about a field. -/
lemma told_filterMap (f : Field) {members : List (Option String × Json)}
    (hread : ∀ m ∈ members, (Json.memberDatum? (Command.depthOfStep - 1) m).isSome = true) :
    f.told (members.filterMap (Json.memberDatum? (Command.depthOfStep - 1))) =
      Json.said f.default? f.readJson? members f.name := by
  rw [told, named, Json.filter_filterMap_memberDatum?, Json.said, Json.member?]
  have hmem : ∀ m ∈ members.filter (fun m => m.1 = some f.name), ∃ d,
      Json.memberDatum? (Command.depthOfStep - 1) m = some d := fun m hm =>
    Option.isSome_iff_exists.mp (hread m (List.mem_filter.mp hm).1)
  generalize members.filter (fun m => m.1 = some f.name) = named at hmem ⊢
  rcases named with _ | ⟨m, _ | ⟨n, rest⟩⟩
  · rfl
  · obtain ⟨d, hd⟩ := hmem m (by simp)
    obtain ⟨key, -, -, hdatum⟩ := Json.memberDatum?_eq_some_iff.mp hd
    rw [List.filterMap_cons_some hd, List.filterMap_nil, gathered]
    cases hvalue : f.kind.read? d.2 <;> simp [readJson?, hdatum, hvalue, gathered]
  · obtain ⟨d, hd⟩ := hmem m (by simp)
    obtain ⟨e, he⟩ := hmem n (by simp)
    rw [List.filterMap_cons_some hd, List.filterMap_cons_some he, gathered]
    cases hvalue : f.kind.read? d.2 <;> simp [gathered]

end Field

/-! ## Steps -/

namespace Action

lemma command?_eq_some_iff {a : Action} {values : List FieldValue} {c : Command} :
    a.command? values = some c ↔ c.action = a ∧ c.values = values := by
  constructor
  · intro h
    unfold command? at h
    split at h <;> cases h <;> exact ⟨rfl, rfl⟩
  · rintro ⟨rfl, rfl⟩
    exact c.command?_values

lemma withValues_eq_ok_iff {a : Action} {values : List FieldValue} {c : Command} :
    a.withValues (.ok values) = .ok c ↔ c.action = a ∧ c.values = values := by
  rw [← command?_eq_some_iff, withValues]
  cases a.command? values <;> simp

/-- A command is read from members that say its values. -/
lemma ofMembers_eq_ok_iff {a : Action} {members : List (Datum × Datum)}
    (htext : ∀ m ∈ members, ∃ key, m.1 = .text key) {c : Command} :
    a.ofMembers members = .ok c ↔
      c.action = a ∧ a.fields.mapM (fun f => f.told members) = some c.values := by
  have hfields : (a.fields.map Field.name).Nodup := (List.nodup_cons.mp a.nodup_names).2
  rw [ofMembers]
  split
  · next hempty =>
    rw [withValues_eq_ok_iff, List.isEmpty_iff.mp hempty, List.mapM_nil]
    simp [pure, @eq_comm _ [] c.values]
  · rw [← Field.exists_assign_complete_iff hfields htext]
    cases hassign : Field.assign a.fields [] members with
    | error e => simp
    | ok given =>
      cases hcomplete : Field.complete given a.fields with
      | error e => simp [withValues, hcomplete]
      | ok values => simp [withValues_eq_ok_iff, hcomplete, @eq_comm _ values c.values]

lemma name_injective : Function.Injective name := by
  intro a b h
  have hname := a.ofName?_name
  rw [h, ofName?_name] at hname
  exact (Option.some.inj hname).symm

lemma ofText_eq_ok_iff {name : String} {a : Action} : ofText name = .ok a ↔ name = a.name := by
  constructor
  · intro h
    rw [ofText] at h
    cases hname : ofName? name with
    | none =>
      rw [hname] at h
      contradiction
    | some b =>
      rw [hname] at h
      obtain rfl := Except.ok.inj h
      exact (by simpa using List.find?_some hname : b.name = name).symm
  · rintro rfl
    rw [ofText, ofName?_name]

end Action

namespace Command

/-- The members of a step besides its action say the same as all of them. -/
lemma told_others {a : Action} {f : Field} (hf : f ∈ a.fields) (members : List (Datum × Datum)) :
    f.told (members.filter fun m => m.1.text? ≠ some "action") = f.told members := by
  have hne : f.name ≠ "action" := fun h =>
    (List.nodup_cons.mp a.nodup_names).1 (h ▸ List.mem_map_of_mem hf)
  rw [Field.told, Field.told, Field.named, Field.named, List.filter_filter]
  congr 3
  funext m
  by_cases hm : m.1.text? = some f.name
  · simp [hm, hne]
  · simp [hm]

/-- A step as a map has one member that names its action, and the others say its values. -/
lemma ofDatum_map_eq_ok_iff {members : List (Datum × Datum)}
    (htext : ∀ m ∈ members, ∃ key, m.1 = .text key) {c : Command} :
    ofDatum (.map members) = .ok c ↔
      (members.filter fun m => m.1.text? = some "action").map Prod.snd = [.text c.action.name] ∧
        c.action.fields.mapM (fun f => f.told members) = some c.values := by
  have hothers (a : Action) : a.ofMembers (members.filter fun m => m.1.text? ≠ some "action") = .ok c ↔
      c.action = a ∧ a.fields.mapM (fun f => f.told members) = some c.values := by
    rw [Action.ofMembers_eq_ok_iff fun m hm => htext m (List.mem_filter.mp hm).1,
      mapM_congr_of_mem fun f hf => told_others hf members]
  rw [ofDatum]
  generalize members.filter (fun m => m.1.text? = some "action") = named
  rcases named with _ | ⟨⟨key, d⟩, _ | ⟨n, rest⟩⟩
  · simp
  · cases d with
    | text name =>
      cases hname : Action.ofText name with
      | error e =>
        have hne : name ≠ c.action.name := fun h => by
          rw [Action.ofText_eq_ok_iff.mpr h] at hname
          contradiction
        simp [hname, hne]
      | ok a =>
        obtain rfl := Action.ofText_eq_ok_iff.mp hname
        simp only [hname, hothers]
        constructor
        · rintro ⟨rfl, hvalues⟩
          exact ⟨rfl, hvalues⟩
        · rintro ⟨hsame, hvalues⟩
          obtain rfl : a = c.action := Action.name_injective (by simpa using hsame)
          exact ⟨rfl, hvalues⟩
    | _ => simp
  · simp

lemma map_snd_action {members : List (Option String × Json)} {depth : ℕ}
    (hread : ∀ m ∈ members, (Json.memberDatum? depth m).isSome = true) {name : String} :
    (((members.filterMap (Json.memberDatum? depth)).filter
        fun d => d.1.text? = some "action").map Prod.snd = [.text name]) ↔
      Json.member? members "action" = some (some (.text name)) := by
  rw [Json.filter_filterMap_memberDatum?, Json.member?]
  have hmem : ∀ m ∈ members.filter (fun m => m.1 = some "action"), ∃ d,
      Json.memberDatum? depth m = some d := fun m hm =>
    Option.isSome_iff_exists.mp (hread m (List.mem_filter.mp hm).1)
  generalize members.filter (fun m => m.1 = some "action") = named at hmem ⊢
  rcases named with _ | ⟨m, _ | ⟨n, rest⟩⟩
  · simp
  · obtain ⟨d, hd⟩ := hmem m (by simp)
    obtain ⟨key, -, -, hdatum⟩ := Json.memberDatum?_eq_some_iff.mp hd
    have htext : d.2 = .text name ↔ m.2 = .text name := by
      rw [← Json.datum?_eq_text_iff, hdatum, Option.some_inj]
    simp [hd, htext]
  · obtain ⟨d, hd⟩ := hmem m (by simp)
    obtain ⟨e, he⟩ := hmem n (by simp)
    simp [hd, he]

/-- A step is read from an object that can be read as data, in which one member names its action and
the others say its values. -/
theorem ofJson?_map_iff {members : List (Option String × Json)} {c : Command} :
    ofJson? (.map members) = some c ↔
      (∀ m ∈ members, (Json.memberDatum? (depthOfStep - 1) m).isSome = true) ∧
        Json.member? members "action" = some (some (.text c.action.name)) ∧
        c.action.fields.mapM (fun f => Json.said f.default? f.readJson? members f.name) =
          some c.values := by
  have hdepth : depthOfStep = depthOfStep - 1 + 1 := rfl
  rw [ofJson?, hdepth, Json.datum?_map, ← hdepth]
  cases hmembers : members.mapM (Json.memberDatum? (depthOfStep - 1)) with
  | none =>
    have hnot : ¬ ∀ m ∈ members, (Json.memberDatum? (depthOfStep - 1) m).isSome = true := fun hall => by
      rw [mapM_eq_some_iff.mpr ⟨hall, rfl⟩] at hmembers
      contradiction
    exact ⟨fun h => by contradiction, fun h => absurd h.1 hnot⟩
  | some data =>
    obtain ⟨hread, rfl⟩ := mapM_eq_some_iff.mp hmembers
    have htoOption (x : Decoded Command) : x.toOption = some c ↔ x = .ok c := by
      cases x <;> simp [Except.toOption]
    simp only [Option.map_some, htoOption, ofDatum_map_eq_ok_iff fun d => Json.text_of_mem_filterMap,
      map_snd_action hread, mapM_congr_of_mem fun f _ => Field.told_filterMap f hread]
    exact (and_iff_right hread).symm

end Command

/-! ## Workflows and configurations -/

namespace Json

lemma fields?_map {members : List (Option String × Json)} (h : ∀ m ∈ members, m.1.isSome = true)
    (names : List String) : fields? names (.map members) = names.mapM (member? members) := by
  rw [fields?, if_pos (List.all_eq_true.mpr h)]

lemma fields?_map_of_not {members : List (Option String × Json)}
    (h : ¬ ∀ m ∈ members, m.1.isSome = true) (names : List String) :
    fields? names (.map members) = none := by
  rw [fields?, if_neg (mt List.all_eq_true.mp h)]

end Json

/-- The steps in the member of a workflow. -/
def Workflow.readSteps? (j : Json) : Option (List Command) :=
  j.items?.bind fun items => items.mapM Command.ofJson?

section Objects

variable {members : List (Option String × Json)}

/-- A workflow is read from an object whose keys are texts and whose members say its name and steps. -/
theorem Workflow.ofJson?_map_iff {w : Workflow} : ofJson? (.map members) = some w ↔
    (∀ m ∈ members, m.1.isSome = true) ∧
      Json.said (some none) (Json.optional? Json.text?) members "name" = some w.name ∧
      Json.said (some []) readSteps? members "steps" = some w.steps := by
  obtain ⟨name, steps⟩ := w
  by_cases hkeys : ∀ m ∈ members, m.1.isSome = true
  · rw [ofJson?, Json.fields?_map hkeys, and_iff_right hkeys]
    simp only [Json.said_some, List.mapM_cons, List.mapM_nil, Option.pure_def, Option.bind_eq_bind]
    rcases Json.member? members "name" with _ | name?
    · simp
    rcases Json.member? members "steps" with _ | steps?
    · simp
    simp [Option.bind_eq_some_iff]
    exact fun _ => Iff.rfl
  · rw [ofJson?, Json.fields?_map_of_not hkeys]
    exact ⟨fun h => by contradiction, fun h => absurd h.1 hkeys⟩

/-- The host section is read from an object whose keys are texts and whose members say its parts. -/
theorem HostConfig.ofJson?_map_iff {h : HostConfig} : ofJson? (.map members) = some h ↔
    (∀ m ∈ members, m.1.isSome = true) ∧
      Json.said (some none) (Json.optional? Json.text?) members "program" = some h.program ∧
      Json.said (some []) Json.texts? members "args" = some h.arguments ∧
      Json.said (some none) (Json.optional? Json.text?) members "working_dir" = some h.workingFolder ∧
      Json.said (some true) Json.bool? members "connected" = some h.connected ∧
      Json.said (some false) Json.bool? members "drawing_active" = some h.drawingActive := by
  obtain ⟨program, arguments, workingFolder, connected, drawingActive⟩ := h
  by_cases hkeys : ∀ m ∈ members, m.1.isSome = true
  · rw [ofJson?, Json.fields?_map hkeys, and_iff_right hkeys, fieldNames]
    simp only [Json.said_some, List.mapM_cons, List.mapM_nil, Option.pure_def, Option.bind_eq_bind]
    rcases Json.member? members "program" with _ | program?
    · simp
    rcases Json.member? members "args" with _ | arguments?
    · simp
    rcases Json.member? members "working_dir" with _ | workingFolder?
    · simp
    rcases Json.member? members "connected" with _ | connected?
    · simp
    rcases Json.member? members "drawing_active" with _ | drawingActive?
    · simp
    simp only [Option.bind_some, Option.bind_eq_some_iff, Option.some.injEq, mk.injEq]
    constructor
    · rintro ⟨_, hprogram, _, harguments, _, hfolder, _, hconnected, _, hdrawing, rfl, rfl, rfl, rfl, rfl⟩
      exact ⟨hprogram, harguments, hfolder, hconnected, hdrawing⟩
    · rintro ⟨hprogram, harguments, hfolder, hconnected, hdrawing⟩
      exact ⟨_, hprogram, _, harguments, _, hfolder, _, hconnected, _, hdrawing, rfl, rfl, rfl, rfl, rfl⟩
  · rw [ofJson?, Json.fields?_map_of_not hkeys]
    exact ⟨fun h => by contradiction, fun h => absurd h.1 hkeys⟩

/-- A configuration is read from an object whose keys are texts and whose members say its parts. -/
theorem Config.ofJson?_map_iff {c : Config} : ofJson? (.map members) = some c ↔
    (∀ m ∈ members, m.1.isSome = true) ∧
      Json.said (some none) (Json.optional? Json.text?) members "macro_directory" = some c.folder ∧
      Json.said (some 100) Json.uint64? members "poll_interval_ms" = some c.intervalMs ∧
      Json.said (some none) (Json.optional? Json.uint64?) members "wait_timeout_ms" =
        some c.timeoutMs ∧
      Json.said (some .usual) HostConfig.ofJson? members "host" = some c.host := by
  obtain ⟨folder, interval, timeout, host⟩ := c
  by_cases hkeys : ∀ m ∈ members, m.1.isSome = true
  · rw [ofJson?, Json.fields?_map hkeys, and_iff_right hkeys, fieldNames]
    simp only [Json.said_some, List.mapM_cons, List.mapM_nil, Option.pure_def, Option.bind_eq_bind]
    rcases Json.member? members "macro_directory" with _ | folder?
    · simp
    rcases Json.member? members "poll_interval_ms" with _ | interval?
    · simp
    rcases Json.member? members "wait_timeout_ms" with _ | timeout?
    · simp
    rcases Json.member? members "host" with _ | host?
    · simp
    simp [Option.bind_eq_some_iff]
  · rw [ofJson?, Json.fields?_map_of_not hkeys]
    exact ⟨fun h => by contradiction, fun h => absurd h.1 hkeys⟩

end Objects

end HostScript
