import HostScript.Host.Rehearsal
import HostScript.Proofs.History

/-!
# Names for the host

A name is handed over as it is if its last part has an extension, and with that of scripts behind it if not.
What stands before the last part makes no difference, so the folder of the drawings can be put in front of a
name before or after this is decided.
-/
namespace HostScript

/-- The characters between the parts of a name. -/
def IsSeparator (c : Char) : Prop := c = '\\' ∨ c = '/'

/-- Nothing, or a text that ends in a separator. -/
def IsLead (front : List Char) : Prop := ∀ c ∈ front.getLast?, IsSeparator c

/-- The part of a name behind its last separator. -/
def IsLastPart (name part : List Char) : Prop :=
  ∃ front, name = front ++ part ∧ IsLead front ∧ ∀ c ∈ part, ¬ IsSeparator c

/-- Something stands before the last dot of a text, and something behind it. -/
def Extended (part : List Char) : Prop :=
  ∃ stem extension, stem ≠ [] ∧ extension ≠ [] ∧ '.' ∉ extension ∧ part = stem ++ '.' :: extension

/-! ## Last parts -/

lemma not_isSeparator_iff {c : Char} : (c ≠ '\\' && c ≠ '/') = true ↔ ¬ IsSeparator c := by
  simp [IsSeparator]

/-- A name ends where its part behind any separator ends. -/
lemma lastPart_append_cons {c : Char} (hc : IsSeparator c) (front name : List Char) :
    lastPart (front ++ c :: name) = lastPart name := by
  have hstop : (c :: front.reverse).takeWhile (fun c => c ≠ '\\' && c ≠ '/') = [] := by
    apply List.takeWhile_cons_of_neg
    rw [not_isSeparator_iff, not_not]
    exact hc
  have hreverse : (front ++ c :: name).reverse = name.reverse ++ c :: front.reverse := by simp
  rw [lastPart, hreverse, List.takeWhile_append, hstop, List.append_nil, lastPart]
  split
  · next hall =>
    have heq := (List.takeWhile_prefix _).eq_of_length hall
    rw [heq]
  · rfl

lemma lastPart_lead_append {front : List Char} (hfront : IsLead front) (name : List Char) :
    lastPart (front ++ name) = lastPart name := by
  rcases List.eq_nil_or_concat front with rfl | ⟨rest, c, rfl⟩
  · rw [List.nil_append]
  · have hc : IsSeparator c := hfront c (by simp)
    rw [List.concat_eq_append, List.append_assoc, List.singleton_append, lastPart_append_cons hc]

lemma lastPart_append_of_forall {ending : List Char} (h : ∀ c ∈ ending, ¬ IsSeparator c)
    (name : List Char) : lastPart (name ++ ending) = lastPart name ++ ending := by
  have hpos : ∀ c ∈ ending.reverse, (c ≠ '\\' && c ≠ '/') = true := by
    intro c hc
    exact not_isSeparator_iff.mpr (h c (List.mem_reverse.mp hc))
  rw [lastPart, List.reverse_append, List.takeWhile_append_of_pos hpos, List.reverse_append,
    List.reverse_reverse, lastPart]

/-- Every name has exactly one last part. -/
theorem isLastPart_iff {name part : List Char} : IsLastPart name part ↔ lastPart name = part := by
  constructor
  · rintro ⟨front, rfl, hfront, hpart⟩
    have hnone : lastPart ([] : List Char) = [] := rfl
    have hall := lastPart_append_of_forall hpart []
    rw [hnone, List.nil_append] at hall
    rw [lastPart_lead_append hfront, hall]
  · rintro rfl
    refine ⟨(name.reverse.dropWhile fun c => c ≠ '\\' && c ≠ '/').reverse, ?_, ?_, ?_⟩
    · rw [lastPart, ← List.reverse_append, List.takeWhile_append_dropWhile, List.reverse_reverse]
    · intro c hc
      rw [List.getLast?_reverse] at hc
      have hstop := List.head?_dropWhile_not (fun c => c ≠ '\\' && c ≠ '/') name.reverse
      rw [Option.mem_def.mp hc] at hstop
      by_contra hno
      exact absurd (not_isSeparator_iff.mpr hno) (Bool.eq_false_iff.mp hstop)
    · intro c hc
      have hall := List.all_eq_true.mp
        (List.all_takeWhile (p := fun c => c ≠ '\\' && c ≠ '/') (l := name.reverse))
      exact not_isSeparator_iff.mp (hall c (List.mem_reverse.mp hc))

/-! ## Extensions -/

lemma Extended.ne_nil {part : List Char} (h : Extended part) : part ≠ [] := by
  obtain ⟨stem, extension, -, -, -, rfl⟩ := h
  simp

/-- The last dot of a text is at its end, so that no extension stands behind it. -/
lemma not_extended_append_dot (stem : List Char) : ¬ Extended (stem ++ ['.']) := by
  rintro ⟨stem', extension, -, hne, hdot, heq⟩
  have hlast := congrArg List.getLast? heq
  rw [List.getLast?_append_of_ne_nil _ (by simp), List.getLast?_append_of_ne_nil _ (by simp),
    List.getLast?_cons_of_ne_nil hne] at hlast
  exact hdot (List.mem_of_getLast? hlast.symm)

/-- The only dot of a text is at its start, so that nothing stands before it. -/
lemma not_extended_dot_cons {name : List Char} (h : '.' ∉ name) : ¬ Extended ('.' :: name) := by
  rintro ⟨stem, extension, hne, -, -, heq⟩
  obtain ⟨c, rest, rfl⟩ := List.exists_cons_of_ne_nil hne
  rw [List.cons_append] at heq
  have hdot : '.' ∈ name := by
    rw [(List.cons.inj heq).2]
    simp
  exact h hdot

lemma not_extended_of_dot_notMem {part : List Char} (h : '.' ∉ part) : ¬ Extended part := by
  rintro ⟨stem, extension, -, -, -, rfl⟩
  exact h (by simp)

lemma notMem_of_splitExtension {name stem present : List Char}
    (h : Path.splitExtension name = (stem, some present)) : '.' ∉ present := by
  rw [Path.splitExtension] at h
  split at h
  · simp at h
  · obtain ⟨-, hpresent⟩ := Prod.mk.inj h
    rw [← Option.some.inj hpresent, List.mem_reverse]
    intro hdot
    have hall := List.all_eq_true.mp
      (List.all_takeWhile (p := fun c => c ≠ '.') (l := name.reverse))
    simpa using hall '.' hdot

/-- A name has an extension exactly when its last part says so. -/
theorem hasExtension_iff (name : String) :
    hasExtension name = true ↔ Extended (lastPart name.toList) := by
  rw [hasExtension]
  generalize lastPart name.toList = part
  by_cases hdots : part = ['.', '.']
  · subst hdots
    have hno := not_extended_append_dot ['.']
    simp only [if_true]
    exact iff_of_false (by simp) hno
  · simp only [if_neg hdots]
    constructor
    · intro h
      cases hsplit : Path.splitExtension part with
      | mk stem present =>
        cases present with
        | none => simp [hsplit] at h
        | some extension =>
          obtain ⟨heq, hstem⟩ := Path.of_splitExtension hsplit
          have hne : extension ≠ [] := by simpa [hsplit] using h
          exact ⟨stem, extension, hstem, hne, notMem_of_splitExtension hsplit, heq⟩
    · rintro ⟨stem, extension, hstem, hne, hdot, rfl⟩
      rw [Path.splitExtension_append hstem hdot]
      simpa using hne

/-! ## The name that is handed over -/

/-- A name as it stands below the folder from which the host starts. -/
def rebased (drawingActive : Bool) (name : String) : String :=
  if drawingActive then "..\\drawings\\" ++ name else name

lemma submissionName_eq (drawingActive : Bool) (name : String) :
    submissionName drawingActive name =
      if hasExtension (rebased drawingActive name) then rebased drawingActive name
      else rebased drawingActive name ++ ".cs" := rfl

lemma hasExtension_lead_append {front : String} (hfront : IsLead front.toList) (name : String) :
    hasExtension (front ++ name) = hasExtension name := by
  rw [Bool.eq_iff_iff, hasExtension_iff, hasExtension_iff, String.toList_append,
    lastPart_lead_append hfront]

/-- What stands before the last part of a name is handed over as it is. -/
theorem submissionName_lead_append {front : String} (hfront : IsLead front.toList)
    (name : String) : submissionName false (front ++ name) = front ++ submissionName false name := by
  have hsame (name : String) : rebased false name = name := rfl
  rw [submissionName_eq, submissionName_eq, hsame, hsame, hasExtension_lead_append hfront]
  split
  · rfl
  · rw [String.append_assoc]

lemma isLead_drawings : IsLead "..\\drawings\\".toList := by
  intro c hc
  have hlast : "..\\drawings\\".toList.getLast? = some '\\' := by decide +kernel
  rw [hlast] at hc
  exact .inl (Option.mem_some.mp hc).symm

/-- Going over to the folder of the drawings and completing a name do not depend on each other. -/
lemma submissionName_eq_rebased (drawingActive : Bool) (name : String) :
    submissionName drawingActive name = rebased drawingActive (submissionName false name) := by
  cases drawingActive with
  | false => rfl
  | true =>
    have hdrawings : submissionName true name = submissionName false ("..\\drawings\\" ++ name) := rfl
    rw [hdrawings, submissionName_lead_append isLead_drawings]
    rfl

lemma lastPart_rebased (drawingActive : Bool) (name : String) :
    lastPart (rebased drawingActive name).toList = lastPart name.toList := by
  cases drawingActive with
  | false => rfl
  | true =>
    have hdrawings : rebased true name = "..\\drawings\\" ++ name := rfl
    rw [hdrawings, String.toList_append, lastPart_lead_append isLead_drawings]

lemma submissionName_of_extended {name : String} (h : Extended (lastPart name.toList))
    (drawingActive : Bool) : submissionName drawingActive name = rebased drawingActive name := by
  rw [submissionName_eq, if_pos]
  rw [hasExtension_iff, lastPart_rebased]
  exact h

lemma submissionName_of_not_extended {name : String} (h : ¬ Extended (lastPart name.toList))
    (drawingActive : Bool) :
    submissionName drawingActive name = rebased drawingActive name ++ ".cs" := by
  rw [submissionName_eq, if_neg]
  rw [hasExtension_iff, lastPart_rebased]
  exact h

/-- The last part of a name that was completed is completed itself. -/
lemma lastPart_submissionName {name : String} (h : ¬ Extended (lastPart name.toList))
    (drawingActive : Bool) : lastPart (submissionName drawingActive name).toList =
      lastPart name.toList ++ ".cs".toList := by
  have hnone : ∀ c ∈ ".cs".toList, ¬ IsSeparator c := by
    simp [IsSeparator]
  rw [submissionName_of_not_extended h, String.toList_append, lastPart_append_of_forall hnone,
    lastPart_rebased]

/-- Only a name without a last part is handed over without an extension. -/
theorem extended_submissionName_iff (drawingActive : Bool) (name : String) :
    Extended (lastPart (submissionName drawingActive name).toList) ↔ lastPart name.toList ≠ [] := by
  by_cases h : Extended (lastPart name.toList)
  · rw [submissionName_of_extended h, lastPart_rebased]
    exact iff_of_true h h.ne_nil
  · rw [lastPart_submissionName h]
    constructor
    · intro hextended hnil
      rw [hnil, List.nil_append] at hextended
      exact not_extended_dot_cons (show '.' ∉ ['c', 's'] by decide) hextended
    · intro hne
      exact ⟨lastPart name.toList, ['c', 's'], hne, by simp, by decide, rfl⟩

lemma append_ne_self (name : String) : name ++ ".cs" ≠ name := by
  intro h
  have hlength := congrArg String.length h
  rw [String.length_append] at hlength
  have hpos : ".cs".length = 3 := rfl
  omega

/-- A name stays as it is exactly when its last part is extended. -/
lemma submissionName_eq_self_iff (name : String) :
    submissionName false name = name ↔ Extended (lastPart name.toList) := by
  constructor
  · intro h
    by_contra hno
    rw [submissionName_of_not_extended hno] at h
    exact append_ne_self name h
  · intro h
    exact submissionName_of_extended h false

/-- The text under which a name is handed over. -/
structure Normalizes (drawingActive : Bool) (name handle : String) : Prop where
  exists_part : ∃ part, IsLastPart name.toList part
  kept : ∀ part, IsLastPart name.toList part → Extended part → handle = rebased drawingActive name
  completed : ∀ part, IsLastPart name.toList part → ¬ Extended part →
    handle = rebased drawingActive name ++ ".cs"
  /-- A part without a dot has no extension, nor has one whose only dot is at its start or one whose last dot
  is at its end, such as the two names for folders. -/
  bare : ∀ part, IsLastPart name.toList part →
    ('.' ∉ part ∨ (∃ rest, part = '.' :: rest ∧ '.' ∉ rest) ∨ ∃ stem, part = stem ++ ['.']) →
      handle = rebased drawingActive name ++ ".cs"
  /-- What stands before the last part makes no difference: not the folder of the drawings, nor any other. -/
  rebased_last : handle = rebased drawingActive (submissionName false name)
  blind : ∀ lead : String, IsLead lead.toList →
    submissionName false (lead ++ name) = lead ++ submissionName false name
  /-- Unless the name has an empty last part, what is handed over has an extension and stays as it is when it
  is handed over once more. -/
  again : ¬ IsLastPart name.toList [] →
    (∀ part, IsLastPart handle.toList part → Extended part) ∧ submissionName false handle = handle
  empty : IsLastPart name.toList [] → IsLastPart handle.toList ".cs".toList ∧
    ¬ Extended ".cs".toList ∧ submissionName false handle ≠ handle

lemma normalizes_submissionName (drawingActive : Bool) (name : String) :
    Normalizes drawingActive name (submissionName drawingActive name) where
  exists_part := ⟨_, isLastPart_iff.mpr rfl⟩
  kept part hpart h := by
    rw [← isLastPart_iff.mp hpart] at h
    exact submissionName_of_extended h drawingActive
  completed part hpart h := by
    rw [← isLastPart_iff.mp hpart] at h
    exact submissionName_of_not_extended h drawingActive
  bare part hpart h := by
    refine submissionName_of_not_extended ?_ drawingActive
    rw [isLastPart_iff.mp hpart]
    rcases h with hdot | ⟨rest, rfl, hrest⟩ | ⟨stem, rfl⟩
    · exact not_extended_of_dot_notMem hdot
    · exact not_extended_dot_cons hrest
    · exact not_extended_append_dot stem
  rebased_last := submissionName_eq_rebased drawingActive name
  blind lead hlead := submissionName_lead_append hlead name
  again h := by
    rw [isLastPart_iff] at h
    have hextended := (extended_submissionName_iff drawingActive name).mpr h
    refine ⟨fun part hpart => ?_, (submissionName_eq_self_iff _).mpr hextended⟩
    rwa [← isLastPart_iff.mp hpart]
  empty h := by
    rw [isLastPart_iff] at h
    have hno : ¬ Extended (lastPart name.toList) := by
      rw [h]
      exact not_extended_of_dot_notMem List.not_mem_nil
    have hlast := lastPart_submissionName hno drawingActive
    rw [h, List.nil_append] at hlast
    have hdotted : ¬ Extended ".cs".toList := not_extended_dot_cons (show '.' ∉ ['c', 's'] by decide)
    refine ⟨isLastPart_iff.mpr hlast, hdotted, ?_⟩
    rw [Ne, submissionName_eq_self_iff, hlast]
    exact hdotted

namespace Runner

variable {σ : Type}

/-- A host that is idle is probed once, and what it is then given is the name in its normal form. The host and
the files are left as the host leaves them that was given this name. -/
theorem submitted_dispatch (r : Runner σ) (patience : ℕ) (name : String) (s : Session σ)
    (hconnected : r.host.isConnected s.host = true) (hidle : (r.host.probe s.host).1 = false) :
    ∃ handle, (r.dispatch (patience + 1) name s).2.deeds =
        .submitted handle s.files :: .probed false :: s.deeds ∧
      (r.dispatch (patience + 1) name s).2.host =
        (r.host.submit handle (r.host.probe s.host).2 s.files).host ∧
      (r.dispatch (patience + 1) name s).2.files =
        (r.host.submit handle (r.host.probe s.host).2 s.files).files ∧
      Normalizes (r.host.isDrawingActive s.host) name handle := by
  have hwait : r.wait (patience + 1) s = (.idle, (r.probe s).2) := by
    have hprobe : (r.probe s).1 = false := hidle
    rw [wait, waitFrom_succ, if_pos hprobe]
  have hdeeds : (r.probe s).2.deeds = .probed false :: s.deeds := by
    rw [← hidle]
    rfl
  have hdispatch : r.dispatch (patience + 1) name s =
      r.submit (submissionName (r.host.isDrawingActive s.host) name) (r.probe s).2 := by
    rw [dispatch, if_neg (by simp [hconnected])]
    dsimp only
    rw [hwait]
  obtain ⟨hhost, hfiles⟩ :=
    r.submit_left (submissionName (r.host.isDrawingActive s.host) name) (r.probe s).2
  refine ⟨_, ?_, ?_, ?_, normalizes_submissionName (r.host.isDrawingActive s.host) name⟩
  · rw [hdispatch, submit_deeds, hdeeds]
    rfl
  · rw [hdispatch, hhost]
    rfl
  · rw [hdispatch, hfiles]
    rfl

/-- A dot in the name of a folder is no reason to leave a script without its extension. -/
theorem submitted_dispatch_dotted_folder :
    let r : Runner Rehearsal := ⟨Rehearsal.host, fun _ => none, .usual⟩
    let s : Session Rehearsal := ⟨⟨[], [], []⟩, { Rehearsal.usual with drawingActive := true },
      .startingAt 0, 0, [], []⟩
    r.host.isConnected s.host = true ∧ (r.host.probe s.host).1 = false ∧
      (∃ handle, (r.dispatch 1 "v1.2\\notes" s).2.deeds =
          [.submitted handle s.files, .probed false] ∧
        (r.dispatch 1 "v1.2\\notes" s).2.host =
          (r.host.submit handle (r.host.probe s.host).2 s.files).host ∧
        (r.dispatch 1 "v1.2\\notes" s).2.files =
          (r.host.submit handle (r.host.probe s.host).2 s.files).files ∧
        Normalizes true "v1.2\\notes" handle) ∧
      submissionName true "v1.2\\notes" = "..\\drawings\\v1.2\\notes.cs" :=
  ⟨rfl, rfl, submitted_dispatch _ 0 _ _ rfl rfl, by decide +kernel⟩

end Runner

end HostScript
