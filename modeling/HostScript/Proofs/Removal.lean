import HostScript.Proofs.Leftovers

/-!
# Cleaning up and letting go

Removing files can only make other removals impossible, and those only that would have freed the same
place. So what several removals leave is what is left of the files when everything is taken away that could
be removed at first, in whichever order and however often they are tried. The files of a script are never in
each other's way, so that cleaning up and letting go agree also on what they report.
-/
namespace HostScript

namespace FileSystem

/-! ## What removals leave -/

/-- The file system without what stands at some places. -/
def without (fs : FileSystem) (ls : List Location) : FileSystem :=
  { fs with entries := fs.entries.filter (·.1 ∉ ls) }

/-- The places that removals of the files at some paths can free. -/
def freed (fs : FileSystem) (paths : List String) : List Location :=
  paths.filterMap fun p => (fs.removable p).toOption

lemma mem_freed {fs : FileSystem} {paths : List String} {l : Location} :
    l ∈ fs.freed paths ↔ ∃ p ∈ paths, fs.removable p = .ok l := by
  have hoption (x : Except FileFault Location) : x.toOption = some l ↔ x = .ok l := by
    cases x <;> simp [Except.toOption]
  simp [freed, hoption]

@[simp] lemma without_nil (fs : FileSystem) : fs.without [] = fs := by
  simp [without]

lemma erase_without (fs : FileSystem) (l : Location) (ls : List Location) :
    (fs.erase l).without ls = fs.without (l :: ls) := by
  simp only [without, erase, List.filter_filter]
  congr 2
  funext entry
  simp [Bool.and_comm]

lemma without_congr (fs : FileSystem) {ls ms : List Location} (h : ∀ l, l ∈ ls ↔ l ∈ ms) :
    fs.without ls = fs.without ms := by
  simp only [without, h]

/-- When a file is gone, exactly the other files can be removed that could be before. -/
lemma removable_erase_iff {fs : FileSystem} {l m : Location} {path : String}
    (hl : fs.entry? l ≠ some .folder) :
    (fs.erase l).removable path = .ok m ↔ fs.removable path = .ok m ∧ m ≠ l := by
  have hsame := sameBut_erase_of_ne_folder hl
  rw [removable_eq_ok_iff, removable_eq_ok_iff]
  constructor
  · rintro ⟨folder, name, bytes, htarget, rfl, hfits, hentry, hslash, hlocked⟩
    have htarget' := hsame.target_eq_ok_iff.mp htarget
    rw [entry?_erase] at hentry
    split at hentry
    · contradiction
    · next hne =>
      exact ⟨⟨folder, name, bytes, htarget', rfl, hfits, hentry, hslash, hlocked⟩, hne⟩
  · rintro ⟨⟨folder, name, bytes, htarget, rfl, hfits, hentry, hslash, hlocked⟩, hne⟩
    have htarget' := hsame.target_eq_ok_iff.mpr htarget
    refine ⟨folder, name, bytes, htarget', rfl, hfits, ?_, hslash, hlocked⟩
    rw [entry?_erase, if_neg hne, hentry]

lemma clearedAll_cons (fs : FileSystem) (path : String) (paths : List String) :
    fs.clearedAll (path :: paths) = (fs.cleared path).clearedAll paths := by
  rw [clearedAll, clearedAll, List.foldl_cons]

lemma clearedAll_append (fs : FileSystem) (paths others : List String) :
    fs.clearedAll (paths ++ others) = (fs.clearedAll paths).clearedAll others := by
  rw [clearedAll, clearedAll, clearedAll, List.foldl_append]

/-- Removals in order leave everything but what each of them alone could have removed. -/
theorem clearedAll_eq (fs : FileSystem) (paths : List String) :
    fs.clearedAll paths = fs.without (fs.freed paths) := by
  -- A removal that is refused frees nothing, and no later one can free again what one has freed.
  induction paths generalizing fs with
  | nil => simp [clearedAll, freed]
  | cons p paths ih =>
    rw [clearedAll_cons, ih]
    cases hp : fs.removable p with
    | error f =>
      have hcleared : fs.cleared p = fs := by rw [cleared, hp]
      rw [hcleared]
      refine without_congr fs fun l => ?_
      simp [mem_freed, hp]
    | ok l =>
      have hcleared : fs.cleared p = fs.erase l := by rw [cleared, hp]
      rw [hcleared, erase_without]
      refine without_congr fs fun m => ?_
      simp only [List.mem_cons, mem_freed, removable_erase_iff (ne_folder_of_removable hp)]
      by_cases hm : m = l
      · simp [hm, hp]
      · simp [hm, hp, Ne.symm hm]

/-- What is left depends on the set of paths only. -/
lemma clearedAll_congr (fs : FileSystem) {paths others : List String}
    (h : ∀ p, p ∈ paths ↔ p ∈ others) : fs.clearedAll paths = fs.clearedAll others := by
  rw [clearedAll_eq, clearedAll_eq]
  refine without_congr fs fun l => ?_
  simp only [mem_freed, h]

/-- Removals that were begun and are then all made leave what they leave at once. -/
theorem clearedAll_of_subset (fs : FileSystem) {begun paths : List String} (h : begun ⊆ paths) :
    (fs.clearedAll begun).clearedAll paths = fs.clearedAll paths := by
  rw [← clearedAll_append]
  refine fs.clearedAll_congr fun p => ?_
  rw [List.mem_append]
  exact ⟨fun hp => hp.elim (@h p) id, .inr⟩

/-! ## The turn of one path -/

lemma Orderly.sublist {paths others : List String} (h : Orderly others)
    (hsublist : paths.Sublist others) : Orderly paths := fun fs => (h fs).sublist hsublist

/-- When its turn comes, a path is obstructed exactly as it was at first. -/
lemma Orderly.obstacle?_clearedAll_take {paths : List String} (h : Orderly paths) {k : ℕ}
    {path : String} (hpath : paths[k]? = some path) (fs : FileSystem) :
    (fs.clearedAll (paths.take k)).obstacle? path = fs.obstacle? path := by
  induction paths generalizing fs k with
  | nil => simp at hpath
  | cons p paths ih =>
    cases k with
    | zero => rw [List.take_zero, clearedAll, List.foldl_nil]
    | succ k =>
      rw [List.getElem?_cons_succ] at hpath
      rw [List.take_succ_cons, clearedAll_cons, ih h.of_cons hpath,
        h.obstacle?_cleared (List.mem_of_getElem? hpath)]

/-- An obstacle is a fault of the removal, other than that there is nothing to remove. -/
lemma obstacle?_eq_some_iff {fs : FileSystem} {path : String} {f : FileFault} :
    fs.obstacle? path = some f ↔ fs.remove path = .error f ∧ f ≠ .missing := by
  rw [obstacle?, remove]
  cases fs.removable path with
  | ok l => simp
  | error g => cases g <;> cases f <;> simp

end FileSystem

/-- The path that a notice reports as not removed. -/
def Notice.unremoved? : Notice → Option String
  | .notRemoved path _ => some path
  | .leftBehind path _ => some path
  | _ => none

/-- A report of an obstructed path is a warning about it, and says of no other path that it was left. -/
def Reports (report : String → FileFault → Notice) : Prop :=
  ∀ path f, (report path f).unremoved? = some path ∧ (report path f).WarnsOf path

namespace Artifact

lemma reports_cleanupReport : Reports cleanupReport :=
  fun path f => ⟨rfl, cleanupReport_warnsOf path f⟩

lemma reports_releaseReport : Reports releaseReport :=
  fun path f => ⟨rfl, releaseReport_warnsOf path f⟩

/-- The paths that are reported do not depend on the wording of the report. -/
lemma filterMap_unremoved?_reports {report : String → FileFault → Notice} (h : Reports report)
    (a : Artifact) (fs : FileSystem) : (a.reports report fs).filterMap Notice.unremoved? =
      a.paths.filter fun p => (fs.obstacle? p).isSome := by
  rw [reports, List.filterMap_filterMap, ← List.filterMap_eq_filter]
  refine List.filterMap_congr fun p _ => ?_
  cases hobstacle : fs.obstacle? p with
  | none => simp [Option.guard, hobstacle]
  | some f => simp [Option.guard, hobstacle, (h p f).1]

lemma warnsOf_of_mem_reports {report : String → FileFault → Notice} (h : Reports report)
    {a : Artifact} {fs : FileSystem} {n : Notice} (hn : n ∈ a.reports report fs) :
    ∃ path, n.unremoved? = some path ∧ n.WarnsOf path := by
  obtain ⟨path, -, f, -, rfl⟩ := exists_of_mem_reports hn
  exact ⟨path, h path f⟩

lemma isSome_removalFault?_iff {a : Artifact} {fs : FileSystem} :
    (a.removalFault? fs).isSome ↔ ∃ p ∈ a.paths, ∃ f, fs.remove p = .error f ∧ f ≠ .missing := by
  rw [removalFault?, List.findSome?_isSome_iff]
  simp only [Option.isSome_map, Option.isSome_iff_exists, FileSystem.obstacle?_eq_some_iff]

end Artifact

namespace Custody

variable (a : Artifact) (fs : FileSystem)

lemma cleanup_fst : ((ofArtifact a).cleanup fs).1 =
    ⟨fs.clearedAll a.paths, a.reports Artifact.cleanupReport fs, a.removalFault? fs⟩ := by
  simp only [cleanup, ofArtifact]
  exact Artifact.removeAll_eq a.orderly Artifact.cleanupReport fs

lemma drop_ofArtifact : (ofArtifact a).drop fs =
    ⟨fs.clearedAll a.paths, a.reports Artifact.releaseReport fs, a.removalFault? fs⟩ := by
  simp only [drop, ofArtifact, Bool.false_eq_true, if_false]
  exact Artifact.removeAll_eq a.orderly Artifact.releaseReport fs

lemma cleanup_files : ((ofArtifact a).cleanup fs).1.files = fs.clearedAll a.paths := by
  rw [cleanup_fst]

lemma drop_files : ((ofArtifact a).drop fs).files = fs.clearedAll a.paths := by
  rw [drop_ofArtifact]

lemma breakOff_files (n : ℕ) :
    ((ofArtifact a).breakOff n fs).1.files = fs.clearedAll (a.paths.take n) := by
  have horderly := a.orderly.sublist (List.take_sublist n a.paths)
  exact congrArg Sweep.files (Sweep.removeAll_eq Artifact.cleanupReport horderly (Sweep.start fs))

lemma breakOff_snd (n : ℕ) : ((ofArtifact a).breakOff n fs).2 = ofArtifact a := rfl

lemma cleanup_unremoved : ((ofArtifact a).cleanup fs).1.notices.filterMap Notice.unremoved? =
    a.paths.filter fun p => (fs.obstacle? p).isSome := by
  rw [cleanup_fst]
  exact Artifact.filterMap_unremoved?_reports Artifact.reports_cleanupReport a fs

lemma drop_unremoved : ((ofArtifact a).drop fs).notices.filterMap Notice.unremoved? =
    a.paths.filter fun p => (fs.obstacle? p).isSome := by
  rw [drop_ofArtifact]
  exact Artifact.filterMap_unremoved?_reports Artifact.reports_releaseReport a fs

/-- A clean-up goes on from turn to turn, whatever came of the turns before. -/
lemma breakOff_succ {n : ℕ} {path : String} (h : a.paths[n]? = some path) :
    ((ofArtifact a).breakOff (n + 1) fs).1 =
      ((ofArtifact a).breakOff n fs).1.remove Artifact.cleanupReport path := by
  have htake : a.paths.take (n + 1) = a.paths.take n ++ [path] := by
    rw [List.take_add_one, h, Option.toList_some]
  simp only [breakOff, ofArtifact, Sweep.removeAll, htake, List.foldl_append, List.foldl_cons,
    List.foldl_nil]

/-- Cleaning up, letting go, and letting go after a clean-up that was broken off come to the same. -/
structure Accord (a : Artifact) (fs : FileSystem) : Prop where
  /-- A clean-up leaves all but the files of the artifact that can be removed. -/
  cleaned : ((ofArtifact a).cleanup fs).1.files = fs.without (fs.freed a.paths)
  dropped : ((ofArtifact a).drop fs).files = fs.without (fs.freed a.paths)
  brokenOff : ∀ n, (((ofArtifact a).breakOff n fs).2.drop
    ((ofArtifact a).breakOff n fs).1.files).files = fs.without (fs.freed a.paths)
  /-- The removal of each path is tried in its turn, and after the last turn the clean-up is complete. -/
  turn : ∀ n path, a.paths[n]? = some path → ((ofArtifact a).breakOff (n + 1) fs).1 =
    ((ofArtifact a).breakOff n fs).1.remove Artifact.cleanupReport path
  complete : ((ofArtifact a).breakOff a.paths.length fs).1 = ((ofArtifact a).cleanup fs).1
  /-- In its turn a path is obstructed exactly when it was at first. -/
  undisturbed : ∀ n path, a.paths[n]? = some path →
    ((ofArtifact a).breakOff n fs).1.files.obstacle? path = fs.obstacle? path
  /-- Whether by clean-up or by letting go, the same paths are reported, and nothing else is. -/
  reported : ((ofArtifact a).cleanup fs).1.notices.filterMap Notice.unremoved? =
    ((ofArtifact a).drop fs).notices.filterMap Notice.unremoved?
  mem_reported : ∀ path,
    path ∈ ((ofArtifact a).cleanup fs).1.notices.filterMap Notice.unremoved? ↔
      path ∈ a.paths ∧ ∃ f, fs.remove path = .error f ∧ f ≠ .missing
  warning : ∀ n ∈ ((ofArtifact a).cleanup fs).1.notices ++ ((ofArtifact a).drop fs).notices,
    ∃ path, n.unremoved? = some path ∧ n.WarnsOf path
  /-- A clean-up fails exactly when some removal does, with the fault of the first one. -/
  fails_iff : ((ofArtifact a).cleanup fs).1.fault?.isSome ↔
    ∃ path ∈ a.paths, ∃ f, fs.remove path = .error f ∧ f ≠ .missing
  first : ((ofArtifact a).cleanup fs).1.fault? =
    a.paths.findSome? fun path => (fs.obstacle? path).map (.file path)
  /-- Nothing is left to do when what was cleaned up is let go. -/
  idle : ∀ fs', ((ofArtifact a).cleanup fs).2.drop fs' = Sweep.start fs'
  /-- Another clean-up of the same names finds nothing that it could remove. -/
  again : ((ofArtifact a).cleanup ((ofArtifact a).cleanup fs).1.files).1.files =
    ((ofArtifact a).cleanup fs).1.files

/-- Cleaning up and letting go agree on every file system, for every folder and every name. -/
theorem accord : Accord a fs where
  cleaned := by rw [cleanup_files, FileSystem.clearedAll_eq]
  dropped := by rw [drop_files, FileSystem.clearedAll_eq]
  brokenOff n := by
    rw [breakOff_snd, drop_files, breakOff_files,
      FileSystem.clearedAll_of_subset fs (List.take_subset n a.paths), FileSystem.clearedAll_eq]
  turn n path h := breakOff_succ a fs h
  complete := by
    simp only [breakOff, cleanup, ofArtifact, Artifact.cleanup, List.take_length]
  undisturbed n path h := by rw [breakOff_files, a.orderly.obstacle?_clearedAll_take h]
  reported := by rw [cleanup_unremoved, drop_unremoved]
  mem_reported path := by
    rw [cleanup_unremoved, List.mem_filter, Option.isSome_iff_exists]
    simp only [FileSystem.obstacle?_eq_some_iff]
  warning n hn := by
    rw [cleanup_fst, drop_ofArtifact] at hn
    rcases List.mem_append.mp hn with hn | hn
    · exact Artifact.warnsOf_of_mem_reports Artifact.reports_cleanupReport hn
    · exact Artifact.warnsOf_of_mem_reports Artifact.reports_releaseReport hn
  fails_iff := by
    rw [cleanup_fst]
    exact Artifact.isSome_removalFault?_iff
  first := by
    rw [cleanup_fst]
    dsimp only
    rw [Artifact.removalFault?]
  idle fs' := rfl
  again := by
    rw [cleanup_files, cleanup_files, FileSystem.clearedAll_of_subset fs (List.Subset.refl a.paths)]

end Custody

end HostScript
