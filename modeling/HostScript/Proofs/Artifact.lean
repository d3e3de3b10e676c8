import HostScript.Artifact
import HostScript.Proofs.FileSystem
import HostScript.Proofs.Path
import HostScript.Proofs.Text

/-!
# What a removal of several files comes to

Each path is either cleared or obstructed. The files of a script lie side by side, whatever its folder and its
name are, so whether one of them is obstructed does not depend on which of the others were removed before it.
The notices and the fault of a sweep can therefore be read off the files with which it begins.
-/
namespace HostScript

namespace FileSystem

/-- What stands in the way of removing a file. That there is none is no obstacle. -/
def obstacle? (fs : FileSystem) (path : String) : Option FileFault :=
  match fs.removable path with
  | .ok _ => none
  | .error .missing => none
  | .error f => some f

/-- The file system without the file at a path, if there is one that can be removed. -/
def cleared (fs : FileSystem) (path : String) : FileSystem :=
  match fs.removable path with
  | .ok l => fs.erase l
  | .error _ => fs

lemma clear_eq (fs : FileSystem) (path : String) :
    fs.clear path = match fs.obstacle? path with
      | some f => .error f
      | none => .ok (fs.cleared path) := by
  rw [clear, remove, obstacle?, cleared]
  cases fs.removable path with
  | ok l => rfl
  | error f => cases f <;> rfl

lemma obstacle?_eq_none_iff {fs : FileSystem} {path : String} :
    fs.obstacle? path = none ↔
      (∃ l, fs.removable path = .ok l) ∨ fs.removable path = .error .missing := by
  rw [obstacle?]
  cases fs.removable path with
  | ok l => simp
  | error f => cases f <;> simp

lemma cleared_eq_or (fs : FileSystem) (path : String) :
    fs.cleared path = fs ∨ ∃ l, fs.removable path = .ok l ∧ fs.cleared path = fs.erase l := by
  rw [cleared]
  cases fs.removable path with
  | ok l => exact .inr ⟨l, rfl, rfl⟩
  | error f => exact .inl rfl

lemma sameBut_cleared {fs : FileSystem} {path : String} {ls : List Location}
    (hplace : ∀ l, fs.place? path = some l → l ∈ ls) : SameBut ls fs (fs.cleared path) := by
  rcases fs.cleared_eq_or path with heq | ⟨l, hremovable, heq⟩
  · rw [heq]
  · rw [heq]
    exact sameBut_erase hremovable hplace

lemma find_cleared {fs : FileSystem} {path : String} (h : fs.obstacle? path = none) :
    (fs.cleared path).find path = .error .missing := by
  rw [cleared]
  rcases obstacle?_eq_none_iff.mp h with ⟨l, hremovable⟩ | hmissing
  · rw [hremovable]
    exact find_erase hremovable
  · rw [hmissing]
    exact find_of_removable_missing hmissing

lemma find_cleared_missing {fs : FileSystem} {path : String} (other : String)
    (h : fs.find path = .error .missing) : (fs.cleared other).find path = .error .missing := by
  rcases fs.cleared_eq_or other with heq | ⟨l, hremovable, heq⟩
  · rw [heq, h]
  · rw [heq]
    exact find_erase_missing (ne_folder_of_removable hremovable) h

/-- Files can be removed from the folder to which a path leads, if it leads to one. -/
def Permits (fs : FileSystem) (path : String) : Prop :=
  ∀ folder name, fs.target path = .ok (.named folder name) → fs.isLocked folder = false

lemma Permits.of_sameBut {ls : List Location} {fs fs' : FileSystem} {path : String}
    (hpermits : fs.Permits path) (h : SameBut ls fs fs') : fs'.Permits path := by
  intro folder name htarget
  rw [h.isLocked_eq]
  exact hpermits folder name (h.target_eq_ok_iff.mp htarget)

/-- A path that is permitted and at which there is a file, or was or will be one while folders stay, is not
obstructed. -/
lemma obstacle?_eq_none_of_find {ls : List Location} {fs fs' : FileSystem} (h : SameBut ls fs fs')
    {path : String} {l : Location} {bytes : ByteArray} (hpermits : fs.Permits path)
    (hfind : fs'.find path = .ok (l, .file bytes)) : fs.obstacle? path = none := by
  rw [find] at hfind
  cases htarget : fs'.target path with
  | error f => simp [htarget] at hfind
  | ok t =>
    cases t with
    | folder m => simp [htarget] at hfind
    | named folder name =>
      rw [htarget] at hfind
      dsimp only at hfind
      have htarget' := h.symm.target_eq_ok htarget
      have hlocked := hpermits folder name htarget'
      rw [obstacle?_eq_none_iff, removable, htarget']
      dsimp only
      cases hfits : nameFits name with
      | false => simp [child, hfits] at hfind
      | true =>
        -- In both file systems there is no folder under the name.
        have hfolder : fs.entry? (name :: folder) ≠ some .folder := by
          intro hfolder
          have hfolder' := (h.entry?_eq_folder_iff _).mpr hfolder
          simp [child_eq_folder_iff.mpr ⟨hfits, hfolder'⟩] at hfind
        have hslash : Path.endsInSlash path = false := by
          by_contra hslash
          cases hchild : fs'.child folder name with
          | error f => simp [hchild] at hfind
          | ok e => cases e <;> simp_all
        cases hentry : fs.entry? (name :: folder) with
        | none => simp [child, hfits, hentry]
        | some e =>
          cases e with
          | folder => exact absurd hentry hfolder
          | file old => simp [child, hfits, hentry, hslash, hlocked]

lemma find_eq_folder {ls : List Location} {fs fs' : FileSystem} (h : SameBut ls fs fs')
    {path : String} {l : Location} (hfind : fs.find path = .ok (l, .folder)) :
    fs'.find path = .ok (l, .folder) := by
  rw [find] at hfind ⊢
  cases htarget : fs.target path with
  | error f => simp [htarget] at hfind
  | ok t =>
    rw [htarget] at hfind
    rw [h.target_eq_ok htarget]
    cases t with
    | folder m => exact hfind
    | named folder name =>
      dsimp only at hfind ⊢
      cases hchild : fs.child folder name with
      | error f => simp [hchild] at hfind
      | ok e =>
        rw [hchild] at hfind
        cases e with
        | file bytes => by_cases hslash : Path.endsInSlash path = true <;> simp [hslash] at hfind
        | folder =>
          obtain ⟨hfits, hentry⟩ := child_eq_folder_iff.mp hchild
          rw [child_eq_folder_iff.mpr ⟨hfits, (h.entry?_eq_folder_iff _).mpr hentry⟩]
          exact hfind

/-! ## Paths that are not in each other's way -/

/-- Clearing a path never changes what stands in the way of a later one. -/
def Orderly (paths : List String) : Prop :=
  ∀ fs : FileSystem, paths.Pairwise fun p q => (fs.cleared p).obstacle? q = fs.obstacle? q

/-- A walk that ends in a folder goes on to lead there, and only the name in it is looked at. -/
lemma obstacle?_erase {fs : FileSystem} {l folder : Location} {path name : String}
    (hl : fs.entry? l ≠ some .folder) (hlocked : fs.isLocked l.tail = false)
    (hslash : Path.endsInSlash path = false) (htarget : fs.target path = .ok (.named folder name)) :
    (fs.erase l).obstacle? path = fs.obstacle? path := by
  have htarget' := (sameBut_erase_of_ne_folder hl).target_eq_ok htarget
  rw [obstacle?, obstacle?, removable, removable, htarget, htarget']
  dsimp only
  rw [child, child, entry?_erase]
  cases hfits : nameFits name with
  | false => rfl
  | true =>
    by_cases heq : name :: folder = l
    · subst heq
      cases hentry : fs.entry? (name :: folder) with
      | none => simp
      | some e =>
        cases e with
        | folder => exact absurd hentry hl
        | file bytes =>
          rw [List.tail_cons] at hlocked
          simp [hslash, hlocked]
    · rw [if_neg heq]
      rfl

lemma obstacle?_congr {fs fs' : FileSystem} {path : String} {t : Except FileFault Target}
    (ht : ∀ l name, t ≠ .ok (.named l name)) (h : fs.target path = t) (h' : fs'.target path = t) :
    fs'.obstacle? path = fs.obstacle? path := by
  rw [obstacle?, obstacle?, removable, removable, h, h']
  cases t with
  | error f => rfl
  | ok t =>
    cases t with
    | folder l => rfl
    | named l name => exact absurd rfl (ht l name)

/-- Of two paths that lie side by side, both start the walk at the same folder. -/
lemma start_front_append {front m n : List Char} (hm : Path.IsPart m) (hn : Path.IsPart n)
    (fs : FileSystem) :
    fs.start (String.ofList (front ++ m)) = fs.start (String.ofList (front ++ n)) := by
  have hhead {cs : List Char} (h : Path.IsPart cs) : cs.head? ≠ some '/' :=
    fun heq => h.slash_notMem (List.mem_of_head? heq)
  have habsolute : Path.isAbsolute (String.ofList (front ++ m)) =
      Path.isAbsolute (String.ofList (front ++ n)) := by
    cases front with
    | nil => simp [Path.isAbsolute, hhead hm, hhead hn]
    | cons c rest => simp [Path.isAbsolute]
  rw [start, start, habsolute]

lemma target_front_append {front name : List Char} (hfront : Path.IsFront front)
    (hname : Path.IsPart name) (fs : FileSystem) :
    fs.target (String.ofList (front ++ name)) =
      match textFault? (String.ofList (front ++ name)) with
      | some f => .error f
      | none => (fs.descend (fs.start (String.ofList (front ++ name)))
          ((Path.partsFrom [] front).map String.ofList)).map (landing (String.ofList name)) := by
  have hparts : Path.parts (String.ofList (front ++ name)) =
      (Path.partsFrom [] front).map String.ofList ++ [String.ofList name] := by
    rw [Path.parts, String.toList_ofList, Path.partsFrom_front_append hfront hname, List.map_append,
      List.map_singleton]
  cases hfault : textFault? (String.ofList (front ++ name)) with
  | some f => simp only [target_eq, hfault]
  | none => simp only [target_eq, hfault, hparts, List.getLast?_concat, List.dropLast_concat]

lemma endsInSlash_front_append (front : List Char) {name : List Char} (hname : Path.IsPart name) :
    Path.endsInSlash (String.ofList (front ++ name)) = false := by
  have hlast : (front ++ name).getLast? ≠ some '/' := by
    rw [List.getLast?_append_of_ne_nil _ hname.ne_nil]
    exact fun h => hname.slash_notMem (List.mem_of_getLast? h)
  simpa [Path.endsInSlash] using hlast

/-- Of two paths that lie side by side, removing the one is not in the way of the other. -/
theorem obstacle?_cleared_of_siblings {p q : List Char} (h : Path.Siblings p q) (fs : FileSystem) :
    (fs.cleared (String.ofList p)).obstacle? (String.ofList q) =
      fs.obstacle? (String.ofList q) := by
  rcases fs.cleared_eq_or (String.ofList p) with heq | ⟨l, hremovable, heq⟩
  · rw [heq]
  rw [heq]
  have hl := ne_folder_of_removable hremovable
  obtain ⟨folder, name, bytes, htarget, heq, -, -, hslash, hunlocked⟩ :=
    removable_eq_ok_iff.mp hremovable
  have hlocked : fs.isLocked l.tail = false := by rwa [heq, List.tail_cons]
  rcases h with rfl | ⟨front, m, n, hfront, hm, hn, rfl, rfl⟩
  · exact obstacle?_erase hl hlocked hslash htarget
  rw [target_front_append hfront hm, start_front_append hm hn] at htarget
  -- The walk to the removed file also is the walk to the other one, which can go wrong at its name only.
  cases hfault : textFault? (String.ofList (front ++ n)) with
  | some f =>
    have htext (files : FileSystem) : files.target (String.ofList (front ++ n)) = .error f := by
      rw [target_front_append hfront hn, hfault]
    exact obstacle?_congr (by simp) (htext _) (htext _)
  | none =>
    cases hdescend : fs.descend (fs.start (String.ofList (front ++ n)))
        ((Path.partsFrom [] front).map String.ofList) with
    | error f =>
      rw [hdescend] at htarget
      split at htarget <;> simp [Except.map] at htarget
    | ok place =>
      have htarget' : fs.target (String.ofList (front ++ n)) =
          .ok (landing (String.ofList n) place) := by
        rw [target_front_append hfront hn, hfault, hdescend]
        rfl
      cases hlanding : landing (String.ofList n) place with
      | named place' name' =>
        rw [hlanding] at htarget'
        exact obstacle?_erase hl hlocked (endsInSlash_front_append front hn) htarget'
      | folder place' =>
        rw [hlanding] at htarget'
        have hsame := sameBut_erase_of_ne_folder hl
        exact obstacle?_congr (by simp) htarget' (hsame.target_eq_ok htarget')

/-- A path at which a file can be removed ends in its name. -/
lemma exists_isName_of_removable {fs : FileSystem} {path : String} {l : Location}
    (h : fs.removable path = .ok l) : ∃ front name,
      Path.IsFront front ∧ Path.IsName name ∧ path.toList = front ++ name := by
  obtain ⟨folder, name, bytes, htarget, -, -, -, hslash, -⟩ := removable_eq_ok_iff.mp h
  obtain ⟨front, part, hfront, hpart, hpath⟩ := Path.exists_front_append path.toList
  have hne : part ≠ [] := by
    rintro rfl
    rw [List.append_nil] at hpath
    rcases hfront with rfl | hlast
    · rw [String.toList_eq_nil_iff.mp hpath] at htarget
      contradiction
    · rw [← hpath] at hlast
      simp [Path.endsInSlash, hlast] at hslash
  have heq : path = String.ofList (front ++ part) := by rw [← hpath, String.ofList_toList]
  rw [heq, target_front_append hfront ⟨hne, hpart⟩] at htarget
  -- `.` and `..` lead to a folder, and a folder is not removed.
  have hnot : ¬ (part = ['.'] ∨ part = ['.', '.']) := by
    intro hdots
    split at htarget
    · contradiction
    · generalize fs.descend _ _ = walk at htarget
      cases walk with
      | error f => simp [Except.map] at htarget
      | ok place => rcases hdots with rfl | rfl <;> simp [Except.map, landing] at htarget
  exact ⟨front, part, hfront, ⟨hne, hpart, fun h => hnot (.inl h), fun h => hnot (.inr h)⟩, hpath⟩

/-- The file system with several paths cleared in order. -/
def clearedAll (fs : FileSystem) (paths : List String) : FileSystem := paths.foldl cleared fs

lemma sameBut_clearedAll {fs : FileSystem} {paths : List String} {ls : List Location}
    (hplace : ∀ p ∈ paths, ∀ l, fs.place? p = some l → l ∈ ls) :
    SameBut ls fs (fs.clearedAll paths) := by
  induction paths generalizing fs with
  | nil => exact .refl ls fs
  | cons p paths ih =>
    have hfirst : SameBut ls fs (fs.cleared p) := sameBut_cleared (hplace p List.mem_cons_self)
    refine hfirst.trans (ih fun q hq l hl => ?_)
    rw [hfirst.place?_eq] at hl
    exact hplace q (List.mem_cons_of_mem p hq) l hl

lemma find_clearedAll_missing {fs : FileSystem} {path : String} (others : List String)
    (h : fs.find path = .error .missing) :
    (fs.clearedAll others).find path = .error .missing := by
  induction others generalizing fs with
  | nil => exact h
  | cons p others ih => exact ih (find_cleared_missing p h)

lemma Orderly.of_cons {p : String} {paths : List String} (h : Orderly (p :: paths)) :
    Orderly paths := fun fs => (List.pairwise_cons.mp (h fs)).2

lemma Orderly.obstacle?_cleared {p q : String} {paths : List String} (h : Orderly (p :: paths))
    (hq : q ∈ paths) (fs : FileSystem) : (fs.cleared p).obstacle? q = fs.obstacle? q :=
  (List.pairwise_cons.mp (h fs)).1 q hq

/-- After a sweep nothing is left at any path that was not obstructed when it began. -/
theorem find_clearedAll {paths : List String} (horderly : Orderly paths) {fs : FileSystem}
    {path : String} (hmem : path ∈ paths) (h : fs.obstacle? path = none) :
    (fs.clearedAll paths).find path = .error .missing := by
  induction paths generalizing fs with
  | nil => contradiction
  | cons p paths ih =>
    by_cases hp : path = p
    · subst hp
      exact find_clearedAll_missing paths (find_cleared h)
    · have hrest : path ∈ paths := (List.mem_cons.mp hmem).resolve_left hp
      rw [← horderly.obstacle?_cleared hrest] at h
      exact ih horderly.of_cons hrest h

end FileSystem

namespace Sweep

lemma remove_eq (report : String → FileFault → Notice) (s : Sweep) (path : String) :
    s.remove report path = ⟨s.files.cleared path,
      s.notices ++ ((s.files.obstacle? path).map (report path)).toList,
      s.fault?.or ((s.files.obstacle? path).map (.file path))⟩ := by
  rw [remove, FileSystem.clear_eq]
  cases hobstacle : s.files.obstacle? path with
  | none => simp
  | some f =>
    have hcleared : s.files.cleared path = s.files := by
      rcases s.files.cleared_eq_or path with heq | ⟨l, hremovable, -⟩
      · exact heq
      · rw [FileSystem.obstacle?, hremovable] at hobstacle
        contradiction
    simp [hcleared]

/-- The notices and the fault of a sweep are those of the obstacles with which it begins, in order. -/
theorem removeAll_eq (report : String → FileFault → Notice) {paths : List String}
    (horderly : FileSystem.Orderly paths) (s : Sweep) :
    s.removeAll report paths = ⟨s.files.clearedAll paths,
      s.notices ++ paths.filterMap (fun p => (s.files.obstacle? p).map (report p)),
      s.fault?.or (paths.findSome? fun p => (s.files.obstacle? p).map (.file p))⟩ := by
  induction paths generalizing s with
  | nil => simp [removeAll, FileSystem.clearedAll]
  | cons p paths ih =>
    have hstep : s.removeAll report (p :: paths) = (s.remove report p).removeAll report paths := rfl
    have hnotices : paths.filterMap (fun q => ((s.files.cleared p).obstacle? q).map (report q)) =
        paths.filterMap (fun q => (s.files.obstacle? q).map (report q)) :=
      List.filterMap_congr fun q hq => by rw [horderly.obstacle?_cleared hq]
    have hfault : (paths.findSome? fun q =>
          ((s.files.cleared p).obstacle? q).map (Fault.file q)) =
        paths.findSome? fun q => (s.files.obstacle? q).map (Fault.file q) := by
      rw [← List.head?_filterMap, ← List.head?_filterMap]
      exact congrArg List.head? (List.filterMap_congr fun q hq => by
        rw [horderly.obstacle?_cleared hq])
    rw [hstep, ih horderly.of_cons, remove_eq]
    dsimp only
    rw [hnotices, hfault]
    cases hobstacle : s.files.obstacle? p with
    | none => simp [FileSystem.clearedAll, hobstacle]
    | some f => simp [FileSystem.clearedAll, hobstacle]

end Sweep

namespace Artifact

/-- The places of the files that belong to a script. -/
def places (a : Artifact) (fs : FileSystem) : List Location := a.paths.filterMap fs.place?

lemma mem_places {a : Artifact} {fs : FileSystem} {path : String} (hpath : path ∈ a.paths)
    {l : Location} (h : fs.place? path = some l) : l ∈ a.places fs :=
  List.mem_filterMap.mpr ⟨path, hpath, h⟩

lemma places_eq {ls : List Location} {fs fs' : FileSystem} (h : FileSystem.SameBut ls fs fs')
    (a : Artifact) : a.places fs' = a.places fs :=
  List.filterMap_congr fun p _ => h.place?_eq p

lemma write_eq_ok_iff {a : Artifact} {contents : String} {fs fs' : FileSystem} :
    a.write contents fs = .ok fs' ↔ fs.write a.path contents.toUTF8 = .ok fs' := by
  unfold write
  cases fs.write a.path contents.toUTF8 with
  | ok files => simp
  | error f => simp

lemma write_eq_error_iff {a : Artifact} {contents : String} {fs : FileSystem} {fault : Fault} :
    a.write contents fs = .error fault ↔
      ∃ f, fs.write a.path contents.toUTF8 = .error f ∧ fault = .file a.path f := by
  unfold write
  cases fs.write a.path contents.toUTF8 with
  | ok files => simp
  | error f => simp [eq_comm]

/-- Writing the script changes none but its own file. -/
lemma sameBut_write {a : Artifact} {contents : String} {fs fs' : FileSystem}
    (h : a.write contents fs = .ok fs') : FileSystem.SameBut (a.places fs) fs fs' := by
  exact FileSystem.sameBut_write (write_eq_ok_iff.mp h)
    fun l hl => mem_places List.mem_cons_self hl

end Artifact

namespace Artifact

/-- Nothing stands in the way of a byproduct because its script was removed. -/
lemma obstacle?_cleared_withExtension (path : String) {extension : String}
    (h : '/' ∉ extension.toList) (fs : FileSystem) :
    (fs.cleared path).obstacle? (Path.withExtension path extension) =
      fs.obstacle? (Path.withExtension path extension) := by
  rcases fs.cleared_eq_or path with heq | ⟨l, hremovable, -⟩
  · rw [heq]
  · obtain ⟨front, name, hfront, hname, hpath⟩ := FileSystem.exists_isName_of_removable hremovable
    have hsiblings := Path.siblings_withExtensionChars_self hfront hname h
    rw [← hpath] at hsiblings
    have hclear := FileSystem.obstacle?_cleared_of_siblings hsiblings fs
    rwa [String.ofList_toList] at hclear

/-- The files of a script are not in each other's way, whatever its folder and its name are. -/
theorem orderly (a : Artifact) : FileSystem.Orderly a.paths := by
  intro fs
  have hslash : ∀ e ∈ byproductExtensions, '/' ∉ e.toList := by decide
  rw [paths, List.pairwise_cons, List.pairwise_map]
  constructor
  · intro q hq
    obtain ⟨e, he, rfl⟩ := List.mem_map.mp hq
    exact obstacle?_cleared_withExtension a.path (hslash e he) fs
  · refine List.pairwise_of_forall_mem_list fun e he f hf => ?_
    exact FileSystem.obstacle?_cleared_of_siblings
      (Path.siblings_withExtensionChars a.path.toList (hslash e he) (hslash f hf)) fs

/-- What is reported about the obstructed files of a script. -/
def reports (report : String → FileFault → Notice) (a : Artifact) (fs : FileSystem) : List Notice :=
  a.paths.filterMap fun p => (fs.obstacle? p).map (report p)

/-- The fault about the first file of a script that is obstructed. -/
def removalFault? (a : Artifact) (fs : FileSystem) : Option Fault :=
  a.paths.findSome? fun p => (fs.obstacle? p).map (.file p)

lemma removeAll_eq {a : Artifact} (horderly : FileSystem.Orderly a.paths)
    (report : String → FileFault → Notice) (fs : FileSystem) :
    (Sweep.start fs).removeAll report a.paths =
      ⟨fs.clearedAll a.paths, a.reports report fs, a.removalFault? fs⟩ := by
  rw [Sweep.removeAll_eq report horderly]
  simp [Sweep.start, reports, removalFault?]

lemma removalFault?_eq_none_iff {a : Artifact} {fs : FileSystem} :
    a.removalFault? fs = none ↔ ∀ p ∈ a.paths, fs.obstacle? p = none := by
  simp [removalFault?]

lemma exists_of_removalFault?_eq_some {a : Artifact} {fs : FileSystem} {fault : Fault}
    (h : a.removalFault? fs = some fault) :
    ∃ p ∈ a.paths, ∃ f, fs.obstacle? p = some f ∧ fault = .file p f := by
  obtain ⟨p, hp, hfault⟩ := List.exists_of_findSome?_eq_some h
  obtain ⟨f, hf, rfl⟩ := Option.map_eq_some_iff.mp hfault
  exact ⟨p, hp, f, hf, rfl⟩

lemma exists_of_mem_reports {report : String → FileFault → Notice} {a : Artifact}
    {fs : FileSystem} {n : Notice} (h : n ∈ a.reports report fs) :
    ∃ p ∈ a.paths, ∃ f, fs.obstacle? p = some f ∧ n = report p f := by
  obtain ⟨p, hp, hn⟩ := List.mem_filterMap.mp h
  obtain ⟨f, hf, rfl⟩ := Option.map_eq_some_iff.mp hn
  exact ⟨p, hp, f, hf, rfl⟩

lemma mem_reports {report : String → FileFault → Notice} {a : Artifact} {fs : FileSystem}
    {path : String} (hpath : path ∈ a.paths) {f : FileFault} (h : fs.obstacle? path = some f) :
    report path f ∈ a.reports report fs := by
  refine List.mem_filterMap.mpr ⟨path, hpath, ?_⟩
  rw [h]
  rfl

end Artifact

/-- The name of the script file in a slot without its extension. -/
def slotStem (index : ℕ) : String := "macro_" ++ Text.naturalPadded 2 index

lemma toList_slotStem (index : ℕ) :
    ∃ digits : List Char, (∀ c ∈ digits, c.isDigit = true) ∧
      (slotStem index).toList = "macro_".toList ++ digits := by
  refine ⟨(Text.naturalPadded 2 index).toList, ?_, String.toList_append⟩
  intro c hc
  rw [Text.naturalPadded, String.toList_ofList] at hc
  rcases List.mem_append.mp hc with hzero | hdigit
  · rw [(List.mem_replicate.mp hzero).2]
    rfl
  · exact Text.isDigit_of_mem_decimalDigits hdigit

lemma notMem_slotStem {c : Char} (index : ℕ) (hdigit : c.isDigit = false)
    (hfront : c ∉ "macro_".toList) : c ∉ (slotStem index).toList := by
  obtain ⟨digits, hdigits, heq⟩ := toList_slotStem index
  rw [heq]
  intro h
  rcases List.mem_append.mp h with h | h
  · exact hfront h
  · rw [hdigits c h] at hdigit
    contradiction

/-- A file of the script in a slot. -/
def slotPath (folder : String) (index : ℕ) (extension : String) : String :=
  Path.join folder (slotStem index ++ "." ++ extension)

lemma slotFileName_eq (index : ℕ) : slotFileName index = slotStem index ++ "." ++ "cs" := by
  have hdot : ".cs" = "." ++ "cs" := rfl
  rw [slotFileName, slotStem, hdot, String.append_assoc, String.append_assoc, String.append_assoc]

lemma isName_slot (index : ℕ) {extension : String} (h : '/' ∉ extension.toList) :
    Path.IsName (slotStem index ++ "." ++ extension).toList := by
  have hne : (slotStem index).toList ≠ [] := by
    obtain ⟨digits, -, heq⟩ := toList_slotStem index
    simp [heq]
  have hsplit : (slotStem index ++ "." ++ extension).toList =
      (slotStem index).toList ++ '.' :: extension.toList := by
    simp [String.toList_append]
  rw [hsplit]
  exact Path.isName_append_dot hne (notMem_slotStem index (by decide) (by decide))
    (notMem_slotStem index (by decide) (by decide)) h

namespace Artifact

variable (folder : String) (index : ℕ)

/-- The script of a slot and what the host compiles next to it differ in their extension only. -/
theorem paths_slot : (⟨folder, slotFileName index⟩ : Artifact).paths =
    ["cs", "dll", "pdb"].map (slotPath folder index) := by
  have hne : slotStem index ≠ "" := by
    intro h
    obtain ⟨digits, -, heq⟩ := toList_slotStem index
    simp [h] at heq
  have hwith (extension : String) (h : '/' ∉ extension.toList) :
      Path.withExtension (slotPath folder index "cs") extension =
        slotPath folder index extension :=
    Path.withExtension_join hne (notMem_slotStem index (by decide) (by decide))
      (notMem_slotStem index (by decide) (by decide)) (by decide) (by decide) h folder
  rw [paths, path]
  dsimp only
  rw [slotFileName_eq, ← slotPath]
  simp only [byproductExtensions, List.map_cons, List.map_nil]
  rw [hwith "dll" (by decide), hwith "pdb" (by decide)]

end Artifact

-- What a sweep comes to is known by the lemmas above; unfolded it would run into the text of paths.
attribute [irreducible] FileSystem.clearedAll Artifact.reports Artifact.removalFault?

end HostScript
