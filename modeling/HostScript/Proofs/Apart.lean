import HostScript.Proofs.Numeral
import HostScript.Proofs.Removal
import HostScript.Proofs.Rotation

/-!
# Slots that keep apart

Two slots have no file name in common, since the numbers in the names can be read back. A file that is written
or removed is changed at the one place that its own name has in some folder, so nothing that is done to the
files of one slot can be noticed at the files of another, in whatever folders they are. What becomes of the
files of an artifact is therefore what its own owner does to them, however many others are busy in the
meantime, as long as the rotation has not come around to its slot again.
-/
namespace HostScript

/-! ## The names of a slot -/

lemma Numeral.ofDigits_replicate_zero (n : ℕ) : ofDigits 0 (List.replicate n '0') = 0 := by
  induction n with
  | zero => rfl
  | succ n ih =>
    rw [List.replicate_succ', ofDigits_append, ih, ofDigits_singleton]
    rfl

/-- Zeros on the left do not change the number that a text stands for. -/
theorem Text.naturalPadded_injective (width : ℕ) : Function.Injective (naturalPadded width) := by
  have hvalue (n : ℕ) : Numeral.ofDigits 0 (naturalPadded width n).toList = n := by
    rw [naturalPadded, String.toList_ofList, Numeral.ofDigits_append,
      Numeral.ofDigits_replicate_zero, Numeral.ofDigits_decimalDigits]
  intro m n h
  rw [← hvalue m, h, hvalue n]

/-- The name of a file of the script in a slot. -/
def slotName (index : ℕ) (extension : String) : String := slotStem index ++ "." ++ extension

/-- Both the slot and the extension can be told from a name. -/
theorem slotName_inj {i j : ℕ} {e f : String} (h : slotName i e = slotName j f) : i = j ∧ e = f := by
  have hdot (k : ℕ) : ∀ c ∈ (slotStem k).toList, c ≠ '.' := by
    rintro c hc rfl
    exact notMem_slotStem k (by decide) (by decide) hc
  have hsplit (k : ℕ) (extension : String) :
      (slotName k extension).toList = (slotStem k).toList ++ '.' :: extension.toList := by
    simp [slotName, String.toList_append]
  have hlists := congrArg String.toList h
  rw [hsplit, hsplit] at hlists
  obtain ⟨hstem, hrest⟩ :=
    Text.eq_and_eq_of_append_eq (hdot i) (hdot j) (by simp) (by simp) hlists
  constructor
  · have hpadded := String.toList_inj.mp hstem
    rw [slotStem, slotStem, String.append_right_inj] at hpadded
    exact Text.naturalPadded_injective 2 hpadded
  · exact String.toList_inj.mp (List.cons.inj hrest).2

lemma slotFileName_injective : Function.Injective slotFileName := by
  intro i j h
  rw [slotFileName_eq, slotFileName_eq] at h
  exact (slotName_inj h).1

/-- The extensions of the files that belong to a script, with that of the script in front. -/
def slotExtensions : List String := ["cs", "dll", "pdb"]

def slotNames (index : ℕ) : List String := slotExtensions.map (slotName index)

lemma notMem_slotNames {i j : ℕ} (h : i ≠ j) {name : String} (hname : name ∈ slotNames i) :
    name ∉ slotNames j := by
  intro hother
  obtain ⟨e, -, rfl⟩ := List.mem_map.mp hname
  obtain ⟨f, -, heq⟩ := List.mem_map.mp hother
  exact h (slotName_inj heq).1.symm

/-- The artifact of a slot in a folder. -/
def slotArtifact (folder : String) (index : ℕ) : Artifact := ⟨folder, slotFileName index⟩

/-! ## Paths that end in a name -/

/-- A path ends in a name, with nothing but a folder in front of it. -/
def Path.EndsIn (path name : String) : Prop :=
  ∃ front, Path.IsFront front ∧ Path.IsName name.toList ∧ path.toList = front ++ name.toList

lemma Path.endsIn_join {name : String} (h : Path.IsName name.toList) (folder : String) :
    Path.EndsIn (Path.join folder name) name :=
  ⟨Path.lead folder.toList, Path.isFront_lead _, h, Path.toList_join h folder⟩

/-- A path has only one last name. -/
lemma Path.EndsIn.unique {path m n : String} (hm : Path.EndsIn path m) (hn : Path.EndsIn path n) :
    m = n := by
  obtain ⟨front, hfront, hname, hpath⟩ := hm
  obtain ⟨front', hfront', hname', hpath'⟩ := hn
  have hsplit := Path.splitName?_append hname hfront
  rw [← hpath, hpath', Path.splitName?_append hname' hfront'] at hsplit
  have hpair := Prod.mk.inj (Option.some.inj hsplit)
  exact (String.toList_inj.mp hpair.2).symm

/-- Joining puts a name right behind the parts of the folder. -/
lemma Path.parts_join {name : String} (h : Path.IsName name.toList) (folder : String) :
    Path.parts (Path.join folder name) = Path.parts folder ++ [name] := by
  have hlead : Path.partsFrom [] (Path.lead folder.toList) = Path.partsFrom [] folder.toList := by
    rw [Path.lead]
    split
    · rfl
    · rw [Path.partsFrom_append_slash]
      simp [Path.partsFrom]
  rw [Path.parts, Path.toList_join h, Path.partsFrom_front_append (Path.isFront_lead _) h.isPart, hlead,
    List.map_append, List.map_singleton, String.ofList_toList, Path.parts]

lemma Path.isAbsolute_join {name : String} (h : Path.IsName name.toList) (folder : String) :
    Path.isAbsolute (Path.join folder name) = Path.isAbsolute folder := by
  have hname : name.toList.head? ≠ some '/' := fun heq => h.slash_notMem (List.mem_of_head? heq)
  rw [Path.isAbsolute, Path.isAbsolute, Path.toList_join h, Path.lead]
  cases hfolder : folder.toList with
  | nil => simp [hname]
  | cons c cs =>
    split <;> simp

namespace FileSystem

/-- Where a path that ends in a name leads, there is that name. -/
lemma exists_target_eq_named {path name : String} (h : Path.EndsIn path name) {fs : FileSystem}
    {t : Target} (ht : fs.target path = .ok t) : ∃ l, t = .named l name := by
  obtain ⟨front, hfront, hname, hpath⟩ := h
  have heq : path = String.ofList (front ++ name.toList) := by rw [← hpath, String.ofList_toList]
  have hdot : name ≠ "." := fun h => hname.ne_dot (by rw [h]; rfl)
  have hdots : name ≠ ".." := fun h => hname.ne_dots (by rw [h]; rfl)
  rw [heq, target_front_append hfront hname.isPart, String.ofList_toList] at ht
  split at ht
  · contradiction
  · generalize fs.descend _ _ = walk at ht
    cases walk with
    | error f => simp [Except.map] at ht
    | ok l =>
      simp only [Except.map, landing, if_neg hdot, if_neg hdots, Except.ok.injEq] at ht
      exact ⟨l, ht.symm⟩

lemma of_toOption_eq {α : Type} {x y : Except FileFault α} (h : y.toOption = x.toOption) :
    (∃ a, x = .ok a ∧ y = .ok a) ∨ (∃ f, x = .error f) ∧ ∃ g, y = .error g := by
  cases x with
  | ok a =>
    cases y with
    | ok b =>
      rw [Option.some.inj h]
      exact .inl ⟨a, rfl, rfl⟩
    | error g => contradiction
  | error f =>
    cases y with
    | ok b => contradiction
    | error g => exact .inr ⟨⟨f, rfl⟩, g, rfl⟩

/-! ## Files of other names -/

/-- Two file systems differ at most in files, and in no file that has one of some names. -/
def SameFor (names : List String) (fs fs' : FileSystem) : Prop :=
  ∃ ls, SameBut ls fs fs' ∧ ∀ l ∈ ls, ∀ name ∈ names, l.head? ≠ some name

namespace SameFor

variable {names : List String} {fs fs' fs'' : FileSystem} {path name : String}

@[refl] lemma refl (names : List String) (fs : FileSystem) : SameFor names fs fs :=
  ⟨[], .refl [] fs, by simp⟩

lemma trans (h : SameFor names fs fs') (h' : SameFor names fs' fs'') : SameFor names fs fs'' := by
  obtain ⟨ls, hsame, hls⟩ := h
  obtain ⟨ms, hsame', hms⟩ := h'
  refine ⟨ls ++ ms, (hsame.mono (List.subset_append_left ls ms)).trans
    (hsame'.mono (List.subset_append_right ls ms)), fun l hl => ?_⟩
  exact (List.mem_append.mp hl).elim (hls l) (hms l)

lemma entry?_eq (h : SameFor names fs fs') (hname : name ∈ names) (l : Location) :
    fs'.entry? (name :: l) = fs.entry? (name :: l) := by
  obtain ⟨ls, hsame, hls⟩ := h
  rcases hsame.entry?_eq_or (name :: l) with heq | ⟨hl, -, -⟩
  · exact heq
  · exact absurd rfl (hls _ hl name hname)

lemma isLocked_eq (h : SameFor names fs fs') (folder : Location) :
    fs'.isLocked folder = fs.isLocked folder := by
  obtain ⟨ls, hsame, -⟩ := h
  exact hsame.isLocked_eq folder

/-- A path that ends in one of the names leads to the same place in both, or to none in either, and what
stands there is the same. -/
lemma target_eq_or (h : SameFor names fs fs') (hname : name ∈ names) (hpath : Path.EndsIn path name) :
    (∃ l, fs.target path = .ok (.named l name) ∧ fs'.target path = .ok (.named l name) ∧
      fs'.child l name = fs.child l name) ∨
    (∃ f, fs.target path = .error f) ∧ ∃ f, fs'.target path = .error f := by
  obtain ⟨ls, hsame, hls⟩ := id h
  cases htarget : fs.target path with
  | ok t =>
    obtain ⟨l, rfl⟩ := exists_target_eq_named hpath htarget
    refine .inl ⟨l, rfl, hsame.target_eq_ok htarget, ?_⟩
    rw [child, child, h.entry?_eq hname]
  | error f =>
    refine .inr ⟨⟨f, rfl⟩, ?_⟩
    cases htarget' : fs'.target path with
    | ok t =>
      rw [hsame.symm.target_eq_ok htarget'] at htarget
      contradiction
    | error g => exact ⟨g, rfl⟩

/-- Such a path looks the same in both file systems: it exists in both or in neither, with the same contents,
and the same can be done to it. -/
theorem looks (h : SameFor names fs fs') (hname : name ∈ names) (hpath : Path.EndsIn path name) :
    (fs'.find path).toOption = (fs.find path).toOption ∧
    (fs'.read path).toOption = (fs.read path).toOption ∧
    (fs'.writable path).toOption = (fs.writable path).toOption ∧
    (fs'.removable path).toOption = (fs.removable path).toOption := by
  simp only [find, read, writable, removable, h.isLocked_eq]
  rcases h.target_eq_or hname hpath with ⟨l, htarget, htarget', hchild⟩ |
    ⟨⟨f, htarget⟩, g, htarget'⟩
  · rw [htarget, htarget']
    dsimp only
    rw [hchild]
    exact ⟨rfl, rfl, rfl, rfl⟩
  · rw [htarget, htarget']
    exact ⟨rfl, rfl, rfl, rfl⟩

lemma put (h : SameFor names fs fs') (l : Location) (e : Entry) :
    SameFor names (fs.put l e) (fs'.put l e) := by
  obtain ⟨ls, hsame, hls⟩ := h
  refine ⟨ls, ⟨hsame.here_eq, hsame.locked_eq, fun m => ?_⟩, hls⟩
  cases m with
  | nil => exact .inl rfl
  | cons name folder =>
    rw [entry?_put, entry?_put]
    split
    · exact .inl rfl
    · exact hsame.entry?_eq_or _

lemma erase (h : SameFor names fs fs') (l : Location) :
    SameFor names (fs.erase l) (fs'.erase l) := by
  obtain ⟨ls, hsame, hls⟩ := h
  refine ⟨ls, ⟨hsame.here_eq, hsame.locked_eq, fun m => ?_⟩, hls⟩
  cases m with
  | nil => exact .inl rfl
  | cons name folder =>
    rw [entry?_erase, entry?_erase]
    split
    · exact .inl rfl
    · exact hsame.entry?_eq_or _

end SameFor

/-- The file system after a file was written, if it could be. -/
def written (fs : FileSystem) (path : String) (bytes : ByteArray) : FileSystem :=
  match fs.writable path with
  | .ok l => fs.put l (.file bytes)
  | .error _ => fs

section Touching

variable {names : List String} {fs fs' : FileSystem} {path name : String}

lemma sameFor_of_sameBut {l : Location} (h : SameBut [name :: l] fs fs') (hname : name ∉ names) :
    SameFor names fs fs' := by
  refine ⟨[name :: l], h, ?_⟩
  rintro _ hl other hother heq
  rw [List.mem_singleton.mp hl, List.head?_cons, Option.some.injEq] at heq
  exact hname (heq ▸ hother)

lemma sameFor_written (hpath : Path.EndsIn path name) (hname : name ∉ names) (fs : FileSystem)
    (bytes : ByteArray) : SameFor names fs (fs.written path bytes) := by
  rw [written]
  cases hwritable : fs.writable path with
  | error f => exact .refl names fs
  | ok l =>
    obtain ⟨folder, other, htarget, rfl, -, -, hold⟩ := of_writable hwritable
    obtain ⟨place, htarget'⟩ := exists_target_eq_named hpath htarget
    cases htarget'
    exact sameFor_of_sameBut (sameBut_put_file hold bytes) hname

lemma sameFor_cleared (hpath : Path.EndsIn path name) (hname : name ∉ names) (fs : FileSystem) :
    SameFor names fs (fs.cleared path) := by
  rw [cleared]
  cases hremovable : fs.removable path with
  | error f => exact .refl names fs
  | ok l =>
    obtain ⟨folder, other, bytes, htarget, rfl, -, -⟩ := of_removable hremovable
    obtain ⟨place, htarget'⟩ := exists_target_eq_named hpath htarget
    cases htarget'
    exact sameFor_of_sameBut (sameBut_erase_of_ne_folder (ne_folder_of_removable hremovable)) hname

lemma SameFor.written (h : SameFor names fs fs') (hname : name ∈ names)
    (hpath : Path.EndsIn path name) (bytes : ByteArray) :
    SameFor names (fs.written path bytes) (fs'.written path bytes) := by
  obtain ⟨-, -, hwritable, -⟩ := h.looks hname hpath
  rw [FileSystem.written, FileSystem.written]
  rcases of_toOption_eq hwritable with ⟨l, hold, hnew⟩ | ⟨⟨f, hold⟩, g, hnew⟩
  · rw [hold, hnew]
    exact h.put l (.file bytes)
  · rw [hold, hnew]
    exact h

lemma SameFor.cleared (h : SameFor names fs fs') (hname : name ∈ names)
    (hpath : Path.EndsIn path name) : SameFor names (fs.cleared path) (fs'.cleared path) := by
  obtain ⟨-, -, -, hremovable⟩ := h.looks hname hpath
  rw [FileSystem.cleared, FileSystem.cleared]
  rcases of_toOption_eq hremovable with ⟨l, hold, hnew⟩ | ⟨⟨f, hold⟩, g, hnew⟩
  · rw [hold, hnew]
    exact h.erase l
  · rw [hold, hnew]
    exact h

lemma sameFor_clearedAll {paths : List String}
    (h : ∀ p ∈ paths, ∃ name, Path.EndsIn p name ∧ name ∉ names) (fs : FileSystem) :
    SameFor names fs (fs.clearedAll paths) := by
  induction paths generalizing fs with
  | nil =>
    rw [clearedAll, List.foldl_nil]
  | cons p paths ih =>
    obtain ⟨name, hpath, hname⟩ := h p List.mem_cons_self
    rw [clearedAll_cons]
    exact (sameFor_cleared hpath hname fs).trans
      (ih (fun q hq => h q (List.mem_cons_of_mem p hq)) _)

lemma SameFor.clearedAll {paths : List String}
    (hpaths : ∀ p ∈ paths, ∃ name ∈ names, Path.EndsIn p name) (h : SameFor names fs fs') :
    SameFor names (fs.clearedAll paths) (fs'.clearedAll paths) := by
  induction paths generalizing fs fs' with
  | nil =>
    rw [FileSystem.clearedAll, FileSystem.clearedAll, List.foldl_nil, List.foldl_nil]
    exact h
  | cons p paths ih =>
    obtain ⟨name, hname, hpath⟩ := hpaths p List.mem_cons_self
    rw [clearedAll_cons, clearedAll_cons]
    exact ih (fun q hq => hpaths q (List.mem_cons_of_mem p hq)) (h.cleared hname hpath)

end Touching

end FileSystem

/-! ## The files of one slot -/

section SlotFiles

variable {folder : String} {index : ℕ} {path : String}

lemma isName_slotName (index : ℕ) {extension : String} (h : extension ∈ slotExtensions) :
    Path.IsName (slotName index extension).toList := by
  have hslash : ∀ e ∈ slotExtensions, '/' ∉ e.toList := by decide
  exact isName_slot index (hslash extension h)

lemma endsIn_slotPath (folder : String) (index : ℕ) {extension : String}
    (h : extension ∈ slotExtensions) :
    Path.EndsIn (slotPath folder index extension) (slotName index extension) :=
  Path.endsIn_join (isName_slotName index h) folder

lemma exists_of_mem_paths (h : path ∈ (slotArtifact folder index).paths) :
    ∃ name ∈ slotNames index, Path.EndsIn path name ∧ path = Path.join folder name := by
  rw [slotArtifact, Artifact.paths_slot] at h
  obtain ⟨e, he, rfl⟩ := List.mem_map.mp h
  exact ⟨slotName index e, List.mem_map_of_mem he, endsIn_slotPath folder index he, rfl⟩

lemma isName_of_mem_slotNames {name : String} (h : name ∈ slotNames index) :
    Path.IsName name.toList := by
  obtain ⟨e, he, rfl⟩ := List.mem_map.mp h
  exact isName_slotName index he

lemma paths_slotArtifact (folder : String) (index : ℕ) : (slotArtifact folder index).paths =
    [Path.join folder ("macro_" ++ Text.naturalPadded 2 index ++ ".cs"),
      Path.join folder ("macro_" ++ Text.naturalPadded 2 index ++ ".dll"),
      Path.join folder ("macro_" ++ Text.naturalPadded 2 index ++ ".pdb")] := by
  have hdot (e : String) : slotStem index ++ "." ++ e =
      "macro_" ++ Text.naturalPadded 2 index ++ ("." ++ e) := by
    rw [slotStem, String.append_assoc]
  rw [slotArtifact, Artifact.paths_slot]
  simp only [List.map_cons, List.map_nil, slotPath, hdot]
  rfl

lemma nodup_paths (folder : String) (index : ℕ) : (slotArtifact folder index).paths.Nodup := by
  rw [slotArtifact, Artifact.paths_slot]
  refine List.Nodup.map_on (fun e he f hf heq => ?_) (by decide)
  have hend := endsIn_slotPath folder index (show e ∈ slotExtensions from he)
  rw [heq] at hend
  exact (slotName_inj (hend.unique (endsIn_slotPath folder index hf))).2

end SlotFiles

/-! ## What is done to the files of an artifact -/

/-- What an owner does to the files of an artifact: writing the script, cleaning up, also if that is broken
off after so many removals, and letting go, where nothing is left to do if the clean-up was completed. -/
inductive Handling where
  | write (contents : String)
  | cleanup
  | breakOff (removals : ℕ)
  | drop (cleaned : Bool)

/-- The files after an artifact was handled. A script that cannot be written changes none. -/
def Artifact.handled (a : Artifact) (fs : FileSystem) : Handling → FileSystem
  | .write contents => (a.write contents fs).toOption.getD fs
  | .cleanup => ((Custody.ofArtifact a).cleanup fs).1.files
  | .breakOff removals => ((Custody.ofArtifact a).breakOff removals fs).1.files
  | .drop cleaned => ((⟨a, cleaned⟩ : Custody).drop fs).files

/-- To handle an artifact is to write its script or to clear some of its paths. -/
lemma Artifact.handled_eq_or (a : Artifact) (h : Handling) :
    (∃ bytes, ∀ fs : FileSystem, a.handled fs h = fs.written a.path bytes) ∨
      ∃ paths ⊆ a.paths, ∀ fs : FileSystem, a.handled fs h = fs.clearedAll paths := by
  cases h with
  | write contents =>
    refine .inl ⟨contents.toUTF8, fun fs => ?_⟩
    unfold handled write FileSystem.write FileSystem.written
    cases fs.writable a.path with
    | ok l => rfl
    | error f => rfl
  | cleanup => exact .inr ⟨a.paths, List.Subset.refl _, fun fs => Custody.cleanup_files a fs⟩
  | breakOff removals =>
    exact .inr ⟨a.paths.take removals, List.take_subset _ _, fun fs => Custody.breakOff_files a fs _⟩
  | drop cleaned =>
    cases cleaned with
    | false => exact .inr ⟨a.paths, List.Subset.refl _, fun fs => Custody.drop_files a fs⟩
    | true =>
      refine .inr ⟨[], List.nil_subset _, fun fs => ?_⟩
      have hnone : fs.clearedAll [] = fs := by rw [FileSystem.clearedAll, List.foldl_nil]
      rw [hnone, handled, Custody.drop, if_pos rfl, Sweep.start]

lemma exists_endsIn_path (folder : String) (index : ℕ) :
    ∃ name ∈ slotNames index, Path.EndsIn (slotArtifact folder index).path name := by
  obtain ⟨name, hname, hpath, -⟩ := exists_of_mem_paths
    (show (slotArtifact folder index).path ∈ (slotArtifact folder index).paths from List.mem_cons_self)
  exact ⟨name, hname, hpath⟩

/-- What is done to the files of one slot is no change for another. -/
theorem sameFor_handled {i j : ℕ} (hij : i ≠ j) (folder : String) (h : Handling) (fs : FileSystem) :
    FileSystem.SameFor (slotNames j) fs ((slotArtifact folder i).handled fs h) := by
  rcases (slotArtifact folder i).handled_eq_or h with ⟨bytes, heq⟩ | ⟨paths, hpaths, heq⟩
  · obtain ⟨name, hname, hpath⟩ := exists_endsIn_path folder i
    rw [heq]
    exact FileSystem.sameFor_written hpath (notMem_slotNames hij hname) fs bytes
  · rw [heq]
    refine FileSystem.sameFor_clearedAll (fun p hp => ?_) fs
    obtain ⟨name, hname, hpath, -⟩ := exists_of_mem_paths (hpaths hp)
    exact ⟨name, hpath, notMem_slotNames hij hname⟩

/-- What is done to the files of a slot comes to the same in file systems that are the same for it. -/
theorem FileSystem.SameFor.handled {index : ℕ} {fs fs' : FileSystem}
    (hsame : FileSystem.SameFor (slotNames index) fs fs') (folder : String) (h : Handling) :
    FileSystem.SameFor (slotNames index) ((slotArtifact folder index).handled fs h)
      ((slotArtifact folder index).handled fs' h) := by
  rcases (slotArtifact folder index).handled_eq_or h with ⟨bytes, heq⟩ | ⟨paths, hpaths, heq⟩
  · obtain ⟨name, hname, hpath⟩ := exists_endsIn_path folder index
    rw [heq, heq]
    exact hsame.written hname hpath bytes
  · rw [heq, heq]
    refine hsame.clearedAll fun p hp => ?_
    obtain ⟨name, hname, hpath, -⟩ := exists_of_mem_paths (hpaths hp)
    exact ⟨name, hname, hpath⟩

/-- A path looks the same in two file systems: it exists in both or in neither, at the same place and with the
same contents. -/
structure LooksSame (fs fs' : FileSystem) (path : String) : Prop where
  find : (fs'.find path).toOption = (fs.find path).toOption
  read : (fs'.read path).toOption = (fs.read path).toOption

lemma FileSystem.SameFor.looksSame {index : ℕ} {fs fs' : FileSystem}
    (h : FileSystem.SameFor (slotNames index) fs fs') {folder path : String}
    (hpath : path ∈ (slotArtifact folder index).paths) : LooksSame fs fs' path := by
  obtain ⟨name, hname, hend, -⟩ := exists_of_mem_paths hpath
  obtain ⟨hfind, hread, -⟩ := h.looks hname hend
  exact ⟨hfind, hread⟩

/-! ## Artifacts that take turns -/

/-- The artifact that a rotation makes of its turn with a number, in the folder that its owner uses. -/
def Slots.artifact (s : Slots) (folders : ℕ → String) (turn : ℕ) : Artifact :=
  ⟨folders turn, (s.after turn).takeName.1⟩

/-- The files after the artifacts of several turns were handled, one after the other. -/
def Slots.handled (s : Slots) (folders : ℕ → String) (fs : FileSystem) (es : List (ℕ × Handling)) :
    FileSystem :=
  es.foldl (fun files e => (s.artifact folders e.1).handled files e.2) fs

namespace Slots

variable (s : Slots) (folders : ℕ → String)

lemma artifact_eq (turn : ℕ) :
    s.artifact folders turn = slotArtifact (folders turn) ((s.next + turn) % slotCount) := by
  rw [artifact, takeName, take_fst, next_after, slotArtifact]

/-- Two turns have the same slot exactly if they are full rounds apart. -/
lemma index_eq_iff (turn other : ℕ) : (s.next + turn) % slotCount = (s.next + other) % slotCount ↔
    turn % slotCount = other % slotCount := by
  simp only [slotCount]
  omega

/-- What the files of a turn look like after all that was done is what its own owner made of them. -/
theorem sameFor_handled_filter {turn : ℕ} {es : List (ℕ × Handling)}
    (hes : ∀ e ∈ es, e.1 = turn ∨ e.1 % slotCount ≠ turn % slotCount) {fs fs' : FileSystem}
    (h : FileSystem.SameFor (slotNames ((s.next + turn) % slotCount)) fs fs') :
    FileSystem.SameFor (slotNames ((s.next + turn) % slotCount))
      (s.handled folders fs (es.filter fun e => e.1 = turn)) (s.handled folders fs' es) := by
  induction es generalizing fs fs' with
  | nil => exact h
  | cons e es ih =>
    have hrest : ∀ e ∈ es, e.1 = turn ∨ e.1 % slotCount ≠ turn % slotCount :=
      fun d hd => hes d (List.mem_cons_of_mem e hd)
    have hstep : s.handled folders fs' (e :: es) =
        s.handled folders ((s.artifact folders e.1).handled fs' e.2) es := rfl
    by_cases he : e.1 = turn
    · have hfilter : (e :: es).filter (fun e => e.1 = turn) = e :: es.filter fun e => e.1 = turn :=
        List.filter_cons_of_pos (by simpa using he)
      have hown : s.handled folders fs (e :: es.filter fun e => e.1 = turn) =
          s.handled folders ((s.artifact folders e.1).handled fs e.2)
            (es.filter fun e => e.1 = turn) := rfl
      rw [hfilter, hstep, hown, s.artifact_eq, he]
      exact ih hrest (h.handled (folders turn) e.2)
    · have hfilter : (e :: es).filter (fun e => e.1 = turn) = es.filter fun e => e.1 = turn :=
        List.filter_cons_of_neg (by simpa using he)
      have hindex := (s.index_eq_iff e.1 turn).not.mpr ((hes e List.mem_cons_self).resolve_left he)
      have hother := sameFor_handled hindex (folders e.1) e.2 fs'
      rw [hfilter, hstep, s.artifact_eq]
      exact ih hrest (h.trans hother)

lemma looksSame_handled {turn : ℕ} {es : List (ℕ × Handling)}
    (hes : ∀ e ∈ es, e.1 = turn ∨ e.1 % slotCount ≠ turn % slotCount) (fs : FileSystem)
    (p : String) (hp : p ∈ (s.artifact folders turn).paths) :
    LooksSame (s.handled folders fs (es.filter fun e => e.1 = turn)) (s.handled folders fs es) p := by
  rw [s.artifact_eq] at hp
  exact (s.sameFor_handled_filter folders hes (.refl _ fs)).looksSame hp

/-- A rotation is back at a slot after a full round, and not before. -/
lemma mod_slotCount_ne {turn other : ℕ} (hne : turn ≠ other) (hlt : turn < other + slotCount)
    (hlt' : other < turn + slotCount) : turn % slotCount ≠ other % slotCount := by
  simp only [slotCount] at hlt hlt' ⊢
  omega

end Slots

/-- Runs in different slots never share a file. -/
structure SlotsApart (f g : String) : Prop where
  /-- The paths of a slot, in order. -/
  paths : ∀ i, (slotArtifact f i).paths = [
    Path.join f ("macro_" ++ Text.naturalPadded 2 i ++ ".cs"),
    Path.join f ("macro_" ++ Text.naturalPadded 2 i ++ ".dll"),
    Path.join f ("macro_" ++ Text.naturalPadded 2 i ++ ".pdb")]
  nodup : ∀ i, (slotArtifact f i).paths.Nodup
  /-- They are directly inside the folder. -/
  inside : ∀ i, ∀ p ∈ (slotArtifact f i).paths, ∃ name,
    Path.parts p = Path.parts f ++ [name] ∧ Path.isAbsolute p = Path.isAbsolute f
  /-- Other slots have other paths, in that folder and in any other. -/
  disjoint : ∀ i j, i ≠ j → (slotArtifact f i).paths.Disjoint (slotArtifact g j).paths
  /-- Whatever is done to the files of one slot, those of another stay as they are. -/
  untouched : ∀ i j, i ≠ j → ∀ h fs, ∀ p ∈ (slotArtifact g j).paths,
    LooksSame fs ((slotArtifact f i).handled fs h) p

/-- Artifacts of one rotation that are in use at the same time never touch each other's files. -/
structure Slots.TurnsApart (s : Slots) (folders : ℕ → String) : Prop where
  /-- The artifacts are those of the indexes that the rotation hands out. -/
  handed_out : ∀ n, ((List.range n).map fun turn => (s.artifact folders turn).fileName) =
    (s.indexes n).map slotFileName
  /-- Two turns have a file name in common only if they are full rounds apart. -/
  shared_iff : ∀ turn other, (s.artifact folders turn).fileName =
    (s.artifact folders other).fileName ↔ turn % slotCount = other % slotCount
  /-- So the artifacts of one round all have different paths. -/
  disjoint : ∀ first, ((List.range slotCount).map fun k => (s.artifact folders (first + k)).paths).Pairwise
    List.Disjoint
  /-- Whatever is done, and in whichever order, to artifacts of a round that are in use together, the files of
  each of them look like what its own owner made of them. -/
  together : ∀ first es, (∀ e ∈ es, first ≤ e.1 ∧ e.1 < first + slotCount) →
    ∀ turn, first ≤ turn → turn < first + slotCount → ∀ fs, ∀ p ∈ (s.artifact folders turn).paths,
      LooksSame (s.handled folders fs (es.filter fun e => e.1 = turn)) (s.handled folders fs es) p
  /-- This is so for any artifacts, of whatever rounds, as long as no two of them are full rounds apart. -/
  alone : ∀ turn es, (∀ e ∈ es, e.1 = turn ∨ e.1 % slotCount ≠ turn % slotCount) →
    ∀ fs, ∀ p ∈ (s.artifact folders turn).paths,
      LooksSame (s.handled folders fs (es.filter fun e => e.1 = turn)) (s.handled folders fs es) p

theorem slotsApart (f g : String) : SlotsApart f g where
  paths := paths_slotArtifact f
  nodup := nodup_paths f
  inside i p hp := by
    obtain ⟨name, hname, -, rfl⟩ := exists_of_mem_paths hp
    have hisname := isName_of_mem_slotNames hname
    exact ⟨name, Path.parts_join hisname f, Path.isAbsolute_join hisname f⟩
  disjoint i j hij p hp hp' := by
    obtain ⟨name, hname, hend, -⟩ := exists_of_mem_paths hp
    obtain ⟨name', hname', hend', -⟩ := exists_of_mem_paths hp'
    rw [hend.unique hend'] at hname
    exact notMem_slotNames hij hname hname'
  untouched i j hij h fs p hp := (sameFor_handled hij f h fs).looksSame hp

theorem Slots.turnsApart (s : Slots) (folders : ℕ → String) : s.TurnsApart folders where
  handed_out n := by
    rw [s.indexes_eq, List.map_map]
    refine List.map_congr_left fun turn _ => ?_
    rw [s.artifact_eq, slotArtifact, Function.comp_apply]
  shared_iff turn other := by
    rw [← s.index_eq_iff, s.artifact_eq, s.artifact_eq]
    exact slotFileName_injective.eq_iff
  disjoint first := by
    refine List.pairwise_map.mpr (List.Pairwise.imp_of_mem (fun {k l} hk hl hlt => ?_)
      List.pairwise_lt_range)
    rw [List.mem_range] at hk hl
    have hindex : (s.next + (first + k)) % slotCount ≠ (s.next + (first + l)) % slotCount := by
      rw [Ne, s.index_eq_iff]
      exact mod_slotCount_ne (by omega) (by omega) (by omega)
    rw [s.artifact_eq, s.artifact_eq]
    exact (slotsApart _ _).disjoint _ _ hindex
  together first es hes turn hfirst hturn := by
    refine s.looksSame_handled folders fun e he => ?_
    obtain ⟨hle, hlt⟩ := hes e he
    by_cases heq : e.1 = turn
    · exact .inl heq
    · exact .inr (mod_slotCount_ne heq (by omega) (by omega))
  alone turn es hes := s.looksSame_handled folders hes

/-- Slots keep the files of runs apart, for every text of a folder and over every history of a rotation. -/
theorem slots_never_share (f g : String) (s : Slots) (folders : ℕ → String) :
    SlotsApart f g ∧ s.TurnsApart folders := ⟨slotsApart f g, s.turnsApart folders⟩

end HostScript
