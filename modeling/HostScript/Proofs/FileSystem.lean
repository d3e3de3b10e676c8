import HostScript.FileSystem
import HostScript.Proofs.Association

/-!
# What writing and removing change

Writing and removing a file change one location, and never a folder. Folders alone decide where a path
leads, so paths lead to the same places in any two file systems that differ in files only.
-/
namespace HostScript.FileSystem

theorem entry?_erase (fs : FileSystem) (l : Location) (name : String) (folder : Location) :
    entry? (fs.erase l) (name :: folder) =
      if name :: folder = l then none else fs.entry? (name :: folder) := by
  have hlookup := lookup_filter_fst (fun m => decide (m ≠ l)) fs.entries (name :: folder)
  simpa [erase, entry?] using hlookup

theorem entry?_put (fs : FileSystem) (l : Location) (e : Entry) (name : String)
    (folder : Location) :
    entry? (fs.put l e) (name :: folder) =
      if name :: folder = l then some e else fs.entry? (name :: folder) := by
  change ((l, e) :: (fs.erase l).entries).lookup (name :: folder) = _
  by_cases h : name :: folder = l
  · simp [h]
  · have hbeq : ((name :: folder) == l) = false := beq_eq_false_iff_ne.mpr h
    have hentry := entry?_erase fs l name folder
    rw [if_neg h] at hentry ⊢
    rw [List.lookup_cons, hbeq]
    exact hentry

/-- The second file system differs from the first at most in files, and only at the given locations:
folders stay with their locks, and no folder comes or goes. -/
structure SameBut (ls : List Location) (fs fs' : FileSystem) : Prop where
  here_eq : fs'.here = fs.here
  locked_eq : fs'.locked = fs.locked
  entry?_eq_or : ∀ l, fs'.entry? l = fs.entry? l ∨
    (l ∈ ls ∧ fs.entry? l ≠ some .folder ∧ fs'.entry? l ≠ some .folder)

namespace SameBut

variable {ls ms : List Location} {fs fs' fs'' : FileSystem}

@[refl] theorem refl (ls : List Location) (fs : FileSystem) : SameBut ls fs fs :=
  ⟨rfl, rfl, fun _ => .inl rfl⟩

lemma isLocked_eq (h : SameBut ls fs fs') (folder : Location) :
    fs'.isLocked folder = fs.isLocked folder := by
  rw [isLocked, isLocked, h.locked_eq]

theorem symm (h : SameBut ls fs fs') : SameBut ls fs' fs := by
  refine ⟨h.here_eq.symm, h.locked_eq.symm, fun l => ?_⟩
  rcases h.entry?_eq_or l with heq | ⟨hl, hold, hnew⟩
  · exact .inl heq.symm
  · exact .inr ⟨hl, hnew, hold⟩

theorem trans (h : SameBut ls fs fs') (h' : SameBut ls fs' fs'') : SameBut ls fs fs'' := by
  refine ⟨h'.here_eq.trans h.here_eq, h'.locked_eq.trans h.locked_eq, fun l => ?_⟩
  rcases h.entry?_eq_or l with heq | ⟨hl, hold, hnew⟩
  · rw [← heq]
    exact h'.entry?_eq_or l
  · rcases h'.entry?_eq_or l with heq | ⟨-, -, hlast⟩
    · exact .inr ⟨hl, hold, by rwa [heq]⟩
    · exact .inr ⟨hl, hold, hlast⟩

theorem mono (h : SameBut ls fs fs') (hsub : ls ⊆ ms) : SameBut ms fs fs' := by
  refine ⟨h.here_eq, h.locked_eq, fun l => ?_⟩
  rcases h.entry?_eq_or l with heq | ⟨hl, hold, hnew⟩
  · exact .inl heq
  · exact .inr ⟨hsub hl, hold, hnew⟩

lemma entry?_eq_folder_iff (h : SameBut ls fs fs') (l : Location) :
    fs'.entry? l = some .folder ↔ fs.entry? l = some .folder := by
  rcases h.entry?_eq_or l with heq | ⟨-, hold, hnew⟩
  · rw [heq]
  · exact ⟨fun hfolder => absurd hfolder hnew, fun hfolder => absurd hfolder hold⟩

/-- A change at one location that is no folder before or after it. -/
lemma of_entry? {l : Location} (hhere : fs'.here = fs.here) (hlocked : fs'.locked = fs.locked) (hold : fs.entry? l ≠ some .folder)
    (hnew : fs'.entry? l ≠ some .folder) (hother : ∀ m, m ≠ l → fs'.entry? m = fs.entry? m) :
    SameBut [l] fs fs' := by
  refine ⟨hhere, hlocked, fun m => ?_⟩
  by_cases hm : m = l
  · subst m
    exact .inr ⟨List.mem_singleton_self l, hold, hnew⟩
  · exact .inl (hother m hm)

end SameBut

/-! ## Where a path leads -/

/-- What makes a path impossible by its text alone. -/
def textFault? (path : String) : Option FileFault :=
  if path.toList.contains (Char.ofNat 0) then some .nulInName
  else if path.isEmpty then some .missing
  else if 4096 ≤ path.utf8ByteSize then some .nameTooLong
  else none

/-- Where the walk along a path starts. -/
def start (fs : FileSystem) (path : String) : Location :=
  if Path.isAbsolute path then [] else fs.here

/-- The target of the last part of a path in the folder to which the others lead. -/
def landing (name : String) (l : Location) : Target :=
  if name = "." then .folder l
  else if name = ".." then .folder l.tail
  else .named l name

/-- Only the walk along the folders of a path depends on the file system. -/
theorem target_eq (fs : FileSystem) (path : String) :
    fs.target path = match textFault? path with
      | some f => .error f
      | none =>
        match (Path.parts path).getLast? with
        | none => .ok (.folder (fs.start path))
        | some name => (fs.descend (fs.start path) (Path.parts path).dropLast).map (landing name) := by
  rw [target, textFault?]
  by_cases hnul : path.toList.contains (Char.ofNat 0) = true
  · rw [if_pos hnul, if_pos hnul]
  · by_cases hempty : path.isEmpty = true
    · rw [if_neg hnul, if_neg hnul, if_pos hempty, if_pos hempty]
    · by_cases hlong : 4096 ≤ path.utf8ByteSize
      · rw [if_neg hnul, if_neg hnul, if_neg hempty, if_neg hempty, if_pos hlong, if_pos hlong]
      · rw [if_neg hnul, if_neg hnul, if_neg hempty, if_neg hempty, if_neg hlong, if_neg hlong]
        dsimp only [start]
        cases (Path.parts path).getLast? with
        | none => rfl
        | some name =>
          dsimp only
          cases fs.descend (if Path.isAbsolute path = true then [] else fs.here)
              (Path.parts path).dropLast with
          | error f => rfl
          | ok l =>
            simp only [Except.map, landing]
            split
            · rfl
            · split <;> rfl

theorem child_eq_folder_iff {fs : FileSystem} {l : Location} {name : String} :
    fs.child l name = .ok .folder ↔
      nameFits name = true ∧ fs.entry? (name :: l) = some .folder := by
  rw [child]
  cases hfits : nameFits name with
  | false => simp
  | true =>
    cases hentry : fs.entry? (name :: l) with
    | none => simp
    | some e => simp

lemma descend_cons_eq_ok_iff {fs : FileSystem} {l m : Location} {name : String}
    {names : List String} (hdot : name ≠ ".") (hdots : name ≠ "..") :
    fs.descend l (name :: names) = .ok m ↔
      fs.child l name = .ok .folder ∧ fs.descend (name :: l) names = .ok m := by
  rw [descend, if_neg hdot, if_neg hdots]
  cases hchild : fs.child l name with
  | error f => simp
  | ok e =>
    cases e with
    | folder => simp
    | file bytes => simp

namespace SameBut

variable {ls : List Location} {fs fs' : FileSystem}

lemma descend_eq_ok (h : SameBut ls fs fs') {l m : Location} {names : List String}
    (hdescend : fs.descend l names = .ok m) : fs'.descend l names = .ok m := by
  induction names generalizing l with
  | nil => exact hdescend
  | cons name names ih =>
    by_cases hdot : name = "."
    · rw [descend, if_pos hdot] at hdescend ⊢
      exact ih hdescend
    · by_cases hdots : name = ".."
      · rw [descend, if_neg hdot, if_pos hdots] at hdescend ⊢
        exact ih hdescend
      · obtain ⟨hchild, hrest⟩ := (descend_cons_eq_ok_iff hdot hdots).mp hdescend
        obtain ⟨hfits, hfolder⟩ := child_eq_folder_iff.mp hchild
        have hfolder' := (h.entry?_eq_folder_iff (name :: l)).mpr hfolder
        exact (descend_cons_eq_ok_iff hdot hdots).mpr
          ⟨child_eq_folder_iff.mpr ⟨hfits, hfolder'⟩, ih hrest⟩

lemma start_eq (h : SameBut ls fs fs') (path : String) : fs'.start path = fs.start path := by
  rw [start, start, h.here_eq]

lemma target_eq_ok (h : SameBut ls fs fs') {path : String} {t : Target}
    (htarget : fs.target path = .ok t) : fs'.target path = .ok t := by
  rw [target_eq] at htarget ⊢
  rw [h.start_eq]
  cases hfault : textFault? path with
  | some f => simp [hfault] at htarget
  | none =>
    rw [hfault] at htarget
    cases hlast : (Path.parts path).getLast? with
    | none =>
      rw [hlast] at htarget
      exact htarget
    | some name =>
      rw [hlast] at htarget
      cases hdescend : fs.descend (fs.start path) (Path.parts path).dropLast with
      | error f => simp [hdescend, Except.map] at htarget
      | ok l =>
        rw [hdescend] at htarget
        simpa only [h.descend_eq_ok hdescend] using htarget

theorem target_eq_ok_iff (h : SameBut ls fs fs') {path : String} {t : Target} :
    fs'.target path = .ok t ↔ fs.target path = .ok t :=
  ⟨h.symm.target_eq_ok, h.target_eq_ok⟩

end SameBut

/-- The place that a path names, whether or not anything stands there. -/
def place? (fs : FileSystem) (path : String) : Option Location :=
  match fs.target path with
  | .ok (.named l name) => some (name :: l)
  | _ => none

lemma place?_eq_some_iff {fs : FileSystem} {path : String} {l : Location} :
    fs.place? path = some l ↔
      ∃ folder name, fs.target path = .ok (.named folder name) ∧ l = name :: folder := by
  rw [place?]
  split
  · next folder name htarget =>
    constructor
    · intro h
      exact ⟨folder, name, htarget, (Option.some.inj h).symm⟩
    · rintro ⟨folder', name', htarget', rfl⟩
      rw [htarget] at htarget'
      cases htarget'
      rfl
  · next hno =>
    constructor
    · intro h
      contradiction
    · rintro ⟨folder, name, htarget, -⟩
      exact absurd htarget (hno folder name)

theorem SameBut.place?_eq {ls : List Location} {fs fs' : FileSystem} (h : SameBut ls fs fs')
    (path : String) : fs'.place? path = fs.place? path := by
  apply Option.ext
  intro l
  rw [place?_eq_some_iff, place?_eq_some_iff]
  simp only [h.target_eq_ok_iff]

/-! ## Writing -/

/-- A location that can be written to is a place that fits a name and holds no folder. -/
lemma of_writable {fs : FileSystem} {path : String} {l : Location}
    (h : fs.writable path = .ok l) :
    ∃ folder name, fs.target path = .ok (.named folder name) ∧ l = name :: folder ∧
      Path.endsInSlash path = false ∧ nameFits name = true ∧ fs.entry? l ≠ some .folder := by
  rw [writable] at h
  split at h
  · contradiction
  · contradiction
  · next folder name htarget =>
    by_cases hslash : Path.endsInSlash path = true
    · simp [hslash] at h
    · rw [if_neg hslash, child] at h
      cases hfits : nameFits name with
      | false => simp [hfits] at h
      | true =>
        cases hentry : fs.entry? (name :: folder) with
        | none =>
          simp only [hfits, hentry, Bool.not_true, Bool.false_eq_true, if_false] at h
          split at h
          · contradiction
          · refine ⟨folder, name, htarget, (Except.ok.inj h).symm, by simpa using hslash, hfits, ?_⟩
            rw [← Except.ok.inj h, hentry]
            simp
        | some e =>
          cases e with
          | folder => simp [hfits, hentry] at h
          | file bytes =>
            simp only [hfits, hentry, Bool.not_true, Bool.false_eq_true, if_false] at h
            refine ⟨folder, name, htarget, (Except.ok.inj h).symm, by simpa using hslash, hfits, ?_⟩
            rw [← Except.ok.inj h, hentry]
            simp

lemma sameBut_put_file {fs : FileSystem} {name : String} {folder : Location}
    (hold : fs.entry? (name :: folder) ≠ some .folder) (bytes : ByteArray) :
    SameBut [name :: folder] fs (fs.put (name :: folder) (.file bytes)) := by
  refine SameBut.of_entry? rfl rfl hold ?_ ?_
  · rw [entry?_put, if_pos rfl]
    simp
  · intro m hm
    cases m with
    | nil => rfl
    | cons name' folder' => rw [entry?_put, if_neg hm]

/-- Writing a file changes no other place. -/
theorem sameBut_write {fs fs' : FileSystem} {path : String} {bytes : ByteArray}
    {ls : List Location} (h : fs.write path bytes = .ok fs')
    (hplace : ∀ l, fs.place? path = some l → l ∈ ls) : SameBut ls fs fs' := by
  rw [write] at h
  split at h
  · contradiction
  · next l hwritable =>
    obtain ⟨folder, name, htarget, rfl, -, -, hold⟩ := of_writable hwritable
    have hl := hplace _ (place?_eq_some_iff.mpr ⟨folder, name, htarget, rfl⟩)
    rw [← Except.ok.inj h]
    exact (sameBut_put_file hold bytes).mono (by simpa using hl)

/-- A file that was written holds what was written. -/
theorem read_of_write {fs fs' : FileSystem} {path : String} {bytes : ByteArray}
    (h : fs.write path bytes = .ok fs') : fs'.read path = .ok bytes := by
  rw [write] at h
  split at h
  · contradiction
  · next l hwritable =>
    obtain ⟨folder, name, htarget, rfl, hslash, hfits, hold⟩ := of_writable hwritable
    have htarget' := (sameBut_put_file hold bytes).target_eq_ok htarget
    rw [← Except.ok.inj h, read, htarget']
    simp [child, hfits, entry?_put, hslash]

/-! ## Removing -/

/-- A location that can be freed holds a file, in a folder that is not locked. -/
lemma of_removable {fs : FileSystem} {path : String} {l : Location}
    (h : fs.removable path = .ok l) :
    ∃ folder name bytes, fs.target path = .ok (.named folder name) ∧ l = name :: folder ∧
      nameFits name = true ∧ fs.entry? l = some (.file bytes) ∧ fs.isLocked folder = false := by
  rw [removable] at h
  split at h
  · contradiction
  · contradiction
  · next folder name htarget =>
    rw [child] at h
    cases hfits : nameFits name with
    | false => simp [hfits] at h
    | true =>
      cases hentry : fs.entry? (name :: folder) with
      | none => simp [hfits, hentry] at h
      | some e =>
        cases e with
        | folder =>
          simp only [hfits, hentry, Bool.not_true, Bool.false_eq_true, if_false] at h
          split at h
          · contradiction
          · split at h <;> contradiction
        | file bytes =>
          by_cases hslash : Path.endsInSlash path = true
          · simp [hfits, hentry, hslash] at h
          · simp only [hfits, hentry, hslash, Bool.not_true, Bool.false_eq_true, if_false] at h
            split at h
            · contradiction
            · next hlocked =>
              refine ⟨folder, name, bytes, htarget, (Except.ok.inj h).symm, hfits, ?_, by simpa using hlocked⟩
              rw [← Except.ok.inj h, hentry]

/-- A file can be removed where a path leads to one, does not ask for a folder and passes no lock. -/
lemma removable_eq_ok_iff {fs : FileSystem} {path : String} {l : Location} :
    fs.removable path = .ok l ↔ ∃ folder name bytes,
      fs.target path = .ok (.named folder name) ∧ l = name :: folder ∧ nameFits name = true ∧
        fs.entry? l = some (.file bytes) ∧ Path.endsInSlash path = false ∧ fs.isLocked folder = false := by
  constructor
  · intro h
    obtain ⟨folder, name, bytes, htarget, rfl, hfits, hentry, hlocked⟩ := of_removable h
    refine ⟨folder, name, bytes, htarget, rfl, hfits, hentry, ?_, hlocked⟩
    by_contra hslash
    rw [Bool.not_eq_false] at hslash
    simp [removable, htarget, child, hfits, hentry, hslash] at h
  · rintro ⟨folder, name, bytes, htarget, rfl, hfits, hentry, hslash, hlocked⟩
    simp [removable, htarget, child, hfits, hentry, hslash, hlocked]

lemma sameBut_erase_of_ne_folder {fs : FileSystem} {l : Location}
    (hold : fs.entry? l ≠ some .folder) : SameBut [l] fs (fs.erase l) := by
  refine SameBut.of_entry? rfl rfl hold ?_ ?_
  · cases l with
    | nil => exact absurd rfl hold
    | cons name folder => rw [entry?_erase, if_pos rfl]; simp
  · intro m hm
    cases m with
    | nil => rfl
    | cons name folder => rw [entry?_erase, if_neg hm]

lemma ne_folder_of_removable {fs : FileSystem} {path : String} {l : Location}
    (h : fs.removable path = .ok l) : fs.entry? l ≠ some .folder := by
  obtain ⟨folder, name, bytes, -, -, -, hold, -⟩ := of_removable h
  rw [hold]
  simp

/-- Removing a file changes no other place. -/
theorem sameBut_erase {fs : FileSystem} {path : String} {l : Location} {ls : List Location}
    (h : fs.removable path = .ok l) (hplace : ∀ l, fs.place? path = some l → l ∈ ls) :
    SameBut ls fs (fs.erase l) := by
  obtain ⟨folder, name, bytes, htarget, rfl, -⟩ := of_removable h
  have hl := hplace _ (place?_eq_some_iff.mpr ⟨folder, name, htarget, rfl⟩)
  exact (sameBut_erase_of_ne_folder (ne_folder_of_removable h)).mono (by simpa using hl)

/-- After its removal there is no file at a path. -/
theorem find_erase {fs : FileSystem} {path : String} {l : Location}
    (h : fs.removable path = .ok l) : (fs.erase l).find path = .error .missing := by
  have hsame := sameBut_erase_of_ne_folder (ne_folder_of_removable h)
  obtain ⟨folder, name, bytes, htarget, rfl, hfits, -⟩ := of_removable h
  rw [find, hsame.target_eq_ok htarget]
  simp [child, hfits, entry?_erase]

/-- A path at which there is no file to remove leads to nothing. -/
theorem find_of_removable_missing {fs : FileSystem} {path : String}
    (h : fs.removable path = .error .missing) : fs.find path = .error .missing := by
  rw [removable] at h
  rw [find]
  cases htarget : fs.target path with
  | error f =>
    rw [htarget] at h
    rw [Except.error.inj h]
  | ok t =>
    rw [htarget] at h
    cases t with
    | folder l => simp at h
    | named folder name =>
      dsimp only at h ⊢
      cases hchild : fs.child folder name with
      | error f =>
        rw [hchild] at h
        rw [Except.error.inj h]
      | ok e =>
        rw [hchild] at h
        cases e with
        | folder =>
          dsimp only at h
          split at h
          · simp at h
          · split at h <;> simp at h
        | file bytes =>
          dsimp only at h
          split at h
          · simp at h
          · split at h <;> simp at h

lemma child_erase_missing {fs : FileSystem} {folder : Location} {name : String} (l : Location)
    (h : fs.child folder name = .error .missing) :
    (fs.erase l).child folder name = .error .missing := by
  rw [child] at h ⊢
  cases hfits : nameFits name with
  | false => simp [hfits] at h
  | true =>
    cases hentry : fs.entry? (name :: folder) with
    | none => simp [entry?_erase, hentry]
    | some e => simp [hfits, hentry] at h

/-- A walk that ends where nothing is still does when a file is gone. -/
lemma descend_erase_missing {fs : FileSystem} {l folder : Location} {names : List String}
    (hl : fs.entry? l ≠ some .folder) (h : fs.descend folder names = .error .missing) :
    (fs.erase l).descend folder names = .error .missing := by
  induction names generalizing folder with
  | nil => contradiction
  | cons name names ih =>
    rw [descend] at h ⊢
    by_cases hdot : name = "."
    · rw [if_pos hdot] at h ⊢
      exact ih h
    · by_cases hdots : name = ".."
      · rw [if_neg hdot, if_pos hdots] at h ⊢
        exact ih h
      · rw [if_neg hdot, if_neg hdots] at h ⊢
        cases hchild : fs.child folder name with
        | error f =>
          rw [hchild] at h
          rw [Except.error.inj h] at hchild
          rw [child_erase_missing l hchild]
        | ok e =>
          rw [hchild] at h
          cases e with
          | file bytes => simp at h
          | folder =>
            obtain ⟨hfits, hentry⟩ := child_eq_folder_iff.mp hchild
            have hentry' := ((sameBut_erase_of_ne_folder hl).entry?_eq_folder_iff _).mpr hentry
            rw [child_eq_folder_iff.mpr ⟨hfits, hentry'⟩]
            exact ih h

lemma target_erase_missing {fs : FileSystem} {l : Location} {path : String}
    (hl : fs.entry? l ≠ some .folder) (h : fs.target path = .error .missing) :
    (fs.erase l).target path = .error .missing := by
  rw [target_eq] at h ⊢
  rw [(sameBut_erase_of_ne_folder hl).start_eq]
  cases hfault : textFault? path with
  | some f =>
    rw [hfault] at h
    exact h
  | none =>
    rw [hfault] at h
    cases hlast : (Path.parts path).getLast? with
    | none => simp [hlast] at h
    | some name =>
      rw [hlast] at h
      cases hdescend : fs.descend (fs.start path) (Path.parts path).dropLast with
      | error f =>
        rw [hdescend] at h
        rw [Except.error.inj h] at hdescend
        simp only [descend_erase_missing hl hdescend]
        rfl
      | ok m => simp [hdescend, Except.map] at h

/-- A path that leads to nothing still does when a file is gone. -/
theorem find_erase_missing {fs : FileSystem} {l : Location} {path : String}
    (hl : fs.entry? l ≠ some .folder) (h : fs.find path = .error .missing) :
    (fs.erase l).find path = .error .missing := by
  rw [find] at h ⊢
  cases htarget : fs.target path with
  | error f =>
    rw [htarget] at h
    rw [Except.error.inj h] at htarget
    rw [target_erase_missing hl htarget]
  | ok t =>
    rw [htarget] at h
    rw [(sameBut_erase_of_ne_folder hl).target_eq_ok htarget]
    cases t with
    | folder m => simp at h
    | named folder name =>
      dsimp only at h ⊢
      cases hchild : fs.child folder name with
      | error f =>
        rw [hchild] at h
        rw [Except.error.inj h] at hchild
        rw [child_erase_missing l hchild]
      | ok e =>
        rw [hchild] at h
        cases e with
        | folder => simp at h
        | file bytes => by_cases hslash : Path.endsInSlash path = true <;> simp [hslash] at h

end HostScript.FileSystem
