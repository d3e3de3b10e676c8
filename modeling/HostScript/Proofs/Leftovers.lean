import HostScript.Host.Rehearsal
import HostScript.Proofs.Outcome

/-!
# What a run leaves behind

However a run comes to an end, and also when it is given up in its wait, its files are swept. Each of them
is then gone, or a warning says that it could not be removed, and no other place has changed. This needs
a host that minds its own business, as the rehearsed one does.
-/
namespace HostScript

open FileSystem (SameBut)

variable {σ : Type}

/-- Whether a notice warns that a file could not be removed. -/
def Notice.WarnsOf (path : String) (n : Notice) : Prop :=
  ∃ why, n.line = "WARN Failed to remove " ++ path ++ ": " ++ why

lemma Notice.warnsOf_of_line {path why : String} {n : Notice}
    (h : n.line = "WARN" ++ " " ++ ("Failed to remove " ++ path ++ ": " ++ why)) :
    n.WarnsOf path := by
  have hlead : "WARN Failed to remove " = "WARN" ++ " " ++ "Failed to remove " := rfl
  refine ⟨why, ?_⟩
  rw [h, hlead]
  simp only [String.append_assoc]

lemma Artifact.cleanupReport_warnsOf (path : String) (f : FileFault) :
    (cleanupReport path f).WarnsOf path := Notice.warnsOf_of_line rfl

lemma Artifact.releaseReport_warnsOf (path : String) (f : FileFault) :
    (releaseReport path f).WarnsOf path := Notice.warnsOf_of_line rfl

/-- Handing a script over by a name, with only probes before it, changes at most files of an artifact. -/
def Host.TouchesOnly (H : Host σ) (a : Artifact) (name : String) (h : σ) : Prop :=
  ∀ h', H.Asked h h' → ∀ fs, SameBut (a.places fs) fs (H.submit name h' fs).files

/-- Between two sessions nothing of an artifact was left behind in silence. -/
structure Session.Accounted (a : Artifact) (s t : Session σ) : Prop where
  /-- Each file is gone, or it was reported in the meantime that it could not be removed. -/
  gone_or_told : ∃ told, t.notices = told ++ s.notices ∧
    ∀ p ∈ a.paths, t.files.find p = .error .missing ∨ ∃ n ∈ told, n.WarnsOf p
  /-- Only a folder in the place of a file, or a lock on the folder around it, can keep it from going. -/
  gone : ∀ p ∈ a.paths, s.files.Permits p → (∀ l, s.files.find p ≠ .ok (l, .folder)) →
    ∀ x, t.files.find p ≠ .ok x
  elsewhere : SameBut (a.places s.files) s.files t.files

/-- What an attempt leaves for the removal: more may have been reported, and no other place changed. -/
structure Session.Kept (a : Artifact) (s t : Session σ) : Prop where
  told : ∃ told, t.notices = told ++ s.notices
  elsewhere : SameBut (a.places s.files) s.files t.files

namespace Session

lemma Kept.accounted {a : Artifact} {s t : Session σ} (h : Kept a s t)
    (horderly : FileSystem.Orderly a.paths) {report : String → FileFault → Notice}
    (hreport : ∀ p f, (report p f).WarnsOf p) (after : List Notice) :
    Accounted a s ((t.swept report a).reportAll after) := by
  obtain ⟨told, htold⟩ := h.told
  have hfiles : ((t.swept report a).reportAll after).files = t.files.clearedAll a.paths := by
    simp
  have hnotices : ((t.swept report a).reportAll after).notices =
      (after.reverse ++ (a.reports report t.files).reverse ++ told) ++ s.notices := by
    simp [htold]
  have hplaces : a.places t.files = a.places s.files := Artifact.places_eq h.elsewhere a
  have hswept : SameBut (a.places s.files) t.files (t.files.clearedAll a.paths) := by
    rw [← hplaces]
    exact FileSystem.sameBut_clearedAll fun p hp l hl => Artifact.mem_places hp hl
  refine ⟨⟨_, hnotices, fun p hp => ?_⟩, fun p hp hpermits hno x hx => ?_, ?_⟩
  · rw [hfiles]
    cases hobstacle : t.files.obstacle? p with
    | none => exact .inl (FileSystem.find_clearedAll horderly hp hobstacle)
    | some f =>
      refine .inr ⟨report p f, ?_, hreport p f⟩
      simp [Artifact.mem_reports hp hobstacle]
  · rw [hfiles] at hx
    obtain ⟨l, e⟩ := x
    cases e with
    | folder =>
      have hfolder := FileSystem.find_eq_folder (h.elsewhere.trans hswept).symm hx
      exact hno l hfolder
    | file bytes =>
      have hobstacle :=
        FileSystem.obstacle?_eq_none_of_find hswept (hpermits.of_sameBut h.elsewhere) hx
      rw [FileSystem.find_clearedAll horderly hp hobstacle] at hx
      contradiction
  · rw [hfiles]
    exact h.elsewhere.trans hswept

end Session

namespace Runner

lemma kept_begun {a : Artifact} {script : String} {s : Session σ} {files : FileSystem}
    (hwrite : a.write (envelope script) s.files = .ok files) :
    Session.Kept a s (s.begun a script files) :=
  ⟨⟨[a.writing (envelope script)], rfl⟩, Artifact.sameBut_write hwrite⟩

lemma kept_begun_wait (r : Runner σ) (patience : ℕ) {a : Artifact} {script : String}
    {s : Session σ} {files : FileSystem}
    (hwrite : a.write (envelope script) s.files = .ok files) :
    Session.Kept a s ((r.wait patience s).2.begun a script files) := by
  refine ⟨⟨[a.writing (envelope script)], ?_⟩, Artifact.sameBut_write hwrite⟩
  rw [Session.begun, wait_notices]
  rfl

lemma kept_afterwards {r : Runner σ} {patience : ℕ} {a : Artifact} {script : String}
    {s : Session σ} {files : FileSystem} (hhost : r.host.TouchesOnly a (r.handle a s) s.host)
    (hwrite : a.write (envelope script) s.files = .ok files) :
    Session.Kept a s (r.afterwards patience a script s files) := by
  have hwritten := Artifact.sameBut_write hwrite
  have hasked := (r.waited_wait patience s).asked
  have hdone := hhost _ hasked files
  rw [Artifact.places_eq hwritten] at hdone
  refine ⟨⟨(r.handedOver patience a s files).notices.reverse ++
    [.submitting (r.handle a s), a.writing (envelope script)], ?_⟩, hwritten.trans hdone⟩
  simp [afterwards]

/-- Whatever becomes of an attempt, no place but those of its files has changed. -/
theorem kept_attempt {r : Runner σ} (patience : ℕ) {a : Artifact} (script : String)
    {s : Session σ} (hhost : r.host.TouchesOnly a (r.handle a s) s.host) :
    Session.Kept a s (r.attempt patience a script s).2 := by
  have h := r.attempted patience a script s
  generalize r.attempt patience a script s = x at h ⊢
  cases h with
  | unwritten hwrite => exact ⟨⟨[a.writing (envelope script)], rfl⟩, .refl _ _⟩
  | skipped hwrite hconnected => exact kept_begun hwrite
  | asleep hwrite hconnected hwait => exact r.kept_begun_wait patience hwrite
  | unready hwrite hconnected hwait => exact r.kept_begun_wait patience hwrite
  | executed hwrite hconnected hwait hresult => exact kept_afterwards hhost hwrite
  | refused hwrite hconnected hwait hresult => exact kept_afterwards hhost hwrite

lemma abandon_concluded (a : Artifact) (result : Except Fault Status) (s : Session σ) :
    abandon (concluded a result s) = (concluded a result s).2 := by
  rw [concluded]
  cases result with
  | ok status =>
    cases a.removalFault? s.files with
    | none => rfl
    | some fault => rfl
  | error fault =>
    cases a.removalFault? s.files with
    | none => rfl
    | some other => rfl

/-- A sweep follows, whether the run comes to its end or is given up. -/
theorem accounted_abandon_settled {a : Artifact} (horderly : FileSystem.Orderly a.paths)
    {s : Session σ} {x : DispatchEnd × Session σ} (h : Session.Kept a s x.2) :
    Session.Accounted a s (abandon (settled a x)) := by
  obtain ⟨e, t⟩ := x
  cases e with
  | asleep =>
    have hrelease : abandon (settled a (.asleep, t)) = t.swept Artifact.releaseReport a := by
      change t.sweep (a.release t.files) = _
      rw [Artifact.release, Artifact.removeAll_eq horderly, Session.sweep_eq]
    rw [hrelease]
    exact h.accounted horderly Artifact.releaseReport_warnsOf []
  | failed fault =>
    rw [settled, abandon_concluded]
    exact h.accounted horderly Artifact.cleanupReport_warnsOf _
  | ended status =>
    rw [settled, abandon_concluded]
    exact h.accounted horderly Artifact.cleanupReport_warnsOf _

/-- A run that finds its folder does not fail for the settings, unless that is what the host itself tells. -/
theorem kind_ne_settings {r : Runner σ} {patience : ℕ} {script : String} {s : Session σ}
    {folder : String} (hoption : r.option? folderOption = some folder)
    (hhost : ∀ files fault, (r.handedOver patience (s.artifact folder) s files).result = .error fault →
      fault.kind ≠ .settings)
    {fault : Fault} (h : (r.run patience script s).1 = .failed fault) : fault.kind ≠ .settings := by
  rcases run_failed_iff.mp h with ⟨hno, -⟩ | ⟨folder', hfolder, ⟨t, hattempted⟩ | ⟨-, t, -, hremoval⟩⟩
  · cases hno.symm.trans hoption
  · cases hoption.symm.trans hfolder
    cases hattempted with
    | unwritten hwrite =>
      obtain ⟨f, -, rfl⟩ := Artifact.write_eq_error_iff.mp hwrite
      simp [Fault.kind]
    | unready hwrite hconnected hwait =>
      rcases (r.waited_wait patience s).fault fault hwait with htimeout | hcancelled
      · simp [htimeout]
      · simp [hcancelled]
    | refused hwrite hconnected hwait hresult => exact hhost _ fault hresult
  · obtain ⟨p, -, f, -, rfl⟩ := Artifact.exists_of_removalFault?_eq_some hremoval
    simp [Fault.kind]

end Runner

/-! ## The rehearsed host minds its own business -/

namespace Rehearsal

lemma folder_of_asked {h h' : Rehearsal} (hasked : host.Asked h h') : h'.folder = h.folder := by
  induction hasked with
  | refl => rfl
  | tail _ hprobe ih =>
    rw [hprobe, ← ih]
    change (probe _).2.folder = _
    rw [probe]
    split
    · rfl
    · split <;> rfl

lemma scriptPath_handle (r : Runner Rehearsal) (s : Session Rehearsal) (h : Rehearsal) :
    h.scriptPath (r.handle (s.artifact h.folder) s) = (s.artifact h.folder).path := by
  have hback : '\\' ∉ (slotFileName s.slots.next).toList :=
    slotFileName_notMem s.slots.next (by decide) (by decide) (by decide)
  have hpos : ∀ c ∈ (slotFileName s.slots.next).toList.reverse, (decide (c ≠ '\\')) = true := by
    intro c hc
    apply decide_eq_true
    intro heq
    exact hback (heq ▸ List.mem_reverse.mp hc)
  have hhandle : r.handle (s.artifact h.folder) s =
      (if r.host.isDrawingActive s.host then "..\\drawings\\" else "") ++ "..\\" ++
        slotFileName s.slots.next := submissionName_slot _ s.slots.next
  have hdots : "..\\".toList = ['.', '.'] ++ ['\\'] := by decide
  rw [scriptPath, hhandle, String.toList_append, String.toList_append, hdots,
    ← List.append_assoc, List.append_assoc, List.reverse_append, List.reverse_append,
    List.append_assoc, List.takeWhile_append_of_pos hpos]
  simp [Artifact.path, Session.artifact, Slots.takeName, Slots.take]

lemma sameBut_leave {ls : List Location} {fs fs' : FileSystem} (h : SameBut ls fs fs')
    {path : String} (contents : String) (hplace : ∀ l, fs.place? path = some l → l ∈ ls) :
    SameBut ls fs (leave fs' path contents) := by
  rw [leave]
  cases hwrite : fs'.write path contents.toUTF8 with
  | error f => exact h
  | ok files =>
    refine h.trans (FileSystem.sameBut_write hwrite fun l hl => hplace l ?_)
    rwa [h.place?_eq] at hl

/-- Taking the script of an artifact, a rehearsal changes none but its files. -/
lemma sameBut_afterSubmission {a : Artifact} {r : Rehearsal} {name : String}
    (hpath : r.scriptPath name = a.path) (fs : FileSystem) :
    SameBut (a.places fs) fs (r.afterSubmission fs name) := by
  have hleave (fs' : FileSystem) (h : SameBut (a.places fs) fs fs') (extension : String)
      (hextension : extension ∈ byproductExtensions) : SameBut (a.places fs) fs
        (leave fs' (Path.withExtension a.path extension) extension) :=
    sameBut_leave h extension fun l hl => Artifact.mem_places
      (List.mem_cons_of_mem _ (List.mem_map_of_mem hextension)) hl
  have hcompiled : SameBut (a.places fs) fs (byproductExtensions.foldl
      (fun files extension => leave files (Path.withExtension a.path extension) extension) fs) := by
    simp only [byproductExtensions, List.foldl_cons, List.foldl_nil]
    exact hleave _ (hleave fs (.refl _ _) "dll" (by decide)) "pdb" (by decide)
  have hremove (fs' : FileSystem) (h : SameBut (a.places fs) fs fs') :
      SameBut (a.places fs) fs ((fs'.remove a.path).toOption.getD fs') := by
    rw [FileSystem.remove]
    cases hremovable : fs'.removable a.path with
    | error f => exact h
    | ok l =>
      refine h.trans (FileSystem.sameBut_erase hremovable fun m hm => ?_)
      rw [h.place?_eq] at hm
      exact Artifact.mem_places List.mem_cons_self hm
  unfold afterSubmission
  simp only [hpath]
  by_cases hby : (r.byproducts && (r.script? fs name).isSome) = true
  · rw [if_pos hby]
    by_cases hremoves : r.removesScript = true
    · rw [if_pos hremoves]
      exact hremove _ hcompiled
    · rw [if_neg hremoves]
      exact hcompiled
  · rw [if_neg hby]
    by_cases hremoves : r.removesScript = true
    · rw [if_pos hremoves]
      exact hremove _ (.refl _ _)
    · rw [if_neg hremoves]

/-- A rehearsal that looks for scripts where runs put them touches only the files of the script. -/
theorem touchesOnly_handle {r : Runner Rehearsal} (hhost : r.host = host) (s : Session Rehearsal) :
    r.host.TouchesOnly (s.artifact s.host.folder) (r.handle (s.artifact s.host.folder) s) s.host := by
  intro h' hasked fs
  have hfolder : h'.folder = s.host.folder := by
    rw [hhost] at hasked
    exact folder_of_asked hasked
  have hpath := scriptPath_handle r s h'
  rw [hfolder] at hpath
  have hfiles : (r.host.submit (r.handle (s.artifact s.host.folder) s) h' fs).files =
      h'.afterSubmission fs (r.handle (s.artifact s.host.folder) s) := by
    rw [hhost]
    rfl
  rw [hfiles]
  exact sameBut_afterSubmission hpath fs

end Rehearsal

namespace Runner

/-- A run that does not find its folder fails for the settings and changes no file. After any other run, also
one that is given up, its files are gone or reported, and no other place has changed. Such a run fails for the
settings only if the host does. -/
theorem accounted_run (r : Runner σ) (patience : ℕ) (script : String) (s : Session σ)
    (hhost : ∀ folder, r.folder = .ok folder →
      r.host.TouchesOnly (s.artifact folder) (r.handle (s.artifact folder) s) s.host) :
    (∀ fault, r.folder = .error fault → (r.run patience script s).1 = .failed fault ∧
      fault.kind = .settings ∧ (abandon (r.run patience script s)).files = s.files) ∧
    ∀ folder, r.folder = .ok folder →
      Session.Accounted (s.artifact folder) s (abandon (r.run patience script s)) ∧
      ((∀ files fault, (r.handedOver patience (s.artifact folder) s files).result = .error fault →
        fault.kind ≠ .settings) →
          ∀ fault, (r.run patience script s).1 = .failed fault → fault.kind ≠ .settings) := by
  constructor
  · intro fault hfolder
    obtain ⟨hoption, rfl⟩ := folder_eq_error_iff.mp hfolder
    rw [run_eq_unset hoption]
    exact ⟨rfl, rfl, rfl⟩
  · intro folder hfolder
    have hoption := folder_eq_ok_iff.mp hfolder
    refine ⟨?_, fun hkinds fault h => kind_ne_settings hoption hkinds h⟩
    rw [run_eq_settled hoption]
    exact accounted_abandon_settled (s.orderly_artifact folder)
      (kept_attempt patience script (hhost folder hfolder))

/-- A rehearsal that stays busy is given up in a locked folder, in which an old script stands and a folder in
the place of a byproduct. -/
theorem accounted_run_given_up :
    let files : FileSystem := ⟨[(["macro_00.cs", "work"], .file .empty),
      (["macro_00.dll", "work"], .folder), (["work"], .folder)], ["work"], [["work"]]⟩
    let s : Session Rehearsal :=
      ⟨files, { Rehearsal.usual with busy := -1, byproducts := true }, .startingAt 0, 0, [], []⟩
    let r : Runner Rehearsal := ⟨Rehearsal.host, fun _ => some ".", .usual⟩
    Session.Accounted (s.artifact ".") s (abandon (r.run 2 "akit.Callback();" s)) := by
  intro files s r
  have hfolder : r.folder = .ok "." := rfl
  have hhost : ∀ folder, r.folder = .ok folder →
      r.host.TouchesOnly (s.artifact folder) (r.handle (s.artifact folder) s) s.host := by
    intro folder h
    cases hfolder.symm.trans h
    exact Rehearsal.touchesOnly_handle rfl s
  exact ((accounted_run r 2 "akit.Callback();" s hhost).2 "." hfolder).1

end Runner

end HostScript
