import HostScript.Proofs.Artifact
import HostScript.Proofs.Wait

/-!
# What a run goes through

A run that finds its folder is an attempt, which writes the script and perhaps hands it over, and the
removal of its files. An attempt ends in one of six ways, and each of them says which of its phases went
well.
-/
namespace HostScript

variable {σ : Type}

/-! ## Names for the host -/

lemma lastPart_append {name : List Char} (hback : '\\' ∉ name) (hslash : '/' ∉ name)
    (front : List Char) : lastPart (front ++ '\\' :: name) = name := by
  have hpos : ∀ c ∈ name.reverse, (c ≠ '\\' && c ≠ '/') = true := by
    intro c hc
    have hmem := List.mem_reverse.mp hc
    have hc' : c ≠ '\\' := fun h => hback (h ▸ hmem)
    have hc'' : c ≠ '/' := fun h => hslash (h ▸ hmem)
    simp [hc', hc'']
  rw [lastPart, List.reverse_append, List.reverse_cons, List.append_assoc,
    List.takeWhile_append_of_pos hpos]
  simp

lemma slotFileName_notMem {c : Char} (index : ℕ) (hdigit : c.isDigit = false)
    (hfront : c ∉ "macro_".toList) (hend : c ∉ ".cs".toList) :
    c ∉ (slotFileName index).toList := by
  have hsplit : (slotFileName index).toList = (slotStem index).toList ++ ".cs".toList :=
    String.toList_append
  rw [hsplit]
  intro h
  rcases List.mem_append.mp h with h | h
  · exact notMem_slotStem index hdigit hfront h
  · exact hend h

lemma hasExtension_slot (front : String) (index : ℕ) :
    hasExtension (front ++ "..\\" ++ slotFileName index) = true := by
  have hname := isName_slot index (show '/' ∉ "cs".toList by decide)
  rw [← slotFileName_eq] at hname
  have hsplit : (front ++ "..\\" ++ slotFileName index).toList =
      (front.toList ++ ['.', '.']) ++ '\\' :: (slotFileName index).toList := by
    simp [String.toList_append]
  have hstem : (slotStem index).toList ≠ [] := by
    obtain ⟨digits, -, heq⟩ := toList_slotStem index
    simp [heq]
  have hextension : Path.splitExtension (slotFileName index).toList =
      ((slotStem index).toList, some "cs".toList) := by
    rw [slotFileName_eq, String.toList_append, String.toList_append, List.append_assoc]
    exact Path.splitExtension_append hstem (by decide)
  have hpart : lastPart (front ++ "..\\" ++ slotFileName index).toList =
      (slotFileName index).toList := by
    rw [hsplit]
    exact lastPart_append (slotFileName_notMem index (by decide) (by decide) (by decide))
      (slotFileName_notMem index (by decide) (by decide) (by decide)) _
  simp only [hasExtension, hpart, if_neg hname.ne_dots, hextension]
  decide

/-- The script of a slot is handed over by its own name, from the folder in which the host starts. -/
theorem submissionName_slot (drawingActive : Bool) (index : ℕ) :
    submissionName drawingActive ("..\\" ++ slotFileName index) =
      (if drawingActive then "..\\drawings\\" else "") ++ "..\\" ++ slotFileName index := by
  rw [submissionName]
  cases drawingActive with
  | false =>
    have hempty : "..\\" ++ slotFileName index = "" ++ "..\\" ++ slotFileName index := by simp
    simp only [Bool.false_eq_true, if_false]
    rw [hempty, if_pos (hasExtension_slot "" index)]
  | true =>
    simp only [if_true]
    rw [← String.append_assoc, if_pos (hasExtension_slot "..\\drawings\\" index)]

example : submissionName true "..\\macro_07.cs" = "..\\drawings\\..\\macro_07.cs" := by
  decide +kernel

/-! ## Attempts -/

/-- A session whose files, notices and slots are those of a run that has announced its script. -/
def Session.begun (s : Session σ) (a : Artifact) (script : String) (files : FileSystem) :
    Session σ :=
  s.amid files (a.writing (envelope script) :: s.notices) s.slots.takeName.2

lemma Session.reportAll_eq (s : Session σ) (ns : List Notice) :
    s.reportAll ns = s.amid s.files (ns.reverse ++ s.notices) s.slots := by
  induction ns generalizing s with
  | nil => rfl
  | cons n ns ih =>
    have hstep : s.reportAll (n :: ns) = (s.report n).reportAll ns := rfl
    rw [hstep, ih]
    simp [Session.report, Session.amid]

@[simp] lemma Session.reportAll_files (s : Session σ) (ns : List Notice) :
    (s.reportAll ns).files = s.files := by
  rw [reportAll_eq]
  rfl

@[simp] lemma Session.reportAll_notices (s : Session σ) (ns : List Notice) :
    (s.reportAll ns).notices = ns.reverse ++ s.notices := by
  rw [reportAll_eq]
  rfl

namespace Runner

/-- The name under which a run hands its script over. -/
def handle (r : Runner σ) (a : Artifact) (s : Session σ) : String :=
  submissionName (r.host.isDrawingActive s.host) ("..\\" ++ a.fileName)

/-- What becomes of a script that is handed over after a wait. -/
def handedOver (r : Runner σ) (patience : ℕ) (a : Artifact) (s : Session σ) (files : FileSystem) :
    Submission σ :=
  r.host.submit (r.handle a s) (r.wait patience s).2.host files

/-- The session after a script was handed over. -/
def afterwards (r : Runner σ) (patience : ℕ) (a : Artifact) (script : String) (s : Session σ)
    (files : FileSystem) : Session σ :=
  let done := r.handedOver patience a s files
  { (r.wait patience s).2.begun a script done.files with
    host := done.host
    deeds := .submitted (r.handle a s) files :: (r.wait patience s).2.deeds
    notices := done.notices.reverse ++
      .submitting (r.handle a s) :: a.writing (envelope script) :: s.notices }

@[simp] lemma afterwards_files (r : Runner σ) (patience : ℕ) (a : Artifact) (script : String)
    (s : Session σ) (files : FileSystem) :
    (r.afterwards patience a script s files).files = (r.handedOver patience a s files).files := rfl

@[simp] lemma begun_files (s : Session σ) (a : Artifact) (script : String) (files : FileSystem) :
    (s.begun a script files).files = files := rfl

/-- A run between the choice of its files and their removal. -/
def attempt (r : Runner σ) (patience : ℕ) (a : Artifact) (script : String) (s : Session σ) :
    DispatchEnd × Session σ :=
  match a.write (envelope script) s.files with
  | .error fault => (.failed fault, s.begun a script s.files)
  | .ok files => r.dispatch patience ("..\\" ++ a.fileName) (s.begun a script files)

/-- Everything that can become of an attempt. A phase is reached when those before it went well: first
the writing, then the wait for a host that is connected, then the handover. -/
inductive Attempted (r : Runner σ) (patience : ℕ) (a : Artifact) (script : String)
    (s : Session σ) : DispatchEnd × Session σ → Prop
  | unwritten {fault : Fault} (hwrite : a.write (envelope script) s.files = .error fault) :
      Attempted r patience a script s (.failed fault, s.begun a script s.files)
  | skipped {files : FileSystem} (hwrite : a.write (envelope script) s.files = .ok files)
      (hconnected : r.host.isConnected s.host = false) :
      Attempted r patience a script s (.ended .skipped, s.begun a script files)
  | asleep {files : FileSystem} (hwrite : a.write (envelope script) s.files = .ok files)
      (hconnected : r.host.isConnected s.host = true) (hwait : (r.wait patience s).1 = .asleep) :
      Attempted r patience a script s (.asleep, (r.wait patience s).2.begun a script files)
  | unready {files : FileSystem} {fault : Fault}
      (hwrite : a.write (envelope script) s.files = .ok files)
      (hconnected : r.host.isConnected s.host = true)
      (hwait : (r.wait patience s).1 = .failed fault) :
      Attempted r patience a script s (.failed fault, (r.wait patience s).2.begun a script files)
  | executed {files : FileSystem} (hwrite : a.write (envelope script) s.files = .ok files)
      (hconnected : r.host.isConnected s.host = true) (hwait : (r.wait patience s).1 = .idle)
      (hresult : (r.handedOver patience a s files).result = .ok ()) :
      Attempted r patience a script s (.ended .executed, r.afterwards patience a script s files)
  | refused {files : FileSystem} {fault : Fault}
      (hwrite : a.write (envelope script) s.files = .ok files)
      (hconnected : r.host.isConnected s.host = true) (hwait : (r.wait patience s).1 = .idle)
      (hresult : (r.handedOver patience a s files).result = .error fault) :
      Attempted r patience a script s (.failed fault, r.afterwards patience a script s files)

lemma begun_wait (r : Runner σ) (patience : ℕ) (a : Artifact) (script : String) (s : Session σ)
    (files : FileSystem) :
    r.wait patience (s.begun a script files) =
      ((r.wait patience s).1, (r.wait patience s).2.begun a script files) := by
  rw [Session.begun, wait_frame, Session.begun, wait_notices, wait_slots]

lemma submit_begun (r : Runner σ) (patience : ℕ) (a : Artifact) (script : String)
    (s : Session σ) (files : FileSystem) :
    r.submit (r.handle a s) ((r.wait patience s).2.begun a script files) =
      (match (r.handedOver patience a s files).result with
        | .ok () => .ended .executed
        | .error fault => .failed fault,
      r.afterwards patience a script s files) := by
  have hsession : ({ ((r.wait patience s).2.begun a script files).report
        (.submitting (r.handle a s)) with
      host := (r.handedOver patience a s files).host
      files := (r.handedOver patience a s files).files
      deeds := .submitted (r.handle a s) files :: (r.wait patience s).2.deeds } :
        Session σ).reportAll (r.handedOver patience a s files).notices =
      r.afterwards patience a script s files := by
    rw [Session.reportAll_eq, afterwards, Session.begun, wait_notices]
    rfl
  have hdone : r.host.submit (r.handle a s) ((r.wait patience s).2.begun a script files).host
      ((r.wait patience s).2.begun a script files).files = r.handedOver patience a s files := rfl
  rw [submit, hdone]
  dsimp only
  cases hresult : (r.handedOver patience a s files).result with
  | ok => exact congrArg (Prod.mk _) hsession
  | error fault => exact congrArg (Prod.mk _) hsession

lemma attempt_eq (r : Runner σ) (patience : ℕ) (a : Artifact) (script : String)
    (s : Session σ) :
    r.attempt patience a script s = match a.write (envelope script) s.files with
      | .error fault => (.failed fault, s.begun a script s.files)
      | .ok files =>
        if r.host.isConnected s.host = false then (.ended .skipped, s.begun a script files)
        else match (r.wait patience s).1 with
          | .asleep => (.asleep, (r.wait patience s).2.begun a script files)
          | .failed fault => (.failed fault, (r.wait patience s).2.begun a script files)
          | .idle => (match (r.handedOver patience a s files).result with
              | .ok () => .ended .executed
              | .error fault => .failed fault,
            r.afterwards patience a script s files) := by
  unfold attempt
  cases a.write (envelope script) s.files with
  | error fault => rfl
  | ok files =>
    have hhost : (s.begun a script files).host = s.host := rfl
    dsimp only
    rw [dispatch, hhost, begun_wait, ← handle]
    cases r.host.isConnected s.host with
    | false => rfl
    | true =>
      dsimp only
      rw [if_neg (by simp), if_neg (by simp)]
      cases (r.wait patience s).1 with
      | asleep => rfl
      | failed fault => rfl
      | idle => exact submit_begun r patience a script s files

/-- What becomes of an attempt is one of these things, and only one. -/
theorem attempted_iff {r : Runner σ} {patience : ℕ} {a : Artifact} {script : String}
    {s : Session σ} {x : DispatchEnd × Session σ} :
    Attempted r patience a script s x ↔ r.attempt patience a script s = x := by
  constructor
  · intro h
    rw [attempt_eq]
    cases h with
    | unwritten hwrite => rw [hwrite]
    | skipped hwrite hconnected =>
      rw [hwrite]
      dsimp only
      rw [if_pos hconnected]
    | asleep hwrite hconnected hwait => simp only [hwrite, hconnected, hwait]; rfl
    | unready hwrite hconnected hwait => simp only [hwrite, hconnected, hwait]; rfl
    | executed hwrite hconnected hwait hresult =>
      simp only [hwrite, hconnected, hwait, hresult]; rfl
    | refused hwrite hconnected hwait hresult =>
      simp only [hwrite, hconnected, hwait, hresult]; rfl
  · rintro rfl
    rw [attempt_eq]
    cases hwrite : a.write (envelope script) s.files with
    | error fault => exact .unwritten hwrite
    | ok files =>
      dsimp only
      cases hconnected : r.host.isConnected s.host with
      | false => exact .skipped hwrite hconnected
      | true =>
        rw [if_neg (by simp)]
        cases hwait : (r.wait patience s).1 with
        | asleep => exact .asleep hwrite hconnected hwait
        | failed fault => exact .unready hwrite hconnected hwait
        | idle =>
          cases hresult : (r.handedOver patience a s files).result with
          | ok => exact .executed hwrite hconnected hwait hresult
          | error fault => exact .refused hwrite hconnected hwait hresult

theorem attempted (r : Runner σ) (patience : ℕ) (a : Artifact) (script : String)
    (s : Session σ) : Attempted r patience a script s (r.attempt patience a script s) :=
  attempted_iff.mpr rfl

lemma attempted_of_fst {r : Runner σ} {patience : ℕ} {a : Artifact} {script : String}
    {s : Session σ} {e : DispatchEnd} (h : (r.attempt patience a script s).1 = e) :
    Attempted r patience a script s (e, (r.attempt patience a script s).2) := by
  rw [attempted_iff, ← h]

end Runner

/-! ## Removal -/

/-- The artifact of the next run, in a folder. -/
def Session.artifact (s : Session σ) (folder : String) : Artifact := ⟨folder, s.slots.takeName.1⟩

lemma Session.artifact_path (s : Session σ) (folder : String) :
    (s.artifact folder).path = Path.join folder (slotFileName s.slots.next) := rfl

lemma Session.orderly_artifact (s : Session σ) (folder : String) :
    FileSystem.Orderly (s.artifact folder).paths :=
  Artifact.orderly _

/-- A session after the removal of an artifact. -/
def Session.swept (s : Session σ) (report : String → FileFault → Notice) (a : Artifact) :
    Session σ :=
  s.amid (s.files.clearedAll a.paths) ((a.reports report s.files).reverse ++ s.notices) s.slots

@[simp] lemma Session.swept_files (s : Session σ) (report : String → FileFault → Notice)
    (a : Artifact) : (s.swept report a).files = s.files.clearedAll a.paths := rfl

@[simp] lemma Session.swept_notices (s : Session σ) (report : String → FileFault → Notice)
    (a : Artifact) :
    (s.swept report a).notices = (a.reports report s.files).reverse ++ s.notices := rfl

lemma Session.sweep_eq (s : Session σ) (report : String → FileFault → Notice) (a : Artifact)
    (fault? : Option Fault) :
    s.sweep ⟨s.files.clearedAll a.paths, a.reports report s.files, fault?⟩ = s.swept report a := by
  rw [sweep, reportAll_eq, swept]
  simp only [amid]

namespace Runner

/-- How a run ends after an attempt and a removal, and what is then reported. -/
def closing (fileName : String) : Except Fault Status → Option Fault → RunEnd × List Notice
  | .ok status, none => (.finished ⟨fileName, status⟩, [.runFinished fileName status])
  | .ok _, some fault => (.failed fault, [])
  | .error fault, none => (.failed fault, [])
  | .error fault, some other => (.failed fault, [.cleanupFailedToo other])

/-- A session after the clean-up that ends a run. -/
def concluded (a : Artifact) (result : Except Fault Status) (s : Session σ) :
    RunEnd × Session σ :=
  ((closing a.fileName result (a.removalFault? s.files)).1,
    (s.swept Artifact.cleanupReport a).reportAll
      (closing a.fileName result (a.removalFault? s.files)).2)

lemma conclude_eq {a : Artifact} (horderly : FileSystem.Orderly a.paths)
    (result : Except Fault Status) (s : Session σ) :
    conclude a result s = concluded a result s := by
  unfold conclude concluded Artifact.cleanup
  simp only [Artifact.removeAll_eq horderly, Session.sweep_eq]
  generalize s.swept Artifact.cleanupReport a = t
  cases result with
  | ok status =>
    cases a.removalFault? s.files with
    | none => rfl
    | some fault => rfl
  | error fault =>
    cases a.removalFault? s.files with
    | none => rfl
    | some other => rfl

/-- The removal that follows an attempt, unless the run is asleep. -/
def settled (a : Artifact) : DispatchEnd × Session σ → RunEnd × Session σ
  | (.asleep, s) => (.asleep a, s)
  | (.failed fault, s) => concluded a (.error fault) s
  | (.ended status, s) => concluded a (.ok status) s

/-- A removal passes no time and leaves the host alone. -/
lemma settled_frame (a : Artifact) (x : DispatchEnd × Session σ) :
    (settled a x).2.deeds = x.2.deeds ∧ (settled a x).2.host = x.2.host ∧
      (settled a x).2.probes = x.2.probes := by
  have hconcluded (result : Except Fault Status) (s : Session σ) :
      (concluded a result s).2.deeds = s.deeds ∧ (concluded a result s).2.host = s.host ∧
        (concluded a result s).2.probes = s.probes := by
    rw [concluded, Session.reportAll_eq]
    exact ⟨rfl, rfl, rfl⟩
  obtain ⟨e, s⟩ := x
  cases e with
  | asleep => exact ⟨rfl, rfl, rfl⟩
  | failed fault => exact hconcluded (.error fault) s
  | ended status => exact hconcluded (.ok status) s

/-- A run that finds its folder is an attempt and the removal of its files. -/
theorem run_eq (r : Runner σ) (patience : ℕ) (script : String) (s : Session σ) :
    r.run patience script s = match r.folder with
      | .error fault => (.failed fault, s.amid s.files s.notices s.slots.takeName.2)
      | .ok folder =>
        settled (s.artifact folder) (r.attempt patience (s.artifact folder) script s) := by
  have hconclude (folder : String) (result : Except Fault Status) (t : Session σ) :
      conclude ⟨folder, s.slots.takeName.1⟩ result t = concluded (s.artifact folder) result t :=
    conclude_eq (s.orderly_artifact folder) result t
  rw [run]
  cases r.folder with
  | error fault => rfl
  | ok folder =>
    dsimp only [Session.artifact]
    unfold attempt
    simp only [hconclude, Session.report]
    cases hwrite : Artifact.write ⟨folder, s.slots.takeName.1⟩ (envelope script) s.files with
    | error fault => rfl
    | ok files =>
      dsimp only
      rw [Session.begun]
      dsimp only [Session.amid]
      cases r.dispatch patience ("..\\" ++ s.slots.takeName.1) _ with
      | mk e t =>
        cases e with
        | asleep => rfl
        | failed fault => rfl
        | ended status => rfl

end Runner

end HostScript
