import HostScript.Proofs.Run

/-!
# What the outcome of a run tells

A run looks up the folder, writes the script, waits, hands the script over and removes the files, in this
order. Its outcome names the first of these phases that failed. The removal takes place in any case, and
when it fails after another phase that is only reported.
-/
namespace HostScript

variable {σ : Type}

namespace Runner

lemma folder_eq_ok_iff {r : Runner σ} {folder : String} :
    r.folder = .ok folder ↔ r.option? folderOption = some folder := by
  rw [Runner.folder]
  cases r.option? folderOption with
  | none => simp
  | some folder => simp

lemma folder_eq_error_iff {r : Runner σ} {fault : Fault} :
    r.folder = .error fault ↔
      r.option? folderOption = none ∧ fault = .optionUnset folderOption := by
  rw [Runner.folder]
  cases r.option? folderOption with
  | none => simp [eq_comm]
  | some folder => simp

/-- What a task reports about its run. -/
def taskNotices (label : String) : RunEnd → List Notice
  | .finished outcome => [.taskFinished label outcome.fileName outcome.status]
  | .failed fault => [.taskFailed label fault]
  | .asleep _ => []

/-- What the end of a run and its journal tell about its phases. An attempt, which is all that lies
between the lookup and the removal, ends in the first of its own phases that fails. -/
structure Verdict (r : Runner σ) (patience : ℕ) (script : String) (s : Session σ)
    (x : RunEnd × Session σ) : Prop where
  executed_iff : x.1 = .finished ⟨s.slots.takeName.1, .executed⟩ ↔
    ∃ folder files, r.option? folderOption = some folder ∧
      s.files.write (s.artifact folder).path (envelope script).toUTF8 = .ok files ∧
      r.host.isConnected s.host = true ∧ (r.wait patience s).1 = .idle ∧
      (r.handedOver patience (s.artifact folder) s files).result = .ok () ∧
      ∀ p ∈ (s.artifact folder).paths,
        (r.handedOver patience (s.artifact folder) s files).files.obstacle? p = none
  skipped_iff : x.1 = .finished ⟨s.slots.takeName.1, .skipped⟩ ↔
    ∃ folder files, r.option? folderOption = some folder ∧
      s.files.write (s.artifact folder).path (envelope script).toUTF8 = .ok files ∧
      r.host.isConnected s.host = false ∧
      ∀ p ∈ (s.artifact folder).paths, files.obstacle? p = none
  /-- A run that finished has the name of its slot, and its files are gone. -/
  finished : ∀ outcome, x.1 = .finished outcome →
    outcome.fileName = s.slots.takeName.1 ∧ ∃ folder, r.option? folderOption = some folder ∧
      ∀ p ∈ (s.artifact folder).paths, x.2.files.find p = .error .missing
  /-- A host that is not connected is not asked, and no time passes. -/
  unasked : r.host.isConnected s.host = false →
    x.2.deeds = s.deeds ∧ x.2.host = s.host ∧ x.2.probes = s.probes
  /-- The fault is that of the lookup, else of the attempt, else of the first file that stays. -/
  failed_iff : ∀ fault, x.1 = .failed fault ↔
    (r.option? folderOption = none ∧ fault = .optionUnset folderOption) ∨
    ∃ folder, r.option? folderOption = some folder ∧
      ((∃ t, Attempted r patience (s.artifact folder) script s (.failed fault, t)) ∨
        ∃ status t, Attempted r patience (s.artifact folder) script s (.ended status, t) ∧
          (s.artifact folder).removalFault? t.files = some fault)
  asleep_iff : (∃ a, x.1 = .asleep a) ↔
    ∃ folder files, r.option? folderOption = some folder ∧
      s.files.write (s.artifact folder).path (envelope script).toUTF8 = .ok files ∧
      r.host.isConnected s.host = true ∧ (r.wait patience s).1 = .asleep
  wait_failed : ∀ fault, (r.wait patience s).1 = .failed fault →
    fault.kind = .timeout ∨ fault.kind = .cancelled
  /-- The removal begins with the script, and what was compiled from it follows. -/
  order : ∀ folder, (s.artifact folder).paths =
    ["cs", "dll", "pdb"].map (slotPath folder s.slots.next)
  /-- Around what the host itself reports, a run tells that it finished exactly when it did, and that
  the removal failed too exactly when it failed after the attempt. -/
  told : ∃ after hosts before, x.2.notices = after ++ hosts ++ before ++ s.notices ∧
    (hosts = [] ∨ ∃ folder files,
      hosts = (r.handedOver patience (s.artifact folder) s files).notices.reverse) ∧
    (∀ outcome, .runFinished outcome.fileName outcome.status ∈ after ++ before ↔
      x.1 = .finished outcome) ∧
    ∀ other, .cleanupFailedToo other ∈ after ++ before ↔
      ∃ folder fault t, r.option? folderOption = some folder ∧
        Attempted r patience (s.artifact folder) script s (.failed fault, t) ∧
        (s.artifact folder).removalFault? t.files = some other
  /-- As a task the same run takes place, and one notice more tells how it ended. -/
  task : ∀ label, r.runTask patience label script s =
    (x.1, x.2.reportAll (taskNotices label x.1))

lemma runTask_eq (r : Runner σ) (patience : ℕ) (label script : String) (s : Session σ) :
    r.runTask patience label script s =
      ((r.run patience script s).1, (r.run patience script s).2.reportAll
        (taskNotices label (r.run patience script s).1)) := by
  rw [runTask]
  generalize r.run patience script s = x
  obtain ⟨e, t⟩ := x
  cases e with
  | finished outcome => rfl
  | failed fault => rfl
  | asleep a => rfl

/-! ## Ends -/

lemma closing_eq_finished_iff {fileName : String} {result : Except Fault Status}
    {other : Option Fault} {outcome : Outcome} :
    (closing fileName result other).1 = .finished outcome ↔
      ∃ status, result = .ok status ∧ other = none ∧ outcome = ⟨fileName, status⟩ := by
  cases result with
  | ok status =>
    cases other with
    | none => simp [closing, eq_comm]
    | some fault => simp [closing]
  | error fault => cases other <;> simp [closing]

lemma closing_eq_failed_iff {fileName : String} {result : Except Fault Status}
    {other : Option Fault} {fault : Fault} :
    (closing fileName result other).1 = .failed fault ↔
      result = .error fault ∨ (∃ status, result = .ok status) ∧ other = some fault := by
  cases result with
  | ok status =>
    cases other with
    | none => simp [closing]
    | some other => simp [closing]
  | error other' => cases other <;> simp [closing]

lemma closing_ne_asleep {fileName : String} {result : Except Fault Status}
    {other : Option Fault} {a : Artifact} : (closing fileName result other).1 ≠ .asleep a := by
  cases result <;> cases other <;> simp [closing]

lemma settled_eq_finished_iff {a : Artifact} {x : DispatchEnd × Session σ} {outcome : Outcome} :
    (settled a x).1 = .finished outcome ↔ ∃ status, x.1 = .ended status ∧
      a.removalFault? x.2.files = none ∧ outcome = ⟨a.fileName, status⟩ := by
  obtain ⟨e, t⟩ := x
  cases e with
  | asleep => simp [settled]
  | failed fault => simp [settled, concluded, closing_eq_finished_iff]
  | ended status => simp [settled, concluded, closing_eq_finished_iff]

lemma settled_eq_failed_iff {a : Artifact} {x : DispatchEnd × Session σ} {fault : Fault} :
    (settled a x).1 = .failed fault ↔ x.1 = .failed fault ∨
      (∃ status, x.1 = .ended status) ∧ a.removalFault? x.2.files = some fault := by
  obtain ⟨e, t⟩ := x
  cases e with
  | asleep => simp [settled]
  | failed other => simp [settled, concluded, closing_eq_failed_iff]
  | ended status => simp [settled, concluded, closing_eq_failed_iff]

lemma settled_eq_asleep_iff {a : Artifact} {x : DispatchEnd × Session σ} :
    (∃ b, (settled a x).1 = .asleep b) ↔ x.1 = .asleep := by
  obtain ⟨e, t⟩ := x
  cases e with
  | asleep => simp [settled]
  | failed fault => simp [settled, concluded, closing_ne_asleep]
  | ended status => simp [settled, concluded, closing_ne_asleep]

/-- When a run finished, none of its files is left. -/
lemma find_of_settled_finished {a : Artifact} (horderly : FileSystem.Orderly a.paths)
    {x : DispatchEnd × Session σ} {outcome : Outcome}
    (h : (settled a x).1 = .finished outcome) {p : String} (hp : p ∈ a.paths) :
    (settled a x).2.files.find p = .error .missing := by
  obtain ⟨status, hended, hnone, -⟩ := settled_eq_finished_iff.mp h
  obtain ⟨e, t⟩ := x
  have hobstacle := Artifact.removalFault?_eq_none_iff.mp hnone p hp
  cases hended
  simp only [settled, concluded, Session.reportAll_files, Session.swept_files]
  exact FileSystem.find_clearedAll horderly hp hobstacle

/-! ## The journal -/

lemma runFinished_mem_closing_iff {fileName : String} {result : Except Fault Status}
    {other : Option Fault} {outcome : Outcome} :
    .runFinished outcome.fileName outcome.status ∈ (closing fileName result other).2 ↔
      (closing fileName result other).1 = .finished outcome := by
  obtain ⟨name, status⟩ := outcome
  cases result with
  | ok status =>
    cases other with
    | none => simp [closing, eq_comm]
    | some fault => simp [closing]
  | error fault => cases other <;> simp [closing]

lemma cleanupFailedToo_mem_closing_iff {fileName : String} {result : Except Fault Status}
    {other : Option Fault} {fault : Fault} :
    .cleanupFailedToo fault ∈ (closing fileName result other).2 ↔
      (∃ first, result = .error first) ∧ other = some fault := by
  cases result with
  | ok status => cases other <;> simp [closing]
  | error first =>
    cases other with
    | none => simp [closing]
    | some other => simp [closing, eq_comm]

lemma eq_of_mem_reports {a : Artifact} {fs : FileSystem} {n : Notice}
    (h : n ∈ a.reports Artifact.cleanupReport fs) : ∃ p f, n = .notRemoved p (.file p f) := by
  obtain ⟨p, -, f, -, rfl⟩ := Artifact.exists_of_mem_reports h
  exact ⟨p, f, rfl⟩

/-- What the removal adds to the journal. -/
lemma settled_told (a : Artifact) (x : DispatchEnd × Session σ) :
    ∃ after, (settled a x).2.notices = after ++ x.2.notices ∧
      (∀ outcome, .runFinished outcome.fileName outcome.status ∈ after ↔
        (settled a x).1 = .finished outcome) ∧
      ∀ other, .cleanupFailedToo other ∈ after ↔
        (∃ fault, x.1 = .failed fault) ∧ a.removalFault? x.2.files = some other := by
  have hconcluded (result : Except Fault Status) (t : Session σ) :
      ∃ after, (concluded a result t).2.notices = after ++ t.notices ∧
        (∀ outcome, .runFinished outcome.fileName outcome.status ∈ after ↔
          (concluded a result t).1 = .finished outcome) ∧
        ∀ other, .cleanupFailedToo other ∈ after ↔
          (∃ fault, result = .error fault) ∧ a.removalFault? t.files = some other := by
    have hno (n : Notice) (hn : ∀ p f, n ≠ .notRemoved p f) :
        n ∉ (a.reports Artifact.cleanupReport t.files).reverse := by
      intro hmem
      obtain ⟨p, f, heq⟩ := eq_of_mem_reports (List.mem_reverse.mp hmem)
      exact hn _ _ heq
    refine ⟨(closing a.fileName result (a.removalFault? t.files)).2.reverse ++
      (a.reports Artifact.cleanupReport t.files).reverse, ?_, fun outcome => ?_, fun other => ?_⟩
    · simp [concluded]
    · rw [List.mem_append, List.mem_reverse, runFinished_mem_closing_iff, concluded]
      exact or_iff_left (hno _ (by simp))
    · rw [List.mem_append, List.mem_reverse, cleanupFailedToo_mem_closing_iff]
      exact or_iff_left (hno _ (by simp))
  obtain ⟨e, t⟩ := x
  cases e with
  | asleep => exact ⟨[], rfl, by simp [settled], by simp⟩
  | failed fault => simpa [settled] using hconcluded (.error fault) t
  | ended status => simpa [settled] using hconcluded (.ok status) t

/-- What an attempt adds to the journal, around what the host reports. -/
lemma attempt_told (r : Runner σ) (patience : ℕ) (a : Artifact) (script : String)
    (s : Session σ) :
    ∃ hosts before, (r.attempt patience a script s).2.notices = hosts ++ before ++ s.notices ∧
      (hosts = [] ∨ ∃ files, hosts = (r.handedOver patience a s files).notices.reverse) ∧
      ∀ n ∈ before, (∃ path bytes, n = .writing path bytes) ∨ ∃ name, n = .submitting name := by
  have hwriting (n : Notice) (hn : n ∈ [a.writing (envelope script)]) :
      (∃ path bytes, n = .writing path bytes) ∨ ∃ name, n = .submitting name :=
    .inl ⟨_, _, List.mem_singleton.mp hn⟩
  have hafterwards (files : FileSystem) :
      ∃ hosts before,
        (r.afterwards patience a script s files).notices = hosts ++ before ++ s.notices ∧
        (hosts = [] ∨ ∃ files, hosts = (r.handedOver patience a s files).notices.reverse) ∧
        ∀ n ∈ before,
          (∃ path bytes, n = .writing path bytes) ∨ ∃ name, n = .submitting name := by
    refine ⟨_, [.submitting (r.handle a s), a.writing (envelope script)], ?_, .inr ⟨files, rfl⟩, ?_⟩
    · simp [afterwards]
    · intro n hn
      rcases List.mem_cons.mp hn with rfl | hn
      · exact .inr ⟨_, rfl⟩
      · exact hwriting n hn
  have hbegun : (s : Session σ) → (files : FileSystem) →
      (s.begun a script files).notices = [] ++ [a.writing (envelope script)] ++ s.notices :=
    fun _ _ => rfl
  have hwaited (files : FileSystem) : ((r.wait patience s).2.begun a script files).notices =
      [] ++ [a.writing (envelope script)] ++ s.notices := by
    rw [hbegun, wait_notices]
  have h := r.attempted patience a script s
  generalize r.attempt patience a script s = x at h ⊢
  cases h with
  | unwritten hwrite => exact ⟨[], _, hbegun s _, .inl rfl, hwriting⟩
  | skipped hwrite hconnected => exact ⟨[], _, hbegun s _, .inl rfl, hwriting⟩
  | asleep hwrite hconnected hwait => exact ⟨[], _, hwaited _, .inl rfl, hwriting⟩
  | unready hwrite hconnected hwait => exact ⟨[], _, hwaited _, .inl rfl, hwriting⟩
  | executed hwrite hconnected hwait hresult => exact hafterwards _
  | refused hwrite hconnected hwait hresult => exact hafterwards _

/-! ## The verdict -/

lemma attempt_unasked {r : Runner σ} (patience : ℕ) (a : Artifact) (script : String)
    {s : Session σ} (hconnected : r.host.isConnected s.host = false) :
    (r.attempt patience a script s).2.deeds = s.deeds ∧
      (r.attempt patience a script s).2.host = s.host ∧
      (r.attempt patience a script s).2.probes = s.probes := by
  rw [attempt_eq]
  cases a.write (envelope script) s.files with
  | error fault => exact ⟨rfl, rfl, rfl⟩
  | ok files =>
    dsimp only
    rw [if_pos hconnected]
    exact ⟨rfl, rfl, rfl⟩

lemma run_eq_settled {r : Runner σ} {folder : String}
    (hoption : r.option? folderOption = some folder) (patience : ℕ) (script : String)
    (s : Session σ) : r.run patience script s =
      settled (s.artifact folder) (r.attempt patience (s.artifact folder) script s) := by
  rw [run_eq, folder_eq_ok_iff.mpr hoption]

lemma run_eq_unset {r : Runner σ} (hoption : r.option? folderOption = none) (patience : ℕ)
    (script : String) (s : Session σ) : r.run patience script s =
      (.failed (.optionUnset folderOption), s.amid s.files s.notices s.slots.takeName.2) := by
  rw [run_eq, folder_eq_error_iff.mpr ⟨hoption, rfl⟩]

lemma run_finished_iff {r : Runner σ} {patience : ℕ} {script : String} {s : Session σ}
    {outcome : Outcome} :
    (r.run patience script s).1 = .finished outcome ↔
      ∃ folder status t, r.option? folderOption = some folder ∧
        Attempted r patience (s.artifact folder) script s (.ended status, t) ∧
        (s.artifact folder).removalFault? t.files = none ∧
        outcome = ⟨s.slots.takeName.1, status⟩ := by
  constructor
  · intro h
    cases hoption : r.option? folderOption with
    | none => simp [run_eq_unset hoption] at h
    | some folder =>
      rw [run_eq_settled hoption, settled_eq_finished_iff] at h
      obtain ⟨status, hended, hnone, houtcome⟩ := h
      exact ⟨folder, status, _, rfl, attempted_of_fst hended, hnone, houtcome⟩
  · rintro ⟨folder, status, t, hoption, hattempted, hnone, houtcome⟩
    rw [run_eq_settled hoption, settled_eq_finished_iff, attempted_iff.mp hattempted]
    exact ⟨status, rfl, hnone, houtcome⟩

lemma run_failed_iff {r : Runner σ} {patience : ℕ} {script : String} {s : Session σ}
    {fault : Fault} :
    (r.run patience script s).1 = .failed fault ↔
      (r.option? folderOption = none ∧ fault = .optionUnset folderOption) ∨
      ∃ folder, r.option? folderOption = some folder ∧
        ((∃ t, Attempted r patience (s.artifact folder) script s (.failed fault, t)) ∨
          ∃ status t, Attempted r patience (s.artifact folder) script s (.ended status, t) ∧
            (s.artifact folder).removalFault? t.files = some fault) := by
  constructor
  · intro h
    cases hoption : r.option? folderOption with
    | none =>
      rw [run_eq_unset hoption] at h
      exact .inl ⟨rfl, (RunEnd.failed.inj h).symm⟩
    | some folder =>
      rw [run_eq_settled hoption, settled_eq_failed_iff] at h
      refine .inr ⟨folder, rfl, ?_⟩
      rcases h with hfailed | ⟨⟨status, hended⟩, hremoval⟩
      · exact .inl ⟨_, attempted_of_fst hfailed⟩
      · exact .inr ⟨status, _, attempted_of_fst hended, hremoval⟩
  · rintro (⟨hoption, rfl⟩ | ⟨folder, hoption, ⟨t, hattempted⟩ | ⟨status, t, hattempted, hremoval⟩⟩)
    · rw [run_eq_unset hoption]
    · rw [run_eq_settled hoption, settled_eq_failed_iff, attempted_iff.mp hattempted]
      exact .inl rfl
    · rw [run_eq_settled hoption, settled_eq_failed_iff, attempted_iff.mp hattempted]
      exact .inr ⟨⟨status, rfl⟩, hremoval⟩

lemma run_asleep_iff {r : Runner σ} {patience : ℕ} {script : String} {s : Session σ} :
    (∃ a, (r.run patience script s).1 = .asleep a) ↔
      ∃ folder t, r.option? folderOption = some folder ∧
        Attempted r patience (s.artifact folder) script s (.asleep, t) := by
  constructor
  · intro h
    cases hoption : r.option? folderOption with
    | none => simp [run_eq_unset hoption] at h
    | some folder =>
      rw [run_eq_settled hoption, settled_eq_asleep_iff] at h
      exact ⟨folder, _, rfl, attempted_of_fst h⟩
  · rintro ⟨folder, t, hoption, hattempted⟩
    rw [run_eq_settled hoption, settled_eq_asleep_iff, attempted_iff.mp hattempted]

lemma attempted_executed_iff {r : Runner σ} {patience : ℕ} {a : Artifact} {script : String}
    {s t : Session σ} :
    Attempted r patience a script s (.ended .executed, t) ↔
      ∃ files, s.files.write a.path (envelope script).toUTF8 = .ok files ∧
        r.host.isConnected s.host = true ∧ (r.wait patience s).1 = .idle ∧
        (r.handedOver patience a s files).result = .ok () ∧
        t = r.afterwards patience a script s files := by
  constructor
  · intro h
    cases h with
    | executed hwrite hconnected hwait hresult =>
      exact ⟨_, Artifact.write_eq_ok_iff.mp hwrite, hconnected, hwait, hresult, rfl⟩
  · rintro ⟨files, hwrite, hconnected, hwait, hresult, rfl⟩
    exact .executed (Artifact.write_eq_ok_iff.mpr hwrite) hconnected hwait hresult

lemma attempted_skipped_iff {r : Runner σ} {patience : ℕ} {a : Artifact} {script : String}
    {s t : Session σ} :
    Attempted r patience a script s (.ended .skipped, t) ↔
      ∃ files, s.files.write a.path (envelope script).toUTF8 = .ok files ∧
        r.host.isConnected s.host = false ∧ t = s.begun a script files := by
  constructor
  · intro h
    cases h with
    | skipped hwrite hconnected =>
      exact ⟨_, Artifact.write_eq_ok_iff.mp hwrite, hconnected, rfl⟩
  · rintro ⟨files, hwrite, hconnected, rfl⟩
    exact .skipped (Artifact.write_eq_ok_iff.mpr hwrite) hconnected

lemma attempted_asleep_iff {r : Runner σ} {patience : ℕ} {a : Artifact} {script : String}
    {s t : Session σ} :
    Attempted r patience a script s (.asleep, t) ↔
      ∃ files, s.files.write a.path (envelope script).toUTF8 = .ok files ∧
        r.host.isConnected s.host = true ∧ (r.wait patience s).1 = .asleep ∧
        t = (r.wait patience s).2.begun a script files := by
  constructor
  · intro h
    cases h with
    | asleep hwrite hconnected hwait =>
      exact ⟨_, Artifact.write_eq_ok_iff.mp hwrite, hconnected, hwait, rfl⟩
  · rintro ⟨files, hwrite, hconnected, hwait, rfl⟩
    exact .asleep (Artifact.write_eq_ok_iff.mpr hwrite) hconnected hwait

lemma run_executed_iff {r : Runner σ} {patience : ℕ} {script : String} {s : Session σ} :
    (r.run patience script s).1 = .finished ⟨s.slots.takeName.1, .executed⟩ ↔
      ∃ folder files, r.option? folderOption = some folder ∧
        s.files.write (s.artifact folder).path (envelope script).toUTF8 = .ok files ∧
        r.host.isConnected s.host = true ∧ (r.wait patience s).1 = .idle ∧
        (r.handedOver patience (s.artifact folder) s files).result = .ok () ∧
        ∀ p ∈ (s.artifact folder).paths,
          (r.handedOver patience (s.artifact folder) s files).files.obstacle? p = none := by
  rw [run_finished_iff]
  constructor
  · rintro ⟨folder, status, t, hoption, hattempted, hnone, houtcome⟩
    cases (Outcome.mk.inj houtcome).2
    obtain ⟨files, hwrite, hconnected, hwait, hresult, rfl⟩ :=
      attempted_executed_iff.mp hattempted
    rw [afterwards_files, Artifact.removalFault?_eq_none_iff] at hnone
    exact ⟨folder, files, hoption, hwrite, hconnected, hwait, hresult, hnone⟩
  · rintro ⟨folder, files, hoption, hwrite, hconnected, hwait, hresult, hclear⟩
    refine ⟨folder, .executed, r.afterwards patience (s.artifact folder) script s files, hoption,
      attempted_executed_iff.mpr ⟨files, hwrite, hconnected, hwait, hresult, rfl⟩, ?_, rfl⟩
    rw [afterwards_files, Artifact.removalFault?_eq_none_iff]
    exact hclear

lemma run_skipped_iff {r : Runner σ} {patience : ℕ} {script : String} {s : Session σ} :
    (r.run patience script s).1 = .finished ⟨s.slots.takeName.1, .skipped⟩ ↔
      ∃ folder files, r.option? folderOption = some folder ∧
        s.files.write (s.artifact folder).path (envelope script).toUTF8 = .ok files ∧
        r.host.isConnected s.host = false ∧
        ∀ p ∈ (s.artifact folder).paths, files.obstacle? p = none := by
  rw [run_finished_iff]
  constructor
  · rintro ⟨folder, status, t, hoption, hattempted, hnone, houtcome⟩
    cases (Outcome.mk.inj houtcome).2
    obtain ⟨files, hwrite, hconnected, rfl⟩ := attempted_skipped_iff.mp hattempted
    rw [begun_files, Artifact.removalFault?_eq_none_iff] at hnone
    exact ⟨folder, files, hoption, hwrite, hconnected, hnone⟩
  · rintro ⟨folder, files, hoption, hwrite, hconnected, hclear⟩
    refine ⟨folder, .skipped, s.begun (s.artifact folder) script files, hoption,
      attempted_skipped_iff.mpr ⟨files, hwrite, hconnected, rfl⟩, ?_, rfl⟩
    rw [begun_files, Artifact.removalFault?_eq_none_iff]
    exact hclear

lemma run_unasked {r : Runner σ} (patience : ℕ) (script : String) {s : Session σ}
    (hconnected : r.host.isConnected s.host = false) :
    (r.run patience script s).2.deeds = s.deeds ∧ (r.run patience script s).2.host = s.host ∧
      (r.run patience script s).2.probes = s.probes := by
  cases hoption : r.option? folderOption with
  | none =>
    rw [run_eq_unset hoption]
    exact ⟨rfl, rfl, rfl⟩
  | some folder =>
    obtain ⟨hdeeds, hhost, hprobes⟩ := settled_frame (s.artifact folder)
      (r.attempt patience (s.artifact folder) script s)
    rw [run_eq_settled hoption, hdeeds, hhost, hprobes]
    exact attempt_unasked patience _ script hconnected

lemma run_told (r : Runner σ) (patience : ℕ) (script : String) (s : Session σ) :
    ∃ after hosts before,
      (r.run patience script s).2.notices = after ++ hosts ++ before ++ s.notices ∧
      (hosts = [] ∨ ∃ folder files,
        hosts = (r.handedOver patience (s.artifact folder) s files).notices.reverse) ∧
      (∀ outcome, .runFinished outcome.fileName outcome.status ∈ after ++ before ↔
        (r.run patience script s).1 = .finished outcome) ∧
      ∀ other, .cleanupFailedToo other ∈ after ++ before ↔
        ∃ folder fault t, r.option? folderOption = some folder ∧
          Attempted r patience (s.artifact folder) script s (.failed fault, t) ∧
          (s.artifact folder).removalFault? t.files = some other := by
  cases hoption : r.option? folderOption with
  | none =>
    rw [run_eq_unset hoption]
    exact ⟨[], [], [], rfl, .inl rfl, by simp, by simp⟩
  | some folder =>
    obtain ⟨after, hafter, hfinished, htoo⟩ := settled_told (s.artifact folder)
      (r.attempt patience (s.artifact folder) script s)
    obtain ⟨hosts, before, hbefore, hhosts, hkinds⟩ :=
      r.attempt_told patience (s.artifact folder) script s
    have hno (n : Notice) (hwriting : ∀ path bytes, n ≠ .writing path bytes)
        (hsubmitting : ∀ name, n ≠ .submitting name) : n ∉ before := by
      intro hmem
      rcases hkinds n hmem with ⟨path, bytes, heq⟩ | ⟨name, heq⟩
      · exact hwriting path bytes heq
      · exact hsubmitting name heq
    rw [run_eq_settled hoption]
    refine ⟨after, hosts, before, ?_, ?_, fun outcome => ?_, fun other => ?_⟩
    · rw [hafter, hbefore]
      simp only [List.append_assoc]
    · rcases hhosts with hnil | ⟨files, heq⟩
      · exact .inl hnil
      · exact .inr ⟨folder, files, heq⟩
    · rw [List.mem_append, hfinished]
      exact or_iff_left (hno _ (by simp) (by simp))
    · rw [List.mem_append, or_iff_left (hno _ (by simp) (by simp)), htoo]
      constructor
      · rintro ⟨⟨fault, hfailed⟩, hremoval⟩
        exact ⟨folder, fault, _, rfl, attempted_of_fst hfailed, hremoval⟩
      · rintro ⟨folder', fault, t, hfolder, hattempted, hremoval⟩
        cases hfolder
        rw [attempted_iff.mp hattempted]
        exact ⟨⟨fault, rfl⟩, hremoval⟩

end Runner

end HostScript
