import HostScript.Proofs.Outcome
import HostScript.Task

/-!
# What the host sees over a history

Runs, tasks, submissions by name and waits follow each other in any order, and between them everything
around them may change. Each operation adds deeds in front of the earlier ones, which the host in use has gone
through, so what holds of the deeds of every operation holds of those of a whole history.
-/
namespace HostScript

variable {σ : Type}

structure Scene (σ : Type) where
  runner : Runner σ
  session : Session σ

inductive Operation (σ : Type) where
  | run (patience : ℕ) (text : String)
  | runScript (patience : ℕ) (script : Script)
  | runTask (patience : ℕ) (label : String) (script : Script)
  | perform (patience : ℕ) (task : Task)
  | dispatch (patience : ℕ) (name : String)
  | wait (patience : ℕ)
  /-- Whatever lies outside the runs changes: the host and its options, the policy, the files and the
  rotation of slots. -/
  | change (runner : Runner σ) (files : FileSystem) (host : σ) (slots : Slots) (probes : ℕ)

/-- Whether an operation only changes what lies around the runs. -/
def Operation.isChange : Operation σ → Bool
  | .change _ _ _ _ _ => true
  | _ => false

/-- The patience and the text of an operation that runs a script. -/
def Operation.script? : Operation σ → Option (ℕ × String)
  | .run patience text => some (patience, text)
  | .runScript patience script => some (patience, script.text)
  | .runTask patience _ script => some (patience, script.text)
  | .perform patience task => some (patience, task.script.text)
  | .dispatch _ _ => none
  | .wait _ => none
  | .change _ _ _ _ _ => none

namespace Scene

/-- The scene after an operation. A run that is left asleep is given up. -/
def step (x : Scene σ) : Operation σ → Scene σ
  | .run patience text =>
    { x with session := Runner.abandon (x.runner.run patience text x.session) }
  | .runScript patience script =>
    { x with session := Runner.abandon (x.runner.run patience script.text x.session) }
  | .runTask patience label script =>
    { x with session := Runner.abandon (x.runner.runTask patience label script.text x.session) }
  | .perform patience task =>
    { x with
      session := Runner.abandon (x.runner.runTask patience task.label task.script.text x.session) }
  | .dispatch patience name => { x with session := (x.runner.dispatch patience name x.session).2 }
  | .wait patience => { x with session := (x.runner.wait patience x.session).2 }
  | .change runner files host slots probes =>
    ⟨runner, { x.session with files, host, slots, probes }⟩

def after (x : Scene σ) (ops : List (Operation σ)) : Scene σ := ops.foldl step x

end Scene

/-! ## Deeds -/

/-- Right before each submission the host was probed and found idle. Deeds stand latest first. -/
def Deed.Cleared (deeds : List Deed) : Prop :=
  ∀ later name files earlier, deeds = later ++ .submitted name files :: earlier →
    earlier.head? = some (.probed false)

/-- The number of submissions among deeds. -/
def Deed.submissions (deeds : List Deed) : ℕ := deeds.countP isSubmission

namespace Deed

lemma cleared_of_none {deeds : List Deed} (h : ∀ d ∈ deeds, d.isSubmission = false) :
    Cleared deeds := by
  intro later name files earlier heq
  have hmem : .submitted name files ∈ deeds := by simp [heq]
  exact absurd (h _ hmem) (by simp [isSubmission])

lemma submissions_of_none {deeds : List Deed} (h : ∀ d ∈ deeds, d.isSubmission = false) :
    submissions deeds = 0 := by
  refine List.countP_eq_zero.mpr fun d hd => ?_
  rw [h d hd]
  simp

lemma submissions_cons {deeds : List Deed} (h : ∀ d ∈ deeds, d.isSubmission = false)
    (name : String) (files : FileSystem) : submissions (.submitted name files :: deeds) = 1 := by
  have hrest := submissions_of_none h
  rw [submissions] at hrest ⊢
  rw [List.countP_cons, hrest]
  rfl

lemma cleared_cons {deeds : List Deed} (h : ∀ d ∈ deeds, d.isSubmission = false)
    (hidle : deeds.head? = some (.probed false)) (name : String) (files : FileSystem) :
    Cleared (.submitted name files :: deeds) := by
  intro later name' files' earlier heq
  cases later with
  | nil =>
    rw [← (List.cons.inj heq).2]
    exact hidle
  | cons d later => exact cleared_of_none h later name' files' earlier (List.cons.inj heq).2

lemma Cleared.append {xs ys : List Deed} (hxs : Cleared xs) (hys : Cleared ys) :
    Cleared (xs ++ ys) := by
  intro later name files earlier heq
  rcases List.append_eq_append_iff.mp heq with ⟨front, hlater, hys'⟩ | ⟨back, hxs', hearlier⟩
  · exact hys front name files earlier hys'
  · cases back with
    | nil => exact hys [] name files earlier hearlier.symm
    | cons d back =>
      obtain ⟨rfl, rfl⟩ := List.cons.inj hearlier
      change (back ++ ys).head? = _
      rw [List.head?_append, hxs later name files back hxs']
      rfl

end Deed

/-- What leads from one session to another: the deeds that were added, as the host went through them. No
submission among them stands without its probe. -/
structure Session.Adds (H : Host σ) (s t : Session σ) (made : List Deed) : Prop where
  deeds : t.deeds = made ++ s.deeds
  lived : H.Lived s.host made t.host
  cleared : Deed.Cleared made

namespace Session.Adds

variable {H : Host σ} {s t u : Session σ} {made later : List Deed}

lemma refl (H : Host σ) (s : Session σ) : Adds H s s [] :=
  ⟨rfl, .nil, Deed.cleared_of_none (by simp)⟩

lemma trans (first : Adds H s t made) (second : Adds H t u later) : Adds H s u (later ++ made) := by
  refine ⟨?_, first.lived.trans second.lived, second.cleared.append first.cleared⟩
  rw [second.deeds, first.deeds, List.append_assoc]

/-- Only the deeds and the host of a session matter. -/
lemma congr (h : Adds H s t made) (hdeeds : u.deeds = t.deeds) (hhost : u.host = t.host) :
    Adds H s u made := by
  refine ⟨hdeeds.trans h.deeds, ?_, h.cleared⟩
  rw [hhost]
  exact h.lived

end Session.Adds

namespace Runner

/-- Everything is ready for the script of an artifact to be handed over: it is written, and the host is
connected and was waited for until it was idle. -/
structure Ready (r : Runner σ) (patience : ℕ) (a : Artifact) (text : String) (s : Session σ)
    (files : FileSystem) : Prop where
  write : s.files.write a.path (envelope text).toUTF8 = .ok files
  connected : r.host.isConnected s.host = true
  idle : (r.wait patience s).1 = .idle

/-- What the host sees of one run of a script, in the deeds that the run adds. -/
structure Seen (r : Runner σ) (patience : ℕ) (text : String) (s : Session σ)
    (made : List Deed) : Prop where
  cleared : Deed.Cleared made
  at_most_one : Deed.submissions made ≤ 1
  one_iff : Deed.submissions made = 1 ↔
    ∃ folder files, r.option? folderOption = some folder ∧
      s.files.write (s.artifact folder).path (envelope text).toUTF8 = .ok files ∧
      r.host.isConnected s.host = true ∧ (r.wait patience s).1 = .idle
  /-- The name is that of the slot of this run, and under it stands the script of this run. -/
  submitted : ∀ name files, .submitted name files ∈ made →
    name = (if r.host.isDrawingActive s.host then "..\\drawings\\..\\" ++ slotFileName s.slots.next
      else "..\\" ++ slotFileName s.slots.next) ∧
    ∃ folder, r.option? folderOption = some folder ∧
      files.read (Path.join folder (slotFileName s.slots.next)) = .ok (envelope text).toUTF8
  /-- A wait that is overdue, called off or left asleep is followed by no submission. -/
  unready : (r.wait patience s).1 ≠ .idle → Deed.submissions made = 0
  /-- There is none either where the host is not connected, and so none in a run that skipped the host. -/
  disconnected : r.host.isConnected s.host = false → Deed.submissions made = 0
  skipped : ∀ fileName, (r.run patience text s).1 = .finished ⟨fileName, .skipped⟩ →
    Deed.submissions made = 0
  /-- A run that is given up in its wait has not come to its submission. -/
  dropped : ∀ a, (r.run patience text s).1 = .asleep a → Deed.submissions made = 0

/-! ## One operation -/

lemma adds_wait (r : Runner σ) (patience : ℕ) (s : Session σ) :
    ∃ made, Session.Adds r.host s (r.wait patience s).2 made := by
  obtain ⟨made, hdeeds, hlived, hnone, -⟩ := (r.waited_wait patience s).deeds
  exact ⟨made, hdeeds, hlived, Deed.cleared_of_none hnone⟩

lemma submit_deeds (r : Runner σ) (name : String) (s : Session σ) :
    (r.submit name s).2.deeds = .submitted name s.files :: s.deeds := by
  rw [submit]
  dsimp only
  rw [Session.reportAll_eq]
  cases (r.host.submit name s.host s.files).result with
  | ok => rfl
  | error fault => rfl

/-- What handing over a script leaves is what the host makes of it. -/
lemma submit_left (r : Runner σ) (name : String) (s : Session σ) :
    (r.submit name s).2.host = (r.host.submit name s.host s.files).host ∧
      (r.submit name s).2.files = (r.host.submit name s.host s.files).files := by
  rw [submit]
  dsimp only
  rw [Session.reportAll_eq]
  cases (r.host.submit name s.host s.files).result with
  | ok => exact ⟨rfl, rfl⟩
  | error fault => exact ⟨rfl, rfl⟩

lemma adds_dispatch (r : Runner σ) (patience : ℕ) (name : String) (s : Session σ) :
    ∃ made, Session.Adds r.host s (r.dispatch patience name s).2 made := by
  rw [dispatch]
  by_cases hconnected : (!r.host.isConnected s.host) = true
  · rw [if_pos hconnected]
    exact ⟨[], .refl r.host s⟩
  · rw [if_neg hconnected]
    have hwait := r.adds_wait patience s
    have hwaited := (r.waited_wait patience s).deeds
    generalize r.wait patience s = x at hwait hwaited ⊢
    obtain ⟨e, t⟩ := x
    cases e with
    | asleep => exact hwait
    | failed fault => exact hwait
    | idle =>
      obtain ⟨made, hdeeds, hlived, hnone, hidle⟩ := hwaited
      have hhost := (r.submit_left (submissionName (r.host.isDrawingActive s.host) name) t).1
      refine ⟨_, (r.submit_deeds _ t).trans (congrArg (List.cons _) hdeeds), ?_,
        Deed.cleared_cons hnone (hidle rfl) _ t.files⟩
      dsimp only
      rw [hhost]
      exact hlived.submitted _ t.files

/-- What an attempt adds to the deeds. It hands its script over, right after a probe that found the host idle,
or it submits nothing, because not everything was ready for that. -/
inductive Handover (r : Runner σ) (patience : ℕ) (a : Artifact) (script : String) (s : Session σ) :
    List Deed → Prop
  | nothing {made : List Deed} (hnone : ∀ d ∈ made, d.isSubmission = false)
      (hno : ¬ ∃ files, Ready r patience a script s files) : Handover r patience a script s made
  | submission {files : FileSystem} {earlier : List Deed}
      (hnone : ∀ d ∈ earlier, d.isSubmission = false) (hidle : earlier.head? = some (.probed false))
      (hready : Ready r patience a script s files) :
      Handover r patience a script s (.submitted (r.handle a s) files :: earlier)

lemma attempt_made (r : Runner σ) (patience : ℕ) (a : Artifact) (script : String) (s : Session σ) :
    ∃ made, (r.attempt patience a script s).2.deeds = made ++ s.deeds ∧
      r.host.Lived s.host made (r.attempt patience a script s).2.host ∧
      Handover r patience a script s made := by
  obtain ⟨made, hdeeds, hlived, hnone, hidle⟩ := (r.waited_wait patience s).deeds
  have hhanded {files : FileSystem} (hready : Ready r patience a script s files) :
      ∃ made, (r.afterwards patience a script s files).deeds = made ++ s.deeds ∧
        r.host.Lived s.host made (r.afterwards patience a script s files).host ∧
        Handover r patience a script s made :=
    ⟨.submitted (r.handle a s) files :: made, congrArg (List.cons _) hdeeds, hlived.submitted _ _,
      .submission hnone (hidle hready.idle) hready⟩
  have h := r.attempted patience a script s
  generalize r.attempt patience a script s = x at h ⊢
  cases h with
  | unwritten hwrite =>
    obtain ⟨f, hwrite, -⟩ := Artifact.write_eq_error_iff.mp hwrite
    refine ⟨[], rfl, .nil, .nothing (by simp) ?_⟩
    rintro ⟨files, hready⟩
    cases hwrite.symm.trans hready.write
  | skipped hwrite hconnected =>
    refine ⟨[], rfl, .nil, .nothing (by simp) ?_⟩
    rintro ⟨files, hready⟩
    cases hconnected.symm.trans hready.connected
  | asleep hwrite hconnected hwait =>
    refine ⟨made, hdeeds, hlived, .nothing hnone ?_⟩
    rintro ⟨files, hready⟩
    cases hwait.symm.trans hready.idle
  | unready hwrite hconnected hwait =>
    refine ⟨made, hdeeds, hlived, .nothing hnone ?_⟩
    rintro ⟨files, hready⟩
    cases hwait.symm.trans hready.idle
  | executed hwrite hconnected hwait hresult =>
    exact hhanded ⟨Artifact.write_eq_ok_iff.mp hwrite, hconnected, hwait⟩
  | refused hwrite hconnected hwait hresult =>
    exact hhanded ⟨Artifact.write_eq_ok_iff.mp hwrite, hconnected, hwait⟩

lemma handle_artifact (r : Runner σ) (s : Session σ) (folder : String) :
    r.handle (s.artifact folder) s = if r.host.isDrawingActive s.host
      then "..\\drawings\\..\\" ++ slotFileName s.slots.next
      else "..\\" ++ slotFileName s.slots.next := by
  have hhandle : r.handle (s.artifact folder) s = _ :=
    submissionName_slot (r.host.isDrawingActive s.host) s.slots.next
  rw [hhandle]
  cases r.host.isDrawingActive s.host with
  | false => simp
  | true =>
    have hlead : "..\\drawings\\..\\" = "..\\drawings\\" ++ "..\\" := rfl
    rw [hlead]
    rfl

lemma seen_of_none {r : Runner σ} {patience : ℕ} {text : String} {s : Session σ}
    {made : List Deed} (hnone : ∀ d ∈ made, d.isSubmission = false)
    (hno : ¬ ∃ folder files, r.option? folderOption = some folder ∧
      Ready r patience (s.artifact folder) text s files) :
    Seen r patience text s made where
  cleared := Deed.cleared_of_none hnone
  at_most_one := by simp [Deed.submissions_of_none hnone]
  one_iff := by
    rw [Deed.submissions_of_none hnone]
    refine iff_of_false (by simp) ?_
    rintro ⟨folder, files, hoption, hwrite, hconnected, hwait⟩
    exact hno ⟨folder, files, hoption, hwrite, hconnected, hwait⟩
  submitted name files hmem := absurd (hnone _ hmem) (by simp [Deed.isSubmission])
  unready _ := Deed.submissions_of_none hnone
  disconnected _ := Deed.submissions_of_none hnone
  skipped _ _ := Deed.submissions_of_none hnone
  dropped _ _ := Deed.submissions_of_none hnone

/-- A run for which everything was ready neither skipped the host nor is it asleep. -/
lemma Ready.run_ne {r : Runner σ} {patience : ℕ} {text : String} {s : Session σ} {a : Artifact}
    {files : FileSystem} (hready : Ready r patience a text s files) :
    (∀ fileName, (r.run patience text s).1 ≠ .finished ⟨fileName, .skipped⟩) ∧
      ∀ b, (r.run patience text s).1 ≠ .asleep b := by
  constructor
  · intro fileName hend
    obtain ⟨folder, status, t, -, hattempted, -, houtcome⟩ := run_finished_iff.mp hend
    cases (Outcome.mk.inj houtcome).2
    obtain ⟨-, -, hno, -⟩ := attempted_skipped_iff.mp hattempted
    cases hno.symm.trans hready.connected
  · intro b hend
    obtain ⟨folder, t, -, hattempted⟩ := run_asleep_iff.mp ⟨b, hend⟩
    obtain ⟨-, -, -, hno, -⟩ := attempted_asleep_iff.mp hattempted
    cases hno.symm.trans hready.idle

lemma seen_of_handed {r : Runner σ} {patience : ℕ} {text : String} {s : Session σ}
    {folder : String} {files : FileSystem} {earlier : List Deed}
    (hoption : r.option? folderOption = some folder)
    (hready : Ready r patience (s.artifact folder) text s files)
    (hnone : ∀ d ∈ earlier, d.isSubmission = false)
    (hidle : earlier.head? = some (.probed false)) :
    Seen r patience text s (.submitted (r.handle (s.artifact folder) s) files :: earlier) where
  cleared := Deed.cleared_cons hnone hidle _ files
  at_most_one := Nat.le_of_eq (Deed.submissions_cons hnone _ files)
  one_iff := by
    rw [Deed.submissions_cons hnone]
    exact iff_of_true rfl ⟨folder, files, hoption, hready.write, hready.connected, hready.idle⟩
  submitted name files' hmem := by
    rcases List.mem_cons.mp hmem with heq | hrest
    · obtain ⟨rfl, rfl⟩ := Deed.submitted.inj heq
      have hread := FileSystem.read_of_write hready.write
      rw [Session.artifact_path] at hread
      exact ⟨r.handle_artifact s folder, folder, hoption, hread⟩
    · exact absurd (hnone _ hrest) (by simp [Deed.isSubmission])
  unready hwait := absurd hready.idle hwait
  disconnected hno := by cases hno.symm.trans hready.connected
  skipped fileName hend := absurd hend (hready.run_ne.1 fileName)
  dropped b hend := absurd hend (hready.run_ne.2 b)

/-- What the host sees of a run, whatever state it starts from. -/
theorem seen_run (r : Runner σ) (patience : ℕ) (text : String) (s : Session σ) :
    ∃ made, Session.Adds r.host s (r.run patience text s).2 made ∧ Seen r patience text s made := by
  cases hoption : r.option? folderOption with
  | none =>
    have hseen : Seen r patience text s [] := seen_of_none (by simp) (by simp [hoption])
    refine ⟨[], ?_, hseen⟩
    rw [run_eq_unset hoption]
    exact (Session.Adds.refl r.host s).congr rfl rfl
  | some folder =>
    obtain ⟨hdeeds, hhost, -⟩ := settled_frame (s.artifact folder)
      (r.attempt patience (s.artifact folder) text s)
    obtain ⟨made, hmade, hlived, hhandover⟩ := r.attempt_made patience (s.artifact folder) text s
    have hseen : Seen r patience text s made := by
      cases hhandover with
      | nothing hnone hno =>
        refine seen_of_none hnone ?_
        rintro ⟨folder', files, hoption', hready⟩
        cases hoption.symm.trans hoption'
        exact hno ⟨files, hready⟩
      | submission hnone hidle hready => exact seen_of_handed hoption hready hnone hidle
    have hadds : Session.Adds r.host s (r.attempt patience (s.artifact folder) text s).2 made :=
      ⟨hmade, hlived, hseen.cleared⟩
    refine ⟨made, ?_, hseen⟩
    rw [run_eq_settled hoption]
    exact hadds.congr hdeeds hhost

end Runner

/-! ## Histories -/

/-- Letting an artifact go and reporting are nothing to the host. -/
lemma Session.sweep_frame (s : Session σ) (w : Sweep) :
    (s.sweep w).deeds = s.deeds ∧ (s.sweep w).host = s.host := by
  rw [sweep, reportAll_eq]
  exact ⟨rfl, rfl⟩

lemma Runner.abandon_frame (x : RunEnd × Session σ) :
    (abandon x).deeds = x.2.deeds ∧ (abandon x).host = x.2.host := by
  obtain ⟨e, s⟩ := x
  cases e with
  | finished outcome => exact ⟨rfl, rfl⟩
  | failed fault => exact ⟨rfl, rfl⟩
  | asleep a => exact s.sweep_frame _

lemma Runner.abandon_runTask_frame (r : Runner σ) (patience : ℕ) (label script : String)
    (s : Session σ) :
    (abandon (r.runTask patience label script s)).deeds = (r.run patience script s).2.deeds ∧
      (abandon (r.runTask patience label script s)).host = (r.run patience script s).2.host := by
  obtain ⟨hdeeds, hhost⟩ := abandon_frame (r.runTask patience label script s)
  rw [hdeeds, hhost, runTask_eq, Session.reportAll_eq]
  exact ⟨rfl, rfl⟩

namespace Scene

/-- An operation that runs a script is to the host what that run is. -/
lemma step_frame {x : Scene σ} {op : Operation σ} {patience : ℕ} {text : String}
    (h : op.script? = some (patience, text)) :
    (x.step op).session.deeds = (x.runner.run patience text x.session).2.deeds ∧
      (x.step op).session.host = (x.runner.run patience text x.session).2.host := by
  cases op with
  | run patience' text' =>
    cases h
    exact Runner.abandon_frame _
  | runScript patience' script =>
    cases h
    exact Runner.abandon_frame _
  | runTask patience' label script =>
    cases h
    exact x.runner.abandon_runTask_frame _ _ _ _
  | perform patience' task =>
    cases h
    exact x.runner.abandon_runTask_frame _ _ _ _
  | dispatch patience' name => contradiction
  | wait patience' => contradiction
  | change runner files host slots probes => contradiction

/-- The deeds of an operation are those that the host in use goes through in it. While only what lies around
the runs changes, it goes through none. -/
def Lived (x : Scene σ) (op : Operation σ) (made : List Deed) : Prop :=
  if op.isChange then made = []
  else x.runner.host.Lived x.session.host made (x.step op).session.host

lemma isChange_of_script? {op : Operation σ} {patience : ℕ} {text : String}
    (h : op.script? = some (patience, text)) : op.isChange = false := by
  cases op with
  | change runner files host slots probes => contradiction
  | _ => rfl

/-- The deeds that one operation adds, and what the host sees of the script that it runs, if it runs one. -/
structure Shows (x : Scene σ) (op : Operation σ) (made : List Deed) : Prop where
  deeds : (x.step op).session.deeds = made ++ x.session.deeds
  lived : x.Lived op made
  cleared : Deed.Cleared made
  seen : ∀ patience text, op.script? = some (patience, text) →
    Runner.Seen x.runner patience text x.session made

/-- An operation that runs a script shows the host what that run does. -/
lemma shows_of_script? {x : Scene σ} {op : Operation σ} {patience : ℕ} {text : String}
    (h : op.script? = some (patience, text)) : ∃ made, x.Shows op made := by
  obtain ⟨made, hadds, hseen⟩ := x.runner.seen_run patience text x.session
  obtain ⟨hdeeds, hhost⟩ := step_frame (x := x) h
  have hstep := hadds.congr hdeeds hhost
  have hlived : x.Lived op made := by
    rw [Lived, isChange_of_script? h, if_neg (by simp)]
    exact hstep.lived
  refine ⟨made, hstep.deeds, hlived, hstep.cleared, fun patience' text' h' => ?_⟩
  cases h.symm.trans h'
  exact hseen

theorem shows_step (x : Scene σ) (op : Operation σ) : ∃ made, x.Shows op made := by
  cases op with
  | run patience text => exact shows_of_script? rfl
  | runScript patience script => exact shows_of_script? rfl
  | runTask patience label script => exact shows_of_script? rfl
  | perform patience task => exact shows_of_script? rfl
  | dispatch patience name =>
    obtain ⟨made, hadds⟩ := x.runner.adds_dispatch patience name x.session
    exact ⟨made, hadds.deeds, hadds.lived, hadds.cleared, fun _ _ h => by contradiction⟩
  | wait patience =>
    obtain ⟨made, hadds⟩ := x.runner.adds_wait patience x.session
    exact ⟨made, hadds.deeds, hadds.lived, hadds.cleared, fun _ _ h => by contradiction⟩
  | change runner files host slots probes =>
    exact ⟨[], rfl, rfl, Deed.cleared_of_none (by simp), fun _ _ h => by contradiction⟩

/-- What a whole history adds to the deeds is in order. -/
theorem cleared_after (x : Scene σ) (ops : List (Operation σ)) :
    ∃ made, (x.after ops).session.deeds = made ++ x.session.deeds ∧ Deed.Cleared made := by
  induction ops generalizing x with
  | nil => exact ⟨[], rfl, Deed.cleared_of_none (by simp)⟩
  | cons op ops ih =>
    obtain ⟨first, hfirst⟩ := x.shows_step op
    obtain ⟨later, hlater, hcleared⟩ := ih (x.step op)
    refine ⟨later ++ first, ?_, hcleared.append hfirst.cleared⟩
    rw [List.append_assoc, ← hfirst.deeds]
    exact hlater

/-- Over any history each submission follows right after a probe that found the host idle. Whatever came
before it, the deeds of the next operation are those that the host itself goes through, and the run of a
script shows the host that script alone, once and only once everything is ready for it. -/
theorem seen_after (start : Scene σ) (ops : List (Operation σ)) :
    (∃ made, (start.after ops).session.deeds = made ++ start.session.deeds ∧
      Deed.Cleared made) ∧
    ∀ op, ∃ made, (start.after ops).Shows op made :=
  ⟨start.cleared_after ops, (start.after ops).shows_step⟩

lemma step_runner (x : Scene σ) {op : Operation σ} (h : op.isChange = false) :
    (x.step op).runner = x.runner := by
  cases op with
  | change runner files host slots probes => contradiction
  | _ => rfl

/-- While nothing around the runs changes, a host that keeps a record has in it, after any history, the calls
among the deeds of the session. -/
theorem record_after {H : Host σ} {x : Scene (σ × List Deed)} (hhost : x.runner.host = H.recording)
    {ops : List (Operation (σ × List Deed))} (hops : ∀ op ∈ ops, op.isChange = false) :
    ∃ made, (x.after ops).session.deeds = made ++ x.session.deeds ∧
      (x.after ops).session.host.2 = made.filter Deed.isCall ++ x.session.host.2 := by
  induction ops generalizing x with
  | nil => exact ⟨[], rfl, rfl⟩
  | cons op ops ih =>
    have hop := hops op List.mem_cons_self
    have hnext : (x.step op).runner.host = H.recording := by rw [x.step_runner hop, hhost]
    obtain ⟨first, hfirst⟩ := x.shows_step op
    obtain ⟨later, hlater, hrecord⟩ := ih hnext fun op' h => hops op' (List.mem_cons_of_mem op h)
    have hlived := hfirst.lived
    rw [Lived, hop, if_neg (by simp), hhost] at hlived
    refine ⟨later ++ first, ?_, ?_⟩
    · rw [List.append_assoc, ← hfirst.deeds]
      exact hlater
    · rw [List.filter_append, List.append_assoc, ← hlived.record]
      exact hrecord

end Scene

end HostScript
