import HostScript.Proofs.Lived
import Mathlib.Data.Nat.Notation

/-!
# What a wait does

A wait only probes the host and passes time. It neither reads nor changes files, notices and slots, so a
run waits just as the runner would on its own.
-/
namespace HostScript

variable {σ : Type}

/-- A session with other files, notices and slots. -/
def Session.amid (s : Session σ) (files : FileSystem) (notices : List Notice) (slots : Slots) :
    Session σ := { s with files, notices, slots }

namespace Runner

lemma waitFrom_succ (r : Runner σ) (elapsed patience : ℕ) (s : Session σ) :
    r.waitFrom elapsed (patience + 1) s =
      if (r.probe s).1 = false then (.idle, (r.probe s).2)
      else match r.isOverdue elapsed with
        | some deadline => (.failed (.stillBusy deadline), (r.probe s).2)
        | none =>
          if r.isCalledOff (r.probe s).2 then (.failed .calledOff, (r.probe s).2)
          else if patience = 0 then (.asleep, (r.probe s).2)
          else r.waitFrom (elapsed + r.policy.interval.nanoseconds) patience
            (r.sleep (r.probe s).2) := by
  rw [waitFrom]
  cases hprobe : r.probe s with
  | mk busy t =>
    cases busy with
    | false => rfl
    | true => rfl

/-- A wait goes on in the same way whatever files, notices and slots there are, and keeps them. -/
lemma waitFrom_frame (r : Runner σ) (elapsed patience : ℕ) (s : Session σ) (files : FileSystem)
    (notices : List Notice) (slots : Slots) :
    r.waitFrom elapsed patience (s.amid files notices slots) =
      ((r.waitFrom elapsed patience s).1,
        (r.waitFrom elapsed patience s).2.amid files notices slots) := by
  induction patience generalizing elapsed s with
  | zero => rfl
  | succ patience ih =>
    have hprobe : r.probe (s.amid files notices slots) =
        ((r.probe s).1, (r.probe s).2.amid files notices slots) := rfl
    rw [waitFrom_succ, waitFrom_succ, hprobe]
    dsimp only
    by_cases hidle : (r.probe s).1 = false
    · rw [if_pos hidle, if_pos hidle]
    · rw [if_neg hidle, if_neg hidle]
      cases r.isOverdue elapsed with
      | some deadline => rfl
      | none =>
        have hamid : r.isCalledOff ((r.probe s).2.amid files notices slots) =
            r.isCalledOff (r.probe s).2 := rfl
        dsimp only
        rw [hamid]
        by_cases hoff : r.isCalledOff (r.probe s).2 = true
        · rw [if_pos hoff, if_pos hoff]
        · rw [if_neg hoff, if_neg hoff]
          by_cases hzero : patience = 0
          · rw [if_pos hzero, if_pos hzero]
          · rw [if_neg hzero, if_neg hzero]
            exact ih (elapsed + r.policy.interval.nanoseconds) (r.sleep (r.probe s).2)

/-- What a wait leaves behind, by the way it ended. -/
structure Waited (r : Runner σ) (s : Session σ) (e : WaitEnd) (t : Session σ) : Prop where
  /-- It only probes and sleeps, and it is idle right after a probe that was answered so. -/
  deeds : ∃ made, t.deeds = made ++ s.deeds ∧ r.host.Lived s.host made t.host ∧
    (∀ d ∈ made, d.isSubmission = false) ∧ (e = .idle → made.head? = some (.probed false))
  fault : ∀ f, e = .failed f → f.kind = .timeout ∨ f.kind = .cancelled

lemma Waited.asked {r : Runner σ} {s t : Session σ} {e : WaitEnd} (h : Waited r s e t) :
    r.host.Asked s.host t.host := by
  obtain ⟨made, -, hlived, hnone, -⟩ := h.deeds
  exact hlived.asked hnone

lemma Waited.after_round {r : Runner σ} {s t : Session σ} {e : WaitEnd}
    (h : Waited r (r.sleep (r.probe s).2) e t) : Waited r s e t := by
  obtain ⟨made, hdeeds, hlived, hnone, hidle⟩ := h.deeds
  have hround : r.host.Lived s.host [.slept r.policy.interval, .probed (r.probe s).1]
      (r.sleep (r.probe s).2).host := (Host.Lived.nil.probed).slept r.policy.interval
  refine ⟨⟨made ++ [.slept r.policy.interval, .probed (r.probe s).1], ?_, hround.trans hlived, ?_, ?_⟩,
    h.fault⟩
  · rw [hdeeds, List.append_assoc]
    rfl
  · intro d hd
    rcases List.mem_append.mp hd with hd | hd
    · exact hnone d hd
    · have hrest : ∀ d ∈ [Deed.slept r.policy.interval, .probed (r.probe s).1],
          d.isSubmission = false := by simp [Deed.isSubmission]
      exact hrest d hd
  · intro he
    rw [List.head?_append, hidle he]
    rfl

lemma Waited.of_probe {r : Runner σ} {s : Session σ} {e : WaitEnd}
    (hidle : e = .idle → (r.probe s).1 = false)
    (hfault : ∀ f, e = .failed f → f.kind = .timeout ∨ f.kind = .cancelled) :
    Waited r s e (r.probe s).2 := by
  refine ⟨⟨[.probed (r.probe s).1], rfl, Host.Lived.nil.probed, by simp [Deed.isSubmission], ?_⟩,
    hfault⟩
  intro he
  rw [hidle he]
  rfl

theorem waited_waitFrom (r : Runner σ) (elapsed patience : ℕ) (s : Session σ) :
    Waited r s (r.waitFrom elapsed patience s).1 (r.waitFrom elapsed patience s).2 := by
  induction patience generalizing elapsed s with
  | zero => exact ⟨⟨[], rfl, .nil, by simp, by simp [waitFrom]⟩, by simp [waitFrom]⟩
  | succ patience ih =>
    rw [waitFrom_succ]
    by_cases hidle : (r.probe s).1 = false
    · rw [if_pos hidle]
      exact .of_probe (fun _ => hidle) (by simp)
    · rw [if_neg hidle]
      cases r.isOverdue elapsed with
      | some deadline => exact .of_probe (by simp) (by simp [Fault.kind])
      | none =>
        dsimp only
        by_cases hoff : r.isCalledOff (r.probe s).2 = true
        · rw [if_pos hoff]
          exact .of_probe (by simp) (by simp [Fault.kind])
        · rw [if_neg hoff]
          by_cases hzero : patience = 0
          · rw [if_pos hzero]
            exact .of_probe (by simp) (by simp)
          · rw [if_neg hzero]
            exact (ih _ _).after_round

lemma wait_frame (r : Runner σ) (patience : ℕ) (s : Session σ) (files : FileSystem)
    (notices : List Notice) (slots : Slots) :
    r.wait patience (s.amid files notices slots) =
      ((r.wait patience s).1, (r.wait patience s).2.amid files notices slots) :=
  r.waitFrom_frame 0 patience s files notices slots

theorem waited_wait (r : Runner σ) (patience : ℕ) (s : Session σ) :
    Waited r s (r.wait patience s).1 (r.wait patience s).2 :=
  r.waited_waitFrom 0 patience s

lemma wait_notices (r : Runner σ) (patience : ℕ) (s : Session σ) :
    (r.wait patience s).2.notices = s.notices :=
  congrArg (·.2.notices) (r.wait_frame patience s s.files s.notices s.slots)

lemma wait_slots (r : Runner σ) (patience : ℕ) (s : Session σ) :
    (r.wait patience s).2.slots = s.slots :=
  congrArg (·.2.slots) (r.wait_frame patience s s.files s.notices s.slots)

end Runner

end HostScript
