import HostScript.Proofs.Gate

/-!
# Launchers and their submissions

The flag of a gate belongs to the submission that was let in, and so does the law that one launcher works
at a time: it holds of the launchers whose submission is under way. A launcher whose submission was given
up works on behind a free flag. The law is kept over a whole history exactly when no submission is given up
while its launcher is at work.
-/
namespace HostScript

namespace Gate

/-- The submission of a client is given up while its launcher is at work. -/
def Strands (g : Gate) (e : GateEvent) : Prop :=
  ∃ client v, e = .abandon client ∧ g.visit? client = some v ∧ v.started = true

/-- No event of a history strands a launcher. -/
def Patient (g : Gate) : List GateEvent → Prop
  | [] => True
  | e :: events => ¬ g.Strands e ∧ (g.step e).Patient events

@[simp] lemma launchers_vacant (strays : ℕ) : launchers ⟨false, [], strays⟩ = strays := by
  simp [launchers]

@[simp] lemma launchers_taken (v : Visit) (strays : ℕ) : launchers ⟨true, [v], strays⟩ =
    (if v.started then 1 else 0) + strays := by
  simp [launchers, List.countP_cons]

/-- Only an event that strands a launcher adds to the strays. -/
lemma Coherent.strays_step_le {g : Gate} (h : g.Coherent) {e : GateEvent} (he : ¬ g.Strands e) :
    (g.step e).strays ≤ g.strays := by
  cases h with
  | vacant strays =>
    cases e with
    | attempt client path => exact Nat.le_refl strays
    | start client => exact Nat.le_refl strays
    | finish client => exact Nat.le_refl strays
    | abandon client => exact Nat.le_refl strays
    | exit => exact Nat.sub_le strays 1
  | taken v strays =>
    cases e with
    | attempt client path => exact Nat.le_refl strays
    | start client => exact Nat.le_of_eq (by rw [Gate.step, start_taken])
    | finish client =>
      rw [Gate.step, leave_taken]
      split <;> exact Nat.le_refl strays
    | abandon client =>
      rw [Gate.step, abandon_taken]
      split
      · next hclient =>
        have hstarted : v.started = false := by
          by_contra hstarted
          refine he ⟨client, v, rfl, ?_, by simpa using hstarted⟩
          rw [visit?_taken, if_pos hclient]
        simp [hstarted]
      · exact Nat.le_refl strays
    | exit => exact Nat.sub_le strays 1

/-- A history that strands no launcher leaves no strays. -/
lemma Patient.strays_after {g : Gate} (h : g.Coherent) {events : List GateEvent}
    (hevents : g.Patient events) : (g.after events).strays ≤ g.strays := by
  induction events generalizing g with
  | nil => exact Nat.le_refl g.strays
  | cons e events ih =>
    exact Nat.le_trans (ih (h.step e) hevents.2) (h.strays_step_le hevents.1)

lemma Patient.take {g : Gate} {events : List GateEvent} (h : g.Patient events) (n : ℕ) :
    g.Patient (events.take n) := by
  induction events generalizing g n with
  | nil => rwa [List.take_nil]
  | cons e events ih =>
    cases n with
    | zero => trivial
    | succ n => exact ⟨h.1, ih h.2 n⟩

end Gate

namespace Launcher

/-- One launcher at a time: no two of them are at work, and while one is, the host says so and turns every
submission away. -/
structure OneAtATime (l : Launcher) (g : Gate) : Prop where
  at_most_one : g.launchers ≤ 1
  busy : 0 < g.launchers → (l.host.probe g).1 = true
  turned_away : 0 < g.launchers → ∀ client path files,
    l.submit client path g files = ⟨g, files, [], .error (.host (.occupied path))⟩

/-- The law of one launcher at a time, for the launchers whose submission is under way. -/
structure Attended (l : Launcher) (g : Gate) : Prop where
  at_most_one : g.visits.countP (·.started) ≤ 1
  busy : 0 < g.visits.countP (·.started) → (l.host.probe g).1 = true
  turned_away : 0 < g.visits.countP (·.started) → ∀ client path files,
    l.submit client path g files = ⟨g, files, [], .error (.host (.occupied path))⟩

lemma attended_of_coherent (l : Launcher) {g : Gate} (h : g.Coherent) : l.Attended g := by
  cases h with
  | vacant strays => exact ⟨by simp, by simp, by simp⟩
  | taken v strays => exact ⟨List.countP_le_length, fun _ => rfl, fun _ _ _ _ => rfl⟩

/-- A gate keeps the law as long as no launcher was left alone, or if a single one was and the submission
that came after it has not started its own. -/
lemma oneAtATime_iff (l : Launcher) {g : Gate} (h : g.Coherent) : l.OneAtATime g ↔
    g.strays = 0 ∨ g.strays = 1 ∧ ∃ client, g.visits = [⟨client, false⟩] := by
  cases h with
  | vacant strays =>
    constructor
    · intro hlaw
      left
      by_contra hstrays
      have hpos : 0 < Gate.launchers ⟨false, [], strays⟩ := by
        rw [Gate.launchers_vacant]
        exact Nat.pos_of_ne_zero hstrays
      exact absurd (hlaw.busy hpos) (by simp [host])
    · rintro (hstrays | ⟨-, client, hvisits⟩)
      · cases hstrays
        exact ⟨by simp, by simp, by simp⟩
      · simp at hvisits
  | taken v strays =>
    obtain ⟨client, started⟩ := v
    have hlaw : l.OneAtATime ⟨true, [⟨client, started⟩], strays⟩ ↔
        (if started then 1 else 0) + strays ≤ 1 := by
      constructor
      · intro hlaw
        simpa using hlaw.at_most_one
      · intro hle
        exact ⟨by simpa using hle, fun _ => rfl, fun _ _ _ _ => rfl⟩
    rw [hlaw]
    cases started with
    | true =>
      -- The launcher of the submission is at work, so that none may have been left alone.
      have hbusy : ¬ ∃ other, [(⟨client, true⟩ : Visit)] = [⟨other, false⟩] := by simp
      simp only [if_true, hbusy, and_false, or_false]
      omega
    | false =>
      have hidle : ∃ other, [(⟨client, false⟩ : Visit)] = [⟨other, false⟩] := ⟨client, rfl⟩
      simp only [Bool.false_eq_true, if_false, hidle, and_true]
      omega

/-- A launcher that was left alone is at work while the host says that none is. -/
lemma not_oneAtATime_of_strands (l : Launcher) {g : Gate} (h : g.Coherent) {e : GateEvent}
    (he : g.Strands e) : ¬ l.OneAtATime (g.step e) := by
  obtain ⟨client, w, rfl, hvisit, hstarted⟩ := he
  cases h with
  | vacant strays => simp [Gate.visit?] at hvisit
  | taken v strays =>
    rw [Gate.visit?_taken] at hvisit
    split at hvisit
    · next hclient =>
      cases hvisit
      rw [Gate.step, Gate.abandon_taken, if_pos hclient, if_pos hstarted, l.oneAtATime_iff (.vacant _)]
      simp
    · contradiction

/-- The law is kept all the way through a history that begins without strays exactly when the history is
patient. -/
lemma oneAtATime_take_iff (l : Launcher) {g : Gate} (h : g.Coherent) (hstrays : g.strays = 0)
    (events : List GateEvent) :
    (∀ n, l.OneAtATime (g.after (events.take n))) ↔ g.Patient events := by
  constructor
  · intro hlaw
    induction events generalizing g with
    | nil => trivial
    | cons e events ih =>
      have he : ¬ g.Strands e := fun he => l.not_oneAtATime_of_strands h he (hlaw 1)
      have hnone := h.strays_step_le he
      exact ⟨he, ih (h.step e) (by omega) fun n => hlaw (n + 1)⟩
  · intro hpatient n
    have hnone := (hpatient.take n).strays_after h
    exact (l.oneAtATime_iff (Gate.coherent_after h _)).mpr (.inl (by omega))

/-- The launchers of the submissions under way exclude each other over every history of clients. All
launchers do so throughout a history if and only if it strands none of them. -/
theorem oneAtATime_throughout_iff (l : Launcher) (events : List GateEvent) :
    l.Attended (Gate.free.after events) ∧
    ((∀ n, l.OneAtATime (Gate.free.after (events.take n))) ↔ Gate.free.Patient events) :=
  ⟨l.attended_of_coherent (Gate.coherent_after (.vacant 0) events),
    l.oneAtATime_take_iff (.vacant 0) rfl events⟩

/-- A submission is given up while its launcher is at work. The host then says that nothing is being
executed, lets another submission in, and two launchers are at work. -/
theorem two_launchers_after_strand :
    let start : Starter := fun _ files => .ok ⟨files, .exited 0, .empty⟩
    let l : Launcher := ⟨start, "sh", ["-c", "sleep 1"], none, true, false, .empty⟩
    let g := Gate.free.after [.attempt 0 "..\\macro_01.cs", .start 0, .abandon 0]
    g.launchers = 1 ∧ (l.host.probe g).1 = false ∧
      (g.enter 1 "..\\macro_02.cs").toOption.isSome = true ∧
      (g.after [.attempt 1 "..\\macro_02.cs", .start 1]).launchers = 2 ∧ ¬ l.OneAtATime g := by
  intro start l g
  have hlaunchers : g.launchers = 1 := by decide +kernel
  have hfree : (l.host.probe g).1 = false := by decide +kernel
  refine ⟨hlaunchers, hfree, by decide +kernel, by decide +kernel, fun hlaw => ?_⟩
  have hbusy := hlaw.busy (by omega)
  rw [hfree] at hbusy
  contradiction

end Launcher

end HostScript
