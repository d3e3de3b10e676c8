import HostScript.Launcher
import Mathlib.Data.List.Basic
import Mathlib.Data.Nat.Notation
import Mathlib.Tactic.Lemma

/-!
# One submission at a time

Whatever clients do at a gate, and in whichever order, it is free and empty or it is occupied by exactly one
submission. So the flag can be trusted: a client that finds it set is turned away and changes nothing, and
every way in which the one submission can end lets the next client in.
-/
namespace HostScript

namespace Gate

/-- The flag is set for one submission, or nothing is under way. -/
inductive Coherent : Gate → Prop
  | vacant (strays : ℕ) : Coherent ⟨false, [], strays⟩
  | taken (v : Visit) (strays : ℕ) : Coherent ⟨true, [v], strays⟩

section Taken

variable (client : ℕ) (v : Visit) (strays : ℕ)

lemma visit?_taken : visit? client ⟨true, [v], strays⟩ =
    if v.client = client then some v else none := by
  by_cases h : v.client = client <;> simp [visit?, h]

@[simp] lemma start_taken : start client ⟨true, [v], strays⟩ =
    ⟨true, [if v.client = client then { v with started := true } else v], strays⟩ := by
  rw [start, visit?_taken]
  by_cases h : v.client = client <;> simp [h]

/-- Only the client whose submission is under way can end it. -/
@[simp] lemma leave_taken : leave client ⟨true, [v], strays⟩ =
    if v.client = client then ⟨false, [], strays⟩ else ⟨true, [v], strays⟩ := by
  rw [leave, visit?_taken]
  by_cases h : v.client = client <;> simp [h]

/-- A launcher that was at work when its submission was given up is at work still. -/
@[simp] lemma abandon_taken : abandon client ⟨true, [v], strays⟩ =
    if v.client = client then ⟨false, [], strays + if v.started then 1 else 0⟩
    else ⟨true, [v], strays⟩ := by
  rw [abandon, visit?_taken]
  by_cases h : v.client = client <;> simp [h]

end Taken

/-- No event at a gate makes it incoherent. -/
theorem Coherent.step {g : Gate} (h : g.Coherent) (e : GateEvent) : (g.step e).Coherent := by
  cases h with
  | vacant strays =>
    cases e with
    | attempt client path => exact .taken ⟨client, false⟩ strays
    | start client => exact .vacant strays
    | finish client => exact .vacant strays
    | abandon client => exact .vacant strays
    | exit => exact .vacant (strays - 1)
  | taken v strays =>
    cases e with
    | attempt client path => exact .taken v strays
    | start client =>
      rw [Gate.step, start_taken]
      exact .taken _ strays
    | finish client =>
      rw [Gate.step, leave_taken]
      split
      · exact .vacant strays
      · exact .taken v strays
    | abandon client =>
      rw [Gate.step, abandon_taken]
      split
      · exact .vacant _
      · exact .taken v strays
    | exit => exact .taken v (strays - 1)

/-- A gate is coherent after any events whatever. -/
theorem coherent_after {g : Gate} (h : g.Coherent) (events : List GateEvent) :
    (g.after events).Coherent := by
  induction events generalizing g with
  | nil => exact h
  | cons e events ih => exact ih (h.step e)

end Gate

namespace Launcher

/-- However the launcher of the submission under way ends, and also if it cannot be started, what becomes of
the gate is that the submission is over. -/
lemma settle_host {g : Gate} (h : g.Coherent) (l : Launcher) (client : ℕ) (path : String)
    (files : FileSystem) (outcome : Except FileFault Completed) :
    (l.settle client path g files outcome).host = g.step (.finish client) := by
  cases outcome with
  | error f => rfl
  | ok done =>
    change (g.start client).leave client = g.leave client
    cases h with
    | vacant strays => rfl
    | taken v strays => by_cases hv : v.client = client <;> simp [hv]

/-- The submissions to a launcher exclude each other. -/
structure Exclusive (l : Launcher) (g : Gate) : Prop where
  at_most_one : g.visits.length ≤ 1
  busy_iff : (l.host.probe g).1 = true ↔ g.visits.length = 1
  /-- Who comes while another submission is under way is told so. Nothing is launched, no file changes, and
  the gate stays as it is. -/
  turned_away : g.visits.length = 1 → ∀ client path files,
    l.submit client path g files = ⟨g, files, [], .error (.host (.occupied path))⟩ ∧
      g.step (.attempt client path) = g ∧
      (HostFault.occupied path).message = "a macro is already running, cannot submit " ++ path ∧
      (Fault.host (.occupied path)).kind = .host
  /-- Who comes while none is under way is let in, and the launcher is started. Left to itself, the
  submission comes to its end. -/
  let_in : g.visits.length = 0 → ∀ client path,
    (g.step (.attempt client path)).visits = [⟨client, false⟩] ∧ ∀ files,
      l.submit client path g files = l.settle client path (g.step (.attempt client path)) files
        (l.start (l.call path) files) ∧
      (l.submit client path g files).host = g.after [.attempt client path, .finish client]
  /-- The submission is over when its launcher has ended, well or badly or without having started, and also
  when it is given up. -/
  ended : ∀ v ∈ g.visits, (g.step (.finish v.client)).visits = [] ∧
    (g.step (.abandon v.client)).visits = [] ∧ ∀ path files outcome,
      (l.settle v.client path g files outcome).host = g.step (.finish v.client)
  /-- No one else can end it. -/
  untouched : ∀ client, (∀ v ∈ g.visits, v.client ≠ client) →
    g.step (.finish client) = g ∧ g.step (.abandon client) = g

lemma exclusive_of_coherent (l : Launcher) {g : Gate} (h : g.Coherent) : l.Exclusive g where
  at_most_one := by cases h <;> simp
  busy_iff := by cases h <;> simp [host]
  turned_away hone client path files := by
    cases h with
    | vacant strays => contradiction
    | taken v strays => exact ⟨rfl, rfl, rfl, rfl⟩
  let_in hnone client path := by
    cases h with
    | vacant strays =>
      exact ⟨rfl, fun files => ⟨rfl, settle_host (.taken _ strays) l client path files _⟩⟩
    | taken v strays => contradiction
  ended v hv := by
    refine ⟨?_, ?_, fun path files outcome => settle_host h l v.client path files outcome⟩
    · cases h with
      | vacant strays => rfl
      | taken w strays =>
        obtain rfl := List.mem_singleton.mp hv
        simp [Gate.step]
    · cases h with
      | vacant strays => rfl
      | taken w strays =>
        obtain rfl := List.mem_singleton.mp hv
        simp [Gate.step]
  untouched client hother := by
    cases h with
    | vacant strays => exact ⟨rfl, rfl⟩
    | taken v strays =>
      have hv := hother v (List.mem_singleton_self v)
      simp [Gate.step, hv]

/-- Submissions exclude each other over every history of clients at the gate of a launcher, and the gate is
open again after every end of the one under way. -/
theorem exclusive_after (l : Launcher) (events : List GateEvent) :
    l.Exclusive (Gate.free.after events) ∧
    ∀ v ∈ (Gate.free.after events).visits, ∀ e, e = .finish v.client ∨ e = .abandon v.client →
      l.Exclusive ((Gate.free.after events).step e) ∧
        (l.host.probe ((Gate.free.after events).step e)).1 = false ∧
        ((Gate.free.after events).step e).visits.length = 0 := by
  have hcoherent : (Gate.free.after events).Coherent := Gate.coherent_after (.vacant 0) events
  have hexclusive := l.exclusive_of_coherent hcoherent
  refine ⟨hexclusive, fun v hv e he => ?_⟩
  have hnext := l.exclusive_of_coherent (hcoherent.step e)
  obtain ⟨hfinish, habandon, -⟩ := hexclusive.ended v hv
  have hempty : ((Gate.free.after events).step e).visits.length = 0 := by
    rcases he with rfl | rfl
    · rw [hfinish, List.length_nil]
    · rw [habandon, List.length_nil]
  refine ⟨hnext, ?_, hempty⟩
  rw [← Bool.not_eq_true, hnext.busy_iff, hempty]
  simp

end Launcher

end HostScript
