import HostScript.Runner
import Mathlib.Data.List.Basic
import Mathlib.Logic.Relation
import Mathlib.Tactic.Lemma

/-!
# What a host goes through

The deeds of a session are written down by the runner. Whether they are true is a question to the host: every
probe among them has to be one that the host was asked and answered so, and every submission one that it was
given, each in the state in which the deeds before it had left the host. A host may also keep a record of its
own, which then has to tell the same.
-/
namespace HostScript

variable {σ : Type}

namespace Deed

/-- Whether a deed hands a script over. -/
def isSubmission : Deed → Bool
  | .submitted _ _ => true
  | _ => false

/-- Whether a deed involves the host. Passing time does not. -/
def isCall : Deed → Bool
  | .slept _ => false
  | _ => true

end Deed

namespace Host

/-- The second state is one into which probes alone take the host from the first. -/
def Asked (H : Host σ) : σ → σ → Prop :=
  Relation.ReflTransGen fun h h' => h' = (H.probe h).2

/-- A host goes from one state to another through deeds, which stand latest first: it was asked for each
answer among them and gave it, it was given each script among them, and nothing else was done to it. -/
inductive Lived (H : Host σ) (h : σ) : List Deed → σ → Prop
  | nil : Lived H h [] h
  | probed {deeds : List Deed} {h' : σ} (before : Lived H h deeds h') :
      Lived H h (.probed (H.probe h').1 :: deeds) (H.probe h').2
  | slept {deeds : List Deed} {h' : σ} (before : Lived H h deeds h') (time : Duration) :
      Lived H h (.slept time :: deeds) h'
  | submitted {deeds : List Deed} {h' : σ} (before : Lived H h deeds h') (name : String)
      (files : FileSystem) :
      Lived H h (.submitted name files :: deeds) (H.submit name h' files).host

namespace Lived

variable {H : Host σ} {h h' h'' : σ} {deeds later : List Deed}

theorem trans (first : H.Lived h deeds h') (second : H.Lived h' later h'') :
    H.Lived h (later ++ deeds) h'' := by
  induction second with
  | nil => exact first
  | probed before ih => exact ih.probed
  | slept before time ih => exact ih.slept time
  | submitted before name files ih => exact ih.submitted name files

/-- A host to which nothing was handed over has been probed at most. -/
theorem asked (lived : H.Lived h deeds h') (hnone : ∀ d ∈ deeds, d.isSubmission = false) :
    H.Asked h h' := by
  induction lived with
  | nil => exact .refl
  | probed before ih => exact (ih fun d hd => hnone d (List.mem_cons_of_mem _ hd)).tail rfl
  | slept before time ih => exact ih fun d hd => hnone d (List.mem_cons_of_mem _ hd)
  | submitted before name files ih =>
    have hcontra := hnone _ List.mem_cons_self
    contradiction

end Lived

/-- A host that keeps a record of the answers it has given and the scripts it was given, latest first. -/
def recording (H : Host σ) : Host (σ × List Deed) where
  isConnected x := H.isConnected x.1
  isDrawingActive x := H.isDrawingActive x.1
  probe x :=
    let answer := H.probe x.1
    (answer.1, (answer.2, .probed answer.1 :: x.2))
  submit name x files :=
    let done := H.submit name x.1 files
    ⟨(done.host, .submitted name files :: x.2), done.files, done.notices, done.result⟩

/-- The record that a host keeps tells what it went through. -/
theorem Lived.record {H : Host σ} {x y : σ × List Deed} {deeds : List Deed}
    (lived : H.recording.Lived x deeds y) : y.2 = deeds.filter Deed.isCall ++ x.2 := by
  induction lived with
  | nil => rfl
  | probed before ih => exact congrArg (List.cons _) ih
  | slept before time ih => exact ih
  | submitted before name files ih => exact congrArg (List.cons _) ih

end Host

end HostScript
