import HostScript.Proofs.Wait
import Mathlib.Algebra.Order.Floor.Div
import Mathlib.Data.ENat.Lattice

/-!
# How long a wait takes

A wait goes on in rounds, counted from one. Each of them begins with a probe, and each that does not end the
wait is followed by one interval. So the round in which a wait ends is the first one that has a reason to: the
host is idle, the deadline is reached or the wait is called off. What the host answers may be any sequence,
since a probe may change its state; a wait that has no such round is asleep whatever the patience is.
-/
namespace HostScript

variable {σ : Type}

/-! ## First rounds -/

/-- The first round that has a property, counted from one. It is infinite if there is none. -/
noncomputable def firstRound (p : ℕ → Prop) : ℕ∞ := ⨅ (k : ℕ) (_ : 1 ≤ k ∧ p k), (k : ℕ∞)

section FirstRound

variable {p q : ℕ → Prop}

lemma le_firstRound_iff {x : ℕ∞} : x ≤ firstRound p ↔ ∀ k : ℕ, 1 ≤ k → p k → x ≤ k := by
  simp only [firstRound, le_iInf_iff, and_imp]

lemma firstRound_le {k : ℕ} (hk : 1 ≤ k) (h : p k) : firstRound p ≤ k :=
  le_firstRound_iff.mp le_rfl k hk h

lemma lt_firstRound_iff {n : ℕ} : (n : ℕ∞) < firstRound p ↔ ∀ k, 1 ≤ k → k ≤ n → ¬ p k := by
  rw [← not_le, ← not_iff_not, not_not]
  constructor
  · intro h hnone
    have hlt : ((n + 1 : ℕ) : ℕ∞) ≤ firstRound p := by
      refine le_firstRound_iff.mpr fun k hk hpk => ?_
      have hnk : n < k := by
        by_contra hle
        exact hnone k hk (by omega) hpk
      exact_mod_cast hnk
    have hcontra : ((n + 1 : ℕ) : ℕ∞) ≤ n := hlt.trans h
    have hnat : n + 1 ≤ n := by exact_mod_cast hcontra
    omega
  · intro h
    push Not at h
    obtain ⟨k, hk, hkn, hpk⟩ := h
    exact (firstRound_le hk hpk).trans (by exact_mod_cast hkn)

lemma firstRound_eq_coe_iff {m : ℕ} :
    firstRound p = m ↔ 1 ≤ m ∧ p m ∧ ∀ k, 1 ≤ k → k < m → ¬ p k := by
  constructor
  · intro h
    have hnone (n : ℕ) (hn : n < m) : ∀ k, 1 ≤ k → k ≤ n → ¬ p k := by
      rw [← lt_firstRound_iff, h]
      exact_mod_cast hn
    have hsome : ¬ ∀ k, 1 ≤ k → k ≤ m → ¬ p k := by
      rw [← lt_firstRound_iff, h]
      exact lt_irrefl _
    push Not at hsome
    obtain ⟨k, hk, hkm, hpk⟩ := hsome
    have heq : k = m := by
      by_contra hne
      exact hnone k (by omega) k hk le_rfl hpk
    subst heq
    exact ⟨hk, hpk, fun j hj hlt => hnone j hlt j hj le_rfl⟩
  · rintro ⟨hm, hpm, hnone⟩
    refine le_antisymm (firstRound_le hm hpm) (le_firstRound_iff.mpr fun k hk hpk => ?_)
    have hmk : m ≤ k := by
      by_contra hlt
      exact hnone k hk (by omega) hpk
    exact_mod_cast hmk

/-- Where no earlier round has the property, a round is the first one exactly when it has it. -/
lemma firstRound_eq_iff_of_le {m : ℕ} (hm : 1 ≤ m) (h : (m : ℕ∞) ≤ firstRound p) :
    firstRound p = m ↔ p m := by
  constructor
  · intro heq
    exact (firstRound_eq_coe_iff.mp heq).2.1
  · intro hp
    exact le_antisymm (firstRound_le hm hp) h

lemma firstRound_or (p q : ℕ → Prop) :
    firstRound (fun k => p k ∨ q k) = min (firstRound p) (firstRound q) := by
  refine eq_of_forall_le_iff fun x => ?_
  rw [le_min_iff, le_firstRound_iff, le_firstRound_iff, le_firstRound_iff]
  constructor
  · intro h
    exact ⟨fun k hk hp => h k hk (.inl hp), fun k hk hq => h k hk (.inr hq)⟩
  · rintro ⟨hp, hq⟩ k hk (h | h)
    · exact hp k hk h
    · exact hq k hk h

end FirstRound

/-! ## Rounds -/

/-- The host after so many probes. -/
def Host.probed (H : Host σ) : ℕ → σ → σ
  | 0, h => h
  | n + 1, h => H.probed n (H.probe h).2

/-- What the host answers to the probe of a round. -/
def Host.answer (H : Host σ) (h : σ) (round : ℕ) : Bool := (H.probe (H.probed (round - 1) h)).1

namespace Deed

def probings (deeds : List Deed) : ℕ :=
  deeds.countP fun
    | .probed _ => true
    | _ => false

/-- The nanoseconds that a deed lets pass. -/
def nanoseconds : Deed → ℕ
  | .slept time => time.nanoseconds
  | _ => 0

/-- The nanoseconds that pass in deeds. -/
def elapsed (deeds : List Deed) : ℕ := (deeds.map nanoseconds).sum

end Deed

namespace Runner

/-- The first round whose probe finds the host idle. -/
noncomputable def idleRound (r : Runner σ) (s : Session σ) : ℕ∞ :=
  firstRound fun k => r.host.answer s.host k = false

/-- The first round that the intervals before it bring to the deadline. -/
noncomputable def overdueRound (r : Runner σ) : ℕ∞ :=
  firstRound fun k => ∃ deadline, r.policy.deadline = some deadline ∧
    deadline.nanoseconds ≤ (k - 1) * r.policy.interval.nanoseconds

/-- The first round whose probe finds the wait called off. -/
noncomputable def calledOffRound (r : Runner σ) (s : Session σ) : ℕ∞ :=
  firstRound fun k => ∃ n, r.policy.calledOffAt = some n ∧ n ≤ s.probes + k

/-- The first round with any reason to end the wait. -/
noncomputable def lastRound (r : Runner σ) (s : Session σ) : ℕ∞ :=
  min (r.idleRound s) (min r.overdueRound (r.calledOffRound s))

/-- How a wait ends in its last round: an idle host goes before the deadline, and the deadline before the
calling off. -/
noncomputable def lastWord (r : Runner σ) (s : Session σ) : WaitEnd :=
  if r.idleRound s = r.lastRound s then .idle
  else match r.policy.deadline with
    | some deadline =>
      if r.overdueRound = r.lastRound s then .failed (.stillBusy deadline) else .failed .calledOff
    | none => .failed .calledOff

/-- So many probes were made since, and the intervals between them have passed. -/
def Passed (r : Runner σ) (s : Session σ) (probings : ℕ) (t : Session σ) : Prop :=
  ∃ made, t.deeds = made ++ s.deeds ∧ Deed.probings made = probings ∧
    Deed.elapsed made = (probings - 1) * r.policy.interval.nanoseconds

/-- The session after so many full rounds. -/
def rounds (r : Runner σ) : ℕ → Session σ → Session σ
  | 0, s => s
  | n + 1, s => r.rounds n (r.sleep (r.probe s).2)

/-- A wait that has lasted for some time has a reason to end with its next probe. -/
def Ends (r : Runner σ) (elapsed : ℕ) (s : Session σ) : Prop :=
  (r.probe s).1 = false ∨ (∃ deadline, r.policy.deadline = some deadline ∧
    deadline.nanoseconds ≤ elapsed) ∨ ∃ n, r.policy.calledOffAt = some n ∧ n ≤ s.probes + 1

variable {r : Runner σ} {s : Session σ}

lemma host_rounds (r : Runner σ) (n : ℕ) (s : Session σ) :
    (r.rounds n s).host = r.host.probed n s.host := by
  induction n generalizing s with
  | zero => rfl
  | succ n ih => exact ih _

lemma probes_rounds (r : Runner σ) (n : ℕ) (s : Session σ) :
    (r.rounds n s).probes = s.probes + n := by
  induction n generalizing s with
  | zero => rfl
  | succ n ih =>
    have hstep : (r.sleep (r.probe s).2).probes = s.probes + 1 := rfl
    rw [rounds, ih, hstep]
    omega

/-- Every full round is one probe and one interval. -/
lemma deeds_rounds (r : Runner σ) (n : ℕ) (s : Session σ) :
    ∃ made, (r.rounds n s).deeds = made ++ s.deeds ∧ Deed.probings made = n ∧
      Deed.elapsed made = n * r.policy.interval.nanoseconds := by
  induction n generalizing s with
  | zero => exact ⟨[], rfl, rfl, by simp [Deed.elapsed]⟩
  | succ n ih =>
    obtain ⟨made, hdeeds, hprobings, helapsed⟩ := ih (r.sleep (r.probe s).2)
    refine ⟨made ++ [.slept r.policy.interval, .probed (r.probe s).1], ?_, ?_, ?_⟩
    · rw [rounds, hdeeds, List.append_assoc]
      rfl
    · rw [Deed.probings, List.countP_append, ← Deed.probings, hprobings]
      rfl
    · rw [Deed.elapsed, List.map_append, List.sum_append, ← Deed.elapsed, helapsed, Nat.succ_mul]
      rfl

/-- A probe after full rounds is the first deed of the next one. -/
lemma passed_probe (r : Runner σ) (n : ℕ) (s : Session σ) :
    r.Passed s (n + 1) (r.probe (r.rounds n s)).2 := by
  obtain ⟨made, hdeeds, hprobings, helapsed⟩ := r.deeds_rounds n s
  refine ⟨.probed (r.probe (r.rounds n s)).1 :: made, congrArg (List.cons _) hdeeds, ?_, ?_⟩
  · rw [Deed.probings, List.countP_cons, ← Deed.probings, hprobings]
    rfl
  · rw [Deed.elapsed, List.map_cons, List.sum_cons, ← Deed.elapsed, helapsed]
    simp [Deed.nanoseconds]

lemma answer_rounds (r : Runner σ) (n : ℕ) (s : Session σ) :
    (r.probe (r.rounds n s)).1 = r.host.answer s.host (n + 1) := by
  have hprobe : (r.probe (r.rounds n s)).1 = (r.host.probe (r.rounds n s).host).1 := rfl
  rw [hprobe, host_rounds, Host.answer, Nat.add_sub_cancel]

/-- The reasons to end a wait in a round, in the words of the host and the policy. -/
lemma ends_rounds_iff (r : Runner σ) (n : ℕ) (s : Session σ) :
    r.Ends (n * r.policy.interval.nanoseconds) (r.rounds n s) ↔
      (r.host.answer s.host (n + 1) = false ∨
        (∃ deadline, r.policy.deadline = some deadline ∧
          deadline.nanoseconds ≤ (n + 1 - 1) * r.policy.interval.nanoseconds) ∨
        ∃ k, r.policy.calledOffAt = some k ∧ k ≤ s.probes + (n + 1)) := by
  rw [Ends, answer_rounds, probes_rounds, Nat.add_sub_cancel, Nat.add_assoc]

lemma lastRound_eq (r : Runner σ) (s : Session σ) : r.lastRound s = firstRound fun k =>
    r.host.answer s.host k = false ∨
      (∃ deadline, r.policy.deadline = some deadline ∧
        deadline.nanoseconds ≤ (k - 1) * r.policy.interval.nanoseconds) ∨
      ∃ n, r.policy.calledOffAt = some n ∧ n ≤ s.probes + k := by
  rw [lastRound, idleRound, overdueRound, calledOffRound, firstRound_or, firstRound_or]

lemma isOverdue_of_none (h : r.policy.deadline = none) (elapsed : ℕ) :
    r.isOverdue elapsed = none := by
  rw [isOverdue, h, Option.filter_none]

lemma isOverdue_of_some {deadline : Duration} (h : r.policy.deadline = some deadline)
    (elapsed : ℕ) : r.isOverdue elapsed =
      if deadline.nanoseconds ≤ elapsed then some deadline else none := by
  rw [isOverdue, h, Option.filter_some]
  simp

lemma isOverdue_eq_none_iff {elapsed : ℕ} : r.isOverdue elapsed = none ↔
    ¬ ∃ deadline, r.policy.deadline = some deadline ∧ deadline.nanoseconds ≤ elapsed := by
  cases hdeadline : r.policy.deadline with
  | none => simp [isOverdue_of_none hdeadline]
  | some deadline => simp [isOverdue_of_some hdeadline]

lemma isCalledOff_probe_iff : r.isCalledOff (r.probe s).2 = true ↔
    ∃ n, r.policy.calledOffAt = some n ∧ n ≤ s.probes + 1 := by
  have hprobes : (r.probe s).2.probes = s.probes + 1 := rfl
  cases hoff : r.policy.calledOffAt with
  | none => simp [isCalledOff, hoff]
  | some n => simp [isCalledOff, hoff, hprobes]

/-- A round that has no reason to end the wait passes on to the next. -/
lemma waitFrom_of_not_ends {elapsed : ℕ} (h : ¬ r.Ends elapsed s) (patience : ℕ) :
    r.waitFrom elapsed (patience + 1) s =
      if patience = 0 then (.asleep, (r.probe s).2)
      else r.waitFrom (elapsed + r.policy.interval.nanoseconds) patience
        (r.sleep (r.probe s).2) := by
  rw [Ends] at h
  push Not at h
  obtain ⟨hbusy, htime, hoff⟩ := h
  have hnone : r.isOverdue elapsed = none := by
    rw [isOverdue_eq_none_iff]
    rintro ⟨deadline, hdeadline, hle⟩
    exact absurd (htime deadline hdeadline) (by omega)
  have hno : ¬ r.isCalledOff (r.probe s).2 = true := by
    rw [isCalledOff_probe_iff]
    rintro ⟨n, hn, hle⟩
    exact absurd (hoff n hn) (by omega)
  rw [waitFrom_succ, if_neg hbusy, hnone]
  dsimp only
  rw [if_neg hno]

/-- Full rounds without a reason to end only bring a wait as far as they go. -/
lemma waitFrom_rounds {elapsed n : ℕ}
    (h : ∀ j < n, ¬ r.Ends (elapsed + j * r.policy.interval.nanoseconds) (r.rounds j s))
    (patience : ℕ) : r.waitFrom elapsed (n + (patience + 1)) s =
      r.waitFrom (elapsed + n * r.policy.interval.nanoseconds) (patience + 1) (r.rounds n s) := by
  induction n generalizing elapsed s with
  | zero => simp [rounds]
  | succ n ih =>
    have hfirst : ¬ r.Ends elapsed s := by simpa [rounds] using h 0 (by omega)
    have hrest : ∀ j < n, ¬ r.Ends
        (elapsed + r.policy.interval.nanoseconds + j * r.policy.interval.nanoseconds)
        (r.rounds j (r.sleep (r.probe s).2)) := by
      intro j hj
      have hnext := h (j + 1) (by omega)
      rw [Nat.succ_mul] at hnext
      rw [Nat.add_assoc, Nat.add_comm r.policy.interval.nanoseconds]
      exact hnext
    have htime : elapsed + r.policy.interval.nanoseconds + n * r.policy.interval.nanoseconds =
        elapsed + (n + 1) * r.policy.interval.nanoseconds := by
      rw [Nat.succ_mul]
      omega
    have hpatience : n + 1 + (patience + 1) = n + (patience + 1) + 1 := by omega
    rw [hpatience, waitFrom_of_not_ends hfirst, if_neg (by omega), ih hrest, htime]
    rfl

/-- What a wait comes to in a round that ends it. -/
lemma waitFrom_of_ends {elapsed : ℕ} (h : r.Ends elapsed s) (patience : ℕ) :
    r.waitFrom elapsed (patience + 1) s =
      (if (r.probe s).1 = false then .idle
        else match r.isOverdue elapsed with
          | some deadline => .failed (.stillBusy deadline)
          | none => .failed .calledOff, (r.probe s).2) := by
  rw [waitFrom_succ]
  by_cases hidle : (r.probe s).1 = false
  · rw [if_pos hidle, if_pos hidle]
  · rw [if_neg hidle, if_neg hidle]
    cases hoverdue : r.isOverdue elapsed with
    | some deadline => rfl
    | none =>
      have hoff : r.isCalledOff (r.probe s).2 = true := by
        rw [isCalledOff_probe_iff]
        exact (h.resolve_left hidle).resolve_left (isOverdue_eq_none_iff.mp hoverdue)
      dsimp only
      rw [if_pos hoff]

/-- The last word of a wait is that of its last round. -/
lemma lastWord_eq {n : ℕ} (h : r.lastRound s = (n + 1 : ℕ)) : r.lastWord s =
    if (r.probe (r.rounds n s)).1 = false then .idle
    else match r.isOverdue (n * r.policy.interval.nanoseconds) with
      | some deadline => .failed (.stillBusy deadline)
      | none => .failed .calledOff := by
  have hidle : r.idleRound s = (n + 1 : ℕ) ↔ (r.probe (r.rounds n s)).1 = false := by
    rw [answer_rounds]
    refine firstRound_eq_iff_of_le (by omega) ?_
    rw [← h]
    exact min_le_left _ _
  have hoverdue : r.overdueRound = (n + 1 : ℕ) ↔ ∃ deadline, r.policy.deadline = some deadline ∧
      deadline.nanoseconds ≤ n * r.policy.interval.nanoseconds := by
    refine firstRound_eq_iff_of_le (by omega) ?_
    rw [← h]
    exact (min_le_right _ _).trans (min_le_left _ _)
  simp only [lastWord, h, hidle, hoverdue]
  cases hdeadline : r.policy.deadline with
  | none => rw [isOverdue_of_none hdeadline]
  | some deadline =>
    rw [isOverdue_of_some hdeadline]
    by_cases htime : deadline.nanoseconds ≤ n * r.policy.interval.nanoseconds
    · simp [htime]
    · simp [htime]

/-- A wait is as long as its reasons to end say, whatever the host answers. -/
structure Punctual (r : Runner σ) (s : Session σ) : Prop where
  /-- As long as there was no reason to end it, a wait goes on. So one that never has a reason never
  ends. -/
  asleep : ∀ patience : ℕ, (patience : ℕ∞) < r.lastRound s →
    (r.wait patience s).1 = .asleep ∧ r.Passed s patience (r.wait patience s).2
  /-- It ends in its last round, and no patience makes it any longer. -/
  ended : ∀ m : ℕ, r.lastRound s = m → ∀ patience, m ≤ patience →
    (r.wait patience s).1 = r.lastWord s ∧ r.Passed s m (r.wait patience s).2

/-- Before its last round a wait has only full rounds behind it. -/
lemma not_ends_of_lt {n : ℕ} (h : (n : ℕ∞) < r.lastRound s) :
    ∀ j < n, ¬ r.Ends (0 + j * r.policy.interval.nanoseconds) (r.rounds j s) := by
  rw [lastRound_eq, lt_firstRound_iff] at h
  intro j hj
  rw [Nat.zero_add, ends_rounds_iff]
  exact h (j + 1) (by omega) (by omega)

theorem punctual (r : Runner σ) (s : Session σ) : r.Punctual s where
  asleep patience h := by
    cases patience with
    | zero => exact ⟨rfl, [], rfl, rfl, by simp [Deed.elapsed]⟩
    | succ n =>
      have hnone := not_ends_of_lt h
      have hrounds := waitFrom_rounds (n := n) (fun j hj => hnone j (by omega)) 0
      have hlast := waitFrom_of_not_ends (hnone n (by omega)) 0
      rw [Nat.zero_add, if_pos rfl] at hlast
      rw [Nat.zero_add, Nat.zero_add, hlast] at hrounds
      rw [wait, hrounds]
      exact ⟨rfl, r.passed_probe n s⟩
  ended m hm patience hpatience := by
    obtain ⟨hone, hends, -⟩ := firstRound_eq_coe_iff.mp ((r.lastRound_eq s).symm.trans hm)
    obtain ⟨n, rfl⟩ : ∃ n, m = n + 1 := ⟨m - 1, by omega⟩
    obtain ⟨more, rfl⟩ := Nat.exists_eq_add_of_le hpatience
    have hbefore : (n : ℕ∞) < r.lastRound s := by
      rw [hm]
      exact_mod_cast Nat.lt_succ_self n
    have hrounds := waitFrom_rounds (not_ends_of_lt hbefore) more
    have hlast := waitFrom_of_ends ((r.ends_rounds_iff n s).mpr hends) more
    have hsplit : n + 1 + more = n + (more + 1) := by omega
    rw [wait, hsplit, hrounds, Nat.zero_add, hlast, lastWord_eq hm]
    exact ⟨rfl, r.passed_probe n s⟩

lemma lastWord_ne_asleep (r : Runner σ) (s : Session σ) : r.lastWord s ≠ .asleep := by
  rw [lastWord]
  split
  · simp
  · cases r.policy.deadline with
    | none => simp
    | some deadline =>
      dsimp only
      split
      · simp
      · simp

/-! ## Waits with a deadline -/

/-- Intervals reach a deadline in the round after the last that is not past it. -/
lemma overdueRound_le {deadline : Duration} (hdeadline : r.policy.deadline = some deadline)
    (hinterval : 0 < r.policy.interval.nanoseconds) : r.overdueRound ≤
      (deadline.nanoseconds ⌈/⌉ r.policy.interval.nanoseconds + 1 : ℕ) := by
  refine firstRound_le (by omega) ⟨deadline, hdeadline, ?_⟩
  have hreach := le_smul_ceilDiv (b := deadline.nanoseconds) hinterval
  rw [Nat.add_sub_cancel, Nat.mul_comm]
  exact hreach

/-- A wait with a deadline ends at the latest when it is first probed after the deadline. -/
theorem exists_lastRound {deadline : Duration} (hdeadline : r.policy.deadline = some deadline)
    (hinterval : 0 < r.policy.interval.nanoseconds) (s : Session σ) : ∃ m : ℕ,
      r.lastRound s = m ∧ m ≤ deadline.nanoseconds ⌈/⌉ r.policy.interval.nanoseconds + 1 ∧
      (m - 1) * r.policy.interval.nanoseconds <
        deadline.nanoseconds + r.policy.interval.nanoseconds := by
  have hle : r.lastRound s ≤
      (deadline.nanoseconds ⌈/⌉ r.policy.interval.nanoseconds + 1 : ℕ) :=
    (min_le_right _ _).trans ((min_le_left _ _).trans (overdueRound_le hdeadline hinterval))
  obtain ⟨m, hm⟩ := ENat.ne_top_iff_exists.mp (ne_top_of_le_ne_top (ENat.natCast_ne_top _) hle)
  rw [← hm] at hle
  have hround : m ≤ deadline.nanoseconds ⌈/⌉ r.policy.interval.nanoseconds + 1 := by
    exact_mod_cast hle
  refine ⟨m, hm.symm, hround, ?_⟩
  have hmul := Nat.mul_le_mul_right r.policy.interval.nanoseconds
    (show m - 1 ≤ deadline.nanoseconds ⌈/⌉ r.policy.interval.nanoseconds by omega)
  have hceil : deadline.nanoseconds ⌈/⌉ r.policy.interval.nanoseconds *
      r.policy.interval.nanoseconds ≤ deadline.nanoseconds + r.policy.interval.nanoseconds - 1 := by
    rw [Nat.ceilDiv_eq_add_pred_div]
    exact Nat.div_mul_le_self _ _
  omega

/-- Waits under the policy of a configuration, of whatever host. -/
structure Prompt (c : Config) (r : Runner σ) (s : Session σ) : Prop where
  /-- The interval is at least a millisecond, and that without any condition on the configuration. -/
  interval : (Duration.ofMilliseconds 1).nanoseconds ≤ c.waitPolicy.interval.nanoseconds
  /-- With a timeout a wait ends: after so many probes at most, and before one interval more than the
  timeout has passed. -/
  in_time : ∀ timeout, c.timeoutMs = some timeout → ∃ m : ℕ,
    m ≤ (Duration.ofMilliseconds timeout.toNat).nanoseconds ⌈/⌉
      c.waitPolicy.interval.nanoseconds + 1 ∧
    (m - 1) * c.waitPolicy.interval.nanoseconds <
      (Duration.ofMilliseconds timeout.toNat).nanoseconds + c.waitPolicy.interval.nanoseconds ∧
    ∀ patience, m ≤ patience →
      (({ r with policy := c.waitPolicy } : Runner σ).wait patience s).1 ≠ .asleep ∧
      Passed { r with policy := c.waitPolicy } s m
        (({ r with policy := c.waitPolicy } : Runner σ).wait patience s).2

lemma one_le_interval (c : Config) :
    (Duration.ofMilliseconds 1).nanoseconds ≤ c.waitPolicy.interval.nanoseconds :=
  Nat.mul_le_mul_right 1000000 (Nat.le_max_right c.intervalMs.toNat 1)

theorem prompt (c : Config) (r : Runner σ) (s : Session σ) : Prompt c r s where
  interval := one_le_interval c
  in_time timeout htimeout := by
    have hdeadline : c.waitPolicy.deadline = some (.ofMilliseconds timeout.toNat) := by
      rw [Config.waitPolicy, htimeout, Option.map_some]
    have hinterval : 0 < c.waitPolicy.interval.nanoseconds :=
      Nat.lt_of_lt_of_le (by decide) (one_le_interval c)
    obtain ⟨m, hm, hround, htime⟩ :=
      exists_lastRound (r := { r with policy := c.waitPolicy }) hdeadline hinterval s
    refine ⟨m, hround, htime, fun patience hpatience => ?_⟩
    obtain ⟨hword, hpassed⟩ :=
      (punctual { r with policy := c.waitPolicy } s).ended m hm patience hpatience
    rw [hword]
    exact ⟨lastWord_ne_asleep _ s, hpassed⟩

/-- A wait is determined by the first rounds in which the host is idle, the deadline is reached and the wait
is called off; under a configuration with a timeout there always is such a round, and it comes soon. -/
theorem timely_wait (r : Runner σ) (s : Session σ) :
    r.Punctual s ∧ ∀ c : Config, Prompt c r s :=
  ⟨punctual r s, fun c => prompt c r s⟩

end Runner

end HostScript
