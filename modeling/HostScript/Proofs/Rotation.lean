import HostScript.Proofs.History
import Mathlib.Data.List.Nodup
import Mathlib.Data.List.Range

/-!
# Slots in turn

A rotation hands its indexes out one after the other and starts again behind the last, so over any number
of turns no slot is ahead of another by more than one. A run of a script takes exactly one turn, at its very
beginning and whatever becomes of it, and nothing else that a runner does takes any: the name of a run can be
told from the number of runs before it.
-/
namespace HostScript

namespace Slots

@[simp] lemma take_fst (s : Slots) : s.take.1 = s.next := rfl

@[simp] lemma next_take (s : Slots) : s.take.2.next = (s.next + 1) % slotCount := rfl

/-- The rotation after so many turns. -/
def after (s : Slots) : ℕ → Slots
  | 0 => s
  | n + 1 => s.take.2.after n

theorem next_after (s : Slots) (n : ℕ) : (s.after n).next = (s.next + n) % slotCount := by
  induction n generalizing s with
  | zero => exact (Nat.mod_eq_of_lt s.next_lt).symm
  | succ n ih =>
    rw [after, ih, next_take, Nat.mod_add_mod]
    congr 1
    omega

/-- What callers get that share a rotation, in the order in which they come to it. -/
def serve {κ : Type} (s : Slots) : List κ → List (κ × ℕ)
  | [] => []
  | c :: cs => (c, s.take.1) :: s.take.2.serve cs

/-- A caller gets an index by its place among all callers. -/
theorem getElem?_serve {κ : Type} (s : Slots) (callers : List κ) (j : ℕ) :
    (s.serve callers)[j]? = callers[j]?.map fun c => (c, (s.next + j) % slotCount) := by
  induction callers generalizing s j with
  | nil => simp [serve]
  | cons c cs ih =>
    cases j with
    | zero => simp [serve, Nat.mod_eq_of_lt s.next_lt]
    | succ j =>
      have hturn : (s.next + 1 + j) % slotCount = (s.next + (j + 1)) % slotCount := by
        congr 1
        omega
      simp [serve, ih, hturn]

theorem indexes_eq (s : Slots) (n : ℕ) :
    s.indexes n = (List.range n).map fun j => (s.next + j) % slotCount := by
  induction n generalizing s with
  | zero => rfl
  | succ n ih =>
    have hturn (j : ℕ) : (s.next + 1 + j) % slotCount = (s.next + (j + 1)) % slotCount := by
      congr 1
      omega
    rw [indexes, ih, List.range_succ_eq_map]
    simp [Nat.mod_eq_of_lt s.next_lt, hturn]

example : (startingAt 30).indexes 4 = [30, 31, 0, 1] := by decide

@[simp] lemma length_indexes (s : Slots) (n : ℕ) : (s.indexes n).length = n := by
  simp [indexes_eq]

/-- Who comes when makes no difference to what is handed out. -/
lemma map_snd_serve {κ : Type} (s : Slots) (callers : List κ) :
    (s.serve callers).map Prod.snd = s.indexes callers.length := by
  induction callers generalizing s with
  | nil => rfl
  | cons c cs ih => simp [serve, indexes, ih]

theorem indexes_add (s : Slots) (m n : ℕ) :
    s.indexes (m + n) = s.indexes m ++ (s.after m).indexes n := by
  induction m generalizing s with
  | zero => simp [indexes, after]
  | succ m ih =>
    rw [Nat.succ_add_eq_add_succ, Nat.add_succ, indexes, ih, indexes, after]
    rfl

lemma nodup_indexes (s : Slots) {n : ℕ} (h : n ≤ slotCount) : (s.indexes n).Nodup := by
  rw [indexes_eq]
  refine List.Nodup.map_on (fun i hi j hj heq => ?_) List.nodup_range
  rw [List.mem_range] at hi hj
  simp only [slotCount] at h heq
  omega

/-- One time around, every index is handed out exactly once. -/
theorem indexes_perm_range (s : Slots) : (s.indexes slotCount).Perm (List.range slotCount) := by
  rw [List.perm_ext_iff_of_nodup (s.nodup_indexes le_rfl) List.nodup_range]
  intro i
  have hnext := s.next_lt
  rw [indexes_eq, List.mem_map]
  simp only [List.mem_range, slotCount] at hnext ⊢
  constructor
  · rintro ⟨j, hj, rfl⟩
    omega
  · intro hi
    exact ⟨(i + 32 - s.next) % 32, by omega, by omega⟩

/-- So it is from any turn on. -/
lemma window_indexes (s : Slots) {j n : ℕ} (h : j + slotCount ≤ n) :
    ((s.indexes n).drop j).take slotCount = (s.after j).indexes slotCount := by
  obtain ⟨m, rfl⟩ := Nat.exists_eq_add_of_le h
  rw [Nat.add_assoc, indexes_add, indexes_add, List.drop_left' (s.length_indexes j),
    List.take_left' (length_indexes _ _)]

/-- After so many full rounds an index was handed out once in each of them, and at most once since. -/
theorem count_indexes (s : Slots) (n : ℕ) {i : ℕ} (hi : i < slotCount) :
    n / slotCount ≤ (s.indexes n).count i ∧ (s.indexes n).count i ≤ n / slotCount + 1 := by
  induction n using Nat.strong_induction_on generalizing s with
  | _ n ih =>
    by_cases hn : n < slotCount
    · rw [Nat.div_eq_of_lt hn]
      exact ⟨Nat.zero_le _, List.nodup_iff_count_le_one.mp (s.nodup_indexes hn.le) i⟩
    · obtain ⟨m, rfl⟩ := Nat.exists_eq_add_of_le (not_lt.mp hn)
      have hround : (s.indexes slotCount).count i = 1 := by
        rw [s.indexes_perm_range.count_eq]
        exact List.count_eq_one_of_mem List.nodup_range (List.mem_range.mpr hi)
      have hrest := ih m (by simp [slotCount]) (s.after slotCount)
      have hdiv : (slotCount + m) / slotCount = m / slotCount + 1 := by simp [slotCount]
      rw [indexes_add, List.count_append, hround, hdiv]
      omega

/-- No index is ahead of another by more than one. -/
lemma count_indexes_le (s : Slots) (n : ℕ) {i k : ℕ} (hi : i < slotCount) (hk : k < slotCount) :
    (s.indexes n).count i ≤ (s.indexes n).count k + 1 := by
  have hmost := (s.count_indexes n hi).2
  have hleast := (s.count_indexes n hk).1
  omega

end Slots

/-! ## The same rotation in machine words -/

/-- A rotation kept in a machine word: the index that was handed out last, once there is one. -/
structure WordCursor where
  last? : Option UInt64

namespace WordCursor

/-- The cursor that stands right before a start value, counted around. -/
def startingAt (start : UInt64) : WordCursor := ⟨some ((start % 32 + 32 - 1) % 32)⟩

/-- The index that is handed out, and the cursor after it. The first one of all is a free choice. -/
def take (choice : UInt64) (c : WordCursor) : UInt64 × WordCursor :=
  let index := match c.last? with
    | none => choice
    | some last => (last + 1) % 32
  (index, ⟨some index⟩)

/-- The first indexes that a cursor hands out. -/
def indexes (choice : UInt64) (c : WordCursor) : ℕ → List UInt64
  | 0 => []
  | n + 1 => (c.take choice).1 :: (c.take choice).2.indexes choice n

/-- The index that a cursor hands out next. -/
lemma toNat_indexes (choice : UInt64) {c : WordCursor} {s : Slots}
    (h : (c.take choice).1.toNat = s.next) (n : ℕ) :
    (c.indexes choice n).map UInt64.toNat = s.indexes n := by
  induction n generalizing c s with
  | zero => rfl
  | succ n ih =>
    have hnext : ((c.take choice).2.take choice).1.toNat = s.take.2.next := by
      have hlt := s.next_lt
      change (((c.take choice).1 + 1) % 32).toNat = (s.next + 1) % slotCount
      rw [UInt64.toNat_mod, UInt64.toNat_add, h]
      simp only [slotCount, UInt64.reduceToNat] at hlt ⊢
      omega
    rw [indexes, Slots.indexes, List.map_cons, ih hnext, h]
    rfl

end WordCursor

/-- How a rotation comes about: from a start value, or fresh, and then its first turn chooses. -/
inductive Origin where
  | startingAt (start : UInt64)
  | fresh (choice : Fin slotCount)

namespace Origin

def first : Origin → ℕ
  | .startingAt start => start.toNat % slotCount
  | .fresh choice => choice

def slots : Origin → Slots
  | .startingAt start => Slots.startingAt start.toNat
  | .fresh choice => ⟨choice, choice.isLt⟩

/-- The rotation in a machine word. -/
def cursor : Origin → WordCursor
  | .startingAt start => .startingAt start
  | .fresh _ => ⟨none⟩

/-- What the first turn chooses if the choice is free. -/
def choice : Origin → UInt64
  | .startingAt _ => 0
  | .fresh choice => UInt64.ofNat choice

/-- What a rotation hands out, whoever shares it and in whichever order they come: the indexes from the
first one on in turn. -/
structure InTurn (o : Origin) : Prop where
  first_lt : o.first < slotCount
  served : ∀ {κ : Type} (callers : List κ) (j : ℕ), (o.slots.serve callers)[j]? =
    callers[j]?.map fun c => (c, (o.first + j) % slotCount)
  in_words : ∀ n, (o.cursor.indexes o.choice n).map UInt64.toNat = o.slots.indexes n
  round : ∀ {κ : Type} (callers : List κ) (j : ℕ), j + slotCount ≤ callers.length →
    ((((o.slots.serve callers).map Prod.snd).drop j).take slotCount).Perm (List.range slotCount)
  again : ∀ {κ : Type} (callers : List κ) (j : ℕ), j + slotCount < callers.length →
    ((o.slots.serve callers).map Prod.snd)[j + slotCount]? =
      ((o.slots.serve callers).map Prod.snd)[j]?
  balanced : ∀ {κ : Type} (callers : List κ) (i k : ℕ), i < slotCount → k < slotCount →
    ((o.slots.serve callers).map Prod.snd).count i ≤
      ((o.slots.serve callers).map Prod.snd).count k + 1

lemma next_slots (o : Origin) : o.slots.next = o.first := by
  cases o with
  | startingAt start => rfl
  | fresh choice => rfl

lemma toNat_take_cursor (o : Origin) : (o.cursor.take o.choice).1.toNat = o.slots.next := by
  cases o with
  | startingAt start =>
    change (((start % 32 + 32 - 1) % 32 + 1) % 32).toNat = start.toNat % slotCount
    rw [UInt64.toNat_mod, UInt64.toNat_add, UInt64.toNat_mod, UInt64.toNat_sub, UInt64.toNat_add,
      UInt64.toNat_mod]
    simp only [slotCount, UInt64.reduceToNat]
    omega
  | fresh choice =>
    have hlt := choice.isLt
    change (UInt64.ofNat choice).toNat = choice
    rw [UInt64.toNat_ofNat']
    simp only [slotCount] at hlt
    omega

theorem inTurn (o : Origin) : o.InTurn where
  first_lt := by
    rw [← next_slots]
    exact o.slots.next_lt
  served callers j := by rw [Slots.getElem?_serve, next_slots]
  in_words := WordCursor.toNat_indexes o.choice o.toNat_take_cursor
  round callers j hj := by
    rw [Slots.map_snd_serve, Slots.window_indexes _ hj]
    exact Slots.indexes_perm_range _
  again callers j hj := by
    have hturn : (o.slots.next + (j + slotCount)) % slotCount = (o.slots.next + j) % slotCount := by
      rw [← Nat.add_assoc, Nat.add_mod_right]
    rw [Slots.map_snd_serve, Slots.indexes_eq, List.getElem?_map, List.getElem?_map,
      List.getElem?_range hj, List.getElem?_range (by omega), Option.map_some, Option.map_some,
      hturn]
  balanced callers i k hi hk := by
    rw [Slots.map_snd_serve]
    exact Slots.count_indexes_le _ _ hi hk

end Origin

/-! ## Runs take turns -/

variable {σ : Type}

namespace Session

@[simp] lemma slots_reportAll (s : Session σ) (ns : List Notice) :
    (s.reportAll ns).slots = s.slots := by
  rw [reportAll_eq]
  rfl

@[simp] lemma slots_sweep (s : Session σ) (w : Sweep) : (s.sweep w).slots = s.slots := by
  simp [sweep]

end Session

namespace Runner

lemma slots_submit (r : Runner σ) (name : String) (s : Session σ) :
    (r.submit name s).2.slots = s.slots := by
  rw [submit]
  cases (r.host.submit name s.host s.files).result with
  | ok => simp [Session.report]
  | error cause => simp [Session.report]

/-- Handing a script over by its name takes no turn. -/
theorem slots_dispatch (r : Runner σ) (patience : ℕ) (name : String) (s : Session σ) :
    (r.dispatch patience name s).2.slots = s.slots := by
  rw [dispatch]
  by_cases hconnected : (!r.host.isConnected s.host) = true
  · rw [if_pos hconnected]
  · rw [if_neg hconnected]
    have hwait := r.wait_slots patience s
    generalize r.wait patience s = x at hwait ⊢
    obtain ⟨e, t⟩ := x
    cases e with
    | asleep => exact hwait
    | failed fault => exact hwait
    | idle => exact (r.slots_submit _ t).trans hwait

lemma slots_attempt (r : Runner σ) (patience : ℕ) (a : Artifact) (script : String)
    (s : Session σ) : (r.attempt patience a script s).2.slots = s.slots.take.2 := by
  unfold attempt
  cases a.write (envelope script) s.files with
  | error fault => rfl
  | ok files => exact r.slots_dispatch patience _ _

lemma slots_settled (a : Artifact) (x : DispatchEnd × Session σ) :
    (settled a x).2.slots = x.2.slots := by
  obtain ⟨e, s⟩ := x
  cases e with
  | asleep => rfl
  | failed fault => simp [settled, concluded, Session.swept, Session.amid]
  | ended status => simp [settled, concluded, Session.swept, Session.amid]

/-- A run takes exactly one turn, whatever becomes of it. -/
theorem slots_run (r : Runner σ) (patience : ℕ) (script : String) (s : Session σ) :
    (r.run patience script s).2.slots = s.slots.take.2 := by
  rw [run_eq]
  cases r.folder with
  | error fault => rfl
  | ok folder =>
    dsimp only
    rw [slots_settled, slots_attempt]

lemma slots_runTask (r : Runner σ) (patience : ℕ) (label script : String) (s : Session σ) :
    (r.runTask patience label script s).2.slots = s.slots.take.2 := by
  rw [runTask_eq]
  simp [slots_run]

/-- Giving a run up takes no turn. -/
lemma slots_abandon (x : RunEnd × Session σ) : (abandon x).slots = x.2.slots := by
  obtain ⟨e, s⟩ := x
  cases e with
  | finished outcome => rfl
  | failed fault => rfl
  | asleep a => exact s.slots_sweep _

/-- A task that is given up is a run that is given up, with a say of its own behind it. -/
lemma abandon_runTask (r : Runner σ) (patience : ℕ) (label script : String) (s : Session σ) :
    abandon (r.runTask patience label script s) =
      (abandon (r.run patience script s)).reportAll
        (taskNotices label (r.run patience script s).1) := by
  rw [runTask_eq]
  generalize r.run patience script s = y
  obtain ⟨e, t⟩ := y
  cases e with
  | finished outcome => rfl
  | failed fault => rfl
  | asleep a => simp only [taskNotices, Session.reportAll, List.foldl_nil]

/-- A run goes by a name: the file that it writes and removes has that name, the host gets that name, and
the run tells no other. -/
structure GoesBy (r : Runner σ) (patience : ℕ) (text : String) (s : Session σ) (name : String) :
    Prop where
  files : ∀ folder, r.option? folderOption = some folder → r.run patience text s =
    settled ⟨folder, name⟩ (r.attempt patience ⟨folder, name⟩ text s)
  submitted : ∃ made, (r.run patience text s).2.deeds = made ++ s.deeds ∧
    ∀ handle files, .submitted handle files ∈ made → handle =
      (if r.host.isDrawingActive s.host then "..\\drawings\\..\\" ++ name else "..\\" ++ name)
  finished : ∀ outcome, (r.run patience text s).1 = .finished outcome → outcome.fileName = name
  asleep : ∀ a, (r.run patience text s).1 = .asleep a → a.fileName = name

lemma fileName_of_settled_asleep {a b : Artifact} {x : DispatchEnd × Session σ}
    (h : (settled a x).1 = .asleep b) : b = a := by
  obtain ⟨e, s⟩ := x
  cases e with
  | asleep => exact (RunEnd.asleep.inj h).symm
  | failed fault => exact absurd h (by simp [settled, concluded, closing_ne_asleep])
  | ended status => exact absurd h (by simp [settled, concluded, closing_ne_asleep])

theorem goesBy_run (r : Runner σ) (patience : ℕ) (text : String) (s : Session σ) :
    GoesBy r patience text s (slotFileName s.slots.next) where
  files folder hoption := by
    have hartifact : s.artifact folder = ⟨folder, slotFileName s.slots.next⟩ := rfl
    rw [run_eq_settled hoption, hartifact]
  submitted := by
    obtain ⟨made, hadds, hseen⟩ := r.seen_run patience text s
    exact ⟨made, hadds.deeds, fun handle files hmem => (hseen.submitted handle files hmem).1⟩
  finished outcome h := by
    obtain ⟨folder, status, t, -, -, -, rfl⟩ := run_finished_iff.mp h
    rfl
  asleep a h := by
    cases hoption : r.option? folderOption with
    | none => simp [run_eq_unset hoption] at h
    | some folder =>
      rw [run_eq_settled hoption] at h
      rw [fileName_of_settled_asleep h]
      rfl

end Runner

/-- What can happen among runners that share a rotation: an operation of one of them, or a look at the
folder of its scripts. -/
inductive Episode (σ : Type) where
  | operation (op : Operation σ)
  | folder

/-- The patience and the text of an episode that runs a script. -/
def Episode.script? : Episode σ → Option (ℕ × String)
  | .operation op => op.script?
  | .folder => none

/-- The number of episodes that run a script. -/
def Episode.runs (es : List (Episode σ)) : ℕ := es.countP (·.script?.isSome)

namespace Scene

/-- The scene after an episode. Whatever else changes around the runs, the rotation is not replaced. -/
def live (x : Scene σ) : Episode σ → Scene σ
  | .operation (.change runner files host _ probes) =>
    x.step (.change runner files host x.session.slots probes)
  | .operation op => x.step op
  | .folder => x

def lived (x : Scene σ) (es : List (Episode σ)) : Scene σ := es.foldl live x

/-- The scene with a rotation of some origin. -/
def under (x : Scene σ) (o : Origin) : Scene σ :=
  { x with session := { x.session with slots := o.slots } }

/-- An episode takes one turn if it runs a script, and none otherwise. -/
theorem slots_live (x : Scene σ) (e : Episode σ) : (x.live e).session.slots =
    if e.script?.isSome then x.session.slots.take.2 else x.session.slots := by
  cases e with
  | folder => rfl
  | operation op =>
    cases op with
    | run patience text =>
      exact (Runner.slots_abandon _).trans (x.runner.slots_run patience text x.session)
    | runScript patience script =>
      exact (Runner.slots_abandon _).trans (x.runner.slots_run patience script.text x.session)
    | runTask patience label script =>
      exact (Runner.slots_abandon _).trans
        (x.runner.slots_runTask patience label script.text x.session)
    | perform patience task =>
      exact (Runner.slots_abandon _).trans
        (x.runner.slots_runTask patience task.label task.script.text x.session)
    | dispatch patience name => exact x.runner.slots_dispatch patience name x.session
    | wait patience => exact x.runner.wait_slots patience x.session
    | change runner files host slots probes => rfl

theorem slots_lived (x : Scene σ) (es : List (Episode σ)) :
    (x.lived es).session.slots = x.session.slots.after (Episode.runs es) := by
  induction es generalizing x with
  | nil => rfl
  | cons e es ih =>
    have hstep : x.lived (e :: es) = (x.live e).lived es := rfl
    rw [hstep, ih, slots_live, Episode.runs, Episode.runs, List.countP_cons]
    by_cases he : e.script?.isSome = true
    · rw [if_pos he, if_pos he]
      rfl
    · rw [if_neg he, if_neg he]
      rfl

/-- An episode that runs a script is that run, given up if it is left asleep; a task then has its say. -/
lemma live_of_script? {x : Scene σ} {e : Episode σ} {patience : ℕ} {text : String}
    (h : e.script? = some (patience, text)) : ∃ said, (x.live e).session =
      (Runner.abandon (x.runner.run patience text x.session)).reportAll said := by
  cases e with
  | folder => contradiction
  | operation op =>
    cases op with
    | run patience' text' =>
      cases h
      exact ⟨[], rfl⟩
    | runScript patience' script =>
      cases h
      exact ⟨[], rfl⟩
    | runTask patience' label script =>
      cases h
      exact ⟨_, x.runner.abandon_runTask patience label script.text x.session⟩
    | perform patience' task =>
      cases h
      exact ⟨_, x.runner.abandon_runTask patience task.label task.script.text x.session⟩
    | dispatch patience' name => contradiction
    | wait patience' => contradiction
    | change runner files host slots probes => contradiction

/-- Runs share a rotation fairly: its indexes go out in turn, each run takes one of them and nothing else
takes any, and so a run goes by the name that the number of runs before it says. -/
theorem goesBy_in_turn (o : Origin) (x : Scene σ) (es : List (Episode σ)) :
    o.InTurn ∧
    (∀ e, (((x.under o).lived es).live e).session.slots =
      if e.script?.isSome then ((x.under o).lived es).session.slots.take.2
      else ((x.under o).lived es).session.slots) ∧
    ∀ (e : Episode σ) patience text, e.script? = some (patience, text) →
      (∃ said, (((x.under o).lived es).live e).session = (Runner.abandon
        (((x.under o).lived es).runner.run patience text ((x.under o).lived es).session)).reportAll
          said) ∧
      Runner.GoesBy ((x.under o).lived es).runner patience text ((x.under o).lived es).session
        (slotFileName ((o.first + Episode.runs es) % slotCount)) := by
  have hnext : ((x.under o).lived es).session.slots.next =
      (o.first + Episode.runs es) % slotCount := by
    rw [slots_lived, Slots.next_after, ← o.next_slots]
    rfl
  rw [← hnext]
  exact ⟨o.inTurn, slots_live _, fun e patience text h =>
    ⟨live_of_script? h, Runner.goesBy_run _ patience text _⟩⟩

end Scene

end HostScript
