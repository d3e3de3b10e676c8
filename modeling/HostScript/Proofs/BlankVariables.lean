import HostScript.CommandLine
import HostScript.Proofs.Association
import Mathlib.Data.List.TakeWhile

/-!
# Blank variables

A variable that holds nothing but blanks overrides nothing in a configuration, as if it were unset. The
options of the host are no such case: they are looked up under two keys, and a blank value of the key with
the stem in front hides the value of the bare key. That is the only way in which a blank variable differs
from an unset one, and it reaches the folder of every runner whose configuration names none.
-/
namespace HostScript

namespace Environment

variable {env : Environment}

/-- The value of a variable that is set and not blank. -/
def filled? (env : Environment) (name : String) : Option String :=
  (env.get? name).filter fun value => !Text.isBlankText value

/-- The environment in which the blank variables are unset. -/
def withoutBlanks (env : Environment) : Environment :=
  ⟨env.bindings.filter fun b => (env.filled? b.1).isSome⟩

/-- A variable is set, and there is nothing but blanks in it. -/
def HoldsBlank (env : Environment) (name : String) : Prop :=
  ∃ value, env.get? name = some value ∧ Text.isBlankText value = true

/-- A key has a value, and the key with the stem in front has a blank one. -/
def Hides (env : Environment) (stem key : String) : Prop :=
  env.HoldsBlank (stem ++ key) ∧ env.filled? key ≠ none

@[simp] theorem get?_withoutBlanks (name : String) : env.withoutBlanks.get? name = env.filled? name := by
  rw [withoutBlanks, get?, lookup_filter_fst fun name => (env.filled? name).isSome]
  cases hfilled : env.filled? name with
  | none => rfl
  | some value =>
    rw [filled?, Option.filter_eq_some_iff] at hfilled
    exact hfilled.1

@[simp] lemma filled?_withoutBlanks (name : String) :
    env.withoutBlanks.filled? name = env.filled? name := by
  rw [filled?, get?_withoutBlanks, filled?, Option.filter_filter]
  simp

lemma filled?_of_holdsBlank {name : String} (h : env.HoldsBlank name) : env.filled? name = none := by
  obtain ⟨value, hget, hblank⟩ := h
  simp [filled?, hget, hblank]

lemma filled?_of_not_holdsBlank {name : String} (h : ¬ env.HoldsBlank name) :
    env.filled? name = env.get? name := by
  cases hget : env.get? name with
  | none => rw [filled?, hget, Option.filter_none]
  | some value =>
    have hblank : ¬ Text.isBlankText value = true := fun hblank => h ⟨value, hget, hblank⟩
    simp [filled?, hget, hblank]

end Environment

namespace Config

variable {env : Environment}

lemma folder?_eq (env : Environment) : folder? env = env.filled? folderVariable := rfl

lemma trimChars_of_isBlankText {s : String} (h : Text.isBlankText s = true) :
    Text.trimChars s.toList = [] := by
  have hnone : s.toList.dropWhile Text.isBlank = [] :=
    List.dropWhile_eq_nil_iff.mpr (List.all_eq_true.mp h)
  rw [Text.trimChars, hnone]
  rfl

/-- There is no number in a blank variable. -/
lemma milliseconds?_fst (env : Environment) (name : String) :
    (milliseconds? env.withoutBlanks name).1 = (milliseconds? env name).1 := by
  by_cases hblank : env.HoldsBlank name
  · have hunset : env.withoutBlanks.get? name = none := by
      rw [Environment.get?_withoutBlanks, Environment.filled?_of_holdsBlank hblank]
    obtain ⟨value, hget, hblank⟩ := hblank
    simp [milliseconds?, hunset, hget, trimChars_of_isBlankText hblank, Text.readUnsigned]
  · have hsame : env.withoutBlanks.get? name = env.get? name := by
      rw [Environment.get?_withoutBlanks, Environment.filled?_of_not_holdsBlank hblank]
    rw [milliseconds?, milliseconds?, hsame]

theorem overridden_withoutBlanks (env : Environment) (c : Config) :
    (c.overridden env.withoutBlanks).1 = (c.overridden env).1 := by
  simp only [overridden, folder?_eq, milliseconds?_fst, Environment.filled?_withoutBlanks]

end Config

namespace Settings

variable {env : Environment} {stem key : String}

/-- Where no variable is blank, the key with the stem goes before the bare one. -/
lemma option?_withoutBlanks : (Settings.environment stem).option? env.withoutBlanks key =
    (env.filled? (stem ++ key)).or (env.filled? key) := by
  have hfilled (name : String) :
      (env.filled? name).filter (fun value => !Text.isBlankText value) = env.filled? name := by
    rw [Environment.filled?, Option.filter_filter]
    simp
  rw [option?, Environment.get?_withoutBlanks, Environment.get?_withoutBlanks]
  cases hstem : env.filled? (stem ++ key) with
  | none => rw [Option.none_or, hfilled]
  | some value => rw [Option.some_or, ← hstem, hfilled]

/-- A blank value of the key with the stem is taken for the value of the option, and then it counts as
none. -/
lemma option?_of_holdsBlank (h : env.HoldsBlank (stem ++ key)) :
    (Settings.environment stem).option? env key = Option.none := by
  obtain ⟨value, hget, hblank⟩ := h
  simp [option?, hget, hblank]

lemma option?_of_not_holdsBlank (h : ¬ env.HoldsBlank (stem ++ key)) :
    (Settings.environment stem).option? env key =
      (env.filled? (stem ++ key)).or (env.filled? key) := by
  rw [option?, Environment.filled?_of_not_holdsBlank h]
  cases hget : env.get? (stem ++ key) with
  | none => rfl
  | some value => rw [Option.some_or, Option.some_or, ← hget, ← Environment.filled?,
      Environment.filled?_of_not_holdsBlank h]

theorem option?_withoutBlanks_eq_iff :
    (Settings.environment stem).option? env.withoutBlanks key =
      (Settings.environment stem).option? env key ↔ ¬ env.Hides stem key := by
  rw [option?_withoutBlanks]
  by_cases h : env.HoldsBlank (stem ++ key)
  · rw [option?_of_holdsBlank h, Environment.filled?_of_holdsBlank h, Option.none_or]
    simp [Environment.Hides, h]
  · rw [option?_of_not_holdsBlank h]
    simp [Environment.Hides, h]

end Settings

section Runners

variable {env : Environment}

lemma Config.settings_option?_eq_iff (c : Config) (key : String) :
    c.settings.option? env.withoutBlanks key = c.settings.option? env key ↔
      (c.folder = none → ¬ env.Hides "MACROKIT_" key) := by
  cases hfolder : c.folder with
  | none =>
    rw [settings, hfolder, Settings.usual, Settings.option?_withoutBlanks_eq_iff]
    simp
  | some folder => simp [settings, hfolder, Settings.none, Settings.withOption, Settings.option?]

/-- A runner differs from another of the same configuration in its folder only by what the environment says
about the option. -/
lemma CommandLine.folder_setUp_eq_iff (start : Starter) (env env' : Environment) (c : Config) :
    (setUp start env c).map Runner.folder = (setUp start env' c).map Runner.folder ↔
      (c.host.program ≠ none →
        c.settings.option? env folderOption = c.settings.option? env' folderOption) := by
  cases hprogram : c.host.program with
  | none => simp [setUp, during, HostConfig.launcher, hprogram, Except.mapError, bind, Except.bind,
      Except.map]
  | some program =>
    cases hoption : c.settings.option? env folderOption <;>
      cases hoption' : c.settings.option? env' folderOption <;>
      simp [setUp, during, HostConfig.launcher, hprogram, Except.mapError, bind, Except.bind,
        Except.map, Runner.folder, hoption, hoption']

end Runners

namespace Environment

/-- What the blank variables of an environment do, measured at the environment in which they are unset. -/
structure BlankAccount (env : Environment) : Prop where
  /-- No configuration is changed by them. -/
  overridden : ∀ c : Config, (c.overridden env.withoutBlanks).1 = (c.overridden env).1
  /-- With them unset, an option has the first value of its two keys. -/
  first_filled : ∀ stem key, (Settings.environment stem).option? env.withoutBlanks key =
    (env.filled? (stem ++ key)).or (env.filled? key)
  /-- With them set, it has the same value, unless one of them hides the value of the bare key. -/
  option_eq_iff : ∀ stem key, (Settings.environment stem).option? env.withoutBlanks key =
    (Settings.environment stem).option? env key ↔ ¬ env.Hides stem key
  /-- In that case the option has no value. -/
  option_of_hides : ∀ stem key, env.Hides stem key →
    (Settings.environment stem).option? env key = none ∧
      (Settings.environment stem).option? env.withoutBlanks key = env.filled? key
  /-- The folder of a runner is another one exactly where it is left to that option. -/
  folder_eq_iff : ∀ start, ∀ c : Config,
    (CommandLine.setUp start env.withoutBlanks c).map Runner.folder =
      (CommandLine.setUp start env c).map Runner.folder ↔
      (c.host.program ≠ none → c.folder = none → ¬ env.Hides "MACROKIT_" folderOption)

/-- A blank variable counts as unset in every configuration, and in every option whose value it does not
hide. -/
theorem blankAccount (env : Environment) : env.BlankAccount where
  overridden := Config.overridden_withoutBlanks env
  first_filled stem key := Settings.option?_withoutBlanks
  option_eq_iff stem key := Settings.option?_withoutBlanks_eq_iff
  option_of_hides stem key h := by
    refine ⟨Settings.option?_of_holdsBlank h.1, ?_⟩
    rw [Settings.option?_withoutBlanks, filled?_of_holdsBlank h.1, Option.none_or]
  folder_eq_iff start c := by
    rw [CommandLine.folder_setUp_eq_iff, c.settings_option?_eq_iff]

/-- Two blanks hide the folder of the host, and a runner of the usual kind finds none. -/
theorem folder_hidden_by_blanks :
    let env : Environment :=
      ⟨[("MACROKIT_XS_MACRO_DIRECTORY", "  "), ("XS_MACRO_DIRECTORY", "/srv/macros")]⟩
    let c : Config := { Config.usual with host := { HostConfig.usual with program := some "true" } }
    let start : Starter := fun _ files => .ok ⟨files, .exited 0, .empty⟩
    env.Hides "MACROKIT_" folderOption ∧
      Settings.usual.option? env folderOption = none ∧
      Settings.usual.option? env.withoutBlanks folderOption = some "/srv/macros" ∧
      (CommandLine.setUp start env c).toOption.map Runner.folder =
        some (.error (.optionUnset folderOption)) ∧
      (CommandLine.setUp start env.withoutBlanks c).toOption.map Runner.folder =
        some (.ok "/srv/macros") := by
  refine ⟨⟨⟨"  ", by decide +kernel, by decide +kernel⟩, by decide +kernel⟩, by decide +kernel,
    by decide +kernel, ?_, ?_⟩
  · rfl
  · rfl

end Environment

end HostScript
