import HostScript.Path
import Mathlib.Data.Nat.Notation
import Mathlib.Tactic.Lemma

/-!
# Files in a folder

A name is one part of a path that is neither `.` nor `..`. Joined to a folder it becomes the last part of
a path, behind the parts of the folder, and changing its extension changes nothing else, whatever the
text of the folder is. Of any path whatever another extension makes paths that lie side by side.
-/
namespace HostScript.Path

/-- A text that names an entry of a folder. -/
structure IsName (name : List Char) : Prop where
  ne_nil : name ≠ []
  slash_notMem : '/' ∉ name
  ne_dot : name ≠ ['.']
  ne_dots : name ≠ ['.', '.']

/-- A text between two slashes of a path. -/
structure IsPart (part : List Char) : Prop where
  ne_nil : part ≠ []
  slash_notMem : '/' ∉ part

lemma IsName.isPart {name : List Char} (h : IsName name) : IsPart name := ⟨h.ne_nil, h.slash_notMem⟩

/-- What joining puts in front of a name. -/
def lead (folder : List Char) : List Char :=
  if folder.isEmpty || folder.getLast? = some '/' then folder else folder ++ ['/']

lemma joinChars_eq_lead {name : List Char} (hname : IsName name) (folder : List Char) :
    joinChars folder name = lead folder ++ name := by
  have hhead : name.head? ≠ some '/' := by
    intro h
    exact hname.slash_notMem (List.mem_of_head? h)
  rw [joinChars, if_neg hhead, lead]
  by_cases h : (folder.isEmpty || folder.getLast? = some '/') = true
  · rw [if_pos h, if_pos h]
  · rw [if_neg h, if_neg h, List.append_assoc, List.singleton_append]

lemma toList_join {name : String} (hname : IsName name.toList) (folder : String) :
    (join folder name).toList = lead folder.toList ++ name.toList := by
  rw [join, String.toList_ofList, joinChars_eq_lead hname]

/-- What can stand in front of the last name of a path: nothing, or a text with a closing slash. -/
def IsFront (front : List Char) : Prop := front = [] ∨ front.getLast? = some '/'

lemma IsFront.takeWhile_reverse {front : List Char} (h : IsFront front) :
    front.reverse.takeWhile (· ≠ '/') = [] := by
  rcases h with rfl | hlast
  · rfl
  · obtain ⟨rest, rfl⟩ := List.getLast?_eq_some_iff.mp hlast
    simp

lemma isFront_lead (folder : List Char) : IsFront (lead folder) := by
  rw [lead]
  by_cases h : (folder.isEmpty || folder.getLast? = some '/') = true
  · rw [if_pos h]
    rcases Bool.or_eq_true_iff.mp h with hempty | hslash
    · exact .inl (List.isEmpty_iff.mp hempty)
    · exact .inr (of_decide_eq_true hslash)
  · rw [if_neg h]
    exact .inr (by simp)

/-! ## Parts -/

lemma partsFrom_append_slash (part xs ys : List Char) :
    partsFrom part (xs ++ '/' :: ys) = partsFrom part xs ++ partsFrom [] ys := by
  induction xs generalizing part with
  | nil =>
    by_cases hpart : part.isEmpty = true
    · simp [partsFrom, hpart]
    · simp [partsFrom, hpart]
  | cons c xs ih =>
    rw [List.cons_append]
    simp only [partsFrom]
    by_cases hc : c = '/'
    · by_cases hpart : part.isEmpty = true
      · simp [hc, hpart, ih]
      · simp [hc, hpart, ih]
    · rw [if_neg hc, if_neg hc, ih]

lemma partsFrom_eq_singleton {name : List Char} (hslash : '/' ∉ name) (part : List Char)
    (hne : part ≠ [] ∨ name ≠ []) : partsFrom part name = [part.reverse ++ name] := by
  induction name generalizing part with
  | nil =>
    have hpart : part ≠ [] := by simpa using hne
    simp [partsFrom, hpart]
  | cons c cs ih =>
    have hc : c ≠ '/' := fun h => hslash (h ▸ List.mem_cons_self)
    have hcs : '/' ∉ cs := fun h => hslash (List.mem_cons_of_mem c h)
    rw [partsFrom, if_neg hc, ih hcs (c :: part) (.inl (List.cons_ne_nil c part))]
    simp

/-- The last name of a path is its last part. -/
lemma partsFrom_front_append {front name : List Char} (hfront : IsFront front)
    (hname : IsPart name) : partsFrom [] (front ++ name) = partsFrom [] front ++ [name] := by
  have hsingle : partsFrom [] name = [name] :=
    partsFrom_eq_singleton hname.slash_notMem [] (.inr hname.ne_nil)
  rcases hfront with rfl | hlast
  · simpa [partsFrom] using hsingle
  · -- The closing slash ends the part before it and adds none.
    obtain ⟨rest, rfl⟩ := List.getLast?_eq_some_iff.mp hlast
    rw [List.append_assoc, List.singleton_append, partsFrom_append_slash, partsFrom_append_slash,
      hsingle]
    simp [partsFrom]

/-! ## Extensions -/

lemma dropClosing_reverse {name : List Char} (hname : IsName name) (front : List Char) :
    dropClosing (name.reverse ++ front) = name.reverse ++ front := by
  cases hreverse : name.reverse with
  | nil => exact absurd (List.reverse_eq_nil_iff.mp hreverse) hname.ne_nil
  | cons c cs =>
    have hmem (x : Char) (hx : x ∈ c :: cs) : x ≠ '/' := by
      intro heq
      rw [← hreverse, List.mem_reverse] at hx
      exact hname.slash_notMem (heq ▸ hx)
    have hc : c ≠ '/' := hmem c List.mem_cons_self
    cases cs with
    | nil =>
      -- A single dot would be no name, so the slash in front of the name stays.
      have hdot : c ≠ '.' := by
        intro heq
        have hsingle := congrArg List.reverse hreverse
        rw [List.reverse_reverse, heq] at hsingle
        exact hname.ne_dot hsingle
      rw [List.cons_append]
      exact dropClosing.eq_3 _ (fun _ h => hc (List.cons.inj h).1)
        (fun _ h => hdot (List.cons.inj h).1)
    | cons d ds =>
      have hd : d ≠ '/' := hmem d (List.mem_cons_of_mem c List.mem_cons_self)
      rw [List.cons_append, List.cons_append]
      exact dropClosing.eq_3 _ (fun _ h => hc (List.cons.inj h).1)
        (fun _ h => hd (List.cons.inj (List.cons.inj h).2).1)

/-- The last name of a path that ends in a name. -/
lemma splitName?_append {front name : List Char} (hname : IsName name) (hfront : IsFront front) :
    splitName? (front ++ name) = some (front, name) := by
  have hpos : ∀ c ∈ name.reverse, (decide (c ≠ '/')) = true := by
    intro c hc
    apply decide_eq_true
    intro heq
    exact hname.slash_notMem (heq ▸ List.mem_reverse.mp hc)
  have htake := hfront.takeWhile_reverse
  have hdrop : front.reverse.dropWhile (· ≠ '/') = front.reverse := by
    have h := List.takeWhile_append_dropWhile (p := (· ≠ '/')) (l := front.reverse)
    rwa [htake, List.nil_append] at h
  have hno : ¬ (name = [] ∨ name = ['.'] ∨ name = ['.', '.']) := by
    rintro (h | h | h)
    · exact hname.ne_nil h
    · exact hname.ne_dot h
    · exact hname.ne_dots h
  simp only [splitName?, List.reverse_append, dropClosing_reverse hname]
  rw [List.takeWhile_append_of_pos hpos, List.dropWhile_append_of_pos hpos, htake, hdrop]
  simp [hno]

/-- A name with an extension is split at the dot in front of it. -/
lemma splitExtension_append {stem extension : List Char} (hstem : stem ≠ [])
    (hextension : '.' ∉ extension) :
    splitExtension (stem ++ '.' :: extension) = (stem, some extension) := by
  have hpos : ∀ c ∈ extension.reverse, (decide (c ≠ '.')) = true := by
    intro c hc
    apply decide_eq_true
    intro heq
    exact hextension (heq ▸ List.mem_reverse.mp hc)
  have hreverse : (stem ++ '.' :: extension).reverse = extension.reverse ++ '.' :: stem.reverse := by
    simp
  simp only [splitExtension, hreverse]
  rw [List.takeWhile_append_of_pos hpos, List.dropWhile_append_of_pos hpos]
  simp [hstem]

lemma isName_append_dot {stem extension : List Char} (hstem : stem ≠ []) (hdot : '.' ∉ stem)
    (hslash : '/' ∉ stem) (hextension : '/' ∉ extension) :
    IsName (stem ++ '.' :: extension) := by
  obtain ⟨c, cs, rfl⟩ := List.exists_cons_of_ne_nil hstem
  have hc : c ≠ '.' := fun h => hdot (h ▸ List.mem_cons_self)
  refine ⟨by simp, ?_, ?_, ?_⟩
  · intro h
    rcases List.mem_append.mp h with h | h
    · exact hslash h
    · rcases List.mem_cons.mp h with h | h
      · exact absurd h (by decide)
      · exact hextension h
  · intro h
    exact hc (List.cons.inj h).1
  · intro h
    exact hc (List.cons.inj h).1

/-- A new extension takes the place of the old one and leaves folder and stem alone. -/
theorem withExtension_join {stem old new : String} (hstem : stem ≠ "") (hdot : '.' ∉ stem.toList)
    (hslash : '/' ∉ stem.toList) (hold : '.' ∉ old.toList) (hold' : '/' ∉ old.toList)
    (hnew : '/' ∉ new.toList) (folder : String) :
    withExtension (join folder (stem ++ "." ++ old)) new = join folder (stem ++ "." ++ new) := by
  have hne : stem.toList ≠ [] := fun h => hstem (String.toList_eq_nil_iff.mp h)
  have hsplit (extension : String) :
      (stem ++ "." ++ extension).toList = stem.toList ++ '.' :: extension.toList := by
    simp [String.toList_append]
  have hname (extension : List Char) (h : '/' ∉ extension) :
      IsName (stem.toList ++ '.' :: extension) := isName_append_dot hne hdot hslash h
  have hfront := isFront_lead folder.toList
  have hcut : (lead folder.toList ++ (stem.toList ++ '.' :: old.toList)).take
      ((lead folder.toList ++ (stem.toList ++ '.' :: old.toList)).length - old.toList.length) =
      lead folder.toList ++ (stem.toList ++ '.' :: []) := by
    have hregroup : lead folder.toList ++ (stem.toList ++ '.' :: old.toList) =
        (lead folder.toList ++ (stem.toList ++ '.' :: [])) ++ old.toList := by simp
    rw [hregroup]
    exact List.take_left' (by simp only [List.length_append]; omega)
  apply String.toList_inj.mp
  rw [withExtension, String.toList_ofList, toList_join (by rw [hsplit]; exact hname _ hold'),
    toList_join (by rw [hsplit]; exact hname _ hnew), hsplit, hsplit, withExtensionChars,
    extensionChars?, splitName?_append (hname _ hold') hfront]
  simp only [Option.bind_eq_bind, Option.bind_some, splitExtension_append hne hold]
  rw [hcut, replaceExtension, splitName?_append (hname [] (by simp)) hfront]
  simp only [splitExtension_append hne (show '.' ∉ [] by simp)]
  rw [List.append_assoc]

/-! ## Siblings -/

/-- Two paths differ at most in their last parts. -/
def Siblings (p q : List Char) : Prop :=
  p = q ∨ ∃ front m n, IsFront front ∧ IsPart m ∧ IsPart n ∧ p = front ++ m ∧ q = front ++ n

lemma isFront_reverse_dropWhile (cs : List Char) :
    IsFront (cs.dropWhile (· ≠ '/')).reverse := by
  cases hdrop : cs.dropWhile (· ≠ '/') with
  | nil => exact .inl rfl
  | cons c rest =>
    have hc := List.head?_dropWhile_not (· ≠ '/') cs
    rw [hdrop] at hc
    refine .inr ?_
    simpa using hc

lemma slash_notMem_reverse_takeWhile (cs : List Char) :
    '/' ∉ (cs.takeWhile (· ≠ '/')).reverse := by
  intro h
  have hall := List.all_eq_true.mp (List.all_takeWhile (p := (· ≠ '/')) (l := cs))
  simpa using hall _ (List.mem_reverse.mp h)

/-- Every path has one place at which its last name begins. -/
lemma exists_front_append (path : List Char) :
    ∃ front name, IsFront front ∧ '/' ∉ name ∧ path = front ++ name := by
  refine ⟨(path.reverse.dropWhile (· ≠ '/')).reverse, (path.reverse.takeWhile (· ≠ '/')).reverse,
    isFront_reverse_dropWhile _, slash_notMem_reverse_takeWhile _, ?_⟩
  rw [← List.reverse_append, List.takeWhile_append_dropWhile, List.reverse_reverse]

lemma of_splitName? {path front name : List Char} (h : splitName? path = some (front, name)) :
    IsFront front ∧ '/' ∉ name := by
  rw [splitName?] at h
  split at h
  · contradiction
  · obtain ⟨rfl, rfl⟩ := Prod.mk.inj (Option.some.inj h)
    exact ⟨isFront_reverse_dropWhile _, slash_notMem_reverse_takeWhile _⟩

lemma splitExtension_fst_subset (name : List Char) : (splitExtension name).1 ⊆ name := by
  intro c hc
  rw [splitExtension] at hc
  split at hc
  · exact hc
  · have hmem := List.mem_of_mem_drop (List.mem_reverse.mp hc)
    exact List.mem_reverse.mp ((List.dropWhile_sublist _).subset hmem)

/-- An extension behind a stem makes a part. -/
lemma isPart_append_dot {stem extension : List Char} (hstem : '/' ∉ stem) (hextension : '/' ∉ extension) :
    IsPart (stem ++ '.' :: extension) := ⟨by simp, by simp [hstem, hextension]⟩

/-- The same path with two other extensions. -/
theorem siblings_withExtensionChars (path : List Char) {e f : List Char} (he : '/' ∉ e)
    (hf : '/' ∉ f) : Siblings (withExtensionChars path e) (withExtensionChars path f) := by
  have hreplace (path : List Char) :
      Siblings (replaceExtension path e) (replaceExtension path f) := by
    rw [replaceExtension, replaceExtension]
    cases hsplit : splitName? path with
    | none => exact .inl rfl
    | some split =>
      obtain ⟨front, name⟩ := split
      obtain ⟨hfront, hname⟩ := of_splitName? hsplit
      have hstem : '/' ∉ (splitExtension name).1 := fun h => hname (splitExtension_fst_subset name h)
      exact .inr ⟨front, _, _, hfront, isPart_append_dot hstem he, isPart_append_dot hstem hf,
        List.append_assoc _ _ _, List.append_assoc _ _ _⟩
  rw [withExtensionChars, withExtensionChars]
  cases extensionChars? path with
  | none => exact hreplace path
  | some present => exact hreplace _

/-- `..` is no name, so no extension goes into it. -/
lemma splitName?_dots {front : List Char} (h : IsFront front) :
    splitName? (front ++ ['.', '.']) = none := by
  have hclosing : dropClosing ('.' :: '.' :: front.reverse) = '.' :: '.' :: front.reverse :=
    dropClosing.eq_3 _ (by simp) (by simp)
  have hname : ((front ++ ['.', '.']).reverse.takeWhile (· ≠ '/')).reverse = ['.', '.'] := by
    have htake := h.takeWhile_reverse
    simp only [List.reverse_append, List.reverse_cons, List.reverse_nil, List.nil_append,
      List.cons_append] at htake ⊢
    rw [List.takeWhile_cons_of_pos (by decide), List.takeWhile_cons_of_pos (by decide), htake]
    rfl
  have hreverse : (front ++ ['.', '.']).reverse = '.' :: '.' :: front.reverse := by simp
  rw [hreverse] at hname
  rw [splitName?, hreverse]
  simp only [hclosing, hname]
  simp

lemma exists_replaceExtension_append {front name : List Char} (hfront : IsFront front)
    (hname : IsPart name) (hdot : name ≠ ['.']) {e : List Char} (he : '/' ∉ e) :
    ∃ n, IsPart n ∧ replaceExtension (front ++ name) e = front ++ n := by
  by_cases hdots : name = ['.', '.']
  · refine ⟨name, hname, ?_⟩
    rw [replaceExtension, hdots, splitName?_dots hfront]
  · have hstem : '/' ∉ (splitExtension name).1 :=
      fun h => hname.slash_notMem (splitExtension_fst_subset name h)
    refine ⟨(splitExtension name).1 ++ '.' :: e, isPart_append_dot hstem he, ?_⟩
    rw [replaceExtension, splitName?_append ⟨hname.ne_nil, hname.slash_notMem, hdot, hdots⟩ hfront]
    simp only [List.append_assoc]

lemma of_splitExtension {name stem present : List Char}
    (h : splitExtension name = (stem, some present)) :
    name = stem ++ '.' :: present ∧ stem ≠ [] := by
  rw [splitExtension] at h
  split at h
  · simp at h
  · next hempty =>
    obtain ⟨rfl, hpresent⟩ := Prod.mk.inj h
    have hsplit := List.takeWhile_append_dropWhile (p := (· ≠ '.')) (l := name.reverse)
    cases hdrop : name.reverse.dropWhile (· ≠ '.') with
    | nil => exact absurd (by rw [hdrop]; rfl) hempty
    | cons c rest =>
      have hc := List.head?_dropWhile_not (· ≠ '.') name.reverse
      rw [hdrop] at hc hsplit hempty
      have hdot : c = '.' := by simpa using hc
      have hname := congrArg List.reverse hsplit
      rw [List.reverse_reverse] at hname
      refine ⟨?_, by simpa using hempty⟩
      rw [← hname, ← Option.some.inj hpresent, hdot]
      simp

/-- A path that ends in a name is a sibling of what another extension makes of it. -/
theorem siblings_withExtensionChars_self {front name : List Char} (hfront : IsFront front)
    (hname : IsName name) {e : List Char} (he : '/' ∉ e) :
    Siblings (front ++ name) (withExtensionChars (front ++ name) e) := by
  rw [withExtensionChars, extensionChars?, splitName?_append hname hfront]
  simp only [Option.bind_eq_bind, Option.bind_some]
  cases hsplit : splitExtension name with
  | mk stem present =>
    cases present with
    | none =>
      obtain ⟨n, hn, heq⟩ := exists_replaceExtension_append hfront hname.isPart hname.ne_dot he
      exact .inr ⟨front, name, n, hfront, hname.isPart, hn, rfl, heq⟩
    | some present =>
      obtain ⟨rfl, hstem⟩ := of_splitExtension hsplit
      have hcut : (front ++ (stem ++ '.' :: present)).take
          ((front ++ (stem ++ '.' :: present)).length - present.length) =
          front ++ (stem ++ ['.']) := by
        have hregroup : front ++ (stem ++ '.' :: present) =
            (front ++ (stem ++ ['.'])) ++ present := by simp
        rw [hregroup]
        exact List.take_left' (by simp only [List.length_append]; omega)
      have hslash : '/' ∉ stem := fun h => hname.slash_notMem (List.mem_append_left _ h)
      obtain ⟨n, hn, heq⟩ := exists_replaceExtension_append hfront
        (isPart_append_dot hslash (show '/' ∉ [] by simp)) (by simpa using hstem) he
      dsimp only
      rw [hcut]
      exact .inr ⟨front, _, n, hfront, hname.isPart, hn, rfl, heq⟩

end HostScript.Path
