/-
Paths of units.

The file of a unit lies in the folders that its package is made of. Where the parts of the package
and the name of the type are identifiers, the path is these parts with slashes between them
(`WellNamed.path_eq`), as the qualified name is the same parts with dots between them
(`WellNamed.qualified_eq`), and no part is lost in either of them:

* `WellNamed.pathSteps_path` — the path leads through these folders to this file,
* `WellNamed.path_eq_path_iff` — two units have one path just if they go by one name.

A path behind another one is followed from where that one leads to (`pathSteps_joinPath`).
-/
import ResolverGen.Code.Scope
import ResolverGen.Store.Disk

namespace ResolverGen

namespace Text

variable {mark : Char} {separator : String}

theorem splitAt_eq (mark : Char) (cs : List Char) : splitAt mark cs = cs.splitOn mark := by
  induction cs with
  | nil => rfl
  | cons c cs ih =>
    rw [splitAt, ih, List.splitOn, List.splitOn, List.splitOnP_cons_eq_if_modifyHead]
    by_cases h : c = mark
    · rw [if_pos h, if_pos (beq_iff_eq.2 h)]
    · rw [if_neg h, if_neg (by simpa using h)]
      cases hparts : cs.splitOnP (· == mark) with
      | nil => exact absurd hparts (List.splitOn_ne_nil mark cs)
      | cons part parts => rfl

theorem toList_join (separator : String) (parts : List String) :
    (join separator parts).toList = separator.toList.intercalate (parts.map String.toList) := by
  induction parts with
  | nil => simp [join]
  | cons part parts ih =>
    cases parts with
    | nil => simp [join]
    | cons next rest =>
      rw [join_cons_cons, String.toList_append, String.toList_append, ih]
      simp only [List.map_cons, List.intercalate_cons_cons, List.append_assoc]

/-- Parts that have been joined are what comes of cutting them apart, if the separator is in none of
them. -/
theorem splitAt_join (hseparator : separator.toList = [mark]) {parts : List String}
    (hne : parts ≠ []) (h : ∀ part ∈ parts, mark ∉ part.toList) :
    (splitAt mark (join separator parts).toList).map String.ofList = parts := by
  have hlists : ∀ part ∈ parts.map String.toList, mark ∉ part := by
    intro part hpart
    obtain ⟨s, hs, rfl⟩ := List.mem_map.1 hpart
    exact h s hs
  rw [splitAt_eq, toList_join, hseparator,
    List.splitOn_intercalate mark hlists (by simpa using hne), List.map_map]
  simp [Function.comp_def]

theorem join_splitAt (hseparator : separator.toList = [mark]) (s : String) :
    join separator ((splitAt mark s.toList).map String.ofList) = s := by
  apply String.toList_injective
  rw [toList_join, hseparator, List.map_map, splitAt_eq]
  simp [Function.comp_def, List.intercalate_splitOn]

/-- Joining loses no part. -/
theorem join_injective (hseparator : separator.toList = [mark]) {parts parts' : List String}
    (hne : parts ≠ []) (hne' : parts' ≠ []) (h : ∀ part ∈ parts, mark ∉ part.toList)
    (h' : ∀ part ∈ parts', mark ∉ part.toList)
    (heq : join separator parts = join separator parts') : parts = parts' := by
  rw [← splitAt_join hseparator hne h, heq, splitAt_join hseparator hne' h']

theorem join_concat (separator part : String) {parts : List String} (h : parts ≠ []) :
    join separator (parts ++ [part]) = join separator parts ++ separator ++ part := by
  induction parts with
  | nil => exact absurd rfl h
  | cons first parts ih =>
    cases parts with
    | nil => rfl
    | cons second rest =>
      rw [List.cons_append, List.cons_append, join_cons_cons, join_cons_cons, ← List.cons_append,
        ih (List.cons_ne_nil _ _)]
      simp only [String.append_assoc]

end Text

/-- Whether a text can be an identifier as far as paths go: there is something to it, but no dot and
no slash. -/
structure IsIdentifier (s : String) : Prop where
  nonempty : s ≠ ""
  noDot : '.' ∉ s.toList
  noSlash : '/' ∉ s.toList

instance (s : String) : Decidable (IsIdentifier s) :=
  decidable_of_iff (s ≠ "" ∧ '.' ∉ s.toList ∧ '/' ∉ s.toList)
    ⟨fun h => ⟨h.1, h.2.1, h.2.2⟩, fun h => ⟨h.nonempty, h.noDot, h.noSlash⟩⟩

/-- Whether a text is empty, as the name of the default package is, or identifiers with dots between
them. -/
def IsPackageName (s : String) : Prop :=
  s = "" ∨ ∀ part ∈ Text.splitAt '.' s.toList, IsIdentifier (String.ofList part)

instance (s : String) : Decidable (IsPackageName s) :=
  inferInstanceAs
    (Decidable (s = "" ∨ ∀ part ∈ Text.splitAt '.' s.toList, IsIdentifier (String.ofList part)))

/-- Whether a step leads to what goes by that name in a folder. -/
structure IsEntry (step : String) : Prop where
  nonempty : step ≠ ""
  noDot : step ≠ "."
  noDots : step ≠ ".."
  noSlash : '/' ∉ step.toList

theorem IsIdentifier.isEntry {s : String} (h : IsIdentifier s) : IsEntry s := by
  refine ⟨h.nonempty, ?_, ?_, h.noSlash⟩ <;> rintro rfl <;> exact absurd h.noDot (by decide)

/-- The file of a type is not taken for a step of another kind. -/
theorem isEntry_file {s : String} (h : '/' ∉ s.toList) : IsEntry (s ++ ".java") := by
  have hlong : 5 ≤ (s ++ ".java").length := by
    rw [String.length_append]
    exact Nat.le_add_left 5 s.length
  refine ⟨?_, ?_, ?_, ?_⟩
  · intro heq
    rw [heq] at hlong
    exact absurd hlong (by decide)
  · intro heq
    rw [heq] at hlong
    exact absurd hlong (by decide)
  · intro heq
    rw [heq] at hlong
    exact absurd hlong (by decide)
  · rw [String.toList_append, List.mem_append, not_or]
    exact ⟨h, by decide⟩

theorem IsIdentifier.isEntry_file {s : String} (h : IsIdentifier s) : IsEntry (s ++ ".java") :=
  ResolverGen.isEntry_file h.noSlash

theorem Location.step_of_isEntry {step : String} (h : IsEntry step) (l : Location) :
    l.step step = l ++ [step] := by
  rw [Location.step, if_neg (by simp [h.nonempty, h.noDot]), if_neg h.noDots]

namespace Code

/-! ### Steps -/

theorem joinPath_join {steps : List String} {step : String} (hsteps : ∀ s ∈ steps, IsEntry s)
    (hstep : '/' ∉ step.toList) :
    joinPath (Text.join "/" steps) step = Text.join "/" (steps ++ [step]) := by
  have hhead : step.toList.head? ≠ some '/' := fun h => hstep (List.mem_of_mem_head? h)
  rw [joinPath, if_neg hhead]
  rcases List.eq_nil_or_concat steps with rfl | ⟨before, last, rfl⟩
  · exact String.empty_append
  · rw [List.concat_eq_append] at hsteps ⊢
    have hlast : IsEntry last := hsteps last (by simp)
    have hchars : last.toList ≠ [] := by simpa using hlast.nonempty
    -- the path so far ends as its last step does, and so not in a slash
    have hend : (Text.join "/" (before ++ [last])).toList.getLast? = last.toList.getLast? := by
      cases before with
      | nil => rfl
      | cons first rest =>
        rw [Text.join_concat _ _ (List.cons_ne_nil _ _), String.toList_append, List.getLast?_append,
          List.getLast?_eq_some_getLast hchars, Option.some_or]
    have hslash : last.toList.getLast? ≠ some '/' := fun h =>
      hlast.noSlash (List.mem_of_getLast? h)
    have hne : Text.join "/" (before ++ [last]) ≠ "" := by
      intro hempty
      rw [hempty, List.getLast?_eq_some_getLast hchars] at hend
      cases hend
    rw [if_neg (by simp [hne, hend, hslash]),
      Text.join_concat _ step (List.append_ne_nil_of_right_ne_nil before (List.cons_ne_nil last []))]

theorem foldl_joinPath {steps more : List String} (h : ∀ s ∈ steps ++ more, IsEntry s) :
    more.foldl joinPath (Text.join "/" steps) = Text.join "/" (steps ++ more) := by
  induction more generalizing steps with
  | nil => rw [List.append_nil, List.foldl_nil]
  | cons step more ih =>
    have hstep : IsEntry step := h step (by simp)
    rw [List.foldl_cons, joinPath_join (fun s hs => h s (List.mem_append_left _ hs)) hstep.noSlash,
      ih (by simpa using h), List.append_assoc, List.singleton_append]

namespace Scope

variable {s t : Scope}

/-- The folders of a package. -/
def folders (s : Scope) : List String :=
  ((Text.splitAt '.' s.package.toList).map String.ofList).filter (· != "")

/-- The folders of a package and the file of the type. -/
def steps (s : Scope) : List String := s.folders ++ [s.typeName ++ ".java"]

/-- Whether a unit declares a type whose name is an identifier in a package of identifiers. -/
structure WellNamed (s : Scope) : Prop where
  package : IsPackageName s.package
  typeName : IsIdentifier s.typeName

theorem folders_of_default (h : s.package = "") : s.folders = [] := by
  rw [folders, h]
  rfl

theorem steps_ne_nil (s : Scope) : s.steps ≠ [] := List.append_ne_nil_of_right_ne_nil _ (by simp)

namespace WellNamed

theorem isIdentifier_of_mem_folders (h : s.WellNamed) : ∀ step ∈ s.folders, IsIdentifier step := by
  intro step hstep
  rcases h.package with hdefault | hparts
  · rw [folders_of_default hdefault] at hstep
    cases hstep
  · obtain ⟨part, hpart, rfl⟩ := List.mem_map.1 (List.mem_filter.1 hstep).1
    exact hparts part hpart

theorem isEntry_of_mem_steps (h : s.WellNamed) : ∀ step ∈ s.steps, IsEntry step := by
  intro step hstep
  rcases List.mem_append.1 hstep with hfolder | hfile
  · exact (h.isIdentifier_of_mem_folders step hfolder).isEntry
  · rw [List.mem_singleton] at hfile
    rw [hfile]
    exact h.typeName.isEntry_file

theorem join_folders (h : s.WellNamed) : Text.join "." s.folders = s.package := by
  rcases h.package with hdefault | hparts
  · rw [folders_of_default hdefault, hdefault]
    rfl
  · have hall : s.folders = (Text.splitAt '.' s.package.toList).map String.ofList := by
      refine List.filter_eq_self.2 fun step hstep => ?_
      obtain ⟨part, hpart, rfl⟩ := List.mem_map.1 hstep
      exact bne_iff_ne.2 (hparts part hpart).nonempty
    rw [hall]
    exact Text.join_splitAt (by decide) _

theorem path_eq (h : s.WellNamed) : s.path = Text.join "/" s.steps := by
  have hentries := h.isEntry_of_mem_steps
  have hfolders : s.folders.foldl joinPath "" = Text.join "/" s.folders :=
    @foldl_joinPath [] s.folders fun step hstep => hentries step (List.mem_append_left _ hstep)
  have hpath : s.path = joinPath (s.folders.foldl joinPath "") (s.typeName ++ ".java") := rfl
  rw [hpath, hfolders]
  exact joinPath_join (fun step hstep => hentries step (List.mem_append_left _ hstep))
    h.typeName.isEntry_file.noSlash

theorem qualified_eq (h : s.WellNamed) :
    s.declared.qualified = Text.join "." (s.folders ++ [s.typeName]) := by
  by_cases hpackage : s.package = ""
  · rw [folders_of_default hpackage, ClassName.qualified, declared, if_pos hpackage]
    rfl
  · have hne : s.folders ≠ [] := by
      intro hnil
      rw [← h.join_folders, hnil] at hpackage
      exact hpackage rfl
    rw [Text.join_concat _ _ hne, h.join_folders, ClassName.qualified, declared, if_neg hpackage]

/-- The path of a unit leads through the folders of its package to the file of its type. -/
theorem pathSteps_path (h : s.WellNamed) : pathSteps s.path = s.steps := by
  rw [h.path_eq, pathSteps]
  exact Text.splitAt_join (by decide) s.steps_ne_nil fun step hstep =>
    (h.isEntry_of_mem_steps step hstep).noSlash

/-- A path that starts anew makes an empty step. -/
theorem head?_path (h : s.WellNamed) : s.path.toList.head? ≠ some '/' := by
  intro hhead
  obtain ⟨rest, hrest⟩ := List.head?_eq_some_iff.1 hhead
  have hmem : "" ∈ pathSteps s.path := by
    rw [pathSteps, hrest, Text.splitAt, if_pos rfl]
    exact List.mem_cons_self
  rw [h.pathSteps_path] at hmem
  exact (h.isEntry_of_mem_steps "" hmem).nonempty rfl

/-- Units have one path just if they go by one name. -/
theorem path_eq_path_iff (hs : s.WellNamed) (ht : t.WellNamed) :
    s.path = t.path ↔ s.declared.qualified = t.declared.qualified := by
  rw [hs.qualified_eq, ht.qualified_eq]
  constructor
  · intro hpath
    have hsteps : s.steps = t.steps := by
      rw [← hs.pathSteps_path, hpath, ht.pathSteps_path]
    obtain ⟨hfolders, hfile⟩ := List.append_inj' hsteps rfl
    have hname : s.typeName = t.typeName := by
      simpa using hfile
    rw [hfolders, hname]
  · intro hname
    -- no part of a name has a dot in it
    have hdots {r : Scope} (hr : r.WellNamed) :
        ∀ part ∈ r.folders ++ [r.typeName], '.' ∉ part.toList := by
      intro part hpart
      rcases List.mem_append.1 hpart with hfolder | hlast
      · exact (hr.isIdentifier_of_mem_folders part hfolder).noDot
      · rw [List.mem_singleton.1 hlast]
        exact hr.typeName.noDot
    have hparts := Text.join_injective (by decide) (by simp) (by simp) (hdots hs) (hdots ht) hname
    obtain ⟨hfolders, hlast⟩ := List.append_inj' hparts rfl
    rw [hs.path_eq, ht.path_eq, steps, steps, hfolders, List.cons.inj hlast |>.1]

end WellNamed

end Scope

end Code

/-! ### Paths behind paths -/

section

variable {out path : String}

theorem joinPath_empty (h : path.toList.head? ≠ some '/') : Code.joinPath "" path = path := by
  rw [Code.joinPath, if_neg h, if_pos (by decide), String.empty_append]

/-- A path behind another one makes the steps of that one first, but for the empty one that an empty
path or a slash at the end makes. -/
theorem pathSteps_joinPath (out : String) (h : path.toList.head? ≠ some '/') :
    ∃ steps, pathSteps (Code.joinPath out path) = steps ++ pathSteps path ∧
      (pathSteps out = steps ∨ pathSteps out = steps ++ [""]) := by
  have hsplit (before behind : List Char) : Text.splitAt '/' (before ++ '/' :: behind) =
      Text.splitAt '/' before ++ Text.splitAt '/' behind := by
    simp only [Text.splitAt_eq]
    exact List.splitOnP_append_cons _ _ (by decide)
  by_cases hempty : out = ""
  · refine ⟨[], ?_, .inr ?_⟩
    · rw [hempty, joinPath_empty h, List.nil_append]
    · rw [hempty]
      rfl
  · rw [Code.joinPath, if_neg h]
    by_cases hend : out.toList.getLast? = some '/'
    · obtain ⟨before, hbefore⟩ := List.getLast?_eq_some_iff.1 hend
      refine ⟨(Text.splitAt '/' before).map String.ofList, ?_, .inr ?_⟩
      · rw [if_pos (by simp [hend]), pathSteps, pathSteps, String.toList_append, hbefore,
          List.append_assoc, List.singleton_append, hsplit, List.map_append]
      · rw [pathSteps, hbefore, hsplit, List.map_append]
        rfl
    · refine ⟨pathSteps out, ?_, .inl rfl⟩
      have hlist : (out ++ "/" ++ path).toList = out.toList ++ '/' :: path.toList := by
        simp
      rw [if_neg (by simp [hempty, hend]), pathSteps, pathSteps, pathSteps, hlist, hsplit,
        List.map_append]

theorem pathStart_joinPath (folder : Location) (h : path.toList.head? ≠ some '/') :
    pathStart folder (Code.joinPath out path) = pathStart folder out := by
  by_cases hempty : out = ""
  · rw [hempty, joinPath_empty h, pathStart, if_neg h]
    rfl
  · obtain ⟨rest, hrest⟩ : ∃ rest, Code.joinPath out path = out ++ rest := by
      rw [Code.joinPath, if_neg h]
      split
      · exact ⟨path, rfl⟩
      · exact ⟨"/" ++ path, String.append_assoc ..⟩
    have hhead : (out ++ rest).toList.head? = out.toList.head? := by
      cases hchars : out.toList with
      | nil => exact absurd (String.toList_eq_nil_iff.1 hchars) hempty
      | cons c cs => simp [hchars]
    rw [pathStart, pathStart, hrest, hhead]

end

end ResolverGen
