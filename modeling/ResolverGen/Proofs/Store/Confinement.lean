/-
Whether a file lies below the output directory.

Nothing is asked of the names of classes and packages, and each part of them is a step of a unit's
path: a slash in front starts the path anew, and between slashes there can be steps of any kind.
`Location.descend?` follows steps below a folder and gives up where they leave it, and
`ClassName.StaysBelow` says of a name that none of its parts starts anew and that what is in front of
its last slash does not lead out of the package's folders.

* `Scope.below_iff` — the file of a unit lies below every output directory just if the name of its
  type stays below,
* `ClassName.staysBelow_append` — the units of a class stay below just if the class does,
* `ClassName.staysBelow_of_noSlash` — which it does if there is no slash in its name,
* `Disk.files_of_writeUnit` — the path of a unit leads to where its file is written.
-/
import Mathlib.Data.Fintype.EquivFin
import ResolverGen.Proofs.Fault
import ResolverGen.Proofs.Store.Paths

namespace ResolverGen

/-! ### Parts of a text -/

namespace Text

variable {mark : Char} {extension part cs : List Char}

theorem splitAt_eq_singleton (h : mark ∉ cs) : splitAt mark cs = [cs] := by
  rw [splitAt_eq, List.splitOn_eq_singleton h]

/-- What is put behind a text is put behind its last part, if it is not cut itself. -/
theorem splitAt_append (h : mark ∉ extension) (cs : List Char) : ∃ before last, mark ∉ last ∧
    splitAt mark cs = before ++ [last] ∧
      splitAt mark (cs ++ extension) = before ++ [last ++ extension] := by
  induction cs with
  | nil => exact ⟨[], [], List.not_mem_nil, rfl, splitAt_eq_singleton h⟩
  | cons c cs ih =>
    obtain ⟨before, last, hlast, hcs, hmore⟩ := ih
    by_cases hc : c = mark
    · refine ⟨[] :: before, last, hlast, ?_, ?_⟩
      · rw [splitAt, if_pos hc, hcs, List.cons_append]
      · rw [List.cons_append, splitAt, if_pos hc, hmore, List.cons_append]
    · -- the character belongs to the first part, which may be the last one
      cases before with
      | nil =>
        refine ⟨[], c :: last, by simp [hlast, Ne.symm hc], ?_, ?_⟩
        · rw [splitAt, if_neg hc, hcs]
          rfl
        · rw [List.cons_append, splitAt, if_neg hc, hmore]
          rfl
      | cons first before =>
        refine ⟨(c :: first) :: before, last, hlast, ?_, ?_⟩
        · rw [splitAt, if_neg hc, hcs]
          rfl
        · rw [List.cons_append, splitAt, if_neg hc, hmore]
          rfl

/-- A part of a text is made of its characters and cannot be cut any more. -/
theorem of_mem_splitAt (h : part ∈ splitAt mark cs) : mark ∉ part ∧ part ⊆ cs := by
  induction cs generalizing part with
  | nil =>
    rw [splitAt, List.mem_singleton] at h
    simp [h]
  | cons c cs ih =>
    rw [splitAt] at h
    split at h
    · rcases List.mem_cons.1 h with rfl | h
      · simp
      · exact ⟨(ih h).1, List.subset_cons_of_subset c (ih h).2⟩
    · next hc =>
      split at h
      · rw [List.mem_singleton] at h
        simp [h, Ne.symm hc]
      · next first parts hcs =>
        rw [hcs] at ih
        rcases List.mem_cons.1 h with rfl | h
        · obtain ⟨hmark, hsub⟩ := ih List.mem_cons_self
          exact ⟨by simp [hmark, Ne.symm hc], List.cons_subset_cons c hsub⟩
        · obtain ⟨hmark, hsub⟩ := ih (List.mem_cons_of_mem first h)
          exact ⟨hmark, List.subset_cons_of_subset c hsub⟩

end Text

/-! ### Steps below a folder -/

namespace Location

variable {folder rest rest' : Location} {step name : String} {steps : List String}

/-- Whether a location is behind a folder, and not the folder itself. -/
def IsBelow (l folder : Location) : Prop := ∃ rest, rest ≠ [] ∧ l = folder ++ rest

/-- Where steps lead from a place below a folder, unless they leave the folder on their way. -/
def descend? : Location → List String → Option Location
  | rest, [] => some rest
  | rest, step :: steps =>
    if step = ".." ∧ rest = [] then none else descend? (rest.step step) steps

theorem not_isBelow_self (l : Location) : ¬l.IsBelow l := by
  rintro ⟨rest, hrest, hl⟩
  exact hrest (List.self_eq_append_right.1 hl)

/-- A step that does not leave a folder is the same step from wherever the folder is. -/
theorem step_append (h : ¬(step = ".." ∧ rest = [])) (folder : Location) :
    (folder ++ rest).step step = folder ++ rest.step step := by
  unfold Location.step
  split
  · rfl
  · split
    · next hup =>
      have hrest : rest ≠ [] := fun hnil => h ⟨hup, hnil⟩
      exact List.dropLast_append_of_ne_nil hrest
    · exact List.append_assoc ..

theorem foldl_step_of_descend? (h : descend? rest steps = some rest') (folder : Location) :
    steps.foldl Location.step (folder ++ rest) = folder ++ rest' := by
  induction steps generalizing rest with
  | nil => rw [List.foldl_nil, Option.some.inj h]
  | cons step steps ih =>
    rw [descend?] at h
    split at h
    · cases h
    · next hstays =>
      rw [List.foldl_cons, step_append hstays]
      exact ih h

theorem descend?_append (rest : Location) (steps more : List String) :
    descend? rest (steps ++ more) = (descend? rest steps).bind (descend? · more) := by
  induction steps generalizing rest with
  | nil => rfl
  | cons step steps ih =>
    rw [List.cons_append, descend?, descend?]
    split
    · rfl
    · exact ih _

/-- Steps that are entries of folders only lead down. -/
theorem descend?_isSome (h : ".." ∉ steps) (rest : Location) : (descend? rest steps).isSome := by
  induction steps generalizing rest with
  | nil => rfl
  | cons step steps ih =>
    rw [List.mem_cons, not_or] at h
    rw [descend?, if_neg fun hup => h.1 hup.1.symm]
    exact ih h.2 _

theorem mem_of_mem_foldl_step {l : Location} (h : name ∈ steps.foldl Location.step l) :
    name ∈ l ∨ name ∈ steps := by
  induction steps generalizing l with
  | nil => exact .inl h
  | cons step steps ih =>
    rcases ih h with hl | hsteps
    · rw [Location.step] at hl
      split at hl
      · exact .inl hl
      · split at hl
        · exact .inl (List.dropLast_subset l hl)
        · rcases List.mem_append.1 hl with hl | hstep
          · exact .inl hl
          · exact .inr (List.mem_cons.2 (.inl (List.mem_singleton.1 hstep)))
    · exact .inr (List.mem_cons_of_mem step hsteps)

/-- Steps that leave a folder do not come back to it if they do not know its name. -/
theorem not_mem_of_descend?_eq_none (h : descend? rest steps = none) (hname : name ∉ steps) :
    name ∉ steps.foldl Location.step ([name] ++ rest) := by
  induction steps generalizing rest with
  | nil => cases h
  | cons step steps ih =>
    rw [List.mem_cons, not_or] at hname
    rw [List.foldl_cons]
    by_cases hup : step = ".." ∧ rest = []
    · -- from here on there is nothing but the steps that follow
      obtain ⟨rfl, rfl⟩ := hup
      intro hmem
      rcases mem_of_mem_foldl_step hmem with hroot | hsteps
      · cases hroot
      · exact hname.2 hsteps
    · rw [descend?, if_neg hup] at h
      rw [step_append hup]
      exact ih h hname.2

end Location

/-! ### The entries of a path -/

/-- The steps of a path that are not empty. -/
def pathEntries (path : String) : List String := (pathSteps path).filter (· ≠ "")

section

variable {out path step : String} {steps : List String} {folder : Location}

theorem foldl_step_filter (steps : List String) (l : Location) :
    (steps.filter (· ≠ "")).foldl Location.step l = steps.foldl Location.step l := by
  induction steps generalizing l with
  | nil => rfl
  | cons step steps ih =>
    by_cases hempty : step = ""
    · have hstay : l.step step = l := by simp [Location.step, hempty]
      rw [List.filter_cons_of_neg (by simpa using hempty), List.foldl_cons, hstay, ih]
    · rw [List.filter_cons_of_pos (by simpa using hempty), List.foldl_cons, List.foldl_cons, ih]

theorem descend?_filter (rest : Location) (steps : List String) :
    Location.descend? rest (steps.filter (· ≠ "")) = Location.descend? rest steps := by
  induction steps generalizing rest with
  | nil => rfl
  | cons step steps ih =>
    by_cases hempty : step = ""
    · have hstay : rest.step step = rest := by simp [Location.step, hempty]
      rw [List.filter_cons_of_neg (by simpa using hempty), Location.descend?,
        if_neg (by simp [hempty]), hstay, ih]
    · rw [List.filter_cons_of_pos (by simpa using hempty), Location.descend?, Location.descend?]
      split
      · rfl
      · exact ih _

theorem resolve_dot (folder : Location) : resolve folder "." = folder := by
  have hsteps : pathSteps "." = ["."] := by decide
  have hstart : pathStart folder "." = folder := if_neg (by decide)
  rw [resolve, hsteps, hstart]
  simp [Location.step]

/-- A path that starts anew leads to one place from everywhere. -/
theorem resolve_joinPath_of_slash (h : path.toList.head? = some '/') :
    resolve folder (Code.joinPath out path) = resolve [] path := by
  rw [Code.joinPath, if_pos h, resolve, resolve, pathStart, pathStart, if_pos h, if_pos h]

theorem pathEntries_joinPath (out : String) (h : path.toList.head? ≠ some '/') :
    pathEntries (Code.joinPath out path) = pathEntries out ++ pathEntries path := by
  obtain ⟨steps, hjoined, hout | hout⟩ := pathSteps_joinPath out h
  · rw [pathEntries, pathEntries, pathEntries, hjoined, hout, List.filter_append]
  · rw [pathEntries, pathEntries, pathEntries, hjoined, hout, List.filter_append,
      List.filter_append]
    simp

/-- Every other path is followed from where the one before it leads to. -/
theorem resolve_joinPath (out : String) (h : path.toList.head? ≠ some '/') :
    resolve folder (Code.joinPath out path) =
      (pathEntries path).foldl Location.step (resolve folder out) := by
  have hall : resolve folder (Code.joinPath out path) =
      (pathEntries (Code.joinPath out path)).foldl Location.step (pathStart folder out) := by
    rw [pathEntries, foldl_step_filter, resolve, pathStart_joinPath folder h]
  rw [hall, pathEntries_joinPath out h, List.foldl_append, pathEntries, foldl_step_filter]
  rfl

theorem head?_joinPath : (Code.joinPath out step).toList.head? = some '/' ↔
    out.toList.head? = some '/' ∨ step.toList.head? = some '/' := by
  by_cases hstep : step.toList.head? = some '/'
  · simp [Code.joinPath, hstep]
  · by_cases hout : out = ""
    · rw [hout, joinPath_empty hstep]
      simp
    · obtain ⟨c, cs, hchars⟩ := List.exists_cons_of_ne_nil
        (fun hnil => hout (String.toList_eq_nil_iff.1 hnil))
      rw [Code.joinPath, if_neg hstep]
      split <;> simp [hchars, hstep]

theorem head?_foldl_joinPath (steps : List String) (path : String) :
    (steps.foldl Code.joinPath path).toList.head? = some '/' ↔
      path.toList.head? = some '/' ∨ ∃ step ∈ steps, step.toList.head? = some '/' := by
  induction steps generalizing path with
  | nil => simp
  | cons step steps ih =>
    rw [List.foldl_cons, ih, head?_joinPath, List.exists_mem_cons_iff, or_assoc]

theorem pathEntries_foldl_joinPath (h : ∀ step ∈ steps, step.toList.head? ≠ some '/')
    (path : String) : pathEntries (steps.foldl Code.joinPath path) =
      pathEntries path ++ steps.flatMap pathEntries := by
  induction steps generalizing path with
  | nil => simp
  | cons step steps ih =>
    rw [List.foldl_cons, ih fun s hs => h s (List.mem_cons_of_mem step hs),
      pathEntries_joinPath path (h step List.mem_cons_self), List.flatMap_cons, List.append_assoc]

theorem pathSteps_of_noSlash {name : String} (h : '/' ∉ name.toList) : pathSteps name = [name] := by
  rw [pathSteps, Text.splitAt_eq_singleton h, List.map_singleton, String.ofList_toList]

theorem pathSteps_append {extension : String} (h : '/' ∉ extension.toList) (name : String) :
    ∃ last, '/' ∉ last.toList ∧ pathSteps name = (pathSteps name).dropLast ++ [last] ∧
      pathSteps (name ++ extension) = (pathSteps name).dropLast ++ [last ++ extension] := by
  obtain ⟨before, last, hlast, hname, hmore⟩ := Text.splitAt_append h name.toList
  have hsteps : pathSteps name = before.map String.ofList ++ [String.ofList last] := by
    rw [pathSteps, hname, List.map_append, List.map_singleton]
  refine ⟨String.ofList last, by rwa [String.toList_ofList], ?_, ?_⟩
  · rw [hsteps, List.dropLast_concat]
  · rw [hsteps, List.dropLast_concat, pathSteps, String.toList_append, hmore, List.map_append,
      List.map_singleton]
    simp

theorem head?_append_of_noSlash {extension : String} (h : '/' ∉ extension.toList) (name : String) :
    (name ++ extension).toList.head? = some '/' ↔ name.toList.head? = some '/' := by
  have hextension : extension.toList.head? ≠ some '/' := fun hhead =>
    h (List.mem_of_mem_head? hhead)
  cases hname : name.toList with
  | nil => simp [hname, hextension]
  | cons c cs => simp [hname]

end

/-! ### Names that stay below -/

namespace Code

namespace ClassName

variable {c : ClassName} {package name suffix : String}

/-- The folders of the package, which may have slashes in them. -/
def folders (c : ClassName) : List String := (Scope.ofUnit c.package c.simple).folders

/-- The steps to the folder that the file of a class lies in. -/
def way (c : ClassName) : List String :=
  c.folders.flatMap pathSteps ++ (pathSteps c.simple).dropLast

/-- Whether no part of a name starts anew, and the way to its file does not leave the folder that it
starts in. -/
structure StaysBelow (c : ClassName) : Prop where
  relative : ∀ part ∈ c.folders ++ [c.simple], part.toList.head? ≠ some '/'
  inside : (Location.descend? [] c.way).isSome = true

instance (c : ClassName) : Decidable c.StaysBelow :=
  decidable_of_iff ((∀ part ∈ c.folders ++ [c.simple], part.toList.head? ≠ some '/') ∧
      (Location.descend? [] c.way).isSome = true)
    ⟨fun h => ⟨h.1, h.2⟩, fun h => ⟨h.relative, h.inside⟩⟩

/-- A suffix without slashes stays where the name does. -/
theorem staysBelow_append (h : '/' ∉ suffix.toList) (package name : String) :
    (ClassName.mk package (name ++ suffix)).StaysBelow ↔ (ClassName.mk package name).StaysBelow := by
  obtain ⟨last, -, -, hsteps⟩ := pathSteps_append h name
  have hway : (ClassName.mk package (name ++ suffix)).way = (ClassName.mk package name).way := by
    rw [way, way, hsteps, List.dropLast_concat]
    rfl
  have hrelative : (∀ part ∈ (ClassName.mk package (name ++ suffix)).folders ++ [name ++ suffix],
        part.toList.head? ≠ some '/') ↔
      ∀ part ∈ (ClassName.mk package name).folders ++ [name], part.toList.head? ≠ some '/' := by
    rw [List.forall_mem_append, List.forall_mem_append, List.forall_mem_singleton,
      List.forall_mem_singleton]
    exact and_congr_right fun _ => not_congr (head?_append_of_noSlash h name)
  constructor
  · intro hstays
    exact ⟨hrelative.1 hstays.relative, hway ▸ hstays.inside⟩
  · intro hstays
    exact ⟨hrelative.2 hstays.relative, hway ▸ hstays.inside⟩

end ClassName

namespace Scope

variable {s : Scope}

theorem noSlash_extension : '/' ∉ ".java".toList := by decide

theorem path_eq_foldl (s : Scope) : s.path = s.steps.foldl joinPath "" := by
  rw [steps, List.foldl_append]
  rfl

theorem head?_path (s : Scope) : s.path.toList.head? = some '/' ↔
    ∃ part ∈ s.declared.folders ++ [s.declared.simple], part.toList.head? = some '/' := by
  have hfile := head?_append_of_noSlash noSlash_extension s.typeName
  rw [path_eq_foldl, head?_foldl_joinPath, steps]
  simp only [List.mem_append, List.mem_singleton, or_and_right, exists_or, exists_eq_left, hfile]
  simp [folders, ClassName.folders, declared, ofUnit]

/-- A path that does not start anew leads the way of the name and from there to an entry. -/
theorem pathEntries_path (h : s.path.toList.head? ≠ some '/') : ∃ last, IsEntry last ∧
    pathEntries s.path = s.declared.way.filter (· ≠ "") ++ [last] := by
  obtain ⟨last, hlast, -, hfile⟩ := pathSteps_append noSlash_extension s.typeName
  have hentry : IsEntry (last ++ ".java") := isEntry_file hlast
  refine ⟨last ++ ".java", hentry, ?_⟩
  have hsteps : ∀ step ∈ s.steps, step.toList.head? ≠ some '/' := by
    intro step hstep hhead
    refine h ?_
    rw [path_eq_foldl, head?_foldl_joinPath]
    exact .inr ⟨step, hstep, hhead⟩
  have hfolders : s.folders.flatMap pathEntries =
      (s.folders.flatMap pathSteps).filter (· ≠ "") := by
    rw [List.filter_flatMap]
    rfl
  have hname : pathEntries (s.typeName ++ ".java") =
      (pathSteps s.typeName).dropLast.filter (· ≠ "") ++ [last ++ ".java"] := by
    rw [pathEntries, hfile, List.filter_append, List.filter_singleton]
    simp [hentry.nonempty]
  rw [path_eq_foldl, pathEntries_foldl_joinPath hsteps, steps, List.flatMap_append,
    List.flatMap_singleton, hfolders, hname, ClassName.way, List.filter_append, List.append_assoc]
  rfl

/-- A path behind every output directory neither starts anew nor leads out of where it starts. -/
theorem staysBelow_of_isBelow
    (h : ∀ folder out, (resolve folder (joinPath out s.path)).IsBelow (resolve folder out)) :
    s.declared.StaysBelow := by
  -- a path that starts anew does not lead below its own end
  have hrelative : s.path.toList.head? ≠ some '/' := by
    intro hhead
    have hself := h (resolve [] s.path) "."
    rw [resolve_joinPath_of_slash hhead, resolve_dot] at hself
    exact Location.not_isBelow_self _ hself
  refine ⟨fun part hpart hhead => hrelative (s.head?_path.2 ⟨part, hpart, hhead⟩), ?_⟩
  -- a way that leaves the folder does not lead back to one whose name is not on it
  by_contra hleaves
  obtain ⟨last, -, hentries⟩ := pathEntries_path hrelative
  have hnone : Location.descend? [] (pathEntries s.path) = none := by
    rw [hentries, Location.descend?_append, descend?_filter,
      Option.not_isSome_iff_eq_none.1 hleaves]
    rfl
  obtain ⟨name, hname⟩ := Infinite.exists_notMem_finset (pathEntries s.path).toFinset
  rw [List.mem_toFinset] at hname
  obtain ⟨rest, -, hplace⟩ := h [name] "."
  rw [resolve_joinPath "." hrelative, resolve_dot] at hplace
  refine Location.not_mem_of_descend?_eq_none hnone hname ?_
  rw [List.append_nil, hplace]
  exact List.mem_append_left rest (List.mem_singleton_self name)

theorem isBelow_of_staysBelow (h : s.declared.StaysBelow) (folder : Location) (out : String) :
    (resolve folder (joinPath out s.path)).IsBelow (resolve folder out) := by
  have hrelative : s.path.toList.head? ≠ some '/' := by
    rw [ne_eq, head?_path]
    rintro ⟨part, hpart, hhead⟩
    exact h.relative part hpart hhead
  obtain ⟨last, hlast, hentries⟩ := pathEntries_path hrelative
  obtain ⟨rest, hrest⟩ := Option.isSome_iff_exists.1 h.inside
  have hdescend : Location.descend? [] (pathEntries s.path) = some (rest ++ [last]) := by
    rw [hentries, Location.descend?_append, descend?_filter, hrest, Option.bind_some,
      Location.descend?, if_neg fun hup => hlast.noDots hup.1, Location.step_of_isEntry hlast]
    rfl
  have hplace := Location.foldl_step_of_descend? hdescend (resolve folder out)
  rw [List.append_nil] at hplace
  refine ⟨rest ++ [last], by simp, ?_⟩
  rw [resolve_joinPath out hrelative, hplace]

/-- **The file of a unit lies below every output directory just if the name of its type stays
below.** -/
theorem below_iff (s : Scope) :
    (∀ folder out, (resolve folder (joinPath out s.path)).IsBelow (resolve folder out)) ↔
      s.declared.StaysBelow :=
  ⟨staysBelow_of_isBelow, isBelow_of_staysBelow⟩

end Scope

/-- Names without slashes are entries of folders, whatever else there is to them. -/
theorem ClassName.staysBelow_of_noSlash {c : ClassName} (hpackage : '/' ∉ c.package.toList)
    (hsimple : '/' ∉ c.simple.toList) : c.StaysBelow := by
  have hfolders : ∀ part ∈ c.folders, '/' ∉ part.toList ∧ part ≠ ".." := by
    intro part hpart
    obtain ⟨chars, hchars, rfl⟩ := List.mem_map.1 (List.mem_filter.1 hpart).1
    obtain ⟨hdot, hsub⟩ := Text.of_mem_splitAt hchars
    rw [String.toList_ofList]
    refine ⟨fun hslash => hpackage (hsub hslash), fun hdots => hdot ?_⟩
    rw [← String.toList_ofList (l := chars), hdots]
    decide
  refine ⟨fun part hpart hhead => ?_, Location.descend?_isSome ?_ []⟩
  · have hslash := List.mem_of_mem_head? hhead
    rcases List.mem_append.1 hpart with hfolder | hname
    · exact (hfolders part hfolder).1 hslash
    · exact hsimple (List.mem_singleton.1 hname ▸ hslash)
  · -- the only steps are the folders themselves
    rw [way, pathSteps_of_noSlash hsimple]
    intro hup
    rw [List.dropLast_singleton, List.append_nil, List.mem_flatMap] at hup
    obtain ⟨part, hpart, hup⟩ := hup
    rw [pathSteps_of_noSlash (hfolders part hpart).1, List.mem_singleton] at hup
    exact (hfolders part hpart).2 hup.symm

end Code

/-! ### Where files are written -/

namespace Disk

variable {d d' : Disk} {l folder : Location} {steps : List String} {text out : String}

theorem files_of_makeFolder (h : d.makeFolder l = .ok d') : d'.files = d.files := by
  unfold makeFolder at h
  split at h
  · cases h
  · split at h
    · cases h
      rfl
    · cases h
      rfl

theorem files_of_put (h : d.put text l steps = .ok d') :
    d'.files = (steps.foldl Location.step l, text) :: d.files := by
  induction steps generalizing d l with
  | nil =>
    rw [put] at h
    split at h
    · cases h
    · cases h
      rfl
  | cons step steps ih =>
    rw [put] at h
    obtain ⟨-, -, h⟩ := exists_of_bind_eq_ok h
    obtain ⟨d₁, hmake, h⟩ := exists_of_bind_eq_ok h
    rw [ih h, files_of_makeFolder hmake, List.foldl_cons]

/-- A unit is written where its path leads to. -/
theorem files_of_writeUnit {u : Code.SourceUnit} (h : d.writeUnit folder out u = .ok d') :
    d'.files = (resolve folder (Code.joinPath out u.scope.path), u.source) :: d.files := by
  have hput : d.write folder (Code.joinPath out u.scope.path) u.source = .ok d' := by
    unfold writeUnit at h
    cases hwrite : d.write folder (Code.joinPath out u.scope.path) u.source with
    | error e =>
      rw [hwrite] at h
      cases h
    | ok d₁ =>
      rw [hwrite] at h
      rw [Except.ok.inj h]
  exact files_of_put hput

end Disk

end ResolverGen
