/-
Rounds that write below a folder.

Sources are kept by name, and a second one of a name is refused; files are kept by path, and a second
one replaces the first. Where the names of classes and packages are identifiers, the two make no
difference: units of one path are units of one name, and no file goes by the name of a folder. What
units leave behind in sources and on a disk is `Alike` after each unit (`Alike.write_unit`), after
each round (`Alike.run_round`) and after all of them (`Alike.run_rounds`), so

* `roundsOf_onDisk` — rounds give and report the same over both, and the files below the folder are
  those sources, each behind the folders of its package.
-/
import ResolverGen.Proofs.Element.References
import ResolverGen.Proofs.Round.Together
import ResolverGen.Proofs.Store.Writing

namespace ResolverGen

open Code

/-! ### The names of a model -/

/-- Whether the names of classes are identifiers, and those of packages are empty or made of
identifiers. -/
def Model.HasIdentifiers (m : Model) : Prop :=
  ∀ e ∈ m.elements,
    (e.kind = .classType → IsIdentifier e.name) ∧ (e.kind = .package → IsPackageName e.name)

instance (m : Model) : Decidable m.HasIdentifiers :=
  inferInstanceAs (Decidable (∀ e ∈ m.elements,
    (e.kind = .classType → IsIdentifier e.name) ∧ (e.kind = .package → IsPackageName e.name)))

namespace Model.HasIdentifiers

variable {m : Model}

theorem of_element (h : m.HasIdentifiers) (id : ElementId) :
    ((m.element id).kind = .classType → IsIdentifier (m.element id).name) ∧
      ((m.element id).kind = .package → IsPackageName (m.element id).name) := by
  by_cases hid : id < m.size
  · exact h _ (element_mem hid)
  · rw [element_of_size_le (Nat.le_of_not_lt hid)]
    exact ⟨(by rintro ⟨⟩), fun _ => .inl rfl⟩

theorem packageWithin (h : m.HasIdentifiers) (steps : Nat) (id : ElementId) :
    IsPackageName (m.packageWithin steps id) := by
  induction steps generalizing id with
  | zero => exact .inl rfl
  | succ steps ih =>
    rw [Model.packageWithin]
    split
    · next hkind => exact (h.of_element id).2 hkind
    · split
      · exact ih _
      · exact .inl rfl

end Model.HasIdentifiers

theorem IsIdentifier.append {s t : String} (h : IsIdentifier s)
    (ht : '.' ∉ t.toList ∧ '/' ∉ t.toList) : IsIdentifier (s ++ t) := by
  refine ⟨fun heq => h.nonempty (String.append_eq_empty_iff.1 heq).1, ?_, ?_⟩
  · simpa using ⟨h.noDot, ht.1⟩
  · simpa using ⟨h.noSlash, ht.2⟩

theorem Backend.unitSuffix_plain (b : Backend) (k : UnitKind) :
    '.' ∉ (b.unitSuffix k).toList ∧ '/' ∉ (b.unitSuffix k).toList := by
  have hall : ∀ b ∈ Backend.all, ∀ k ∈ UnitKind.all,
      '.' ∉ (b.unitSuffix k).toList ∧ '/' ∉ (b.unitSuffix k).toList := by
    decide +kernel
  exact hall b b.mem_all k k.mem_all

/-- Units are named after classes, in the packages of these. -/
theorem Processor.wellNamed_of_mem_emission {p : Processor} {m : Model} {u : SourceUnit}
    (hm : m.HasIdentifiers) (hu : u ∈ p.emission m) : u.scope.WellNamed := by
  obtain ⟨e, he, hu⟩ := List.mem_flatMap.1 hu
  obtain ⟨k, hk⟩ := Entity.exists_unit? hu
  obtain ⟨hpackage, htype⟩ : u.scope.package = e.package ∧
      u.scope.typeName = e.name ++ p.backend.unitSuffix k :=
    ClassName.mk.inj (Entity.declared_of_unit? hk)
  obtain ⟨bare, hbare, hname, hsame, -⟩ := (holds_of_mem_accepted he).ofClass
  obtain ⟨config, hclass, -, rfl⟩ := Model.entity_ok hbare
  refine ⟨?_, ?_⟩
  · rw [hpackage, hsame]
    exact hm.packageWithin _ _
  · rw [htype, hname]
    exact ((hm.of_element _).1 (Model.of_checkClass hclass).1).append (p.backend.unitSuffix_plain k)

/-- Units of different backends have names of their own where the classes of each have. -/
theorem nodup_emissions {m : Model} {ps : List Processor} (hbackends : (ps.map (·.backend)).Nodup)
    (hdistinct : ∀ p ∈ ps, m.HasDistinctClasses p.backend) :
    ((ps.flatMap (·.emission m)).map (·.qualifiedName)).Nodup := by
  rw [List.map_flatMap, List.nodup_flatMap]
  refine ⟨fun p hp => Processor.nodup_emission (hdistinct p hp), ?_⟩
  exact (List.pairwise_map.1 hbackends).imp fun hne name hname hname' =>
    Processor.disjoint_emission hne name hname hname'

/-! ### Folders with nothing in them -/

namespace Disk

/-- Whether a path leads from a folder to one with nothing in it. -/
structure LeadsToEmpty (d : Disk) (folder : Location) (out : String) (root : Location) : Prop where
  consistent : d.Consistent
  follow : d.follow? (pathStart folder out) (pathSteps out) = some root
  names : ∀ step ∈ pathSteps out, checkName step = .ok ()
  isFolder : d.isFolder root = true
  empty : ∀ rest, rest ≠ [] → d.isFolder (root ++ rest) = false ∧ d.file? (root ++ rest) = none

theorem LeadsToEmpty.noFile {d : Disk} {folder root : Location} {out : String}
    (h : d.LeadsToEmpty folder out root) (rest : Location) : d.file? (root ++ rest) = none := by
  by_cases hrest : rest = []
  · rw [hrest, List.append_nil]
    exact h.consistent root h.isFolder
  · exact (h.empty rest hrest).2

/-- A disk with nothing but a folder on it. -/
theorem ofFolder_leadsToEmpty (folder : Location) :
    (ofFolder folder).LeadsToEmpty folder "." folder := by
  have hfolders (l : Location) : (ofFolder folder).isFolder l = true ↔ l <+: folder := by
    rw [isFolder_eq_true_iff, ofFolder, List.mem_map]
    constructor
    · rintro (rfl | ⟨k, -, rfl⟩)
      · exact List.nil_prefix
      · exact List.take_prefix k folder
    · intro h
      refine .inr ⟨l.length, List.mem_range.2 (Nat.lt_succ_of_le h.length_le), ?_⟩
      exact (List.prefix_iff_eq_take.1 h).symm
  refine ⟨fun _ _ => rfl, ?_, by decide, (hfolders folder).2 (List.prefix_refl folder),
    fun rest hrest => ?_⟩
  · have hfolder := (hfolders folder).2 (List.prefix_refl folder)
    show (ofFolder folder).follow? folder ["."] = some folder
    rw [follow?, if_pos hfolder]
    rfl
  · refine ⟨?_, rfl⟩
    rw [Bool.eq_false_iff, ne_eq, hfolders]
    intro h
    have hlength := h.length_le
    rw [List.length_append] at hlength
    exact hrest (List.length_eq_zero_iff.1 (by omega))

end Disk

/-! ### Writing to both -/

/-- What units leave behind that have been written both to sources and below a folder. -/
structure Alike (before : Disk) (root : Location) (units : List SourceUnit) (s : Sources)
    (d : Disk) : Prop where
  wellNamed : ∀ u ∈ units, u.scope.WellNamed
  sources : s.files = filesOf units
  files : d.files = (units.map fun u => (root ++ u.scope.steps, u.source)).reverse ++ before.files
  folders : ∀ l, d.isFolder l = true ↔ before.isFolder l = true ∨
    ∃ u ∈ units, ∃ way, way <+: u.scope.folders ∧ l = root ++ way

/-- Whether a unit is named by identifiers, and no name on its path is one that a disk refuses. -/
structure Code.SourceUnit.Fits (u : SourceUnit) : Prop where
  wellNamed : u.scope.WellNamed
  names : ∀ step ∈ u.scope.steps, Disk.checkName step = .ok ()

/-- Files have a dot in their names, and folders have none. -/
theorem Code.Scope.WellNamed.steps_ne_way {s t : Scope} (ht : t.WellNamed)
    {way : List String} (hway : way <+: t.folders) : s.steps ≠ way := by
  intro heq
  have hmem : s.typeName ++ ".java" ∈ t.folders := by
    refine hway.subset ?_
    rw [← heq]
    exact List.mem_append_right _ List.mem_cons_self
  exact (ht.isIdentifier_of_mem_folders _ hmem).noDot (by simp)

namespace Alike

variable {before d : Disk} {folder root : Location} {out : String} {units : List SourceUnit}
  {s : Sources} {u : SourceUnit} {m : Model}

theorem file?_eq_none (h : Alike before root units s d) {l : Location}
    (hbefore : before.file? l = none) (hnew : ∀ v ∈ units, l ≠ root ++ v.scope.steps) :
    d.file? l = none := by
  rw [Disk.file?, h.files, List.lookup_append, Option.or_eq_none_iff]
  refine ⟨List.lookup_eq_none_iff.2 fun file hfile => ?_, hbefore⟩
  obtain ⟨v, hv, rfl⟩ := List.mem_map.1 (List.mem_reverse.1 hfile)
  exact bne_iff_ne.2 (hnew v hv)

/-- No file lies where a folder is, since it would be of a name without a dot. -/
theorem consistent (h : Alike before root units s d)
    (hroot : before.LeadsToEmpty folder out root) : d.Consistent := by
  intro l hl
  rcases (h.folders l).1 hl with hbefore | ⟨v, hv, way, hway, rfl⟩
  · -- a folder that was there before is not below the empty one, where the new files are
    refine h.file?_eq_none (hroot.consistent l hbefore) ?_
    rintro v hv rfl
    rw [(hroot.empty v.scope.steps v.scope.steps_ne_nil).1] at hbefore
    cases hbefore
  · refine h.file?_eq_none (hroot.noFile way) fun w _ heq => ?_
    exact (h.wellNamed v hv).steps_ne_way hway (List.append_cancel_left heq).symm

/-- A unit of another name can be written to both. -/
theorem write_unit (h : Alike before root units s d) (hroot : before.LeadsToEmpty folder out root)
    (hu : u.Fits) (hname : u.qualifiedName ∉ units.map (·.qualifiedName)) :
    ∃ s' d', s.write u = .ok s' ∧ d.writeUnit folder out u = .ok d' ∧
      Alike before root (units ++ [u]) s' d' := by
  have hsource : s.write u = .ok ⟨(u.qualifiedName, u.source) :: s.files⟩ := by
    have hnone : s.find? u.qualifiedName = none := by
      rw [Sources.find?, h.sources]
      exact lookup_filesOf_eq_none_iff.2 hname
    rw [Sources.write, hnone]
  have hout : d.follow? (pathStart folder out) (pathSteps out) = some root :=
    Disk.follow?_of_folders (fun l hl => (h.folders l).2 (.inl hl)) hroot.follow
  -- neither a file of an earlier unit in the way nor a folder of one in the place of the file
  have hfree : ∀ part, part <+: u.scope.folders → d.file? (root ++ part) = none := by
    intro part hpart
    refine h.file?_eq_none (hroot.noFile part) fun v _ heq => ?_
    exact hu.wellNamed.steps_ne_way hpart (List.append_cancel_left heq).symm
  have hplace : d.isFolder (root ++ u.scope.steps) = false := by
    rw [Bool.eq_false_iff, ne_eq, h.folders]
    rintro (hbefore | ⟨v, hv, way, hway, heq⟩)
    · rw [(hroot.empty u.scope.steps u.scope.steps_ne_nil).1] at hbefore
      cases hbefore
    · exact (h.wellNamed v hv).steps_ne_way hway (List.append_cancel_left heq)
  obtain ⟨d', hdisk, hgains⟩ := Disk.writeUnit_eq (h.consistent hroot) hout hroot.names
    hu.wellNamed hu.names hfree hplace
  refine ⟨_, d', hsource, hdisk, ?_, ?_, ?_, fun l => ?_⟩
  · exact List.forall_mem_append.2 ⟨h.wellNamed, List.forall_mem_singleton.2 hu.wellNamed⟩
  · rw [h.sources, filesOf, filesOf, List.map_append, List.reverse_append]
    rfl
  · rw [hgains.files, h.files, List.map_append, List.reverse_append]
    rfl
  · rw [hgains.folders, h.folders, or_assoc]
    refine or_congr_right ?_
    simp only [List.mem_append, List.mem_singleton, or_and_right, exists_or, exists_eq_left]

/-- Units of names of their own can all be written to both. -/
theorem write_units (h : Alike before root units s d) (hroot : before.LeadsToEmpty folder out root)
    {more : List SourceUnit} (hmore : ∀ v ∈ more, v.Fits)
    (hnodup : ((units ++ more).map (·.qualifiedName)).Nodup) :
    ∃ s' d', writeAll Sources.write more s = ⟨more.map (·.qualifiedName), none, s'⟩ ∧
      writeAll (Disk.writeUnit folder out) more d =
        ⟨more.map (·.qualifiedName), none, d'⟩ ∧
      Alike before root (units ++ more) s' d' := by
  induction more generalizing units s d with
  | nil => exact ⟨s, d, rfl, rfl, by rwa [List.append_nil]⟩
  | cons u more ih =>
    have hu := hmore u List.mem_cons_self
    have hname : u.qualifiedName ∉ units.map (·.qualifiedName) := by
      intro hmem
      rw [List.map_append, List.map_cons] at hnodup
      exact List.disjoint_of_nodup_append hnodup hmem List.mem_cons_self
    -- the other units meet stores that are alike after one unit more
    obtain ⟨s₁, d₁, hsource, hdisk, h₁⟩ := h.write_unit hroot hu hname
    obtain ⟨s', d', hsources, hdisks, h'⟩ := ih h₁
      (fun v hv => hmore v (List.mem_cons_of_mem u hv)) (by simpa using hnodup)
    refine ⟨s', d', ?_, ?_, by simpa using h'⟩
    · rw [writeAll, hsource]
      dsimp only
      rw [hsources]
      rfl
    · rw [writeAll, hdisk]
      dsimp only
      rw [hdisks]
      rfl

end Alike

/-! ### Rounds over both -/

/-- What a round gives and reports, whatever it has written to. -/
def Round.outcome {σ : Type} (r : Round σ) : Round Unit :=
  ⟨r.generated, r.diagnostics, r.processor, ()⟩

/-- The outcome of a round depends only on which units can be written. -/
theorem Processor.outcome_round {σ τ : Type} {write : σ → SourceUnit → Except String σ}
    {write' : τ → SourceUnit → Except String τ} {s : σ} {t : τ} {p : Processor} {m : Model}
    (hnames : (writeAll write (p.emission m) s).names = (writeAll write' (p.emission m) t).names)
    (hfailure : (writeAll write (p.emission m) s).failure =
      (writeAll write' (p.emission m) t).failure) :
    (p.round m write s).outcome = (p.round m write' t).outcome := by
  unfold emission accepted at hnames hfailure
  unfold round Round.outcome
  cases hunits : p.units m with
  | mk result c =>
  rw [hunits] at hnames hfailure
  cases result with
  | error f => rfl
  | ok units =>
    obtain ⟨-, -, rfl⟩ := units_ok hunits
    dsimp only at hnames hfailure ⊢
    rw [hnames, hfailure]

namespace Alike

variable {before d : Disk} {folder root : Location} {out : String} {units : List SourceUnit}
  {s : Sources} {m : Model}

theorem run_round (h : Alike before root units s d) (hroot : before.LeadsToEmpty folder out root)
    {p : Processor} (hmore : ∀ v ∈ p.emission m, v.Fits)
    (hnodup : ((units ++ p.emission m).map (·.qualifiedName)).Nodup) :
    (p.round m Sources.write s).outcome = (p.round m (Disk.writeUnit folder out) d).outcome ∧
      Alike before root (units ++ p.emission m) (p.round m Sources.write s).store
        (p.round m (Disk.writeUnit folder out) d).store := by
  obtain ⟨s', d', hsources, hdisks, h'⟩ := h.write_units hroot hmore hnodup
  refine ⟨Processor.outcome_round (by rw [hsources, hdisks]) (by rw [hsources, hdisks]), ?_⟩
  rw [(p.round_eq Sources.write s).2, (p.round_eq (Disk.writeUnit folder out) d).2, hsources, hdisks]
  exact h'

theorem run_rounds (h : Alike before root units s d) (hroot : before.LeadsToEmpty folder out root)
    {ps : List Processor} (hmore : ∀ v ∈ ps.flatMap (·.emission m), v.Fits)
    (hnodup : ((units ++ ps.flatMap (·.emission m)).map (·.qualifiedName)).Nodup) :
    (roundsOf m Sources.write ps s).1.map Round.outcome =
        (roundsOf m (Disk.writeUnit folder out) ps d).1.map Round.outcome ∧
      Alike before root (units ++ ps.flatMap (·.emission m))
        (roundsOf m Sources.write ps s).2
        (roundsOf m (Disk.writeUnit folder out) ps d).2 := by
  induction ps generalizing units s d with
  | nil =>
    refine ⟨rfl, ?_⟩
    rw [List.flatMap_nil, List.append_nil]
    exact h
  | cons p ps ih =>
    rw [List.flatMap_cons, ← List.append_assoc] at hnodup ⊢
    rw [List.flatMap_cons] at hmore
    -- what the first round writes is there before the others write
    have hfirst : ∀ v ∈ p.emission m, v.Fits := fun v hv =>
      hmore v (List.mem_append_left _ hv)
    have hdone : ((units ++ p.emission m).map (·.qualifiedName)).Nodup := by
      rw [List.map_append] at hnodup
      exact (List.nodup_append.1 hnodup).1
    obtain ⟨houtcome, hstores⟩ := h.run_round hroot hfirst hdone
    obtain ⟨houtcomes, hlast⟩ :=
      ih hstores (fun v hv => hmore v (List.mem_append_right _ hv)) hnodup
    refine ⟨?_, hlast⟩
    rw [roundsOf, roundsOf, List.map_cons, List.map_cons, houtcome]
    exact congrArg _ houtcomes

end Alike

/-- What sources and the files below a folder have in common after the same units have been written
to both, of which the folder had none before. -/
structure SameFiles (units : List SourceUnit) (s : Sources) (root : Location) (before d : Disk) :
    Prop where
  sources : s.files = filesOf units
  filesBelow : d.filesBelow root = (units.map fun u => (u.scope.path, u.source)).reverse
  distinctNames : (units.map (·.qualifiedName)).Nodup
  distinctPaths : (units.map (·.scope.path)).Nodup
  pathOfName : ∀ u ∈ units, ∀ v ∈ units,
    u.scope.path = v.scope.path ↔ u.qualifiedName = v.qualifiedName
  /-- No location is both a file and a folder. -/
  consistent : d.Consistent
  /-- No file has been written over another one, be it new or not. -/
  files : d.files =
    (units.map fun u => (root ++ pathSteps u.scope.path, u.source)).reverse ++ before.files
  distinctPlaces : (units.map fun u => root ++ pathSteps u.scope.path).Nodup
  freshPlaces : ∀ u ∈ units, before.file? (root ++ pathSteps u.scope.path) = none

namespace Alike

variable {before d : Disk} {folder root : Location} {out : String} {units : List SourceUnit}
  {s : Sources}

/-- Units of other names are written to other places. -/
theorem nodup_steps (h : Alike before root units s d)
    (hnodup : (units.map (·.qualifiedName)).Nodup) : (units.map (·.scope.steps)).Nodup := by
  refine List.pairwise_map.2 ((List.pairwise_map.1 hnodup).imp_of_mem fun hu hv hne heq => hne ?_)
  refine ((h.wellNamed _ hu).path_eq_path_iff (h.wellNamed _ hv)).1 ?_
  rw [(h.wellNamed _ hu).path_eq, (h.wellNamed _ hv).path_eq, heq]

theorem filesBelow (h : Alike before root units s d)
    (hroot : before.LeadsToEmpty folder out root)
    (hnodup : (units.map (·.scope.steps)).Nodup) :
    d.filesBelow root = (units.map fun u => (u.scope.path, u.source)).reverse := by
  let entries := (units.map fun u => (u.scope.steps, u.source)).reverse
  have hfiles : d.files = entries.map (fun e => (root ++ e.1, e.2)) ++ before.files := by
    rw [h.files, List.map_reverse, List.map_map]
    rfl
  have hentries : (entries.map (·.1)).Nodup := by
    rw [List.map_reverse, List.nodup_reverse, List.map_map]
    exact hnodup
  -- what was there before lies elsewhere
  have hothers : ∀ file ∈ before.files, ¬root <+: file.1 := by
    rintro ⟨l, text⟩ hfile ⟨rest, rfl⟩
    exact bne_iff_ne.1 (List.lookup_eq_none_iff.1 (hroot.noFile rest) _ hfile) rfl
  rw [Disk.filesBelow_of_files hfiles hentries hothers, List.map_reverse, List.map_map]
  refine congrArg List.reverse (List.map_congr_left fun u hu => ?_)
  rw [(h.wellNamed u hu).path_eq]
  rfl

theorem sameFiles (h : Alike before root units s d)
    (hroot : before.LeadsToEmpty folder out root)
    (hnodup : (units.map (·.qualifiedName)).Nodup) : SameFiles units s root before d := by
  have hiff : ∀ u ∈ units, ∀ v ∈ units,
      u.scope.path = v.scope.path ↔ u.qualifiedName = v.qualifiedName := fun u hu v hv =>
    (h.wellNamed u hu).path_eq_path_iff (h.wellNamed v hv)
  have hpaths : (units.map (·.scope.path)).Nodup := by
    refine List.pairwise_map.2 ((List.pairwise_map.1 hnodup).imp_of_mem fun hu hv hne heq => ?_)
    exact hne ((hiff _ hu _ hv).1 heq)
  have hsteps := h.nodup_steps hnodup
  have hplaces : units.map (fun u => root ++ pathSteps u.scope.path) =
      (units.map (·.scope.steps)).map (root ++ ·) := by
    rw [List.map_map]
    exact List.map_congr_left fun u hu => congrArg (root ++ ·) (h.wellNamed u hu).pathSteps_path
  refine
    { sources := h.sources
      filesBelow := h.filesBelow hroot hsteps
      distinctNames := hnodup
      distinctPaths := hpaths
      pathOfName := hiff
      consistent := h.consistent hroot
      files := ?_
      distinctPlaces := ?_
      freshPlaces := fun u _ => hroot.noFile _ }
  · rw [h.files]
    refine congrArg (fun files => List.reverse files ++ before.files) ?_
    exact List.map_congr_left fun u hu => by rw [(h.wellNamed u hu).pathSteps_path]
  · rw [hplaces]
    exact hsteps.map fun _ _ => List.append_cancel_left

end Alike

/-- **Sources and files are the same.** Where the names of classes and packages are identifiers and
the annotated classes have names of their own, rounds of different backends give and report the same
over no sources and over a folder with nothing in it. The files below the folder are then those
sources, each under the path of its unit: units of other names have other paths, no path is both that
of a file and of a folder, and nothing is written over. -/
theorem roundsOf_onDisk {m : Model} {ps : List Processor} {d : Disk} {folder root : Location}
    {out : String} (hm : m.HasIdentifiers) (hbackends : (ps.map (·.backend)).Nodup)
    (hdistinct : ∀ p ∈ ps, m.HasDistinctClasses p.backend)
    (hroot : d.LeadsToEmpty folder out root)
    (hnames : ∀ p ∈ ps, ∀ u ∈ p.emission m, ∀ step ∈ pathSteps u.scope.path,
      Disk.checkName step = .ok ()) :
    (roundsOf m Sources.write ps .empty).1.map Round.outcome =
        (roundsOf m (Disk.writeUnit folder out) ps d).1.map Round.outcome ∧
      SameFiles (ps.flatMap (·.emission m)) (roundsOf m Sources.write ps .empty).2 root d
        (roundsOf m (Disk.writeUnit folder out) ps d).2 := by
  have hfits : ∀ u ∈ ps.flatMap (·.emission m), u.Fits := by
    intro u hu
    obtain ⟨p, hp, hu⟩ := List.mem_flatMap.1 hu
    have hwell := Processor.wellNamed_of_mem_emission hm hu
    exact ⟨hwell, hwell.pathSteps_path ▸ hnames p hp u hu⟩
  have hnodup := nodup_emissions hbackends hdistinct
  have hstart : Alike d root [] .empty d := ⟨by simp, rfl, rfl, fun l => by simp⟩
  obtain ⟨houtcomes, hstores⟩ := hstart.run_rounds hroot hfits hnodup
  exact ⟨houtcomes, hstores.sameFiles hroot hnodup⟩

/-- Both backends write the units of two classes to a folder, the class `UserTable` among them and
the table class of that name. -/
theorem roundsOf_onDisk_twiceStoredModel :
    let ps := Backend.all.map (Processor.initial · .unset)
    let units := ps.flatMap (·.emission twiceStoredModel)
    "com/test/UserTable.java" ∈ units.map (·.scope.path) ∧
      (roundsOf twiceStoredModel Sources.write ps .empty).1.map Round.outcome =
        (roundsOf twiceStoredModel (Disk.writeUnit ["home"] ".") ps
          (Disk.ofFolder ["home"])).1.map Round.outcome ∧
      SameFiles units (roundsOf twiceStoredModel Sources.write ps .empty).2 ["home"]
        (Disk.ofFolder ["home"])
        (roundsOf twiceStoredModel (Disk.writeUnit ["home"] ".") ps (Disk.ofFolder ["home"])).2 := by
  intro ps units
  have hm : twiceStoredModel.HasIdentifiers := by decide +kernel
  have hdistinct : ∀ b ∈ Backend.all, twiceStoredModel.HasDistinctClasses b := by decide +kernel
  have hshort : ∀ p ∈ ps, ∀ u ∈ p.emission twiceStoredModel, ∀ step ∈ u.scope.steps,
      '\x00' ∉ step.toList ∧ step.length ≤ 63 := by
    decide +kernel
  have hpath : "com/test/UserTable.java" ∈ units.map (·.scope.path) := by decide +kernel
  refine ⟨hpath, roundsOf_onDisk hm (by decide)
    (fun p _ => hdistinct p.backend p.backend.mem_all) (Disk.ofFolder_leadsToEmpty ["home"]) ?_⟩
  intro p hp u hu step hstep
  rw [(Processor.wellNamed_of_mem_emission hm hu).pathSteps_path] at hstep
  obtain ⟨hzero, hlength⟩ := hshort p hp u hu step hstep
  exact Disk.checkName_of_length_le hzero hlength

end ResolverGen
