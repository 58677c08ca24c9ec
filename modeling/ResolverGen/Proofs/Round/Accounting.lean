/-
A round accounts for what it does.

`Model.unitNames` gives the names of a class's units from the model alone, and `Model.emissionNames`
those of all classes in the order in which they are written. The main statement, `round_accounts`,
says of every round that writes to sources

* what it reports: warnings first, then at most one error,
* what it writes: one new source for each name that it gives, and no change to what was there,
* how far it gets: through all units without an error, up to the first unit whose name is taken if
  the store refused it, and nowhere if a fault stands against the model.
-/
import ResolverGen.Proofs.Lookup
import ResolverGen.Proofs.Round.Accepted
import ResolverGen.Store.Sources

namespace ResolverGen

open Code

/-! ### The names of units -/

@[simp] theorem Code.Scope.refer_declared (s : Scope) (c : ClassName) :
    (s.refer c).2.declared = s.declared := by
  unfold Scope.refer
  split
  · split <;> rfl
  · rfl

theorem Resolver.Get.localTypes_declared (cs : List Column) (s : Scope) :
    (Resolver.Get.localTypes s cs).2.declared = s.declared := by
  induction cs generalizing s with
  | nil => rfl
  | cons c cs ih =>
    have hdeclare : (c.type.declare s).2.declared = s.declared := by
      unfold ColumnType.declare
      split
      · rfl
      · exact Scope.refer_declared s _
    exact (ih _).trans hdeclare

namespace Model

/-- The names of the units of a class, in the order in which they are written. -/
def unitNames (m : Model) (b : Backend) (id : ElementId) : List String :=
  let name := (m.element id).name
  let table :=
    match b.config m id with
    | .ok config => config.definedTable?.isSome
    | .error _ => false
  ([b.runtime.putName name, b.runtime.getName name, b.runtime.deleteName name,
    b.runtime.mappingName name] ++ if table then [TableClass.className name] else []).map
      fun unit => (ClassName.mk (m.packageOf id) unit).qualified

/-- The names of all units, the classes in the order of the model. -/
def emissionNames (m : Model) (b : Backend) : List String :=
  (m.annotatedWith b.vocabulary.type.qualified).flatMap (m.unitNames b)

end Model

/-! A resolver, a mapping or a table class is named after the class in the class's package. -/

section

variable (r : Runtime) (e : Entity)

theorem Resolver.Put.declared_unit : (Resolver.Put.unit r e).scope.declared =
    ⟨e.package, r.putName e.name⟩ := by
  simp only [Resolver.Put.unit, Resolver.extending, Scope.refer_declared]
  rfl

theorem Resolver.Get.declared_unit : (Resolver.Get.unit r e).scope.declared =
    ⟨e.package, r.getName e.name⟩ := by
  unfold Resolver.Get.unit
  cases e.activeCreator? with
  | none =>
    simp only [Resolver.extending, Scope.refer_declared]
    rfl
  | some creator =>
    simp only [Resolver.extending, Resolver.Get.localTypes_declared, Scope.refer_declared]
    rfl

theorem Resolver.Delete.declared_unit : (Resolver.Delete.unit r e).scope.declared =
    ⟨e.package, r.deleteName e.name⟩ := by
  simp only [Resolver.Delete.unit, Resolver.extending, Scope.refer_declared]
  rfl

theorem Resolver.Mapping.declared_unit : (Resolver.Mapping.unit r e).scope.declared =
    ⟨e.package, r.mappingName e.name⟩ := by
  simp only [Resolver.Mapping.unit, Resolver.extending, Scope.refer_declared]
  rfl

theorem TableClass.declared_unit (table : String) : (TableClass.unit table e).scope.declared =
    ⟨e.package, TableClass.className e.name⟩ := by
  simp only [TableClass.unit, Scope.refer_declared]
  rfl

end

theorem Entity.units_qualifiedName (e : Entity) (b : Backend) :
    (e.units b).map (·.qualifiedName) =
      ([b.runtime.putName e.name, b.runtime.getName e.name, b.runtime.deleteName e.name,
        b.runtime.mappingName e.name] ++
          if e.config.definedTable?.isSome then [TableClass.className e.name] else []).map
        fun unit => (ClassName.mk e.package unit).qualified := by
  unfold Entity.units
  cases e.config.definedTable? with
  | none =>
    simp [SourceUnit.qualifiedName, Resolver.Put.declared_unit, Resolver.Get.declared_unit,
      Resolver.Delete.declared_unit, Resolver.Mapping.declared_unit]
  | some table =>
    simp [SourceUnit.qualifiedName, Resolver.Put.declared_unit, Resolver.Get.declared_unit,
      Resolver.Delete.declared_unit, Resolver.Mapping.declared_unit, TableClass.declared_unit]

theorem Entity.Holds.unitNames {e : Entity} {m : Model} {b : Backend} {nonNull : ClassName}
    {taken : List ElementId} (h : e.Holds m b nonNull taken) :
    (e.units b).map (·.qualifiedName) = m.unitNames b e.element := by
  obtain ⟨bare, hbare, hname, hpackage, hconfig⟩ := h.ofClass
  obtain ⟨config, -, hread, rfl⟩ := Model.entity_ok hbare
  rw [Entity.units_qualifiedName, hname, hpackage, hconfig, Model.unitNames, hread]

/-- The units of the accepted entities are those of the annotated classes. -/
theorem Processor.emission_qualifiedName {p : Processor} {m : Model} {units : List SourceUnit}
    {c : Collection} (h : p.units m = (.ok units, c)) :
    (p.emission m).map (·.qualifiedName) = m.emissionNames p.backend := by
  obtain ⟨hcollect, -, -⟩ := units_ok h
  have hall := Model.collect_ok hcollect
  have haccepted : p.accepted m = c.entities := by
    unfold Processor.accepted
    rw [h]
  rw [Processor.emission, haccepted, Model.emissionNames, ← hall.classes, List.flatMap_map,
    List.map_flatMap]
  exact List.flatMap_congr fun e he => (hall.holds e he).unitNames

/-! ### Writing units -/

/-- The sources of some units, latest first. -/
def filesOf (units : List SourceUnit) : List (String × String) :=
  (units.map fun u => (u.qualifiedName, u.source)).reverse

/-- The units written are those before the first one whose name is taken when its turn comes. -/
theorem writeAll_sources (units : List SourceUnit) (s : Sources) :
    ∃ added rest, units = added ++ rest ∧
      (writeAll Sources.write units s).names = added.map (·.qualifiedName) ∧
      (writeAll Sources.write units s).store.files = filesOf added ++ s.files ∧
      (added.map (·.qualifiedName)).Nodup ∧
      (∀ u ∈ added, s.find? u.qualifiedName = none) ∧
      ((rest = [] ∧ (writeAll Sources.write units s).failure = none) ∨
        ∃ u more reason, rest = u :: more ∧
          (writeAll Sources.write units s).failure = some reason ∧
          ((s.find? u.qualifiedName).isSome ∨
            u.qualifiedName ∈ added.map (·.qualifiedName))) := by
  induction units generalizing s with
  | nil => exact ⟨[], [], rfl, rfl, rfl, List.nodup_nil, by simp, .inl ⟨rfl, rfl⟩⟩
  | cons u units ih =>
    cases hfind : s.find? u.qualifiedName with
    | some source =>
      -- the name is taken, and nothing is written from here on
      obtain ⟨reason, hwrite⟩ : ∃ reason, s.write u = .error reason := by
        simp [Sources.write, hfind]
      refine ⟨[], u :: units, rfl, ?_, ?_, List.nodup_nil, by simp,
        .inr ⟨u, units, reason, rfl, ?_, ?_⟩⟩
      · simp [writeAll, hwrite]
      · simp [writeAll, hwrite, filesOf]
      · simp [writeAll, hwrite]
      · exact .inl (by rw [hfind]; rfl)
    | none =>
      -- the rest meets a store with one more source, whose name counts as taken for it
      let t : Sources := ⟨(u.qualifiedName, u.source) :: s.files⟩
      have hwrite : s.write u = .ok t := by
        simp [Sources.write, hfind, t]
      have hother : ∀ name, name ≠ u.qualifiedName → t.find? name = s.find? name := by
        intro name hne
        have hbeq : (name == u.qualifiedName) = false := by simpa using hne
        simp [Sources.find?, t, List.lookup_cons, hbeq]
      have hself : (t.find? u.qualifiedName).isSome := by
        simp [Sources.find?, t]
      obtain ⟨added, rest, hsplit, hnames, hfiles, hnodup, hfresh, hend⟩ := ih t
      have hnew : ∀ x ∈ added, x.qualifiedName ≠ u.qualifiedName := by
        intro x hx heq
        have := hfresh x hx
        rw [heq] at this
        rw [this] at hself
        cases hself
      refine ⟨u :: added, rest, by rw [hsplit]; rfl, ?_, ?_, ?_, ?_, ?_⟩
      · simp [writeAll, hwrite, hnames]
      · simp [writeAll, hwrite, hfiles, filesOf, t]
      · rw [List.map_cons, List.nodup_cons]
        refine ⟨fun hmem => ?_, hnodup⟩
        obtain ⟨x, hx, heq⟩ := List.mem_map.1 hmem
        exact hnew x hx heq
      · intro x hx
        rcases List.mem_cons.1 hx with rfl | hx
        · exact hfind
        · rw [← hother _ (hnew x hx)]
          exact hfresh x hx
      · rcases hend with ⟨hrest, hfailure⟩ | ⟨x, more, reason, hrest, hfailure, htaken⟩
        · exact .inl ⟨hrest, by simp [writeAll, hwrite, hfailure]⟩
        · refine .inr ⟨x, more, reason, hrest, by simp [writeAll, hwrite, hfailure], ?_⟩
          by_cases heq : x.qualifiedName = u.qualifiedName
          · exact .inr (by simp [heq])
          · rcases htaken with htaken | htaken
            · exact .inl (by rw [← hother _ heq]; exact htaken)
            · exact .inr (List.mem_cons_of_mem _ htaken)

/-- Where units have names of their own, the source under a name is that of the unit that goes by
it. -/
theorem lookup_filesOf {units : List SourceUnit} (h : (units.map (·.qualifiedName)).Nodup)
    {name source : String} : (filesOf units).lookup name = some source ↔
      ∃ u ∈ units, u.qualifiedName = name ∧ u.source = source := by
  have hnames : ((filesOf units).map (·.1)).Nodup := by
    rw [filesOf, List.map_reverse, List.nodup_reverse, List.map_map]
    exact h
  rw [lookup_eq_some_iff_mem hnames, filesOf, List.mem_reverse, List.mem_map]
  simp only [Prod.mk.injEq]

theorem lookup_filesOf_eq_none_iff {units : List SourceUnit} {name : String} :
    (filesOf units).lookup name = none ↔ name ∉ units.map (·.qualifiedName) := by
  rw [List.lookup_eq_none_iff, filesOf]
  constructor
  · intro h hname
    obtain ⟨u, hu, rfl⟩ := List.mem_map.1 hname
    exact bne_iff_ne.1 (h _ (List.mem_reverse.2 (List.mem_map_of_mem hu))) rfl
  · intro h file hfile
    obtain ⟨u, hu, rfl⟩ := List.mem_map.1 (List.mem_reverse.1 hfile)
    rw [bne_iff_ne]
    rintro rfl
    exact h (List.mem_map_of_mem hu)

/-- New sources leave those of other names as they were. -/
theorem Sources.find?_of_files {s t : Sources} {added : List SourceUnit}
    (hfiles : t.files = filesOf added ++ s.files)
    (hfresh : ∀ u ∈ added, s.find? u.qualifiedName = none) {name source : String}
    (h : s.find? name = some source) : t.find? name = some source := by
  have hnone : (filesOf added).lookup name = none := by
    rw [lookup_filesOf_eq_none_iff]
    intro hname
    obtain ⟨u, hu, rfl⟩ := List.mem_map.1 hname
    rw [hfresh u hu] at h
    cases h
  rw [Sources.find?, hfiles, List.lookup_append, hnone]
  exact h

/-! ### Reports -/

theorem Fault.severity_of_skipped {f : Fault} (h : f.cause.kind = .skipped) :
    f.severity = .warning :=
  (Fault.severity_eq_warning_iff f).2 h

theorem Fault.severity_of_ne {f : Fault} (h : f.cause.kind ≠ .skipped) :
    f.severity = .error := by
  have hwarn : f.isWarning = false := decide_eq_false h
  simp [Fault.severity, hwarn]

/-- What a round reports that warns of `warnings` and ends in `error` if it fails. -/
structure Round.Reports {σ : Type} (r : Round σ) (warnings : List Fault) (error : Option Fault) :
    Prop where
  diagnostics : r.diagnostics = (warnings ++ error.toList).map Fault.report
  onlyWarnings : ∀ f ∈ warnings, f.severity = .warning
  onlyError : ∀ f ∈ error, f.severity = .error
  warningCount : r.count .warning = warnings.length
  errorCount : r.count .error = error.toList.length
  atMostOne : r.count .error ≤ 1

/-- Warnings and errors are counted by what they report. -/
theorem Round.reports_of_diagnostics {σ : Type} {r : Round σ} {warnings : List Fault}
    {error : Option Fault} (h : r.diagnostics = (warnings ++ error.toList).map Fault.report)
    (hwarnings : ∀ f ∈ warnings, f.severity = .warning)
    (herror : ∀ f ∈ error, f.severity = .error) : r.Reports warnings error := by
  have hfilter (severity : Severity) : r.count severity =
      ((warnings ++ error.toList).filter fun f => f.severity = severity).length := by
    rw [Round.count, h, List.filter_map, List.length_map]
    rfl
  have herror' : ∀ f ∈ error.toList, f.severity = .error := by
    intro f hf
    exact herror f (Option.mem_toList.1 hf)
  have hwarningCount : r.count .warning = warnings.length := by
    have hall : warnings.filter (fun f => f.severity = .warning) = warnings :=
      List.filter_eq_self.2 (by simpa using hwarnings)
    have hnone : error.toList.filter (fun f => f.severity = .warning) = [] :=
      List.filter_eq_nil_iff.2 fun f hf => by simp [herror' f hf]
    rw [hfilter, List.filter_append, hall, hnone, List.append_nil]
  have herrorCount : r.count .error = error.toList.length := by
    have hnone : warnings.filter (fun f => f.severity = .error) = [] :=
      List.filter_eq_nil_iff.2 fun f hf => by simp [hwarnings f hf]
    have hall : error.toList.filter (fun f => f.severity = .error) = error.toList :=
      List.filter_eq_self.2 fun f hf => by simp [herror' f hf]
    rw [hfilter, List.filter_append, hall, hnone, List.nil_append]
  refine ⟨h, hwarnings, herror, hwarningCount, herrorCount, ?_⟩
  rw [herrorCount]
  exact Option.length_toList_le

/-! ### Accounting -/

/-- What a round over a model reports and does, where it warns of `warnings`, ends in `error` if it
fails, and writes the units `added`. -/
structure Round.Accounts (r : Round Sources) (p : Processor) (m : Model) (s : Sources)
    (warnings : List Fault) (error : Option Fault) (added : List SourceUnit) : Prop
    extends r.Reports warnings error where
  collected : warnings = (p.units m).2.warnings
  /-- A fault is of the model or else of the store. -/
  ofModel : ∀ f, (p.units m).1 = .error f ↔ error = some f ∧ f.cause.kind ≠ .output
  ofStore : ∀ f, error = some f → f.cause.kind = .output → ∃ reason, f = .unwritable reason
  /-- The units are written in order. -/
  inOrder : added <+: p.emission m
  generated : r.generated = added.map (·.qualifiedName)
  /-- There is one new source for each name, of the unit that goes by it. -/
  files : r.store.files = filesOf added ++ s.files
  distinct : r.generated.Nodup
  fresh : ∀ name ∈ r.generated, s.find? name = none
  kept : ∀ name source, s.find? name = some source → r.store.find? name = some source
  /-- A fault of the model comes before all writing. -/
  untouched : ∀ f, error = some f → f.cause.kind ≠ .output → r.generated = [] ∧ r.store = s
  /-- A fault of the store comes at the first unit whose name is taken. -/
  refused : ∀ f, error = some f → f.cause.kind = .output → ∃ name more,
    m.emissionNames p.backend = r.generated ++ name :: more ∧
      ((s.find? name).isSome ∨ name ∈ r.generated)
  /-- Without a fault all units are written, and the warnings are as many as the members that are
  passed over. -/
  complete : error = none → r.generated = m.emissionNames p.backend ∧
    warnings.length = ((m.annotatedWith p.backend.vocabulary.column.qualified).filter
      (m.passesOver p.backend.vocabulary)).length

section

variable {p : Processor} {m : Model} {c : Collection}

theorem Processor.severity_of_mem_warnings {f : Fault} (h : f ∈ (p.units m).2.warnings) :
    f.severity = .warning :=
  Fault.severity_of_skipped (units_warns f h)

/-- A round over a model with a fault reports it and leaves the store alone. -/
theorem accounts_of_fault {f : Fault} (hunits : p.units m = (.error f, c)) (s : Sources) :
    (p.round m Sources.write s).Accounts p m s c.warnings (some f) [] := by
  have hhalt : f.Halting := Processor.units_fails f (by rw [hunits])
  have hround : p.round m Sources.write s =
      ⟨[], (c.warnings ++ [f]).map Fault.report, { p with accessors := c.accessors }, s⟩ := by
    simp [Processor.round, hunits]
  have hreports : (p.round m Sources.write s).Reports c.warnings (some f) := by
    refine Round.reports_of_diagnostics (by rw [hround]; rfl) ?_ ?_
    · intro g hg
      exact Processor.severity_of_mem_warnings (by rw [hunits]; exact hg)
    · rintro g hg
      cases hg
      exact Fault.severity_of_ne hhalt.kind_ne.1
  -- nothing comes of the store, since its faults do not stand against a model
  have hkind : ∀ g, some f = some g → g.cause.kind ≠ .output := by
    rintro g hg
    cases hg
    exact hhalt.kind_ne.2
  exact
    { hreports with
      collected := by rw [hunits]
      ofModel := fun g => by
        rw [hunits]
        constructor
        · rintro hg
          cases hg
          exact ⟨rfl, hkind f rfl⟩
        · rintro ⟨hg, -⟩
          cases hg
          rfl
      ofStore := fun g hg hout => absurd hout (hkind g hg)
      inOrder := List.nil_prefix
      generated := by rw [hround]; rfl
      files := by rw [hround]; rfl
      distinct := by rw [hround]; exact List.nodup_nil
      fresh := by rw [hround]; exact fun _ h => absurd h List.not_mem_nil
      kept := by rw [hround]; exact fun _ _ h => h
      untouched := by rw [hround]; exact fun _ _ _ => ⟨rfl, rfl⟩
      refused := fun g hg hout => absurd hout (hkind g hg)
      complete := fun h => by cases h }

/-- A round over a model without faults writes its units until the store refuses one. -/
theorem accounts_of_units {units : List SourceUnit} (hunits : p.units m = (.ok units, c))
    (s : Sources) :
    ∃ error added, (p.round m Sources.write s).Accounts p m s c.warnings error added := by
  obtain ⟨hcollect, -, hflat⟩ := Processor.units_ok hunits
  have hemission := Processor.emission_of_units hunits
  have hnames := Processor.emission_qualifiedName hunits
  obtain ⟨added, rest, hsplit, hadded, hfiles, hnodup, hfresh, hend⟩ :=
    writeAll_sources (p.emission m) s
  obtain ⟨hgenerated, hstore⟩ := Processor.round_eq (p := p) (m := m) Sources.write s
  rw [hadded] at hgenerated
  rw [← hstore] at hfiles
  have hfresh' : ∀ name ∈ (p.round m Sources.write s).generated, s.find? name = none := by
    intro name hname
    rw [hgenerated] at hname
    obtain ⟨u, hu, rfl⟩ := List.mem_map.1 hname
    exact hfresh u hu
  -- the fault of the store, if there is one
  let error := (writeAll Sources.write (p.emission m) s).failure.map Fault.unwritable
  have hstated : ∀ f, error = some f → ∃ reason, f = .unwritable reason := by
    intro f hf
    obtain ⟨reason, -, rfl⟩ := Option.map_eq_some_iff.1 hf
    exact ⟨reason, rfl⟩
  have hkind : ∀ f, error = some f → f.cause.kind = .output := by
    intro f hf
    obtain ⟨reason, rfl⟩ := hstated f hf
    rfl
  have hreports : (p.round m Sources.write s).Reports c.warnings error := by
    refine Round.reports_of_diagnostics ?_ ?_ ?_
    · simp [Processor.round, hunits, error, hemission]
    · intro f hf
      exact Processor.severity_of_mem_warnings (by rw [hunits]; exact hf)
    · intro f hf
      obtain ⟨reason, rfl⟩ := hstated f hf
      rfl
  refine ⟨error, added, ?_⟩
  exact
    { hreports with
      collected := by rw [hunits]
      ofModel := fun f => by
        rw [hunits]
        constructor
        · rintro hf
          cases hf
        · rintro ⟨hf, hne⟩
          exact absurd (hkind f hf) hne
      ofStore := fun f hf _ => hstated f hf
      inOrder := ⟨rest, hsplit.symm⟩
      generated := hgenerated
      files := hfiles
      distinct := by rw [hgenerated]; exact hnodup
      fresh := hfresh'
      kept := fun _ _ h => Sources.find?_of_files hfiles hfresh h
      untouched := fun f hf hne => absurd (hkind f hf) hne
      refused := fun f hf _ => by
        rcases hend with ⟨-, hfailure⟩ | ⟨u, more, reason, hrest, -, htaken⟩
        · simp [error, hfailure] at hf
        · refine ⟨u.qualifiedName, more.map (·.qualifiedName), ?_, ?_⟩
          · rw [← hnames, hsplit, hrest, hgenerated, List.map_append, List.map_cons]
          · rw [hgenerated]
            exact htaken
      complete := fun hnone => by
        rcases hend with ⟨hrest, -⟩ | ⟨u, more, reason, -, hfailure, -⟩
        · refine ⟨?_, (Model.collect_ok hcollect).warnings⟩
          rw [← hnames, hsplit, hrest, List.append_nil, hgenerated]
        · simp [error, hfailure] at hnone }

end

/-- **Every round accounts for its reports, its sources and how far it got.** -/
theorem round_accounts (p : Processor) (m : Model) (s : Sources) :
    ∃ warnings error added,
      (p.round m Sources.write s).Accounts p m s warnings error added := by
  cases hunits : p.units m with
  | mk result c =>
    cases result with
    | error f => exact ⟨c.warnings, some f, [], accounts_of_fault hunits s⟩
    | ok units =>
      obtain ⟨error, added, h⟩ := accounts_of_units hunits s
      exact ⟨c.warnings, error, added, h⟩

end ResolverGen
