/-
Where the files of a round lie.

A round that writes below an output directory writes each unit where its path leads to, and nowhere
else. The units of a class are named after it in its package, so `files_of_round` tells from the name
of the class whether they lie below every output directory: just if the name stays below, for which it
is enough that there is no slash in it. A class named `../../../User` has its files written outside.
-/
import ResolverGen.Proofs.Round.Folders
import ResolverGen.Proofs.Store.Confinement

namespace ResolverGen

open Code

/-- Where a unit is written, and what. -/
def fileOf (folder : Location) (out : String) (u : SourceUnit) : Location × String :=
  (resolve folder (joinPath out u.scope.path), u.source)

/-- The files written are those of the units before the first one that cannot be written. -/
theorem writeAll_onDisk (folder : Location) (out : String) (units : List SourceUnit) (d : Disk) :
    ∃ written rest, units = written ++ rest ∧
      (writeAll (Disk.writeUnit folder out) units d).names = written.map (·.qualifiedName) ∧
      (writeAll (Disk.writeUnit folder out) units d).store.files =
        (written.map (fileOf folder out)).reverse ++ d.files := by
  induction units generalizing d with
  | nil => exact ⟨[], [], rfl, rfl, rfl⟩
  | cons u units ih =>
    rw [writeAll]
    cases hwrite : d.writeUnit folder out u with
    | error reason => exact ⟨[], u :: units, rfl, rfl, rfl⟩
    | ok d₁ =>
      obtain ⟨written, rest, rfl, hnames, hfiles⟩ := ih d₁
      refine ⟨u :: written, rest, rfl, ?_, ?_⟩
      · rw [List.map_cons, ← hnames]
      · dsimp only
        rw [hfiles, Disk.files_of_writeUnit hwrite, List.map_cons, List.reverse_cons,
          List.append_assoc]
        rfl

/-- The units of a class stay below just if the class does. -/
theorem Entity.staysBelow_of_mem_units {e : Entity} {b : Backend} {u : SourceUnit}
    (h : u ∈ e.units b) : u.scope.declared.StaysBelow ↔ e.className.StaysBelow := by
  obtain ⟨k, hk⟩ := exists_unit? h
  rw [declared_of_unit? hk]
  exact ClassName.staysBelow_append (b.unitSuffix_plain k).2 e.package e.name

namespace Processor

/-- **A round writes its units where their paths lead to, and this is below every output directory
just if the name of the class stays below, as names without slashes do.** -/
theorem files_of_round (p : Processor) (m : Model) (folder : Location) (out : String) (d : Disk) :
    (∃ written rest, p.emission m = written ++ rest ∧
      (p.round m (Disk.writeUnit folder out) d).generated = written.map (·.qualifiedName) ∧
      (p.round m (Disk.writeUnit folder out) d).store.files =
        (written.map (fileOf folder out)).reverse ++ d.files) ∧
    ∀ e ∈ p.accepted m,
      (∀ u ∈ e.units p.backend,
        (∀ folder out, (resolve folder (joinPath out u.scope.path)).IsBelow (resolve folder out)) ↔
          e.className.StaysBelow) ∧
      ('/' ∉ e.package.toList → '/' ∉ e.name.toList → e.className.StaysBelow) := by
  obtain ⟨hgenerated, hstore⟩ := p.round_eq (m := m) (Disk.writeUnit folder out) d
  refine ⟨?_, fun e _ => ⟨fun u hu => ?_, fun hpackage hname => ?_⟩⟩
  · rw [hgenerated, hstore]
    exact writeAll_onDisk folder out (p.emission m) d
  · exact (Scope.below_iff u.scope).trans (Entity.staysBelow_of_mem_units hu)
  · exact ClassName.staysBelow_of_noSlash hpackage hname

/-- A class with a key field, by its package and name. -/
def namedModel (package name : String) : Model :=
  ⟨[], [Element.ofKind .package package,
    { Element.ofKind .classType name with
      enclosing := some 0
      annotations := [⟨"StorIOSQLiteType", some "table = \"users\""⟩] },
    { Element.ofKind .field "id" with
      enclosing := some 1
      type := some "long"
      annotations := [⟨"StorIOSQLiteColumn", some "name = \"_id\", key = true"⟩] }]⟩

/-- The units of a class go up from its package and stay below nevertheless. -/
theorem files_of_namedModel : ∃ e ∈ (initial .sqlite .unset).accepted (namedModel "a.b" "../User"),
    e.className = ⟨"a.b", "../User"⟩ ∧ e.className.StaysBelow ∧
      ∀ u ∈ e.units .sqlite, ∀ folder out,
        (resolve folder (joinPath out u.scope.path)).IsBelow (resolve folder out) := by
  have haccepted : ((initial .sqlite .unset).accepted (namedModel "a.b" "../User")).map
      (·.className) = [⟨"a.b", "../User"⟩] := by
    decide +kernel
  obtain ⟨e, he, hname⟩ := exists_of_accepted haccepted
  have hstays : e.className.StaysBelow := by
    rw [hname]
    decide +kernel
  have hunits := ((initial .sqlite .unset).files_of_round (namedModel "a.b" "../User") [] ""
    (Disk.ofFolder [])).2 e he
  exact ⟨e, he, hname, hstays, fun u hu => (hunits.1 u hu).2 hstays⟩

/-- The files of a class whose name goes up further lie outside. -/
theorem files_climbingModel :
    let r := (initial .sqlite .unset).round (namedModel "com.test" "../../../User")
      (Disk.writeUnit ["work"] "out") (Disk.ofFolder ["work"])
    r.store.files.map (·.1) =
        [["work", "UserSQLiteTypeMapping.java"], ["work", "UserStorIOSQLiteDeleteResolver.java"],
          ["work", "UserStorIOSQLiteGetResolver.java"],
          ["work", "UserStorIOSQLitePutResolver.java"]] ∧
      ∀ file ∈ r.store.files, ¬file.1.IsBelow (resolve ["work"] "out") := by
  intro r
  have hplaces : r.store.files.map (·.1) =
      [["work", "UserSQLiteTypeMapping.java"], ["work", "UserStorIOSQLiteDeleteResolver.java"],
        ["work", "UserStorIOSQLiteGetResolver.java"],
        ["work", "UserStorIOSQLitePutResolver.java"]] := by
    decide +kernel
  have hroot : resolve ["work"] "out" = ["work", "out"] := by
    decide
  refine ⟨hplaces, fun file hfile => ?_⟩
  have hplace : file.1 ∈ r.store.files.map (·.1) := List.mem_map_of_mem hfile
  rw [hroot]
  rintro ⟨rest, -, hbelow⟩
  rw [hplaces, hbelow] at hplace
  simp at hplace

end Processor

end ResolverGen
