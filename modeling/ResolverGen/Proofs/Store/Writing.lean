/-
Writing below a folder.

Where no location is both a file and a folder (`Disk.Consistent`), a path that can be followed is
followed in writing, too (`put_of_follow?`), and changes nothing on the way. From there on, writing
a unit makes the folders of its package and puts its source behind all of them (`writeUnit_eq`). The
files below a folder are those that have been written there, where there was none before
(`filesBelow_of_files`).
-/
import ResolverGen.Proofs.Lookup
import ResolverGen.Proofs.Store.Paths

namespace ResolverGen

open Code

namespace Disk

variable {d : Disk} {l l' root folder : Location} {steps : List String} {text : String}

/-- Whether no location is both a file and a folder. -/
def Consistent (d : Disk) : Prop := ∀ l, d.isFolder l = true → d.file? l = none

theorem isFolder_eq_true_iff : d.isFolder l = true ↔ l = [] ∨ l ∈ d.folders := by
  simp [isFolder]

/-! ### Names -/

theorem utf8ByteSize_le (s : String) : s.utf8ByteSize ≤ 4 * s.length := by
  have hlist (cs : List Char) : (String.ofList cs).utf8ByteSize ≤ 4 * cs.length := by
    induction cs with
    | nil => exact Nat.zero_le 0
    | cons c cs ih =>
      have hsize : (String.ofList (c :: cs)).utf8ByteSize =
          c.utf8Size + (String.ofList cs).utf8ByteSize := by
        rw [String.ofList_cons, String.utf8ByteSize_append, String.utf8ByteSize_singleton]
      have hc := c.utf8Size_le_four
      rw [List.length_cons]
      omega
  simpa [String.length_toList] using hlist s.toList

/-- However many bytes its characters take, a short name is not too long. -/
theorem checkName_of_length_le {step : String} (hzero : '\x00' ∉ step.toList)
    (hlength : step.length ≤ 63) : checkName step = .ok () := by
  have hsize := utf8ByteSize_le step
  rw [checkName, if_neg (by simpa using hzero), if_neg (by omega)]

/-! ### The way to a folder -/

/-- Steps through folders that are there change nothing. -/
theorem put_of_follow? (hd : d.Consistent) (hnames : ∀ step ∈ steps, checkName step = .ok ())
    (h : d.follow? l steps = some l') (rest : List String) :
    d.put text l (steps ++ rest) = d.put text l' rest := by
  induction steps generalizing l with
  | nil => rw [List.nil_append, Option.some.inj h]
  | cons step steps ih =>
    rw [follow?] at h
    split at h
    · next hfolder =>
      have hmake : d.makeFolder l = .ok d := by
        rw [makeFolder, hd l hfolder, if_neg (by decide), if_pos hfolder]
      rw [List.cons_append, put, hnames step List.mem_cons_self, hmake]
      exact ih (fun s hs => hnames s (List.mem_cons_of_mem step hs)) h
    · cases h

/-- An empty step at the end leads nowhere else. -/
theorem follow?_of_append_empty (h : d.follow? l (steps ++ [""]) = some l') :
    d.follow? l steps = some l' := by
  induction steps generalizing l with
  | nil =>
    rw [List.nil_append, follow?] at h
    split at h
    · exact h
    · cases h
  | cons step steps ih =>
    rw [List.cons_append, follow?] at h
    rw [follow?]
    split at h
    · next hfolder =>
      rw [if_pos hfolder]
      exact ih h
    · cases h

theorem follow?_of_folders {d' : Disk} (hfolders : ∀ l, d.isFolder l = true → d'.isFolder l = true)
    (h : d.follow? l steps = some l') : d'.follow? l steps = some l' := by
  induction steps generalizing l with
  | nil => exact h
  | cons step steps ih =>
    rw [follow?] at h ⊢
    split at h
    · next hfolder =>
      rw [if_pos (hfolders l hfolder)]
      exact ih h
    · cases h

/-! ### Writing behind folders -/

theorem makeFolder_of_free (h : d.file? l = none) :
    ∃ d', d.makeFolder l = .ok d' ∧ d'.files = d.files ∧
      ∀ l', d'.isFolder l' = true ↔ d.isFolder l' = true ∨ l' = l := by
  rw [makeFolder, h, if_neg (by decide)]
  by_cases hthere : d.isFolder l = true
  · rw [if_pos hthere]
    refine ⟨d, rfl, rfl, fun l' => ⟨.inl, ?_⟩⟩
    rintro (h | rfl)
    · exact h
    · exact hthere
  · rw [if_neg hthere]
    refine ⟨_, rfl, rfl, fun l' => ?_⟩
    simp only [isFolder_eq_true_iff, List.mem_cons]
    tauto

/-- What a disk has more than before, after a text has been put behind folders. -/
structure Gains (d d' : Disk) (l : Location) (way : List String) (name text : String) : Prop where
  files : d'.files = (l ++ (way ++ [name]), text) :: d.files
  folders : ∀ l', d'.isFolder l' = true ↔
    d.isFolder l' = true ∨ ∃ part, part <+: way ∧ l' = l ++ part

/-- Putting a text behind folders makes those that are not there, if there is no file in the way and
no folder in the place of the text. -/
theorem put_entries (text : String) {way : List String} {name : String}
    (hway : ∀ step ∈ way, IsEntry step) (hname : IsEntry name)
    (hnames : ∀ step ∈ way ++ [name], checkName step = .ok ())
    (hfree : ∀ part, part <+: way → d.file? (l ++ part) = none)
    (hfolder : d.isFolder (l ++ (way ++ [name])) = false) :
    ∃ d', d.put text l (way ++ [name]) = .ok d' ∧ d.Gains d' l way name text := by
  -- the step that is taken first makes the folder that it is taken from
  induction way generalizing d l with
  | nil =>
    obtain ⟨d₁, hmake, hfiles, hfolders⟩ :=
      makeFolder_of_free (d := d) (by simpa using hfree [] List.nil_prefix)
    have hplace : d₁.isFolder (l ++ [name]) = false := by
      rw [Bool.eq_false_iff, ne_eq, hfolders]
      simpa using hfolder
    refine ⟨{ d₁ with files := (l ++ [name], text) :: d₁.files }, ?_, ?_, fun l' => ?_⟩
    · rw [List.nil_append, put, hnames name (by simp), hmake]
      simp [bind, Except.bind, Location.step_of_isEntry hname, put, hplace]
    · rw [hfiles, List.nil_append]
    · simpa [isFolder] using hfolders l'
  | cons step way ih =>
    obtain ⟨d₁, hmake, hfiles, hfolders⟩ :=
      makeFolder_of_free (d := d) (by simpa using hfree [] List.nil_prefix)
    have hstep := Location.step_of_isEntry (hway step List.mem_cons_self) l
    have hfree₁ : ∀ part, part <+: way → d₁.file? (l.step step ++ part) = none := by
      intro part hpart
      rw [file?, hfiles, hstep, List.append_assoc]
      exact hfree (step :: part) (List.cons_prefix_cons.2 ⟨rfl, hpart⟩)
    have hplace : d₁.isFolder (l.step step ++ (way ++ [name])) = false := by
      rw [hstep, List.append_assoc, Bool.eq_false_iff, ne_eq, hfolders]
      simpa using hfolder
    obtain ⟨d', hput, hgains⟩ := ih (fun s hs => hway s (List.mem_cons_of_mem step hs))
      (fun s hs => hnames s (List.mem_cons_of_mem step hs)) hfree₁ hplace
    refine ⟨d', ?_, ?_, fun l' => ?_⟩
    · rw [List.cons_append, put, hnames step (by simp), hmake]
      exact hput
    · rw [hgains.files, hfiles, hstep, List.append_assoc]
      rfl
    · -- the folders made are the one at the front and those behind the first step
      rw [hgains.folders, hfolders, hstep, or_assoc]
      refine or_congr_right ⟨?_, ?_⟩
      · rintro (rfl | ⟨part, hpart, rfl⟩)
        · exact ⟨[], List.nil_prefix, (List.append_nil l').symm⟩
        · exact ⟨step :: part, List.cons_prefix_cons.2 ⟨rfl, hpart⟩, List.append_assoc ..⟩
      · rintro ⟨part, hpart, rfl⟩
        rcases List.prefix_cons_iff.1 hpart with rfl | ⟨rest, rfl, hrest⟩
        · exact .inl (List.append_nil l)
        · exact .inr ⟨rest, hrest, by simp⟩

/-- Writing a unit below a folder that the output path leads to. -/
theorem writeUnit_eq {out : String} {u : SourceUnit} (hd : d.Consistent)
    (hout : d.follow? (pathStart folder out) (pathSteps out) = some root)
    (houtNames : ∀ step ∈ pathSteps out, checkName step = .ok ()) (hu : u.scope.WellNamed)
    (hnames : ∀ step ∈ u.scope.steps, checkName step = .ok ())
    (hfree : ∀ part, part <+: u.scope.folders → d.file? (root ++ part) = none)
    (hfolder : d.isFolder (root ++ u.scope.steps) = false) :
    ∃ d', d.writeUnit folder out u = .ok d' ∧
      d.Gains d' root u.scope.folders (u.scope.typeName ++ ".java") u.source := by
  obtain ⟨steps, hsteps, hsame⟩ := pathSteps_joinPath (out) hu.head?_path
  have hmem : ∀ step ∈ steps, step ∈ pathSteps out := by
    intro step hstep
    rcases hsame with hsame | hsame <;> rw [hsame]
    · exact hstep
    · exact List.mem_append_left _ hstep
  have hfollow : d.follow? (pathStart folder out) steps = some root := by
    rcases hsame with hsame | hsame <;> rw [hsame] at hout
    · exact hout
    · exact follow?_of_append_empty hout
  have hentries := hu.isEntry_of_mem_steps
  obtain ⟨d', hput, hgains⟩ := put_entries u.source
    (fun step hstep => hentries step (List.mem_append_left _ hstep)) hu.typeName.isEntry_file
    hnames hfree hfolder
  refine ⟨d', ?_, hgains⟩
  rw [writeUnit, write, pathStart_joinPath folder hu.head?_path, hsteps, hu.pathSteps_path,
    put_of_follow? hd (fun step hstep => houtNames step (hmem step hstep)) hfollow, Scope.steps, hput]
  rfl

/-! ### Reading what is below a folder -/

theorem below?_eq_some_iff {rest : Location} : below? root l = some rest ↔ l = root ++ rest := by
  induction root generalizing l with
  | nil => simp [below?, eq_comm]
  | cons step root ih =>
    cases l with
    | nil => simp [below?]
    | cons step' l =>
      rw [below?, List.cons_append, List.cons_eq_cons, ← ih]
      split
      · next h => simp [h]
      · next h => simp [Ne.symm h]

theorem eraseDups_of_nodup {α : Type} [BEq α] [LawfulBEq α] {xs : List α} (h : xs.Nodup) :
    xs.eraseDups = xs := by
  induction xs with
  | nil => rfl
  | cons x xs ih =>
    rw [List.nodup_cons] at h
    have hothers : xs.filter (fun y => !y == x) = xs := by
      refine List.filter_eq_self.2 fun y hy => ?_
      rw [Bool.not_eq_true', beq_eq_false_iff_ne]
      rintro rfl
      exact h.1 hy
    rw [List.eraseDups_cons, hothers, ih h.2]

/-- The files below a folder are those that lie there, if each is there once. -/
theorem filesBelow_of_files {entries others : List (Location × String)}
    (hfiles : d.files = entries.map (fun e => (root ++ e.1, e.2)) ++ others)
    (hnodup : (entries.map (·.1)).Nodup) (hothers : ∀ file ∈ others, ¬ root <+: file.1) :
    d.filesBelow root = entries.map fun e => (Text.join "/" e.1, e.2) := by
  have hbelow (e : Location × String) : below? root (root ++ e.1) = some e.1 :=
    below?_eq_some_iff.2 rfl
  have hpaths : (d.files.filterMap fun file => below? root file.1) = entries.map (·.1) := by
    have hnone : others.filterMap (fun file => below? root file.1) = [] := by
      refine List.filterMap_eq_nil_iff.2 fun file hfile => ?_
      cases h : below? root file.1 with
      | none => rfl
      | some rest => exact absurd ⟨rest, (below?_eq_some_iff.1 h).symm⟩ (hothers file hfile)
    rw [hfiles, List.filterMap_append, hnone, List.append_nil, List.filterMap_map]
    simp only [Function.comp_def, hbelow]
    exact congrFun List.filterMap_eq_map' entries
  have hplaces : ((entries.map fun e => (root ++ e.1, e.2)).map (·.1)).Nodup := by
    have hmap : (entries.map fun e => (root ++ e.1, e.2)).map (·.1) =
        (entries.map (·.1)).map (root ++ ·) := by
      rw [List.map_map, List.map_map]
      rfl
    rw [hmap]
    exact hnodup.map fun _ _ => List.append_cancel_left
  have hfile : ∀ e ∈ entries, d.file? (root ++ e.1) = some e.2 := by
    intro e he
    rw [file?, hfiles, List.lookup_append,
      (lookup_eq_some_iff_mem hplaces).2 (List.mem_map_of_mem he), Option.some_or]
  have hunfold : d.filesBelow root =
      (d.files.filterMap fun file => below? root file.1).eraseDups.filterMap fun l =>
        (d.file? (root ++ l)).map fun text => (Text.join "/" l, text) :=
    rfl
  rw [hunfold, hpaths, eraseDups_of_nodup hnodup, List.filterMap_map, ← List.filterMap_eq_map]
  refine List.filterMap_congr fun e he => ?_
  simp only [Function.comp_apply, hfile e he, Option.map_some]

end Disk

end ResolverGen
