/-
Sorting by insertion puts in order.

`sortBy` is the insertion sort of the library (`sortBy_eq_insertionSort`), so for a total and
transitive comparison

* `pairwise_sortBy` — no element exceeds a later one,
* `filter_sortBy` — elements of which none comes before another keep their order,
* `sortBy_map_eq_iff` — the images of a sorted list are a given list exactly if that list is in
  order itself and has the same elements, where the comparison tells the images apart,
* `eq_of_filter_eq` — there is only one order by a key that keeps elements of one key in theirs.

A `sortedSet` has the texts of its list (`mem_sortedSet`), each of them once (`nodup_sortedSet`).
-/
import Mathlib.Data.List.Sort
import ResolverGen.Order

namespace ResolverGen.Order

variable {α β : Type} {le : α → α → Bool}

theorem insertBy_eq_orderedInsert (le : α → α → Bool) (x : α) (xs : List α) :
    insertBy le x xs = xs.orderedInsert (fun a b => le a b = true) x := by
  induction xs with
  | nil => rfl
  | cons y ys ih => rw [insertBy, List.orderedInsert_cons, ih]

theorem sortBy_eq_insertionSort (le : α → α → Bool) (xs : List α) :
    sortBy le xs = xs.insertionSort (fun a b => le a b = true) := by
  induction xs with
  | nil => rfl
  | cons x xs ih =>
    have hcons : sortBy le (x :: xs) = insertBy le x (sortBy le xs) := rfl
    rw [hcons, ih, insertBy_eq_orderedInsert, List.insertionSort_cons]

/-- A sorted list is in order. -/
theorem pairwise_sortBy (total : ∀ a b, le a b = true ∨ le b a = true)
    (trans : ∀ a b c, le a b = true → le b c = true → le a c = true) (xs : List α) :
    (sortBy le xs).Pairwise fun a b => le a b = true := by
  have : Std.Total fun a b => le a b = true := ⟨total⟩
  have : IsTrans α fun a b => le a b = true := ⟨trans⟩
  rw [sortBy_eq_insertionSort]
  exact List.pairwise_insertionSort _ _

/-- Sorting the images of a list by the same comparison gives the images of the sorted list. -/
theorem sortBy_map {le' : β → β → Bool} {f : α → β} (h : ∀ a b, le' (f a) (f b) = le a b)
    (xs : List α) : sortBy le' (xs.map f) = (sortBy le xs).map f := by
  rw [sortBy_eq_insertionSort, sortBy_eq_insertionSort]
  exact (List.map_insertionSort (fun a b => le a b = true) (fun a b => le' a b = true) f xs
    fun a _ b _ => by rw [h]).symm

theorem filter_insertBy {p : α → Bool} {x : α} {xs : List α}
    (h : ∀ y ∈ xs, p x = true → p y = true → le x y = true) :
    (insertBy le x xs).filter p = (x :: xs).filter p := by
  induction xs with
  | nil => rfl
  | cons y ys ih =>
    have ih := ih fun z hz => h z (List.mem_cons_of_mem y hz)
    unfold insertBy
    split
    · rfl
    · next hle =>
      -- `x` goes behind `y`, so they are not both of the kind that is looked at
      rw [List.filter_cons, ih]
      by_cases hx : p x = true
      · have hy : ¬p y = true := fun hy => hle (h y List.mem_cons_self hx hy)
        simp [hx, hy]
      · simp [List.filter_cons, hx]

/-- Elements that do not exceed one another stay in their order. -/
theorem filter_sortBy {p : α → Bool} {xs : List α}
    (h : ∀ x ∈ xs, ∀ y ∈ xs, p x = true → p y = true → le x y = true) :
    (sortBy le xs).filter p = xs.filter p := by
  induction xs with
  | nil => rfl
  | cons x xs ih =>
    have hrest : (sortBy le xs).filter p = xs.filter p :=
      ih fun y hy z hz => h y (List.mem_cons_of_mem x hy) z (List.mem_cons_of_mem x hz)
    have hinsert : (insertBy le x (sortBy le xs)).filter p = (x :: sortBy le xs).filter p := by
      refine filter_insertBy fun y hy => h x List.mem_cons_self y ?_
      exact List.mem_cons_of_mem x ((sortBy_perm le xs).mem_iff.1 hy)
    show (insertBy le x (sortBy le xs)).filter p = (x :: xs).filter p
    rw [hinsert, List.filter_cons, List.filter_cons, hrest]

/-- If the comparison looks at images only and tells those of `ys` apart, the images of a sorted
list are `ys` exactly if `ys` has the same elements and is in order. -/
theorem sortBy_map_eq_iff {f : α → β} {rel : β → β → Prop} {xs : List α} {ys : List β}
    (total : ∀ a b, le a b = true ∨ le b a = true)
    (trans : ∀ a b c, le a b = true → le b c = true → le a c = true)
    (image : ∀ a b, le a b = true ↔ rel (f a) (f b))
    (antisymm : ∀ a ∈ ys, ∀ b ∈ ys, rel a b → rel b a → a = b) :
    (sortBy le xs).map f = ys ↔ (xs.map f).Perm ys ∧ ys.Pairwise rel := by
  have hperm : ((sortBy le xs).map f).Perm (xs.map f) := (sortBy_perm le xs).map f
  have hsorted : ((sortBy le xs).map f).Pairwise rel := by
    rw [List.pairwise_map]
    exact (pairwise_sortBy total trans xs).imp fun h => (image _ _).1 h
  constructor
  · rintro rfl
    exact ⟨hperm.symm, hsorted⟩
  · rintro ⟨hxs, hys⟩
    have hall : ((sortBy le xs).map f).Perm ys := hperm.trans hxs
    refine hall.eq_of_pairwise (fun a b ha hb hab hba => ?_) hsorted hys
    exact antisymm a (hall.mem_iff.1 ha) b hb hab hba

/-! ### Stable orders -/

section

variable {xs ys : List α}

/-- Elements of one kind stand in the same order in two lists that have the same elements of it. -/
theorem pair_sublist_iff {p : α → Bool} (h : xs.filter p = ys.filter p) {a b : α}
    (ha : p a = true) (hb : p b = true) : [a, b].Sublist xs ↔ [a, b].Sublist ys := by
  have hpair : [a, b].filter p = [a, b] := by simp [ha, hb]
  have hfilter (zs : List α) : [a, b].Sublist zs ↔ [a, b].Sublist (zs.filter p) := by
    constructor
    · intro hsub
      rw [← hpair]
      exact hsub.filter p
    · exact fun hsub => hsub.trans List.filter_sublist
  rw [hfilter xs, hfilter ys, h]

/-- A list in which nothing comes before the elements of a kind has these elements in front. -/
theorem eq_filter_append {p : α → Bool} (h : xs.Pairwise fun a b => p b = true → p a = true) :
    xs = xs.filter p ++ xs.filter (fun x => !p x) := by
  induction xs with
  | nil => rfl
  | cons x xs ih =>
    obtain ⟨hx, hxs⟩ := List.pairwise_cons.1 h
    by_cases hp : p x = true
    · rw [List.filter_cons_of_pos hp, List.filter_cons_of_neg (by simp [hp]), List.cons_append,
        ← ih hxs]
    · have hnone : xs.filter p = [] := List.filter_eq_nil_iff.2 fun y hy hpy => hp (hx y hy hpy)
      have hall : xs.filter (fun x => !p x) = xs :=
        List.filter_eq_self.2 fun y hy => by
          simpa using fun hpy => hp (hx y hy hpy)
      rw [List.filter_cons_of_neg hp, hnone, List.filter_cons_of_pos (by simpa using hp), hall]
      rfl

/-- Lists that have the same elements of each key have the same elements. -/
theorem mem_iff_of_filter_eq {key : α → Nat}
    (h : ∀ k, xs.filter (fun x => key x = k) = ys.filter fun y => key y = k) (z : α) :
    z ∈ xs ↔ z ∈ ys := by
  have hkey : z ∈ xs.filter (fun x => key x = key z) ↔ z ∈ ys.filter fun y => key y = key z := by
    rw [h]
  simpa using hkey

/-- Lists that are sorted by a key and have the same elements of each key, in the same order, are
the same. -/
theorem eq_of_filter_eq {key : α → Nat} (hxs : xs.Pairwise fun a b => key a ≤ key b)
    (hys : ys.Pairwise fun a b => key a ≤ key b)
    (h : ∀ k, xs.filter (fun x => key x = k) = ys.filter fun y => key y = k) : xs = ys := by
  induction xs generalizing ys with
  | nil =>
    refine (List.eq_nil_iff_forall_not_mem.2 fun y hy => ?_).symm
    exact List.not_mem_nil ((mem_iff_of_filter_eq h y).2 hy)
  | cons x xs ih =>
    cases ys with
    | nil => exact absurd ((mem_iff_of_filter_eq h x).1 List.mem_cons_self) List.not_mem_nil
    | cons y ys =>
      obtain ⟨hx, hxs'⟩ := List.pairwise_cons.1 hxs
      obtain ⟨hy, hys'⟩ := List.pairwise_cons.1 hys
      -- both heads have the least key, so they are the first elements of it
      have hle : key x ≤ key y := by
        rcases List.mem_cons.1 ((mem_iff_of_filter_eq h y).2 List.mem_cons_self) with heq | hmem
        · rw [heq]
        · exact hx y hmem
      have hge : key y ≤ key x := by
        rcases List.mem_cons.1 ((mem_iff_of_filter_eq h x).1 List.mem_cons_self) with heq | hmem
        · rw [heq]
        · exact hy x hmem
      have hkey : key y = key x := Nat.le_antisymm hge hle
      have hfirst := h (key x)
      rw [List.filter_cons_of_pos (by simp), List.filter_cons_of_pos (by simp [hkey])] at hfirst
      have hhead : x = y := (List.cons.inj hfirst).1
      have hrest (k : Nat) : xs.filter (fun x => key x = k) = ys.filter fun y => key y = k := by
        have hk := h k
        rw [hhead] at hk
        by_cases hyk : key y = k
        · rw [List.filter_cons_of_pos (by simpa using hyk),
            List.filter_cons_of_pos (by simpa using hyk)] at hk
          exact (List.cons.inj hk).2
        · rwa [List.filter_cons_of_neg (by simpa using hyk),
            List.filter_cons_of_neg (by simpa using hyk)] at hk
      rw [hhead, ih hxs' hys' hrest]

end

/-! ### Sets of texts -/

theorem nodup_eraseDups [BEq α] [LawfulBEq α] (xs : List α) : xs.eraseDups.Nodup := by
  -- what is left to do is shorter after each element, as its repetitions are gone
  induction hn : xs.length using Nat.strong_induction_on generalizing xs with
  | _ n ih =>
    cases xs with
    | nil => exact List.nodup_nil
    | cons x xs =>
      rw [List.eraseDups_cons, List.nodup_cons]
      have hshorter : (xs.filter fun y => !y == x).length < n := by
        have := List.length_filter_le (fun y => !y == x) xs
        simp only [List.length_cons] at hn
        omega
      refine ⟨fun hx => ?_, ih _ hshorter _ rfl⟩
      simpa using (List.mem_filter.1 (List.mem_eraseDups.1 hx)).2

theorem mem_sortedSet {xs : List String} {x : String} : x ∈ sortedSet xs ↔ x ∈ xs := by
  rw [sortedSet, List.mem_eraseDups, (sortBy_perm _ xs).mem_iff]

theorem nodup_sortedSet (xs : List String) : (sortedSet xs).Nodup := nodup_eraseDups _

end ResolverGen.Order
