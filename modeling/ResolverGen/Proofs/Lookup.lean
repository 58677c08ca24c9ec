/-
Lookups in lists of pairs.

A lookup finds the first pair of a key. Where every key is there once, it finds just the pairs of
the list (`lookup_eq_some_iff_mem`), whatever their order.
-/
import Mathlib.Data.List.Nodup

namespace ResolverGen

theorem lookup_eq_some_iff_mem {α β : Type} [BEq α] [LawfulBEq α] {pairs : List (α × β)} {key : α}
    {value : β} (h : (pairs.map (·.1)).Nodup) :
    pairs.lookup key = some value ↔ (key, value) ∈ pairs := by
  constructor
  · intro hlookup
    obtain ⟨before, behind, rfl, -⟩ := List.lookup_eq_some_iff.1 hlookup
    exact List.mem_append_right before List.mem_cons_self
  · intro hmem
    obtain ⟨before, behind, rfl⟩ := List.append_of_mem hmem
    refine List.lookup_eq_some_iff.2 ⟨before, behind, rfl, fun pair hpair => ?_⟩
    rw [List.map_append, List.map_cons] at h
    rw [bne_iff_ne]
    rintro rfl
    exact List.disjoint_of_nodup_append h (List.mem_map_of_mem hpair) List.mem_cons_self

end ResolverGen
