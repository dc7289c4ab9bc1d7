import Mathlib.Data.List.Basic

/-!
# Association lists

What a list of keys with values gives for a key.
-/

namespace Montage

variable {Key Value : Type} [BEq Key] [LawfulBEq Key] {entries : List (Key × Value)} {key : Key}
  {value : Value}

theorem mem_of_lookup_eq_some (found : entries.lookup key = some value) :
    (key, value) ∈ entries := by
  obtain ⟨before, behind, rfl, -⟩ := List.lookup_eq_some_iff.mp found
  exact List.mem_append_right _ List.mem_cons_self

/-- Where no key occurs twice, every entry is found. -/
theorem lookup_eq_some_iff_mem (once : (entries.map Prod.fst).Nodup) :
    entries.lookup key = some value ↔ (key, value) ∈ entries := by
  refine ⟨mem_of_lookup_eq_some, fun member => ?_⟩
  obtain ⟨before, behind, rfl⟩ := List.append_of_mem member
  rw [List.lookup_eq_some_iff]
  refine ⟨before, behind, rfl, fun other earlier => bne_iff_ne.mpr fun same => ?_⟩
  rw [List.map_append, List.map_cons, List.nodup_append] at once
  exact once.2.2 _ (List.mem_map_of_mem earlier) _ List.mem_cons_self same.symm

theorem lookup_ne_none_iff : entries.lookup key ≠ none ↔ key ∈ entries.map Prod.fst := by
  simp only [ne_eq, List.lookup_eq_none_iff, List.mem_map, not_forall, bne_iff_ne, not_not,
    exists_prop]
  exact ⟨fun ⟨entry, member, same⟩ => ⟨entry, member, same.symm⟩,
    fun ⟨entry, member, same⟩ => ⟨entry, member, same.symm⟩⟩

theorem lookup_map_value {Other : Type} (renew : Key → Value → Other)
    (entries : List (Key × Value)) (key : Key) :
    (entries.map fun entry => (entry.1, renew entry.1 entry.2)).lookup key =
      (entries.lookup key).map (renew key) := by
  induction entries with
  | nil => rfl
  | cons entry entries ih =>
      rw [List.map_cons, List.lookup_cons, List.lookup_cons, ih]
      cases same : key == entry.1 with
      | false => rfl
      | true => simp [eq_of_beq same]

end Montage
