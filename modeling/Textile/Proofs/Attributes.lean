import Mathlib.Data.List.Basic
import Textile.Attributes

/-!
# Attributes by their entries

The entries are all there is to attributes (`eq_of_entries_eq`), and a list of entries
with distinct names becomes the attributes with these entries (`ofList_entries`).
-/

namespace Textile.Attributes

theorem eq_of_entries_eq {attributes other : Attributes} (h : attributes.entries = other.entries) :
    attributes = other := by
  obtain ⟨entries, _⟩ := attributes
  obtain ⟨others, _⟩ := other
  cases h
  rfl

/-- An attribute that is given is among the entries. -/
theorem mem_entries_of_get? {attributes : Attributes} {name value : String}
    (h : attributes.get? name = some value) : (name, value) ∈ attributes.entries := by
  obtain ⟨before, after, heq, _⟩ := List.lookup_eq_some_iff.mp h
  rw [heq]
  exact List.mem_append_right _ List.mem_cons_self

theorem put_of_not_mem {entries : List (String × String)} {name : String}
    (h : name ∉ entries.map Prod.fst) (value : String) :
    put entries name value = entries ++ [(name, value)] := by
  induction entries with
  | nil => rfl
  | cons entry entries ih =>
      obtain ⟨other, present⟩ := entry
      rw [List.map_cons, List.mem_cons, not_or] at h
      rw [put, if_neg (Ne.symm h.1), ih h.2]
      rfl

/-- Entries with names of their own are added in order. -/
theorem entries_foldl_insert {attributes : Attributes} {entries : List (String × String)}
    (h : ((attributes.entries ++ entries).map Prod.fst).Nodup) :
    (entries.foldl (fun attributes (name, value) => attributes.insert name value)
      attributes).entries = attributes.entries ++ entries := by
  induction entries generalizing attributes with
  | nil => exact (List.append_nil _).symm
  | cons entry entries ih =>
      obtain ⟨name, value⟩ := entry
      have hnew : name ∉ attributes.entries.map Prod.fst := by
        rw [List.map_append] at h
        exact fun hin => (List.nodup_append.mp h).2.2 name hin name List.mem_cons_self rfl
      have hput : (attributes.insert name value).entries = attributes.entries ++ [(name, value)] :=
        put_of_not_mem hnew value
      rw [List.foldl_cons, ih (by rw [hput, List.append_assoc]; exact h), hput, List.append_assoc]
      rfl

/-- Distinct names keep their order and their values. -/
theorem ofList_entries (attributes : Attributes) : ofList attributes.entries = attributes :=
  eq_of_entries_eq (@entries_foldl_insert empty attributes.entries attributes.distinct)

/-- The attributes with all values changed. -/
def mapValues (attributes : Attributes) (change : String → String) : Attributes :=
  ⟨attributes.entries.map fun (name, value) => (name, change value), by
    rw [List.map_map]
    exact attributes.distinct⟩

end Textile.Attributes
