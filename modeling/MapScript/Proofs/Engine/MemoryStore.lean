import Mathlib.Data.List.Perm.Basic
import MapScript.Engine.Memory

set_option autoImplicit false

namespace MapScript

variable {A : Type}

namespace Dictionary

theorem find?_eq_some_iff {d : Dictionary A} {key : String} {value : A} :
    d.find? key = some value ↔ (key, value) ∈ d.entries := by
  obtain ⟨entries, ascending⟩ := d
  simp only [find?]
  induction entries with
  | nil => simp
  | cons entry rest ih =>
    obtain ⟨before, ascending⟩ := List.pairwise_cons.mp ascending
    by_cases here : entry.1 = key
    · have absent : (key, value) ∉ rest := fun member =>
        String.lt_irrefl key (by simpa [here] using before (key, value) member)
      simp [here, absent, Prod.ext_iff, eq_comm]
    · have other : (key, value) ≠ entry := fun same => here (same ▸ rfl)
      simp [here, other, ih ascending]

theorem entries_nodup (d : Dictionary A) : d.entries.Nodup := by
  refine d.ascending.imp ?_
  rintro a b before rfl
  exact String.lt_irrefl _ before

theorem ext_find? {d d' : Dictionary A} (same : ∀ key, d.find? key = d'.find? key) : d = d' := by
  have members (entry : String × A) : entry ∈ d.entries ↔ entry ∈ d'.entries := by
    rw [← find?_eq_some_iff, ← find?_eq_some_iff, same]
  have alike : d.entries.Perm d'.entries :=
    (List.perm_ext_iff_of_nodup d.entries_nodup d'.entries_nodup).mpr members
  have entries_eq : d.entries = d'.entries := by
    refine alike.eq_of_pairwise ?_ d.ascending d'.ascending
    intro a b _ _ before behind
    exact absurd (String.lt_trans before behind) (String.lt_irrefl _)
  cases d
  cases d'
  simpa using entries_eq

theorem insert_insert (d : Dictionary A) (key : String) (first second : A) :
    (d.insert key first).insert key second = d.insert key second := by
  refine ext_find? fun other => ?_
  by_cases same : other = key
  · subst same
    rw [find?_insert_self, find?_insert_self]
  · rw [find?_insert_of_ne _ _ same, find?_insert_of_ne _ _ same, find?_insert_of_ne _ _ same]

theorem insert_comm (d : Dictionary A) {key key' : String} (apart : key ≠ key') (a b : A) :
    (d.insert key a).insert key' b = (d.insert key' b).insert key a := by
  refine ext_find? fun other => ?_
  by_cases first : other = key
  · subst first
    rw [find?_insert_of_ne _ _ apart, find?_insert_self, find?_insert_self]
  · by_cases second : other = key'
    · subst second
      rw [find?_insert_self, find?_insert_of_ne _ _ first, find?_insert_self]
    · rw [find?_insert_of_ne _ _ second, find?_insert_of_ne _ _ first,
        find?_insert_of_ne _ _ first, find?_insert_of_ne _ _ second]

end Dictionary

namespace Memory

variable {memory : Memory} {name key key' : String}

@[simp] theorem mapping_store (memory : Memory) (name key : String) (value : Value) :
    (memory.store name key value).mapping name = (memory.mapping name).insert key value := by
  simp [store, mapping, mapping?, Dictionary.find?_insert_self]

theorem value?_store_self (value : Value) :
    (memory.store name key value).value? name key = some value := by
  rw [value?, mapping_store, Dictionary.find?_insert_self]

theorem value?_store_of_ne (other : key' ≠ key) (value : Value) :
    (memory.store name key value).value? name key' = memory.value? name key' := by
  rw [value?, mapping_store, Dictionary.find?_insert_of_ne _ _ other, value?]

theorem store_comm (apart : key ≠ key') (a b : Value) :
    (memory.store name key a).store name key' b = (memory.store name key' b).store name key a := by
  have twice (first second : String) (u v : Value) :
      (memory.store name first u).store name second v =
        ⟨memory.mappings.insert name (((memory.mapping name).insert first u).insert second v)⟩ := by
    rw [store, mapping_store, store, Dictionary.insert_insert]
  rw [twice, twice, Dictionary.insert_comm _ apart]

end Memory

end MapScript
