/-!
Dictionaries with text keys. The entries stand in ascending order of their keys (by code point), so
two dictionaries with the same lookups are equal and a listing does not show in which order the
entries came.
-/

set_option autoImplicit false

namespace MapScript

variable {A : Type}

structure Dictionary (A : Type) where
  entries : List (String × A)
  ascending : entries.Pairwise fun a b => a.1 < b.1

namespace Dictionary

def insertEntry (key : String) (value : A) : List (String × A) → List (String × A)
  | [] => [(key, value)]
  | entry :: rest =>
    if key < entry.1 then (key, value) :: entry :: rest
    else if key = entry.1 then (key, value) :: rest
    else entry :: insertEntry key value rest

theorem mem_insertEntry {key : String} {value : A} {entries : List (String × A)}
    {entry : String × A} (h : entry ∈ insertEntry key value entries) :
    entry = (key, value) ∨ entry ∈ entries := by
  induction entries with
  | nil => simpa [insertEntry] using h
  | cons head rest ih =>
    simp only [insertEntry] at h
    split at h
    next => simpa using h
    next =>
      split at h
      next =>
        have := List.mem_cons.mp h
        exact this.imp id (List.mem_cons_of_mem head)
      next =>
        cases List.mem_cons.mp h with
        | inl same => exact .inr (same ▸ List.mem_cons_self)
        | inr tail => exact (ih tail).imp id (List.mem_cons_of_mem head)

theorem ascending_insertEntry {key : String} {value : A} {entries : List (String × A)}
    (h : entries.Pairwise fun a b => a.1 < b.1) :
    (insertEntry key value entries).Pairwise fun a b => a.1 < b.1 := by
  induction entries with
  | nil => simp [insertEntry]
  | cons head rest ih =>
    have parts := List.pairwise_cons.mp h
    simp only [insertEntry]
    split
    next before =>
      refine List.pairwise_cons.mpr ⟨?_, h⟩
      intro other member
      cases List.mem_cons.mp member with
      | inl same => exact same ▸ before
      | inr tail => exact String.lt_trans before (parts.1 other tail)
    next notBefore =>
      split
      next same =>
        exact List.pairwise_cons.mpr ⟨fun other member => same ▸ parts.1 other member, parts.2⟩
      next different =>
        refine List.pairwise_cons.mpr ⟨?_, ih parts.2⟩
        intro other member
        cases mem_insertEntry member with
        | inr tail => exact parts.1 other tail
        | inl same =>
          subst same
          have le : head.1 ≤ key := String.not_lt.mp notBefore
          apply Decidable.byContradiction
          intro notAfter
          exact different (String.le_antisymm (String.not_lt.mp notAfter) le)

def empty : Dictionary A := ⟨[], .nil⟩

instance : EmptyCollection (Dictionary A) := ⟨empty⟩

instance : Inhabited (Dictionary A) := ⟨empty⟩

def find? (d : Dictionary A) (key : String) : Option A :=
  (d.entries.find? fun entry => entry.1 = key).map Prod.snd

def contains (d : Dictionary A) (key : String) : Bool :=
  (d.find? key).isSome

def insert (d : Dictionary A) (key : String) (value : A) : Dictionary A :=
  ⟨insertEntry key value d.entries, ascending_insertEntry d.ascending⟩

def erase (d : Dictionary A) (key : String) : Dictionary A :=
  ⟨d.entries.filter fun entry => entry.1 ≠ key, d.ascending.filter _⟩

def toList (d : Dictionary A) : List (String × A) :=
  d.entries

def keys (d : Dictionary A) : List String :=
  d.entries.map Prod.fst

def size (d : Dictionary A) : Nat :=
  d.entries.length

def isEmpty (d : Dictionary A) : Bool :=
  d.entries.isEmpty

/-- Of entries with the same key the last one counts. -/
def ofList (entries : List (String × A)) : Dictionary A :=
  entries.foldl (fun d entry => d.insert entry.1 entry.2) empty

@[simp] theorem find?_empty (key : String) : (empty : Dictionary A).find? key = none := rfl

theorem find?_insert_self (d : Dictionary A) (key : String) (value : A) :
    (d.insert key value).find? key = some value := by
  unfold find? insert
  dsimp only
  induction d.entries with
  | nil => simp [insertEntry]
  | cons head rest ih =>
    simp only [insertEntry]
    split
    next => simp
    next =>
      split
      next => simp
      next different =>
        have : head.1 ≠ key := fun same => different same.symm
        simpa [this] using ih

theorem find?_insert_of_ne (d : Dictionary A) {key other : String} (value : A)
    (h : other ≠ key) : (d.insert key value).find? other = d.find? other := by
  unfold find? insert
  dsimp only
  induction d.entries with
  | nil => simp [insertEntry, Ne.symm h]
  | cons head rest ih =>
    simp only [insertEntry]
    split
    next => simp [Ne.symm h]
    next =>
      split
      next same => simp [Ne.symm h, ← same]
      next =>
        by_cases here : head.1 = other
        · simp [here]
        · simpa [here] using ih

end Dictionary

end MapScript
