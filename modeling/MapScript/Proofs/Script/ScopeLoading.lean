import Mathlib.Data.List.Forall2
import Mathlib.Data.List.Nodup
import MapScript.Proofs.Catalog.MemoryKey
import MapScript.Proofs.Script.PropertyLines
import MapScript.ScopeFile

set_option autoImplicit false

namespace MapScript

open Script Text

theorem firstRepeat_none_iff (seen ids : List UInt32) :
    firstRepeat seen ids = none ↔ ids.Nodup ∧ ∀ id ∈ ids, id ∉ seen := by
  induction ids generalizing seen with
  | nil => simp [firstRepeat]
  | cons id rest ih =>
    simp only [firstRepeat]
    split
    next repeated => simp [repeated]
    next fresh =>
      simp only [ih, List.nodup_cons, List.mem_cons, forall_eq_or_imp, not_or]
      constructor
      · rintro ⟨nodup, apart⟩
        exact ⟨⟨fun member => (apart id member).1 rfl, nodup⟩, fresh,
          fun other member => (apart other member).2⟩
      · rintro ⟨⟨absent, nodup⟩, _, apart⟩
        refine ⟨nodup, fun other member => ⟨?_, apart other member⟩⟩
        rintro rfl
        exact absent member

namespace Dictionary

theorem keys_nodup {A : Type} (d : Dictionary A) : (d.toList.map Prod.fst).Nodup := by
  refine List.pairwise_map.mpr (d.ascending.imp ?_)
  rintro a b before same
  rw [same] at before
  exact String.lt_irrefl _ before

end Dictionary

structure EventSource.Gives (source : EventSource) (event : Event) : Prop where
  id_eq : event.id = ⟨source.id⟩
  name_eq : event.name = source.name
  area_eq : event.area = source.area
  script_eq : parseProperties source.properties.toList = .ok ⟨event.conditions, event.actions⟩

theorem EventSource.gives_of_toEvent {source : EventSource} {event : Event}
    (ok : source.toEvent = .ok event) : source.Gives event := by
  unfold toEvent at ok
  split at ok
  next => cases ok
  next lines parsed =>
    obtain rfl := Except.ok.inj ok
    exact ⟨rfl, rfl, rfl, parsed⟩

theorem EventSource.toEvent_error_iff (source : EventSource) :
    (∃ cause, source.toEvent = .error cause) ↔
      ∃ property ∈ source.properties.toList, Unreadable property := by
  rw [← parseProperties_error_iff]
  unfold toEvent
  cases parseProperties source.properties.toList <;> simp

theorem gives_of_toEvents {sources : List EventSource} {events : List Event}
    (ok : toEvents sources = .ok events) : List.Forall₂ EventSource.Gives sources events := by
  induction sources generalizing events with
  | nil =>
    obtain rfl := Except.ok.inj ok
    exact .nil
  | cons source rest ih =>
    simp only [toEvents] at ok
    split at ok
    next => cases ok
    next event here =>
      cases later : toEvents rest with
      | error cause => simp [later, Except.map] at ok
      | ok behind =>
        obtain rfl : event :: behind = events := by simpa [later, Except.map] using ok
        exact .cons (EventSource.gives_of_toEvent here) (ih later)

theorem toEvents_error_iff (sources : List EventSource) :
    (∃ cause, toEvents sources = .error cause) ↔
      ∃ source ∈ sources, ∃ property ∈ source.properties.toList, Unreadable property := by
  induction sources with
  | nil => simp [toEvents]
  | cons source rest ih =>
    simp only [List.mem_cons, exists_eq_or_imp, ← ih, ← source.toEvent_error_iff, toEvents]
    cases source.toEvent with
    | error cause => simp
    | ok event => cases toEvents rest <;> simp [Except.map]

/-- The scope of a file: its events in the order of the file, each in its pool. -/
structure ScopeSource.Gives (source : ScopeSource) (scope : Scope) : Prop where
  name_eq : scope.name = source.name
  inits : List.Forall₂ EventSource.Gives source.inits scope.inits
  events : List.Forall₂ EventSource.Gives source.events scope.events

/-- What the engine relies on in a scope. -/
structure Scope.WellFormed (scope : Scope) : Prop where
  ids_nodup : ((scope.inits ++ scope.events).map Event.id).Nodup
  conditions_increasing : ∀ event ∈ scope.inits ++ scope.events,
    (event.conditions.map Condition.slot).Pairwise fun a b => naturalCompare a b = .lt
  actions_increasing : ∀ event ∈ scope.inits ++ scope.events,
    (event.actions.map Action.slot).Pairwise fun a b => naturalCompare a b = .lt
  keys_nodup : ((scope.inits ++ scope.events).flatMap fun event =>
    event.conditions.map (Conditions.memoryKey event)).Nodup

theorem EventSource.Gives.increasing {source : EventSource} {event : Event}
    (gives : source.Gives event) :
    (event.conditions.map Condition.slot).Pairwise (fun a b => naturalCompare a b = .lt) ∧
      (event.actions.map Action.slot).Pairwise fun a b => naturalCompare a b = .lt :=
  parseProperties_increasing source.properties.keys_nodup gives.script_eq

theorem ids_of_gives {sources : List EventSource} {events : List Event}
    (gives : List.Forall₂ EventSource.Gives sources events) :
    events.map Event.id = sources.map fun source => ⟨source.id⟩ := by
  induction gives with
  | nil => rfl
  | cons here _ ih => rw [List.map_cons, List.map_cons, here.id_eq, ih]

theorem gives_of_mem {sources : List EventSource} {events : List Event} {event : Event}
    (gives : List.Forall₂ EventSource.Gives sources events) (member : event ∈ events) :
    ∃ source : EventSource, source.Gives event := by
  induction gives with
  | nil => cases member
  | @cons source _ _ _ here _ ih =>
    rcases List.mem_cons.mp member with rfl | later
    · exact ⟨source, here⟩
    · exact ih later

theorem memoryKeys_nodup {events : List Event} (ids : (events.map Event.id).Nodup)
    (slots : ∀ event ∈ events, (event.conditions.map Condition.slot).Nodup) :
    (events.flatMap fun event => event.conditions.map (Conditions.memoryKey event)).Nodup := by
  refine List.nodup_flatMap.mpr ⟨fun event member => ?_, ?_⟩
  -- Within an event the slots keep the keys apart, between two events the ids do.
  · have keys_eq : event.conditions.map (Conditions.memoryKey event) =
        (event.conditions.map Condition.slot).map (Conditions.keyOf event.id) := by
      simp [Conditions.memoryKey_eq, Function.comp_def]
    rw [keys_eq]
    exact (slots event member).map fun _ _ same => (Conditions.keyOf_inj.mp same).2
  · refine (List.pairwise_map.mp ids).imp ?_
    intro event other apart key here there
    obtain ⟨condition, _, rfl⟩ := List.mem_map.mp here
    obtain ⟨another, _, same⟩ := List.mem_map.mp there
    exact apart (Conditions.keyOf_inj.mp same).1.symm

theorem ScopeSource.Gives.wellFormed {source : ScopeSource} {scope : Scope}
    (gives : source.Gives scope)
    (ids : ((source.inits ++ source.events).map EventSource.id).Nodup) : scope.WellFormed := by
  -- Ids count over both pools, so the pools are taken as one list.
  have pools : List.Forall₂ EventSource.Gives (source.inits ++ source.events)
      (scope.inits ++ scope.events) := List.rel_append gives.inits gives.events
  have ids_nodup : ((scope.inits ++ scope.events).map Event.id).Nodup := by
    have mapped : (((source.inits ++ source.events).map EventSource.id).map EventId.mk).Nodup :=
      ids.map fun _ _ same => EventId.mk.inj same
    rw [ids_of_gives pools]
    rwa [List.map_map] at mapped
  have increasing (event : Event) (member : event ∈ scope.inits ++ scope.events) :
      (event.conditions.map Condition.slot).Pairwise (fun a b => naturalCompare a b = .lt) ∧
        (event.actions.map Action.slot).Pairwise fun a b => naturalCompare a b = .lt := by
    obtain ⟨source, gives⟩ := gives_of_mem pools member
    exact gives.increasing
  exact {
    ids_nodup
    conditions_increasing := fun event member => (increasing event member).1
    actions_increasing := fun event member => (increasing event member).2
    keys_nodup := memoryKeys_nodup ids_nodup fun event member =>
      (increasing event member).1.imp ne_of_naturalCompare_lt }

theorem ScopeSource.gives_of_toScope {source : ScopeSource} {scope : Scope}
    (ok : source.toScope = .ok scope) :
    ((source.inits ++ source.events).map EventSource.id).Nodup ∧ source.Gives scope := by
  unfold toScope at ok
  split at ok
  next => cases ok
  next distinct =>
    split at ok
    next => cases ok
    next inits first =>
      cases second : toEvents source.events with
      | error cause => simp [second, Except.map] at ok
      | ok events =>
        obtain rfl : ⟨source.name, inits, events⟩ = scope := by
          simpa [second, Except.map] using ok
        exact ⟨((firstRepeat_none_iff _ _).mp distinct).1, rfl, gives_of_toEvents first,
          gives_of_toEvents second⟩

theorem ScopeSource.toScope_error_iff (source : ScopeSource) :
    (∃ cause, source.toScope = .error cause) ↔
      ¬ ((source.inits ++ source.events).map EventSource.id).Nodup ∨
        ∃ event ∈ source.inits ++ source.events, ∃ property ∈ event.properties.toList,
          Unreadable property := by
  have distinct_iff := firstRepeat_none_iff [] ((source.inits ++ source.events).map EventSource.id)
  simp only [List.not_mem_nil, not_false_eq_true, implies_true, and_true] at distinct_iff
  simp only [List.mem_append, or_and_right, exists_or, ← toEvents_error_iff, ← distinct_iff]
  unfold toScope
  cases firstRepeat [] ((source.inits ++ source.events).map EventSource.id) with
  | some id => simp
  | none =>
    cases toEvents source.inits with
    | error cause => simp
    | ok inits => cases toEvents source.events <;> simp [Except.map]

theorem parse_gives_wellFormed_scope (read : String → Option ScopeSource) (text : String) :
    (∀ scope, ScopeFile.parseWith read text = .ok scope →
      ∃ source, read text = some source ∧ source.Gives scope ∧ scope.WellFormed) ∧
    ∀ source, read text = some source →
      ((∃ cause, ScopeFile.parseWith read text = .error cause) ↔
        ¬ ((source.inits ++ source.events).map EventSource.id).Nodup ∨
          ∃ event ∈ source.inits ++ source.events, ∃ property ∈ event.properties.toList,
            Unreadable property) := by
  constructor
  · intro scope ok
    unfold ScopeFile.parseWith at ok
    split at ok
    next => cases ok
    next source found =>
      obtain ⟨ids, gives⟩ := ScopeSource.gives_of_toScope ok
      exact ⟨source, found, gives, gives.wellFormed ids⟩
  · intro source found
    rw [← source.toScope_error_iff, ScopeFile.parseWith, found]

def townText : String :=
  "(name: \"town\"," ++
    "inits: [(id: 1, properties: \x7b\"cond1\": \"is variable_changed mood\"\x7d)]," ++
    "events: [(id: 2, properties: \x7b\"cond1\": \"not variable_changed mood\"\x7d)])"

def town : Scope :=
  let asks (operator : Operator) : Condition := ⟨"variable_changed", operator, ["mood"], "cond1"⟩
  ⟨"town", [⟨⟨1⟩, "", none, [asks .is], []⟩], [⟨⟨2⟩, "", none, [asks .not], []⟩]⟩

def twinText : String :=
  "(name: \"twins\", inits: [(id: 1)], events: [(id: 1)])"

theorem parse_gives_wellFormed_scope_town :
    ScopeFile.parse townText = .ok town ∧ town.WellFormed ∧
      (∃ source, ScopeFile.read townText = some source ∧ source.Gives town) ∧
      (∃ cause, ScopeFile.parse twinText = .error cause) ∧
      ∃ source, ScopeFile.read twinText = some source ∧
        (¬ ((source.inits ++ source.events).map EventSource.id).Nodup ∨
          ∃ event ∈ source.inits ++ source.events, ∃ property ∈ event.properties.toList,
            Unreadable property) := by
  have loaded : ScopeFile.parse townText = .ok town := by decide +kernel
  have refused : ∃ cause, ScopeFile.parse twinText = .error cause :=
    ⟨.duplicateId 1 "twins", by decide +kernel⟩
  have readable : (ScopeFile.read twinText).isSome = true := by decide +kernel
  obtain ⟨source, read, gives, wellFormed⟩ :=
    (parse_gives_wellFormed_scope ScopeFile.read townText).1 town loaded
  obtain ⟨twins, twins_read⟩ := Option.isSome_iff_exists.mp readable
  have repeated :=
    ((parse_gives_wellFormed_scope ScopeFile.read twinText).2 twins twins_read).mp refused
  exact ⟨loaded, wellFormed, ⟨source, read, gives⟩, refused, twins, twins_read, repeated⟩

end MapScript
