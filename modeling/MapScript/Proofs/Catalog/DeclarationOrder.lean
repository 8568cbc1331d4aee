import MapScript.Catalog.Basic
import MapScript.Proofs.Catalog.MemoryKey
import MapScript.Proofs.Engine.InitPool
import MapScript.Proofs.Engine.MemoryStore
import MapScript.Proofs.Engine.StartOrder

set_option autoImplicit false

namespace MapScript

open Number Journal Conditions

variable {W A : Type}

def Agree (id : EventId) (m m' : Memory) : Prop :=
  ∀ slot, m.value? changedName (keyOf id slot) = m'.value? changedName (keyOf id slot)

def note (id : EventId) (entries : List (String × Value)) (m : Memory) : Memory :=
  entries.foldl (fun m entry => m.store changedName (keyOf id entry.1) entry.2) m

theorem note_append (id : EventId) (first second : List (String × Value)) (m : Memory) :
    note id (first ++ second) m = note id second (note id first m) :=
  List.foldl_append

theorem value?_note_of_ne {id other : EventId} (apart : other ≠ id) (slot : String)
    (entries : List (String × Value)) (m : Memory) :
    (note id entries m).value? changedName (keyOf other slot) =
      m.value? changedName (keyOf other slot) := by
  induction entries generalizing m with
  | nil => rfl
  | cons entry rest ih =>
    have elsewhere : keyOf other slot ≠ keyOf id entry.1 := fun same =>
      apart (keyOf_inj.mp same).1
    exact (ih _).trans (Memory.value?_store_of_ne elsewhere entry.2)

theorem Agree.note {id : EventId} {m m' : Memory} (agree : Agree id m m')
    (entries : List (String × Value)) : Agree id (note id entries m) (note id entries m') := by
  induction entries generalizing m m' with
  | nil => exact agree
  | cons entry rest ih =>
    refine ih fun slot => ?_
    by_cases here : keyOf id slot = keyOf id entry.1
    · rw [here, Memory.value?_store_self, Memory.value?_store_self]
    · rw [Memory.value?_store_of_ne here, Memory.value?_store_of_ne here, agree slot]

theorem store_note {id other : EventId} (apart : id ≠ other) (slot : String) (value : Value)
    (entries : List (String × Value)) (m : Memory) :
    note other entries (m.store changedName (keyOf id slot) value) =
      (note other entries m).store changedName (keyOf id slot) value := by
  induction entries generalizing m with
  | nil => rfl
  | cons entry rest ih =>
    have elsewhere : keyOf id slot ≠ keyOf other entry.1 := fun same =>
      apart (keyOf_inj.mp same).1
    rw [MapScript.note, List.foldl_cons, Memory.store_comm elsewhere]
    exact ih _

theorem note_comm {id other : EventId} (apart : id ≠ other) (entries entries' : List (String × Value))
    (m : Memory) : note other entries' (note id entries m) = note id entries (note other entries' m) := by
  induction entries generalizing m with
  | nil => rfl
  | cons entry rest ih =>
    have first := ih (m.store changedName (keyOf id entry.1) entry.2)
    rw [store_note apart] at first
    exact first

/-- The answers depend on what the memory holds for the event, and note something for it. -/
def Confined (id : EventId) (answers : Memory → Memory → Except EngineError Bool → Prop) : Prop :=
  ∀ m m' result, answers m m' result → ∃ entries, m' = note id entries m ∧
    ∀ other, Agree id m other → answers other (note id entries other) result

theorem Tried.confined {id : EventId}
    {found : Condition → Memory → Memory → Except EngineError Bool → Prop}
    (confined : ∀ condition, Confined id (found condition)) (thorough : Bool)
    (conditions : List Condition) : Confined id (Tried found thorough conditions) := by
  intro m m' result tried
  induction tried with
  | satisfied memory => exact ⟨[], rfl, fun other _ => .satisfied other⟩
  | broken here =>
    obtain ⟨entries, same, elsewhere⟩ := confined _ _ _ _ here
    exact ⟨entries, same, fun other agree => .broken (elsewhere other agree)⟩
  | met here _ ih =>
    obtain ⟨entries, rfl, elsewhere⟩ := confined _ _ _ _ here
    obtain ⟨later, rfl, behind⟩ := ih
    refine ⟨entries ++ later, (note_append ..).symm, fun other agree => ?_⟩
    rw [note_append]
    exact .met (elsewhere other agree) (behind _ (agree.note entries))
  | unmet here short =>
    obtain ⟨entries, same, elsewhere⟩ := confined _ _ _ _ here
    exact ⟨entries, same, fun other agree => .unmet (elsewhere other agree) short⟩
  | noted here long _ ih =>
    obtain ⟨entries, rfl, elsewhere⟩ := confined _ _ _ _ here
    obtain ⟨later, rfl, behind⟩ := ih
    refine ⟨entries ++ later, (note_append ..).symm, fun other agree => ?_⟩
    rw [note_append]
    exact .noted (elsewhere other agree) long (behind _ (agree.note entries))

section Surveys

variable {tried : Event → Memory → Memory → Except EngineError Bool → Prop}

theorem surveyed_cons_iff {event : Event} {rest satisfied : List Event} {m m' : Memory} :
    Surveyed tried (event :: rest) m satisfied m' (.ok ()) ↔
      ∃ holds middle later, tried event m middle (.ok holds) ∧
        Surveyed tried rest middle later m' (.ok ()) ∧
        satisfied = (if holds = true then [event] else []) ++ later := by
  constructor
  · intro surveyed
    cases surveyed with
    | satisfied here later => exact ⟨true, _, _, here, later, rfl⟩
    | unsatisfied here later => exact ⟨false, _, _, here, later, rfl⟩
  · rintro ⟨_ | _, middle, later, here, behind, rfl⟩
    · exact .unsatisfied here behind
    · exact .satisfied here behind

theorem surveyed_swap (confined : ∀ event : Event, Confined event.id (tried event))
    {first second : Event} (apart : first.id ≠ second.id) {rest satisfied : List Event}
    {m m' : Memory} (surveyed : Surveyed tried (first :: second :: rest) m satisfied m' (.ok ())) :
    ∃ satisfied', satisfied'.Perm satisfied ∧
      Surveyed tried (second :: first :: rest) m satisfied' m' (.ok ()) := by
  obtain ⟨holds, middle, _, here, behind, rfl⟩ := surveyed_cons_iff.mp surveyed
  obtain ⟨holds', middle', later, here', behind, rfl⟩ := surveyed_cons_iff.mp behind
  obtain ⟨entries, rfl, elsewhere⟩ := confined _ _ _ _ here
  obtain ⟨entries', rfl, elsewhere'⟩ := confined _ _ _ _ here'
  have before : tried second m (note second.id entries' m) (.ok holds') :=
    elsewhere' m fun slot => value?_note_of_ne apart.symm slot entries m
  have after := elsewhere (note second.id entries' m)
    fun slot => (value?_note_of_ne apart slot entries' m).symm
  rw [← note_comm apart] at after
  refine ⟨_, List.perm_append_comm_assoc _ _ _, surveyed_cons_iff.mpr ?_⟩
  exact ⟨holds', _, _, before, surveyed_cons_iff.mpr ⟨holds, _, later, after, behind, rfl⟩, rfl⟩

theorem surveyed_perm (confined : ∀ event : Event, Confined event.id (tried event))
    {events events' : List Event} (perm : events.Perm events')
    (distinct : (events.map Event.id).Nodup) {m m' : Memory} {satisfied : List Event}
    (surveyed : Surveyed tried events m satisfied m' (.ok ())) :
    ∃ satisfied', satisfied'.Perm satisfied ∧
      Surveyed tried events' m satisfied' m' (.ok ()) := by
  induction perm generalizing m satisfied with
  | nil => exact ⟨satisfied, .rfl, surveyed⟩
  | cons event _ ih =>
    obtain ⟨holds, middle, later, here, behind, rfl⟩ := surveyed_cons_iff.mp surveyed
    obtain ⟨later', alike, behind'⟩ := ih (List.nodup_cons.mp distinct).2 behind
    exact ⟨_, alike.append_left _,
      surveyed_cons_iff.mpr ⟨holds, middle, later', here, behind', rfl⟩⟩
  | swap first second rest =>
    have apart : second.id ≠ first.id := by
      simp only [List.map_cons, List.nodup_cons, List.mem_cons, not_or] at distinct
      exact distinct.1.1
    exact surveyed_swap confined apart surveyed
  | trans first _ ih ih' =>
    obtain ⟨between, alike, surveyed'⟩ := ih distinct surveyed
    obtain ⟨last, alike', surveyed''⟩ :=
      ih' ((first.map Event.id).nodup_iff.mp distinct) surveyed'
    exact ⟨last, alike'.trans alike, surveyed''⟩

end Surveys

variable [VariableStore W]

def Dictionary.BuiltIn (tests : Dictionary (ConditionTest W)) : Prop :=
  ∀ name test, tests.find? name = some test → test ∈ Conditions.tests.map Prod.snd

theorem Dictionary.BuiltIn.insert {tests : Dictionary (ConditionTest W)} (builtIn : tests.BuiltIn)
    (name : String) {test : ConditionTest W} (new : test ∈ Conditions.tests.map Prod.snd) :
    (tests.insert name test).BuiltIn := by
  intro other found known
  by_cases same : other = name
  · subst same
    rw [find?_insert_self] at known
    exact Option.some.inj known ▸ new
  · rw [find?_insert_of_ne _ _ same] at known
    exact builtIn other found known

namespace Catalog

omit [VariableStore W] in
theorem registerActions_conditions (embed : Builtin → A) (engine : Engine W A)
    (factories : List (String × ActionFactory Builtin)) :
    (registerActions embed engine factories).1.conditions = engine.conditions := by
  induction factories generalizing engine with
  | nil => rfl
  | cons factory rest ih => exact ih _

theorem registerConditions_builtIn {engine : Engine W A} (builtIn : engine.conditions.BuiltIn)
    {entries : List (String × ConditionTest W)}
    (known : ∀ entry ∈ entries, entry.2 ∈ Conditions.tests.map Prod.snd) :
    (registerConditions engine entries).1.conditions.BuiltIn := by
  induction entries generalizing engine with
  | nil => exact builtIn
  | cons entry rest ih =>
    obtain ⟨here, known⟩ := List.forall_mem_cons.mp known
    exact ih (builtIn.insert entry.1 here) known

theorem engine_builtIn (embed : Builtin → A) (settings : Settings) :
    (engine (W := W) embed settings).1.conditions.BuiltIn := by
  have bare : (registerActions (W := W) embed (.new Dictionary.empty Dictionary.empty settings)
      Builtin.factories).1.conditions.BuiltIn := by
    rw [registerActions_conditions]
    intro name test known
    cases known
  simp only [engine]
  exact registerConditions_builtIn bare fun entry member =>
    List.mem_map_of_mem member

end Catalog

theorem builtIn_confined {test : ConditionTest W} (builtIn : test ∈ Conditions.tests.map Prod.snd)
    (world : W) (dt : Seconds) (event : Event) (condition : Condition) (m : Memory) :
    ∃ entries, ∀ other, Agree event.id m other →
      (test ⟨world, other, event, dt⟩ condition).result =
        (test ⟨world, m, event, dt⟩ condition).result ∧
      (test ⟨world, other, event, dt⟩ condition).memory = note event.id entries other := by
  simp only [Conditions.tests, List.map_cons, List.map_nil, List.mem_cons, List.not_mem_nil,
    or_false] at builtIn
  rcases builtIn with rfl | rfl | rfl
  · refine ⟨[], fun other _ => ?_⟩
    unfold variableSet
    split <;> exact ⟨rfl, rfl⟩
  · refine ⟨[], fun other _ => ?_⟩
    unfold variableHighest highestVerdict
    dsimp only
    split
    · exact ⟨rfl, rfl⟩
    · exact ⟨rfl, rfl⟩
    · split
      · exact ⟨rfl, rfl⟩
      · split <;> exact ⟨rfl, rfl⟩
  -- Only this one remembers, and under the key of its own event.
  · cases reads : (Arguments.ofParameters condition.parameters).text 0 "key" with
    | error e => exact ⟨[], fun other _ => by simp [variableChanged, reads, failed, note]⟩
    | ok key =>
      refine ⟨[(condition.slot, Value.ofOption (VariableStore.lookup world key))],
        fun other agree => ?_⟩
      have held := agree condition.slot
      rw [← memoryKey_eq] at held
      simp only [variableChanged, reads, held]
      exact ⟨trivial, rfl⟩

theorem Found.confined {tests : Dictionary (ConditionTest W)} (builtIn : tests.BuiltIn)
    (settings : Settings) (world : W) (dt : Seconds) (event : Event) (condition : Condition) :
    Confined event.id (Found settings tests world dt event condition) := by
  intro m m' result found
  have asked {test : ConditionTest W} (known : tests.find? condition.kind = some test)
      (answers : ∀ other, (test ⟨world, other, event, dt⟩ condition).result =
          (test ⟨world, m, event, dt⟩ condition).result →
        Found settings tests world dt event condition other
          (test ⟨world, other, event, dt⟩ condition).memory result) :
      ∃ entries, (test ⟨world, m, event, dt⟩ condition).memory = note event.id entries m ∧
        ∀ other, Agree event.id m other →
          Found settings tests world dt event condition other (note event.id entries other)
            result := by
    obtain ⟨entries, elsewhere⟩ := builtIn_confined (builtIn _ _ known) world dt event condition m
    refine ⟨entries, (elsewhere m fun _ => rfl).2, fun other agree => ?_⟩
    rw [← (elsewhere other agree).2]
    exact answers other (elsewhere other agree).1
  cases found with
  | answered known answer => exact asked known fun _ same => .answered known (same.trans answer)
  | failed known answer strict =>
    exact asked known fun _ same => .failed known (same.trans answer) strict
  | forgiven known answer lenient =>
    exact asked known fun _ same => .forgiven known (same.trans answer) lenient
  | missing unknown strict => exact ⟨[], rfl, fun other _ => .missing unknown strict⟩
  | overlooked unknown lenient => exact ⟨[], rfl, fun other _ => .overlooked unknown lenient⟩

theorem Scope.without_perm {scope scope' : Scope} (inits : scope'.inits.Perm scope.inits)
    {ids ids' : List EventId} (same : ids'.Perm ids) :
    (scope'.without ids').inits.Perm (scope.without ids).inits := by
  have kept : (fun event : Event => decide (event.id ∉ ids')) =
      fun event => decide (event.id ∉ ids) := by
    funext event
    exact decide_eq_decide.mpr (not_congr same.mem_iff)
  simp only [without, kept]
  exact inits.filter _

namespace Engine

def reordered (engine : Engine W A) (inits events : List Event) : Engine W A :=
  { engine with
    state := { engine.state with
      scope := engine.state.scope.map fun scope => { scope with inits, events } } }

omit [VariableStore W] in
theorem declarations_reordered {engine : Engine W A} {scope : Scope}
    (current : engine.state.scope = some scope) (inits events : List Event) :
    (engine.reordered inits events).declarations = inits ++ events := by
  simp [declarations, reordered, current]

theorem surveys_reordered {engine : Engine W A} {world : W} {dt : Seconds}
    (builtIn : engine.conditions.BuiltIn) (distinct : (engine.declarations.map Event.id).Nodup)
    {inits events : List Event}
    (perm : engine.declarations.Perm (engine.reordered inits events).declarations)
    {satisfied : List Event} {memory : Memory}
    (surveys : engine.Surveys world dt engine.declarations engine.state.memory satisfied memory
      (.ok ())) :
    ∃ satisfied', satisfied'.Perm satisfied ∧
      (engine.reordered inits events).Surveys world dt (engine.reordered inits events).declarations
        engine.state.memory satisfied' memory (.ok ()) :=
  surveyed_perm (fun event => Tried.confined (Found.confined builtIn engine.settings world dt event)
    engine.settings.debugConditions event.conditions) perm distinct surveys

theorem firstOfEach_of_nodup {events : List Event} (distinct : (events.map Event.id).Nodup) :
    firstOfEach events = events := by
  induction events with
  | nil => rfl
  | cons event rest ih =>
    obtain ⟨absent, distinct⟩ := List.nodup_cons.mp distinct
    rw [firstOfEach, ih distinct]
    congr 1
    refine List.filter_eq_self.mpr fun later member => ?_
    simpa using fun same : later.id = event.id => absent (same ▸ List.mem_map_of_mem member)

omit [VariableStore W] in
theorem newcomers_perm (engine : Engine W A) {satisfied satisfied' : List Event}
    (perm : satisfied'.Perm satisfied) (distinct : (satisfied.map Event.id).Nodup) :
    (engine.newcomers satisfied').Perm (engine.newcomers satisfied) := by
  have waiting (events : List Event) (distinct : (events.map Event.id).Nodup) :
      engine.newcomers events = events.filter fun event => !engine.isRunning event.id :=
    firstOfEach_of_nodup (distinct.sublist (List.filter_sublist.map _))
  rw [waiting _ distinct, waiting _ ((perm.map Event.id).nodup_iff.mpr distinct)]
  exact perm.filter _

variable [ActionHandler W A]

theorem declaration_order_is_free (engine : Engine W A) (world : W) (dt : Seconds) {scope : Scope}
    (current : engine.state.scope = some scope)
    (distinct : ((scope.inits ++ scope.events).map Event.id).Nodup)
    (builtIn : engine.conditions.BuiltIn)
    (fine : engine.settings.failurePolicy = .dropEvent ∨
      ({ engine with trace := [] }.intake world dt).result = .ok ())
    {inits events : List Event} (inits_perm : inits.Perm scope.inits)
    (events_perm : events.Perm scope.events) :
    let other := engine.reordered inits events
    let begun := engine.beforeHooks (.update world dt)
    let begun' := other.beforeHooks (.update world dt)
    ({ engine with trace := [] }.intake world dt).result = .ok () ∧
      ({ other with trace := [] }.intake world dt).result = .ok () ∧
      (starts (other.update world dt).journal).Perm (starts (engine.update world dt).journal) ∧
      (∃ started started', started'.Perm started ∧
        begun.running = engine.running ++ started ∧ begun'.running = engine.running ++ started') ∧
      begun'.state.memory = begun.state.memory ∧
      ∃ left left', begun.state.scope = some left ∧ begun'.state.scope = some left' ∧
        left'.name = left.name ∧ left'.inits.Perm left.inits ∧ left'.events.Perm left.events := by
  intro other begun begun'
  have declared : engine.declarations = scope.inits ++ scope.events := by
    simp [declarations, current]
  have current' : other.state.scope = some { scope with inits, events } := by
    simp [other, reordered, current]
  have perm : engine.declarations.Perm other.declarations := by
    rw [declared, declarations_reordered current]
    exact (inits_perm.append events_perm).symm
  obtain ⟨satisfied, surveys, _⟩ := beforeHooks_surveys engine world dt
  have passed : ({ engine with trace := [] }.intake world dt).result = .ok () := by
    rcases fine with lenient | passed
    · exact surveys_lenient engine world dt lenient surveys
    · exact passed
  rw [passed] at surveys
  obtain ⟨satisfied', alike, surveys'⟩ :=
    surveys_reordered builtIn (declared ▸ distinct) perm surveys
  obtain ⟨_, surveyed, _⟩ := beforeHooks_surveys other world dt
  have passed' := (surveys_single other world dt surveys' surveyed).2.2
  have begins := begins_of_surveys engine world dt surveys
  have begins' : other.Begins world dt satisfied' _ := begins_of_surveys other world dt surveys'
  have apart : (satisfied.map Event.id).Nodup :=
    (declared ▸ distinct).sublist ((surveyed_sublist surveys).map _)
  have new := engine.newcomers_perm alike apart
  have started : (starts (other.update world dt).journal).Perm
      (starts (engine.update world dt).journal) := by
    rw [begins.starts_eq, begins'.starts_eq]
    exact new.map _
  have left := (afterStarts_scope engine (.update world dt)).trans (congrArg _ current)
  have left' := (afterStarts_scope other (.update world dt)).trans (congrArg _ current')
  exact ⟨passed, passed', started, ⟨_, _, new.map _, begins.running_eq, begins'.running_eq⟩,
    begins'.memory_eq.trans begins.memory_eq.symm, _, _, left, left', rfl,
    Scope.without_perm inits_perm started, events_perm⟩

def plaza : Scope :=
  let asks (id : UInt32) (operator : Operator) (kind argument : String) : Event :=
    ⟨⟨id⟩, "", none, [⟨kind, operator, [argument], "cond1"⟩], []⟩
  ⟨"plaza", [asks 1 .not "variable_changed" "mood", asks 2 .is "variable_set" "door:open"],
    [asks 3 .not "variable_changed" "mood", asks 4 .is "button_pressed" "left"]⟩

def openPlaza : Engine Variables Builtin :=
  ((Catalog.engine id ⟨false, .dropEvent⟩).1.perform (.loadScope plaza)).engine

theorem declaration_order_is_free_plaza :
    let world : Variables := .ofList [("door", "open")]
    let other := openPlaza.reordered plaza.inits.reverse plaza.events.reverse
    openPlaza.state.scope = some plaza ∧
      ((plaza.inits ++ plaza.events).map Event.id).Nodup ∧ openPlaza.conditions.BuiltIn ∧
      starts (openPlaza.update world .zero).journal = [⟨1⟩, ⟨2⟩, ⟨3⟩] ∧
      starts (other.update world .zero).journal = [⟨2⟩, ⟨1⟩, ⟨3⟩] ∧
      (other.beforeHooks (.update world .zero)).state.memory =
        (openPlaza.beforeHooks (.update world .zero)).state.memory := by
  intro world other
  have builtIn : openPlaza.conditions.BuiltIn := Catalog.engine_builtIn id ⟨false, .dropEvent⟩
  obtain ⟨_, _, _, _, memory, _⟩ := declaration_order_is_free openPlaza world .zero rfl
    (by decide) builtIn (.inl rfl) (List.reverse_perm plaza.inits) (List.reverse_perm plaza.events)
  exact ⟨rfl, by decide, builtIn, by decide +kernel, by decide +kernel, memory⟩

end Engine

end MapScript
