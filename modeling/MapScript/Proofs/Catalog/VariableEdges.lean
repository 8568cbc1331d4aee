import MapScript.Catalog.Basic
import MapScript.Proofs.Catalog.MemoryKey
import MapScript.Proofs.Engine.MemoryStore
import MapScript.Proofs.Engine.OneShotFrame
import MapScript.Proofs.Engine.Sighting

set_option autoImplicit false

namespace MapScript

open Number Journal Conditions

theorem Value.same_ofOption (old now : Option String) :
    (ofOption old).same (ofOption now) = decide (old = now) := by
  cases old <;> cases now <;> simp [ofOption, same, beq_eq_decide]

variable {W A : Type} [VariableStore W]

def Sighting.value (k : String) (s : Sighting W) : Option String :=
  VariableStore.lookup s.inquiry.world k

def Sighting.isAt (id : EventId) (slot : String) (s : Sighting W) : Bool :=
  s.condition.kind = changedName ∧ s.inquiry.event.id = id ∧ s.condition.slot = slot

def Sighting.Reads (k : String) (s : Sighting W) : Prop :=
  (Arguments.ofParameters s.condition.parameters).text 0 "key" = .ok k

instance (k : String) (s : Sighting W) : Decidable (s.Reads k) :=
  inferInstanceAs (Decidable (_ = _))

/-- What the engine returns for the test, on its own and as one of a frame. -/
structure Sighting.Returns (tests : Dictionary (ConditionTest W)) (s : Sighting W) (holds : Bool) :
    Prop where
  tested : (testCondition tests s.inquiry.world s.inquiry.dt s.inquiry.event s.condition
    s.inquiry.memory).result = .ok holds
  judged : ∀ settings, (judgeCondition settings tests s.inquiry.world s.inquiry.dt s.inquiry.event
    s.condition s.inquiry.memory).result = .ok holds

/-- The answers in a journal that are about changes, for the slot of the event. -/
def Journal.answersAt (id : EventId) (slot : String) (journal : Journal) :
    List (EventId × Condition × Bool) :=
  (answers journal).filter fun answer =>
    answer.2.1.kind = changedName ∧ answer.1 = id ∧ answer.2.1.slot = slot

section Tests

variable {inquiry : Inquiry W} {condition : Condition}

theorem variableChanged_result {k : String} {before : Option (Option String)}
    (reads : (Arguments.ofParameters condition.parameters).text 0 "key" = .ok k)
    (held : (inquiry.memory.mapping changedName).find? (memoryKey inquiry.event condition) =
      before.map Value.ofOption) :
    (variableChanged inquiry condition).result =
      .ok (before.any fun old => old ≠ VariableStore.lookup inquiry.world k) := by
  have value : inquiry.memory.value? changedName (memoryKey inquiry.event condition) =
      before.map Value.ofOption := held
  simp only [variableChanged, reads, value]
  cases before with
  | none => rfl
  | some old => simp [Value.same_ofOption]

theorem variableChanged_holds {k : String}
    (reads : (Arguments.ofParameters condition.parameters).text 0 "key" = .ok k) :
    ((variableChanged inquiry condition).memory.mapping changedName).find?
        (memoryKey inquiry.event condition) =
      some (Value.ofOption (VariableStore.lookup inquiry.world k)) := by
  simp [variableChanged, reads, Dictionary.find?_insert_self]

theorem variableChanged_elsewhere {key : String} (other : key ≠ memoryKey inquiry.event condition) :
    ((variableChanged inquiry condition).memory.mapping changedName).find? key =
      (inquiry.memory.mapping changedName).find? key := by
  unfold variableChanged
  split
  · rfl
  · simp [Dictionary.find?_insert_of_ne _ _ other]

end Tests

def Linked (name : String) : Dictionary Value → List (Sighting W) → Dictionary Value → Prop
  | mapping, [], last => last = mapping
  | mapping, s :: rest, last =>
    s.inquiry.memory.mapping name = mapping ∧ Linked name (s.verdict.memory.mapping name) rest last

omit [VariableStore W] in
theorem Linked.append {name : String} {mapping middle last : Dictionary Value}
    {first second : List (Sighting W)} (before : Linked name mapping first middle)
    (behind : Linked name middle second last) : Linked name mapping (first ++ second) last := by
  induction first generalizing mapping with
  | nil =>
    obtain rfl := before
    exact behind
  | cons s rest ih => exact ⟨before.1, ih before.2⟩

omit [VariableStore W] in
theorem Watched.linked {tests : Dictionary (ConditionTest W)} {memory memory' : Memory}
    {seen : List (Sighting W)} {journal : Journal}
    (watched : Watched tests memory seen journal memory') (name : String) :
    Linked name (memory.mapping name) seen (memory'.mapping name) := by
  induction watched with
  | unseen | seen => simp [Linked]
  | trans _ _ first second => exact first.append second

structure Sighting.Private (s : Sighting W) : Prop where
  changed : s.condition.kind = changedName →
    s.verdict = variableChanged s.inquiry s.condition
  other : s.condition.kind ≠ changedName →
    s.verdict.memory.mapping changedName = s.inquiry.memory.mapping changedName

/-- Each test says whether the variable differs from what the test before it has seen. -/
def Detects (k : String) : Option (Option String) → List (Sighting W) → Prop
  | _, [] => True
  | before, s :: rest =>
    s.verdict.result = .ok (before.any fun old => old ≠ s.value k) ∧
      Detects k (some (s.value k)) rest

theorem Detects.result_at {k : String} {before : Option (Option String)} {seen : List (Sighting W)}
    (detects : Detects k before seen) {j : Nat} {s : Sighting W} (here : seen[j]? = some s) :
    s.verdict.result = .ok ((if j = 0 then before else seen[j - 1]?.map (Sighting.value k)).any
      fun old => old ≠ s.value k) := by
  induction seen generalizing before j with
  | nil => simp at here
  | cons first rest ih =>
    cases j with
    | zero =>
      obtain rfl : first = s := by simpa using here
      exact detects.1
    | succ i =>
      have later := ih detects.2 (by simpa using here)
      cases i with
      -- the test in front of the second is the first, which the tail has as its past
      | zero => simpa using later
      | succ i => simpa using later

omit [VariableStore W] in
theorem Sighting.returns_of_answer {tests : Dictionary (ConditionTest W)} {test : ConditionTest W}
    {s : Sighting W} {raw : Bool} (known : tests.find? s.condition.kind = some test)
    (spoken : s.verdict = test s.inquiry s.condition) (answer : s.verdict.result = .ok raw) :
    s.Returns tests (s.condition.operator.apply raw) := by
  rw [spoken] at answer
  have tested : (testCondition tests s.inquiry.world s.inquiry.dt s.inquiry.event s.condition
      s.inquiry.memory).result = .ok (s.condition.operator.apply raw) := by
    simp [testCondition, known, answer]
  refine ⟨tested, fun settings => ?_⟩
  simp only [judgeCondition, tested]

omit [VariableStore W] in
theorem Sighting.answer?_filter (id : EventId) (slot : String) (s : Sighting W) :
    (s.answer?.filter fun answer =>
      decide (answer.2.1.kind = changedName ∧ answer.1 = id ∧ answer.2.1.slot = slot)) =
      if s.isAt id slot = true then s.answer? else none := by
  cases answer : s.verdict.result with
  | error cause => simp [Sighting.answer?, answer]
  | ok raw => simp only [Sighting.answer?, answer, Option.filter_some, Sighting.isAt]

theorem getElem?_filterMap {B C : Type} {f : B → Option C} {xs : List B}
    (all : ∀ x ∈ xs, (f x).isSome = true) (j : Nat) :
    (xs.filterMap f)[j]? = xs[j]?.bind f := by
  induction xs generalizing j with
  | nil => rfl
  | cons x rest ih =>
    obtain ⟨here, later⟩ := List.forall_mem_cons.mp all
    obtain ⟨y, image⟩ := Option.isSome_iff_exists.mp here
    rw [List.filterMap_cons_some image]
    cases j with
    | zero => simp [image]
    | succ j => simpa using ih later j

theorem Linked.detects {mapping last : Dictionary Value} {seen : List (Sighting W)} {id : EventId}
    {slot k : String} {before : Option (Option String)}
    (linked : Linked changedName mapping seen last) (kept : ∀ s ∈ seen, s.Private)
    (single : ∀ s ∈ seen, s.isAt id slot = true → s.Reads k)
    (held : mapping.find? (keyOf id slot) = before.map Value.ofOption) :
    Detects k before (seen.filter (Sighting.isAt id slot)) := by
  induction seen generalizing mapping before with
  | nil => trivial
  | cons s rest ih =>
    obtain ⟨rfl, later⟩ := linked
    obtain ⟨alone, kept⟩ := List.forall_mem_cons.mp kept
    obtain ⟨reads, single⟩ := List.forall_mem_cons.mp single
    -- A test of this slot stores what it has seen, one of another slot stores under another key,
    -- and a test of another kind leaves the mapping alone.
    by_cases changed : s.condition.kind = changedName
    · have verdict_eq := alone.changed changed
      by_cases here : s.inquiry.event.id = id ∧ s.condition.slot = slot
      · have seen : s.isAt id slot = true := by simp [Sighting.isAt, changed, here]
        have key_eq : keyOf id slot = memoryKey s.inquiry.event s.condition := by
          rw [memoryKey_eq, here.1, here.2]
        rw [key_eq] at held ih
        rw [List.filter_cons_of_pos seen]
        refine ⟨?_, ih later kept single ?_⟩
        · rw [verdict_eq]
          exact variableChanged_result (reads seen) held
        · rw [verdict_eq]
          exact variableChanged_holds (reads seen)
      · have unseen : ¬ s.isAt id slot = true := by simp_all [Sighting.isAt]
        have other : keyOf id slot ≠ memoryKey s.inquiry.event s.condition := by
          rw [memoryKey_eq]
          exact fun same => here ((keyOf_inj.mp same).imp Eq.symm Eq.symm)
        rw [List.filter_cons_of_neg unseen]
        refine ih later kept single ?_
        rw [verdict_eq, variableChanged_elsewhere other, held]
    · have unseen : ¬ s.isAt id slot = true := by simp [Sighting.isAt, changed]
      rw [List.filter_cons_of_neg unseen]
      refine ih later kept single ?_
      rw [alone.other changed, held]

namespace Engine

/-- In the tests of the operation only the condition that asks for changes writes their mapping. -/
structure TestsPrivately (engine : Engine W A) (operation : Operation W A) : Prop where
  known : engine.conditions.find? changedName = some variableChanged
  other : ∀ s ∈ engine.sightingsIn operation, s.condition.kind ≠ changedName →
    s.verdict.memory.mapping changedName = s.inquiry.memory.mapping changedName

theorem TestsPrivately.of_kinds {engine : Engine W A} {operation : Operation W A}
    (known : engine.conditions.find? changedName = some variableChanged)
    (kinds : ∀ s ∈ engine.sightingsIn operation, s.condition.kind = changedName) :
    engine.TestsPrivately operation :=
  ⟨known, fun s member other => absurd (kinds s member) other⟩

variable [ActionHandler W A]

/-- A run within one scope in which nothing else writes the mapping. What follows the tests of the
last operation does not count, so it may change the scope. -/
def Unwritten (engine : Engine W A) : List (Operation W A) → Prop
  | [] => True
  | operation :: rest =>
    engine.TestsPrivately operation ∧
      (rest ≠ [] → ¬ Resets (engine.perform operation).journal ∧
        Sparing changedName (engine.afterTests operation).state (engine.perform operation).journal
          (engine.perform operation).engine.state) ∧
      (engine.perform operation).engine.Unwritten rest

/-- The operation changes the scope, and since then nothing has written the mapping. -/
def Reopens (engine : Engine W A) (operation : Operation W A) : Prop :=
  ∃ m earlier later, (engine.perform operation).journal = earlier ++ later ∧
    Applies (fun _ _ => True) (engine.afterTests operation).state earlier m ∧ Resets later ∧
    Sparing changedName m later (engine.perform operation).engine.state

inductive Opened : Engine W A → Prop
  | new (actions : Dictionary (ActionFactory A)) (conditions : Dictionary (ConditionTest W))
      (settings : Settings) : Opened (.new actions conditions settings)
  | changed {engine : Engine W A} {operation : Operation W A} (reopens : engine.Reopens operation) :
      Opened (engine.perform operation).engine

omit [VariableStore W] in
theorem Opened.mapping_eq {engine : Engine W A} (opened : engine.Opened) :
    engine.state.memory.mapping changedName = Dictionary.empty := by
  cases opened with
  | new => rfl
  | changed reopens =>
    obtain ⟨_, _, _, _, _, resets, sparing⟩ := reopens
    exact sparing.mapping_eq.2 resets

theorem Unwritten.linked {engine : Engine W A} {operations : List (Operation W A)}
    (unwritten : engine.Unwritten operations) :
    ∃ last, Linked changedName (engine.state.memory.mapping changedName)
      (engine.sightings operations) last := by
  induction operations generalizing engine with
  | nil => exact ⟨_, rfl⟩
  | cons operation rest ih =>
    obtain ⟨_, between, later⟩ := unwritten
    have here := (engine.perform_watched operation).linked changedName
    -- Behind the tests of the last operation nothing is known, and nothing has to be.
    by_cases ends : rest = []
    · subst ends
      exact ⟨_, by simpa [sightings] using here⟩
    · obtain ⟨kept, sparing⟩ := between ends
      obtain ⟨last, linked⟩ := ih later
      rw [sparing.mapping_eq.1 kept] at linked
      exact ⟨last, here.append linked⟩

theorem Unwritten.private {engine : Engine W A} {operations : List (Operation W A)}
    (unwritten : engine.Unwritten operations) :
    ∀ s ∈ engine.sightings operations, s.Private := by
  induction operations generalizing engine with
  | nil => simp [sightings]
  | cons operation rest ih =>
    obtain ⟨tests, _, later⟩ := unwritten
    intro s member
    rcases List.mem_append.mp member with here | behind
    · refine ⟨fun changed => ?_, tests.other s here⟩
      obtain ⟨test, known, verdict_eq⟩ := (engine.perform_watched operation).verdict_eq here
      rw [changed, tests.known] at known
      obtain rfl := Option.some.inj known
      exact verdict_eq
    · exact ih later s behind

theorem Unwritten.known {engine : Engine W A} {operations : List (Operation W A)} {s : Sighting W}
    (unwritten : engine.Unwritten operations) (member : s ∈ engine.sightings operations) :
    engine.conditions.find? changedName = some variableChanged := by
  cases operations with
  | nil => cases member
  | cons operation rest => exact unwritten.1.known

omit [VariableStore W] in
theorem run_answersAt (engine : Engine W A) (operations : List (Operation W A)) (id : EventId)
    (slot : String) : answersAt id slot (engine.run operations).2 =
      ((engine.sightings operations).filter (Sighting.isAt id slot)).filterMap
        Sighting.answer? := by
  rw [answersAt, run_answers, List.filter_filterMap, List.filterMap_filter]
  exact List.filterMap_congr fun s _ => s.answer?_filter id slot

section Hooks

variable {engine : Engine W A} {operation : Operation W A}
  (hooks : PermittedHooks W A (Effect.Spares changedName))
  (host : ∀ effect, operation.effect? = some effect → Effect.Spares changedName engine.state effect)

include hooks host

omit [VariableStore W] in
theorem Opened.of_resets (resets : Resets (engine.perform operation).journal) :
    (engine.perform operation).engine.Opened :=
  .changed ⟨_, [], _, rfl, .quiet rfl only_nil, resets, engine.perform_applies hooks operation host⟩

theorem unwritten_cons {rest : List (Operation W A)} (tests : engine.TestsPrivately operation)
    (kept : ¬ Resets (engine.perform operation).journal)
    (later : (engine.perform operation).engine.Unwritten rest) :
    engine.Unwritten (operation :: rest) :=
  ⟨tests, fun _ => ⟨kept, engine.perform_applies hooks operation host⟩, later⟩

end Hooks

/-- Between two changes of the scope the tests of one slot are true exactly where the variable is
not what it was at the test of the slot before; the first one is not true. That is what the engine
returns for them, once the operator is applied, and what the journal of the run has. Positions count
from zero, and an unset variable differs from one that is set to any text. -/
theorem variableChanged_detects_edges {engine : Engine W A} (opened : engine.Opened)
    {operations : List (Operation W A)} (unwritten : engine.Unwritten operations) {id : EventId}
    {slot k : String}
    (single : ∀ s ∈ engine.sightings operations, s.isAt id slot = true → s.Reads k) :
    let seen := (engine.sightings operations).filter (Sighting.isAt id slot)
    let noted := answersAt id slot (engine.run operations).2
    noted.length = seen.length ∧
      ∀ (j : Nat) (s : Sighting W), seen[j]? = some s →
        ∃ changed, s.verdict.result = .ok changed ∧
          s.Returns engine.conditions (s.condition.operator.apply changed) ∧
          noted[j]? = some (id, s.condition, s.condition.operator.apply changed) ∧
          (changed = true ↔ 0 < j ∧ ∃ earlier, seen[j - 1]? = some earlier ∧
            VariableStore.lookup earlier.inquiry.world k ≠
              VariableStore.lookup s.inquiry.world k) := by
  intro seen noted
  obtain ⟨last, linked⟩ := unwritten.linked
  rw [opened.mapping_eq] at linked
  have detects : Detects k none seen := linked.detects unwritten.private single rfl
  have noted_eq : noted = seen.filterMap Sighting.answer? := engine.run_answersAt operations id slot
  have spoken : ∀ s ∈ seen, s.answer?.isSome = true := by
    intro s member
    obtain ⟨j, here⟩ := List.mem_iff_getElem?.mp member
    simp [Sighting.answer?, detects.result_at here]
  rw [noted_eq]
  refine ⟨List.filterMap_length_eq_length.mpr spoken, fun j s here => ?_⟩
  obtain ⟨member, place⟩ := List.mem_filter.mp (List.mem_of_getElem? here)
  obtain ⟨kind, owner, _⟩ : s.condition.kind = changedName ∧ s.inquiry.event.id = id ∧
      s.condition.slot = slot := by simpa [Sighting.isAt] using place
  have result_eq := detects.result_at here
  have known := unwritten.known member
  rw [← kind] at known
  refine ⟨_, result_eq, Sighting.returns_of_answer known
    ((unwritten.private s member).changed kind) result_eq, ?_, ?_⟩
  · rw [getElem?_filterMap spoken, here]
    simp [Sighting.answer?, result_eq, owner]
  cases j with
  | zero => simp
  | succ i =>
    simp only [Nat.succ_ne_zero, if_false, Option.any_map, Option.any_eq_true,
      Nat.zero_lt_succ, true_and]
    exact exists_congr fun earlier => and_congr_right fun _ => decide_eq_true_iff

end Engine

theorem Builtin.printed_sparing (name : String) (world : W) (keys : List String) (s : ScopeState) :
    Permitted (Effect.Spares name) s (printed world keys) := by
  refine .of_forall (fun effect member s => ?_) s
  unfold printed at member
  split at member
  · split at member
    · obtain rfl := List.mem_singleton.mp member
      trivial
    · obtain ⟨_, _, rfl⟩ := List.mem_map.mp member
      trivial
  · obtain ⟨key, _, rfl⟩ := List.mem_map.mp member
    split <;> trivial

theorem Builtin.sparing (name : String) : PermittedHooks W Builtin (Effect.Spares name) where
  start action moment scene := by
    cases action with
    | print keys => exact printed_sparing name scene.world keys scene.state
    | cancelEvent | resetScope => exact ⟨trivial, trivial⟩
    | incrementVariable | copyContext =>
      simp only [ActionHandler.start, Builtin.start]
      split <;> trivial
    | _ => trivial
  update action moment scene := by cases action <;> trivial
  cleanup action moment scene := trivial

namespace Engine

def watching : Engine Variables Builtin :=
  let asks (id : EventId) (operator : Operator) : Event :=
    ⟨id, "", none, [⟨changedName, operator, ["mood"], "cond1"⟩], []⟩
  ((Catalog.engine id ⟨false, .dropEvent⟩).1.perform
    (.loadScope ⟨"", [], [asks ⟨1⟩ .is, asks ⟨2⟩ .not]⟩)).engine

def moods : List (Operation Variables Builtin) :=
  [.update ∅ .zero, .update (.ofList [("mood", "")]) .zero, .update (.ofList [("mood", "")]) .zero]

theorem variableChanged_detects_edges_mood :
    let seen := (watching.sightings moods).filter (Sighting.isAt ⟨2⟩ "cond1")
    let noted := answersAt ⟨2⟩ "cond1" (watching.run moods).2
    watching.Opened ∧ watching.Unwritten moods ∧
      (∀ s ∈ watching.sightings moods, s.isAt ⟨2⟩ "cond1" = true → s.Reads "mood") ∧
      seen.map (fun s => s.verdict.result) = [.ok false, .ok true, .ok false] ∧
      noted.map (fun answer => answer.2.2) = [true, false, true] ∧ noted.length = seen.length ∧
      ∀ (j : Nat) (s : Sighting Variables), seen[j]? = some s →
        ∃ changed, s.verdict.result = .ok changed ∧
          s.Returns watching.conditions (s.condition.operator.apply changed) ∧
          noted[j]? = some (⟨2⟩, s.condition, s.condition.operator.apply changed) ∧
          (changed = true ↔ 0 < j ∧ ∃ earlier, seen[j - 1]? = some earlier ∧
            VariableStore.lookup earlier.inquiry.world "mood" ≠
              VariableStore.lookup s.inquiry.world "mood") := by
  intro seen noted
  have hooks := Builtin.sparing (W := Variables) changedName
  have opened : watching.Opened :=
    .of_resets hooks (fun _ found => by cases found; trivial) ⟨_, _, List.mem_cons_self⟩
  have unwritten : watching.Unwritten moods := by
    refine unwritten_cons hooks (fun _ found => by cases found) (.of_kinds rfl (by decide))
      (not_resets_of_changes (by decide)) ?_
    refine unwritten_cons hooks (fun _ found => by cases found) (.of_kinds rfl (by decide))
      (not_resets_of_changes (by decide)) ?_
    exact unwritten_cons hooks (fun _ found => by cases found) (.of_kinds rfl (by decide))
      (not_resets_of_changes (by decide)) trivial
  have single : ∀ s ∈ watching.sightings moods, s.isAt ⟨2⟩ "cond1" = true → s.Reads "mood" := by
    decide
  exact ⟨opened, unwritten, single, rfl, rfl,
    variableChanged_detects_edges opened unwritten single⟩

end Engine

end MapScript
