import MapScript.Proofs.Engine.Noting
import MapScript.Proofs.Engine.Starting

set_option autoImplicit false

namespace MapScript

open Number Journal

variable {W A : Type}

def Scope.without (scope : Scope) (started : List EventId) : Scope :=
  { scope with inits := scope.inits.filter fun event => event.id ∉ started }

namespace Scope

variable (scope : Scope) (earlier later : List EventId) (id : EventId)

@[simp] theorem without_nil : scope.without [] = scope := by
  simp [without]

@[simp] theorem without_without :
    (scope.without earlier).without later = scope.without (earlier ++ later) := by
  simp [without, List.filter_filter, Bool.and_comm]

theorem without_retired : scope.without [id] = scope.retireInit id := by
  simp [without, retireInit]

theorem without_absent (absent : scope.hasInit id = false) : scope.without [id] = scope := by
  have others : ∀ event ∈ scope.inits, event.id ≠ id := by
    simpa [hasInit] using absent
  have kept : (scope.inits.filter fun event => event.id ∉ [id]) = scope.inits :=
    List.filter_eq_self.mpr fun event member => by simpa using others event member
  rw [without, kept]

theorem hasInit_without {started : List EventId} (gone : id ∈ started) :
    (scope.without started).hasInit id = false := by
  simp only [hasInit, without, List.any_eq_false, List.mem_filter, decide_eq_true_eq]
  rintro event ⟨_, kept⟩ rfl
  exact kept gone

variable {scope id}

theorem hasInit_without_of_absent {started : List EventId} (absent : scope.hasInit id = false) :
    (scope.without started).hasInit id = false := by
  simp only [hasInit, without, List.any_eq_false, List.mem_filter, decide_eq_true_eq] at absent ⊢
  exact fun event kept => absent event kept.1

end Scope

namespace Journal

@[simp] theorem not_resets_nil : ¬ Resets [] := by
  simp [Resets]

@[simp] theorem resets_append {earlier later : Journal} :
    Resets (earlier ++ later) ↔ Resets earlier ∨ Resets later := by
  simp [Resets, exists_or]

theorem not_resets_of_only {kind : Notice → Bool} {journal : Journal} (only : journal.Only kind)
    (other : ∀ previous token, kind (.scopeReset previous token) = false) : ¬ Resets journal := by
  rintro ⟨previous, token, member⟩
  have known := only _ member
  rw [other] at known
  cases known

end Journal

@[simp] def Notice.neutral : Notice → Bool
  | .scopeLoaded _ _ _ _ | .eventStarted _ _ _ => false
  | _ => true

theorem Notice.neutral_of_tests (notice : Notice) (tests : notice.tests = true) :
    notice.neutral = true := by
  cases notice <;> first | rfl | cases tests

theorem Notice.neutral_of_quiet (notice : Notice) (quiet : notice.quiet = true) :
    notice.neutral = true := by
  cases notice <;> first | rfl | cases quiet

theorem Notice.undeclared_of_quiet (notice : Notice) (quiet : notice.quiet = true) :
    notice.undeclared = true := by
  cases notice <;> first | rfl | cases quiet

/-- The journal accounts for what has become of the scope: it loses what is started, and after a
load it is the loaded one without what has been started since. -/
structure Accounts (scope : Option Scope) (journal : Journal) (scope' : Option Scope) : Prop where
  steady : ¬ Resets journal → scope' = scope.map fun scope => scope.without (starts journal)
  loaded : ∀ earlier name inits events token later,
    journal = earlier ++ .scopeLoaded name inits events token :: later → ¬ Resets later →
      ∃ scope : Scope, scope' = some (scope.without (starts later)) ∧ scope.name = name ∧
        scope.inits.length = inits ∧ scope.events.length = events

namespace Accounts

variable {scope middle scope' : Option Scope} {journal later : Journal}

theorem trans (first : Accounts scope journal middle) (second : Accounts middle later scope') :
    Accounts scope (journal ++ later) scope' where
  steady calm := by
    rw [resets_append, not_or] at calm
    rw [second.steady calm.2, first.steady calm.1, Option.map_map]
    simp [Function.comp_def]
  loaded := by
    intro earlier name inits events token behind split calm
    rcases split_append split with ⟨rest, here, rfl⟩ | ⟨front, there⟩
    · rw [resets_append, not_or] at calm
      obtain ⟨loaded, rfl, known⟩ := first.loaded _ _ _ _ _ _ here calm.1
      exact ⟨loaded, by simp [second.steady calm.2], known⟩
    · exact second.loaded _ _ _ _ _ _ there calm

theorem still (scope : Option Scope) (neutral : journal.Only Notice.neutral) :
    Accounts scope journal scope where
  steady _ := by
    have none : starts journal = [] := by
      refine List.filterMap_eq_nil_iff.mpr fun notice member => ?_
      have known := neutral notice member
      cases notice <;> first | rfl | cases known
    simp [none]
  loaded := by
    rintro earlier name inits events token later rfl _
    have known := neutral (.scopeLoaded name inits events token) (by simp)
    cases known

theorem quiet (scope : Option Scope) (quiet : journal.Only Notice.quiet) :
    Accounts scope journal scope :=
  still scope (quiet.mono Notice.neutral_of_quiet)

end Accounts

namespace ScopeState

theorem reset_accounts (s : ScopeState) : Accounts s.scope s.reset.2 s.reset.1.scope where
  steady calm := absurd ⟨_, _, List.mem_cons_self⟩ calm
  loaded := by
    intro earlier name inits events token later split
    rcases split_cons split with ⟨other, _⟩ | ⟨front, tail⟩
    · cases other
    · exact absurd tail not_split_nil

theorem load_accounts (s : ScopeState) (scope : Scope) :
    Accounts s.scope (s.load scope).2 (s.load scope).1.scope where
  steady calm := absurd ⟨_, _, List.mem_cons_self⟩ calm
  loaded := by
    intro earlier name inits events token later split _
    rcases split_cons split with ⟨other, _⟩ | ⟨front, tail⟩
    · cases other
    · rcases split_cons tail with ⟨same, rfl⟩ | ⟨front, tail⟩
      · obtain ⟨rfl, rfl, rfl, rfl⟩ := Notice.scopeLoaded.inj same
        exact ⟨scope, by simp [load, starts_nil], rfl, rfl, rfl⟩
      · exact absurd tail not_split_nil

theorem apply_accounts (s : ScopeState) (effect : Effect) :
    Accounts s.scope (s.apply effect).2 (s.apply effect).1.scope := by
  cases effect with
  | reset => exact s.reset_accounts
  | load scope => exact s.load_accounts scope
  | remember memory => exact .quiet s.scope only_nil
  | say | cancelEvent | cancelAll => exact .still s.scope (by simp [apply])

theorem applyAll_accounts (s : ScopeState) (effects : List Effect) :
    Accounts s.scope (s.applyAll effects).2 (s.applyAll effects).1.scope := by
  induction effects generalizing s with
  | nil => exact .quiet s.scope only_nil
  | cons effect rest ih => exact (s.apply_accounts effect).trans (ih _)

end ScopeState

theorem callHook_accounts {B : Type} [Replies B] (kind : String) (phase : Phase) (hook : Hook)
    (slot : Nat) (moment : Moment) (hookOf : A → Moment → Scene W → Outcome W A B) (action : A)
    (scene : Scene W) :
    Accounts scene.state.scope
      (callHook kind phase hook slot moment hookOf action scene).journal
      (callHook kind phase hook slot moment hookOf action scene).scene.state.scope := by
  exact (scene.state.applyAll_accounts _).trans (.still _ (by simp))

section Hooks

variable [ActionHandler W A] {s s' : ScopeState} {journal : Journal}

theorem Hands.accounts (hands : Hands W A s journal s') : Accounts s.scope journal s'.scope := by
  induction hands with
  | still s quiet => exact .quiet s.scope quiet
  | acts acts => cases acts <;> exact callHook_accounts _ _ _ _ _ _ _ _
  | trans _ _ first second => exact first.trans second

theorem Acted.accounts (acted : Acted W A s journal s') : Accounts s.scope journal s'.scope := by
  induction acted with
  | hands hands => exact hands.accounts
  | taken s quiet => exact .quiet s.scope quiet
  | trans _ _ first second => exact first.trans second

theorem Hands.undeclared (hands : Hands W A s journal s') : journal.Only Notice.undeclared := by
  induction hands with
  | still s quiet => exact quiet.mono Notice.undeclared_of_quiet
  | acts acts =>
    cases acts <;> exact (callHook_drives _ _ _ _ _ _ _ _).mono Notice.undeclared_of_drives
  | trans _ _ first second => exact (only_append _ _).mpr ⟨first, second⟩

theorem Acted.starts_eq (acted : Acted W A s journal s') : starts journal = [] := by
  induction acted with
  | hands hands => exact starts_of_undeclared hands.undeclared
  | taken s quiet => exact starts_of_undeclared (quiet.mono Notice.undeclared_of_quiet)
  | trans _ _ first second => simp [first, second]

end Hooks

section Pass

variable [ActionHandler W A] {factories : Dictionary (ActionFactory A)} {policy : FailurePolicy}
  {dt : Seconds} {token : ScopeToken} {index : Nat} {s s' : Sweep W A} {journal : Journal}
  {result : Except EngineError Unit}

theorem Sweep.close_acted (token : ScopeToken) (s : Sweep W A) :
    Acted W A s.state (s.close token).2 (s.close token).1.state := by
  unfold close
  split
  next => exact s.applyPending_acted
  next => exact .hands (.still s.state only_nil)

theorem Pass.acted (pass : Pass factories policy dt token index s journal s' result) :
    Acted W A s.state journal s'.state := by
  induction pass with
  | @closed index s past fresh => exact s.applyPending_acted
  | removed _ _ _ ih => exact .trans (.hands (.still _ (by simp))) ih
  | @passed index s s' event drained ended notices journal result drives settles same rest ih =>
    have cleared := (s.afterVisit index event drained.drive ended).applyPending_acted
    rw [Sweep.afterVisit_state] at cleared
    exact .trans (.trans (.quietly (.hands drives.hands) settles.quiet) cleared) ih
  | @abandoned index s event drained ended notices drives abandons away =>
    rw [Sweep.abandon, Sweep.afterVisit_state]
    exact .quietly (.hands drives.hands) abandons.quiet
  | @aborted index s event drained cause drives strict failed =>
    have aborted : Journal.Only Notice.quiet [.frameAborted event.id cause] := by simp
    have closing := (s.afterDrain index drained.drive).close_acted token
    exact .trans (.quietly (.hands drives.hands) aborted) closing

end Pass

namespace Engine

variable (engine : Engine W A)

theorem retireInit_scope (state : ScopeState) (id : EventId) :
    (retireInit state id).1.scope = state.scope.map fun scope => scope.without [id] := by
  unfold retireInit
  cases current : state.scope with
  | none => simp [current]
  | some scope =>
    cases declared : scope.hasInit id with
    | true => simp [declared, scope.without_retired]
    | false => simp [declared, current, scope.without_absent id declared]

theorem startEvent_accounts (event : Event) :
    Accounts engine.state.scope (engine.startEvent event).2.2
      (engine.startEvent event).2.1.state.scope where
  loaded := by
    rintro earlier name inits events token later split _
    have known := startEvent_admits engine event (.scopeLoaded name inits events token)
      (by simp [split])
    cases known
  steady _ := by
    unfold startEvent
    split
    next => simp
    next =>
      simp only [retireInit_scope]
      rcases retireInit_notices engine.state event.id with none | retired
      · simp [none, Notice.started?]
      · simp [retired, Notice.started?]

theorem conditionsMet_scope (world : W) (dt : Seconds) (event : Event) :
    (engine.conditionsMet world dt event).engine.state.scope = engine.state.scope := by
  unfold conditionsMet
  dsimp only
  split
  next => split <;> rfl
  next => rfl

theorem startSatisfied_accounts (world : W) (dt : Seconds) (events : List Event) :
    Accounts engine.state.scope (startSatisfied world dt events engine).journal
      (startSatisfied world dt events engine).engine.state.scope := by
  induction events generalizing engine with
  | nil => exact .quiet _ only_nil
  | cons event rest ih =>
    have neutral : (engine.conditionsMet world dt event).journal.Only Notice.neutral :=
      (conditionsMet_tests engine world dt event).mono Notice.neutral_of_tests
    have tested := Accounts.still engine.state.scope neutral
    have same := conditionsMet_scope engine world dt event
    simp only [startSatisfied]
    split
    next => exact same ▸ tested
    next holds _ =>
      rw [← same] at tested ⊢
      cases holds with
      | false => simpa using tested.trans (ih _)
      | true => exact (tested.trans (startEvent_accounts _ event)).trans (ih _)

def declaresInit (engine : Engine W A) (id : EventId) : Bool :=
  match engine.state.scope with
  | some scope => scope.hasInit id
  | none => false

variable [ActionHandler W A]

theorem update_accounts (world : W) (dt : Seconds) :
    Accounts engine.state.scope (engine.update world dt).journal
      (engine.update world dt).engine.state.scope := by
  have begun := startSatisfied_accounts { engine with trace := [] } world dt engine.declarations
  rcases update_cases engine world dt with ⟨cause, _, ended⟩ | ⟨taken, journal, s', result, half,
    pass, ended⟩
  · rw [ended]
    exact begun
  · have swept := (taken.sweepStart world).applyPending_acted.trans pass.acted
    rw [ended]
    rw [← half] at swept ⊢
    exact begun.trans swept.accounts

theorem execute_accounts (polls : Nat) (world : W) (name : String) (parameters : List String)
    (skip : Bool) (step : Seconds) :
    Accounts engine.state.scope (engine.execute polls world name parameters skip step).journal
      (engine.execute polls world name parameters skip step).engine.state.scope := by
  have quiet := createAction_quiet engine.actions none 0 name parameters
  rcases execute_cases polls engine world name parameters skip step with
    ⟨cause, notices, creation, ended⟩ |
    ⟨action, notices, shot, ending, kept, creation, ran, _, ended⟩
  · rw [creation] at quiet
    rw [ended]
    exact .quiet _ quiet
  · have hands := OneShot.run_hands name step polls skip action
      ⟨world, Dictionary.empty, engine.state⟩
    have cancelled := (applyRequests_cancels (W := W) shot.scene.state.requests kept).quiet
    rw [creation] at quiet
    rw [ran] at hands
    rw [ended]
    exact (((Accounts.quiet _ quiet).trans hands.accounts).trans (.quiet _ cancelled)).trans
      (.quiet _ (ending.notices_quiet name))

theorem perform_accounts (operation : Operation W A) :
    Accounts engine.state.scope (engine.perform operation).journal
      (engine.perform operation).engine.state.scope := by
  cases operation with
  | loadScope scope => exact engine.state.load_accounts scope
  | reset => exact engine.state.reset_accounts
  | startEvent event => exact startEvent_accounts engine event
  | update world dt => exact update_accounts engine world dt
  | execute polls world name parameters skip step =>
    exact execute_accounts engine polls world name parameters skip step
  | cancelEvent id => exact .quiet _ (cancelById_cancels id engine.running).quiet
  | cancelAllEvents => exact .quiet _ (cancelAll_cancels engine.running).quiet
  | cancelCurrentAction id => exact .quiet _ (cancelActionIn_cancels id engine.running).quiet
  | checkCondition world event condition dt =>
    have tests := testCondition_tests engine.conditions world dt event condition engine.state.memory
    exact .still _ (tests.mono Notice.neutral_of_tests)
  | registerAction | registerCondition =>
    exact .still _ (by simp [perform, Engine.registerAction, Engine.registerCondition])
  | configure | replaceActions | replaceConditions | remember => exact .still _ only_nil

theorem run_accounts (operations : List (Operation W A)) :
    Accounts engine.state.scope (engine.run operations).2
      (engine.run operations).1.state.scope := by
  induction operations generalizing engine with
  | nil => exact .still _ only_nil
  | cons operation rest ih => exact (perform_accounts engine operation).trans (ih _)

theorem afterStarts_scope (operation : Operation W A) :
    (engine.afterStarts operation).state.scope =
      engine.state.scope.map fun scope =>
        scope.without (starts (engine.perform operation).journal) := by
  cases active : operation.starts with
  | false =>
    obtain ⟨none, same⟩ := starts_nothing engine operation active
    simp [none, same]
  | true =>
    cases operation with
    | startEvent event =>
      refine (startEvent_accounts engine event).steady ?_
      exact not_resets_of_only (startEvent_admits engine event) fun _ _ => rfl
    | update world dt =>
      have begun := startSatisfied_accounts { engine with trace := [] } world dt engine.declarations
      simp only [perform, update_starts]
      exact begun.steady (not_resets_of_only (startSatisfied_admits world dt _ _) fun _ _ => rfl)
    | _ => cases active

/-- How often frames start the id while the init pool declares it, so at least as often as they
start one of its init declarations. -/
def fires (id : EventId) (engine : Engine W A) : List (Operation W A) → Nat
  | [] => 0
  | operation :: rest =>
    (if operation.isUpdate && engine.declaresInit id then
      (starts (engine.perform operation).journal).count id else 0) +
      fires id (engine.perform operation).engine rest

variable {engine} {id : EventId}

theorem fires_absent {operations : List (Operation W A)} (absent : engine.declaresInit id = false)
    (steady : ¬ Resets (engine.run operations).2) : engine.fires id operations = 0 := by
  induction operations generalizing engine with
  | nil => rfl
  | cons operation rest ih =>
    simp only [run, resets_append, not_or] at steady
    have gone : (engine.perform operation).engine.declaresInit id = false := by
      have scope_eq := (perform_accounts engine operation).steady steady.1
      unfold declaresInit at absent ⊢
      rw [scope_eq]
      cases current : engine.state.scope with
      | none => rfl
      | some scope =>
        rw [current] at absent
        exact Scope.hasInit_without_of_absent absent
    simp [fires, absent, ih gone steady.2]

theorem fires_le_one {operations : List (Operation W A)}
    (steady : ¬ Resets (engine.run operations).2) : engine.fires id operations ≤ 1 := by
  induction operations generalizing engine with
  | nil => exact Nat.zero_le 1
  | cons operation rest ih =>
    simp only [run, resets_append, not_or] at steady
    by_cases started : id ∈ starts (engine.perform operation).journal
    -- The start that counts takes the declarations of the id out of the pool.
    · have gone : (engine.perform operation).engine.declaresInit id = false := by
        have scope_eq := (perform_accounts engine operation).steady steady.1
        unfold declaresInit
        rw [scope_eq]
        cases engine.state.scope with
        | none => rfl
        | some scope => exact scope.hasInit_without id started
      have once : (starts (engine.perform operation).journal).count id ≤ 1 := by
        have distinct := perform_starts_nodup engine operation
        exact List.nodup_iff_count_le_one.mp distinct id
      simp only [fires, fires_absent gone steady.2]
      split <;> omega
    · simpa [fires, List.count_eq_zero.mpr started] using ih steady.2

structure Loads (engine : Engine W A) (operation : Operation W A) (scope : Scope) : Prop where
  resets : Resets (engine.perform operation).journal
  scope_eq : (engine.perform operation).engine.state.scope = some scope

/-- During an operation that has found the init pool to be that of `scope` without `since`: with
each declaration that is tested, what the pool loses is what joins the running events, and what the
operation has left of the pool stays until a hook changes the scope. -/
structure Retires (engine : Engine W A) (operation : Operation W A) (scope : Scope)
    (since : List EventId) : Prop where
  testing : ∀ world dt tested untested, operation = .update world dt →
    engine.declarations = tested ++ untested →
    let met := startSatisfied world dt tested { engine with trace := [] }
    met.engine.state.scope = some (scope.without (since ++ starts met.journal)) ∧
      ids met.engine.running = ids engine.running ++ starts met.journal
  driving : ∀ hooks found, Acted W A (engine.afterStarts operation).state hooks found →
    ¬ Resets hooks →
    found.scope = some (scope.without (since ++ starts (engine.perform operation).journal))
  running : ids (engine.afterStarts operation).running =
    ids engine.running ++ starts (engine.perform operation).journal

theorem retires_of_scope_eq {scope : Scope} {since : List EventId}
    (current : engine.state.scope = some (scope.without since)) (operation : Operation W A) :
    engine.Retires operation scope since where
  testing world dt tested _ _ _ := by
    have begun := startSatisfied_accounts { engine with trace := [] } world dt tested
    have calm := not_resets_of_only (startSatisfied_admits world dt tested
      { engine with trace := [] }) fun _ _ => rfl
    exact ⟨by simp [begun.steady calm, current], startSatisfied_ids world dt tested _⟩
  driving hooks found acted calm := by
    have quiet := acted.accounts.steady calm
    simp [quiet, acted.starts_eq, afterStarts_scope, current]
  running := perform_starts engine operation

theorem inits_start_once (engine : Engine W A) {load : Operation W A} {scope : Scope}
    (loads : engine.Loads load scope) (operations : List (Operation W A))
    (steady : ¬ Resets ((engine.perform load).engine.run operations).2) :
    (∀ earlier name inits events token later,
      (engine.perform load).journal = earlier ++ .scopeLoaded name inits events token :: later →
        ¬ Resets later → starts later = [] ∧ scope.name = name ∧ scope.inits.length = inits ∧
          scope.events.length = events) ∧
    ((engine.perform load).engine.run operations).1.state.scope =
      some (scope.without (starts ((engine.perform load).engine.run operations).2)) ∧
    (∀ next, ((engine.perform load).engine.run operations).1.Retires next scope
      (starts ((engine.perform load).engine.run operations).2)) ∧
    ∀ id, (engine.perform load).engine.fires id operations ≤ 1 := by
  have current := (run_accounts (engine.perform load).engine operations).steady steady
  rw [loads.scope_eq, Option.map_some] at current
  refine ⟨?_, current, retires_of_scope_eq current, fun id => fires_le_one steady⟩
  intro earlier name inits events token later split calm
  have none : starts later = [] :=
    starts_of_undeclared ((perform_parted engine load).behind split rfl)
  obtain ⟨loaded, scope_eq, known⟩ :=
    (perform_accounts engine load).loaded _ _ _ _ _ _ split calm
  rw [loads.scope_eq, none, Scope.without_nil] at scope_eq
  obtain rfl := Option.some.inj scope_eq
  exact ⟨none, known⟩

def pooled : Scope :=
  ⟨"", [Scripted.guarded 1 [("yes", .is)], Scripted.guarded 2 [("known", .not)],
    Scripted.guarded 1 [], Scripted.guarded 3 [("broken", .is)], Scripted.guarded 4 []],
    [Scripted.guarded 1 []]⟩

def pooling : Engine Unit Scripted :=
  new Dictionary.empty Scripted.tests ⟨false, .abort⟩

-- The first frame starts one event and then fails, the second one finds the rest of the pool.
def pooledRun : List (Operation Unit Scripted) :=
  [.update () .zero, .configure ⟨false, .dropEvent⟩, .cancelAllEvents,
    .startEvent (Scripted.guarded 3 []), .update () .zero]

theorem inits_start_once_pooled :
    pooling.Loads (.loadScope pooled) pooled ∧
      ¬ Resets ((pooling.perform (.loadScope pooled)).engine.run pooledRun).2 ∧
      ((pooling.perform (.loadScope pooled)).engine.update () .zero).result =
        .error (.handler "broken" .test (some ⟨3⟩) ⟨"", []⟩) ∧
      ((pooling.perform (.loadScope pooled)).engine.run pooledRun).1.state.scope =
        some { pooled with inits := [Scripted.guarded 2 [("known", .not)]] } ∧
      ∀ id, (pooling.perform (.loadScope pooled)).engine.fires id pooledRun ≤ 1 := by
  have loads : pooling.Loads (.loadScope pooled) pooled := ⟨⟨_, _, List.mem_cons_self⟩, rfl⟩
  have calm : ¬ Resets ((pooling.perform (.loadScope pooled)).engine.run pooledRun).2 := by
    have others : Only (fun | .scopeReset _ _ => false | _ => true)
        ((pooling.perform (.loadScope pooled)).engine.run pooledRun).2 := by
      unfold Only
      decide +kernel
    exact not_resets_of_only others fun _ _ => rfl
  obtain ⟨_, current, _, once⟩ := inits_start_once pooling loads pooledRun calm
  refine ⟨loads, calm, by decide +kernel, current.trans ?_, once⟩
  decide +kernel

end Engine

end MapScript
