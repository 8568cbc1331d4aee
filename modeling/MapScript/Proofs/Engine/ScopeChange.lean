import MapScript.Proofs.Engine.Handing
import MapScript.Proofs.Engine.Kinds
import MapScript.Proofs.Engine.Scripted

set_option autoImplicit false

namespace MapScript

open Number Journal

inductive Acted (W A : Type) [ActionHandler W A] : ScopeState → Journal → ScopeState → Prop
  | hands {s s' : ScopeState} {journal : Journal} (hands : Hands W A s journal s') :
      Acted W A s journal s'
  | taken (s : ScopeState) {notices : Journal} (quiet : notices.Only Notice.quiet) :
      Acted W A s notices { s with requests := [] }
  | trans {s m s' : ScopeState} {journal later : Journal} (first : Acted W A s journal m)
      (second : Acted W A m later s') : Acted W A s (journal ++ later) s'

def LeftBy (W A : Type) [ActionHandler W A] (s : ScopeState) (journal : Journal)
    (left : ScopeState) : Prop :=
  ∃ front middle called behind, journal = front ++ called ++ behind ∧ Acted W A s front middle ∧
    Acts W A middle called left ∧ behind.Only Notice.quiet

variable {W A : Type}

theorem Stops.quiet {e e' : RunningEvent A} {journal : Journal} (stops : Stops e journal e') :
    journal.Only Notice.quiet := by
  cases stops <;> simp

theorem Cancels.quiet {running running' : List (RunningEvent A)} {journal : Journal}
    (cancels : Cancels running journal running') : journal.Only Notice.quiet := by
  induction cancels with
  | none | ignored => simp
  | event one _ ih => simp [one.quiet, ih]
  | trans _ _ first second => simp [first, second]

theorem Settles.quiet {policy : FailurePolicy} {id : EventId} {result : Except EngineError Drain}
    {ended : Bool} {notices : Journal} (settles : Settles policy id result ended notices) :
    notices.Only Notice.quiet := by
  cases settles <;> simp

theorem Abandons.quiet {policy : FailurePolicy} {id : EventId} {result : Except EngineError Drain}
    {ended : Bool} {notices : Journal} (abandons : Abandons policy id result ended notices) :
    notices.Only Notice.quiet := by
  cases abandons with
  | scopeChanged => simp
  | settles settles => exact settles.quiet

theorem Ending.notices_quiet (name : String) (ending : Ending) :
    (ending.notices name).Only Notice.quiet := by
  cases ending <;> simp [notices]

section Hooks

variable [ActionHandler W A] {s m s' left : ScopeState} {earlier later journal : Journal}

theorem Acted.quietly (acted : Acted W A s journal s') {notices : Journal}
    (quiet : notices.Only Notice.quiet) : Acted W A s (journal ++ notices) s' :=
  .trans acted (.hands (.still s' quiet))

namespace LeftBy

theorem behind (acted : Acted W A s earlier m) (leftBy : LeftBy W A m later left) :
    LeftBy W A s (earlier ++ later) left := by
  obtain ⟨front, middle, called, behind, rfl, before, acts, quiet⟩ := leftBy
  refine ⟨earlier ++ front, middle, called, behind, ?_, .trans acted before, acts, quiet⟩
  simp

theorem quietly (leftBy : LeftBy W A s journal left) {notices : Journal}
    (quiet : notices.Only Notice.quiet) : LeftBy W A s (journal ++ notices) left := by
  obtain ⟨front, middle, called, behind, rfl, before, acts, silent⟩ := leftBy
  exact ⟨front, middle, called, behind ++ notices, by simp, before, acts, by simp [silent, quiet]⟩

end LeftBy

theorem Hands.leftBy (hands : Hands W A s journal s') :
    s' = s ∧ journal.Only Notice.quiet ∨ LeftBy W A s journal s' := by
  induction hands with
  | still s quiet => exact .inl ⟨rfl, quiet⟩
  | @acts s s' journal acts =>
    refine .inr ⟨[], s, journal, [], by simp, .hands (.still s only_nil), acts, only_nil⟩
  | trans first _ before after =>
    rcases after with ⟨rfl, silent⟩ | leftBy
    · rcases before with ⟨rfl, quiet⟩ | leftBy
      · exact .inl ⟨rfl, by simp [quiet, silent]⟩
      · exact .inr (leftBy.quietly silent)
    · exact .inr (leftBy.behind (.hands first))

theorem Hands.leftBy_of_moved (hands : Hands W A s journal s') (moved : s'.token ≠ s.token) :
    LeftBy W A s journal s' := by
  rcases hands.leftBy with ⟨rfl, _⟩ | leftBy
  · exact absurd rfl moved
  · exact leftBy

end Hooks

section Pass

variable [ActionHandler W A] {factories : Dictionary (ActionFactory A)} {policy : FailurePolicy}
  {dt : Seconds} {token : ScopeToken} {index : Nat} {s s' : Sweep W A} {journal : Journal}
  {result : Except EngineError Unit}

theorem Sweep.applyPending_quiet (s : Sweep W A) : s.applyPending.2.Only Notice.quiet :=
  (applyRequests_cancels s.state.requests s.running).quiet

theorem Sweep.applyPending_acted (s : Sweep W A) :
    Acted W A s.state s.applyPending.2 s.applyPending.1.state :=
  .taken s.state s.applyPending_quiet

theorem Sweep.Drives.hands {event : RunningEvent A} {drained : Drained W A}
    (drives : s.Drives factories dt token index event drained) :
    Hands W A s.state drained.journal drained.drive.state := by
  rw [← drives.drain_eq]
  exact (drain_walk factories dt ⟨event, s.world, s.state⟩).hands

theorem Sweep.Drives.leftBy {event : RunningEvent A} {drained : Drained W A}
    (drives : s.Drives factories dt token index event drained)
    (away : drained.drive.state.token ≠ token) :
    LeftBy W A s.state drained.journal drained.drive.state :=
  drives.hands.leftBy_of_moved (drives.fresh ▸ away)

theorem Pass.leftBy (pass : Pass factories policy dt token index s journal s' result)
    (away : s'.state.token ≠ token) :
    s'.running = [] ∧ LeftBy W A s.state journal s'.state := by
  induction pass with
  | closed _ fresh => exact absurd fresh away
  | removed _ _ _ ih =>
    obtain ⟨gone, leftBy⟩ := ih away
    exact ⟨gone, leftBy.behind (.hands (.still _ (by simp)))⟩
  | @passed index s s' event drained ended notices journal result drives settles same rest ih =>
    obtain ⟨gone, leftBy⟩ := ih away
    refine ⟨gone, leftBy.behind ?_⟩
    have cleared := (s.afterVisit index event drained.drive ended).applyPending_acted
    rw [Sweep.afterVisit_state] at cleared
    exact .trans (.quietly (.hands drives.hands) settles.quiet) cleared
  | @abandoned index s event drained ended notices drives abandons gone =>
    refine ⟨rfl, ?_⟩
    have leftBy := (drives.leftBy gone).quietly abandons.quiet
    rw [← s.afterVisit_state index event drained.drive ended] at leftBy
    exact leftBy
  | @aborted index s event drained cause drives strict failed =>
    unfold Sweep.close at away ⊢
    split at away
    next same => exact absurd same away
    next gone =>
      have aborted : Journal.Only Notice.quiet [.frameAborted event.id cause] := by simp
      simp only [if_neg gone, List.append_nil]
      exact ⟨rfl, (drives.leftBy gone).quietly aborted⟩

end Pass

namespace Engine

variable [ActionHandler W A]

/-- The operation has found conditions tested in its own scope and has then lost that scope: the
last hook has left the scope state, and no event is running. -/
structure Departed (engine : Engine W A) (operation : Operation W A) (tested hooks : Journal)
    (left : ScopeState) : Prop where
  journal_eq : (engine.perform operation).journal = tested ++ hooks
  same : (engine.beforeHooks operation).state.token = engine.state.token
  admits : tested.Only Notice.admits
  leftBy : LeftBy W A (engine.beforeHooks operation).state hooks left
  engine_eq : ∃ requests, (engine.perform operation).engine =
    { engine.beforeHooks operation with running := [], state := { left with requests } }

theorem update_departed (engine : Engine W A) (world : W) (dt : Seconds)
    (changed : (engine.update world dt).engine.state.token ≠ engine.state.token) :
    ∃ tested hooks left, engine.Departed (.update world dt) tested hooks left := by
  have same := intake_same world dt { engine with trace := [] }
  have admits := intake_admits { engine with trace := [] } world dt
  rcases update_cases engine world dt with ⟨cause, _, ended⟩ | ⟨taken, journal, s', result, half,
    pass, ended⟩
  · rw [ended] at changed
    exact absurd same.token changed
  · rw [half] at same
    rw [ended] at changed
    obtain ⟨gone, leftBy⟩ := pass.leftBy (same.token ▸ changed)
    refine ⟨({ engine with trace := [] }.intake world dt).journal,
      (taken.sweepStart world).applyPending.2 ++ journal, s'.state, ?_, ?_, admits, ?_,
      s'.state.requests, ?_⟩
    · simp only [perform, ended]
    · rw [beforeHooks, half, same.token]
    · rw [beforeHooks, half]
      exact leftBy.behind (taken.sweepStart world).applyPending_acted
    · simp only [perform, beforeHooks, ended, half, gone]

theorem execute_departed (polls : Nat) (engine : Engine W A) (world : W) (name : String)
    (parameters : List String) (skip : Bool) (step : Seconds)
    (changed : (engine.execute polls world name parameters skip step).engine.state.token ≠
      engine.state.token) :
    ∃ tested hooks left,
      engine.Departed (.execute polls world name parameters skip step) tested hooks left := by
  have quiet := createAction_quiet engine.actions none 0 name parameters
  rcases execute_cases polls engine world name parameters skip step with
    ⟨cause, notices, _, ended⟩ | ⟨action, notices, shot, ending, kept, creation, ran, keeps, ended⟩
  · rw [ended] at changed
    exact absurd rfl changed
  · have hands := OneShot.run_hands name step polls skip action
      ⟨world, Dictionary.empty, engine.state⟩
    have cancelled := (applyRequests_cancels (W := W) shot.scene.state.requests kept).quiet
    rw [creation] at quiet
    rw [ran] at hands
    rw [ended] at changed
    have gone : (applyRequests W shot.scene.state.requests kept).1 = [] := by
      rw [← keeps, if_neg changed]
      exact List.forall₂_nil_left_iff.mp (applyRequests_cancels _ []).halted.1
    have leftBy : LeftBy W A engine.state (notices ++ shot.journal) shot.scene.state :=
      .behind (.hands (.still _ quiet)) (hands.leftBy_of_moved changed)
    refine ⟨[], notices ++ shot.journal ++ (applyRequests W shot.scene.state.requests kept).2 ++
      ending.notices name, shot.scene.state, ?_, rfl, by simp, ?_, [], ?_⟩
    · simp only [perform, ended, List.nil_append]
    · exact (leftBy.quietly cancelled).quietly (ending.notices_quiet name)
    · simp only [perform, beforeHooks, ended, gone]

theorem scope_change_leaves_nothing (engine : Engine W A) (operation : Operation W A)
    (drives : operation.drives = true)
    (changed : (engine.perform operation).engine.state.token ≠ engine.state.token) :
    (engine.perform operation).engine.running = [] ∧
      (∃ tested hooks left, engine.Departed operation tested hooks left) ∧
      ∀ (earlier later : Journal) (previous : Option String) (token : ScopeToken),
        (engine.perform operation).journal = earlier ++ .scopeReset previous token :: later →
        later.Only Notice.undeclared := by
  have departs : ∃ tested hooks left, engine.Departed operation tested hooks left := by
    cases operation with
    | update world dt => exact update_departed engine world dt changed
    | execute polls world name parameters skip step =>
      exact execute_departed polls engine world name parameters skip step changed
    | _ => cases drives
  obtain ⟨tested, hooks, left, departed⟩ := departs
  refine ⟨?_, ⟨tested, hooks, left, departed⟩, ?_⟩
  · obtain ⟨requests, engine_eq⟩ := departed.engine_eq
    rw [engine_eq]
  · intro earlier later previous token split
    exact (perform_parted engine operation).behind split rfl

def loading : Engine Unit Scripted :=
  ((Scripted.engine { Scripted.idle with
      start := ⟨[.load (Scripted.scope [Scripted.event ⟨3⟩])], .ok ()⟩ } .abort).run
    [.loadScope (Scripted.scope [Scripted.event ⟨1⟩, Scripted.event ⟨2⟩])]).1

theorem scope_change_leaves_nothing_loading :
    let next := loading.perform (.update () .zero)
    next.engine.state.token ≠ loading.state.token ∧
      next.engine.state.scope = some (Scripted.scope [Scripted.event ⟨3⟩]) ∧
      next.engine.running = [] ∧
      (∃ tested hooks left, loading.Departed (.update () .zero) tested hooks left) ∧
      ∀ (earlier later : Journal) (previous : Option String) (token : ScopeToken),
        next.journal = earlier ++ .scopeReset previous token :: later →
        later.Only Notice.undeclared := by
  intro next
  have changed : next.engine.state.token ≠ loading.state.token := by decide
  exact ⟨changed, rfl, scope_change_leaves_nothing loading (.update () .zero) rfl changed⟩

end Engine

end MapScript
