import MapScript.Proofs.Engine.Reachable
import MapScript.Proofs.Engine.ScopeChange
import MapScript.Proofs.Engine.Tokens

set_option autoImplicit false

namespace MapScript

open Number Journal

variable {W A : Type}

/-- An update of a running event that finishes the action and takes the scope away. -/
structure Call.Departs (call : Call) : Prop where
  owned : call.owner.isSome = true
  polled : call.hook = .update
  finished : call.reply = .finished
  moved : call.moved = true

/-- Driving calls of which only the last one changes the scope, or the last one and the cleanup
that belongs to it. If that cleanup changes the scope once more, it may be back at the old token. -/
inductive Faithful : List Call → Prop
  | nil : Faithful []
  | last {call : Call} (stays : ¬ call.Departs) : Faithful [call]
  | cons {call : Call} {rest : List Call} (steady : call.moved = false)
      (faithful : Faithful rest) : Faithful (call :: rest)
  | departed {call : Call} (departs : call.Departs) (reply : Reply) :
      Faithful [call, call.cleanup reply false]
  | returned {call : Call} {rest : List Call} (departs : call.Departs) (reply : Reply)
      (faithful : Faithful rest) : Faithful (call :: call.cleanup reply true :: rest)

namespace Faithful

variable {calls : List Call}

theorem not_departs_of_steady {call : Call} (steady : call.moved = false) : ¬ call.Departs :=
  fun departs => by simp [departs.moved] at steady

theorem not_departs_of_hook {call : Call} (other : call.hook ≠ .update) : ¬ call.Departs :=
  fun departs => other departs.polled

theorem pairwise_iff_of_departs {call next : Call} {rest : List Call} (departs : call.Departs) :
    ((call :: next :: rest).Pairwise fun earlier _ => earlier.moved = false) ↔
      ∀ other ∈ call :: next :: rest, ¬ other.Departs := by
  constructor
  · intro steady
    have stays := (List.pairwise_cons.mp steady).1 next List.mem_cons_self
    exact absurd departs (not_departs_of_steady stays)
  · intro none
    exact absurd departs (none call List.mem_cons_self)

theorem pairwise_iff (faithful : Faithful calls) :
    (calls.Pairwise fun earlier _ => earlier.moved = false) ↔ ∀ call ∈ calls, ¬ call.Departs := by
  induction faithful with
  | nil => simp
  | last stays => simp [stays]
  | cons steady faithful ih => simp [ih, steady, not_departs_of_steady steady]
  | departed departs reply => exact pairwise_iff_of_departs departs
  | returned departs reply faithful ih => exact pairwise_iff_of_departs departs

theorem behind (faithful : Faithful calls) {pre post : List Call} {call : Call}
    (split : calls = pre ++ call :: post) (departs : call.Departs) :
    ∃ reply moved rest,
      post = call.cleanup reply moved :: rest ∧ (moved = false → rest = []) := by
  induction faithful generalizing pre with
  | nil => exact absurd split not_split_nil
  | last stays =>
    rcases split_cons split with ⟨rfl, _⟩ | ⟨front, tail⟩
    · exact absurd departs stays
    · exact absurd tail not_split_nil
  | cons steady _ ih =>
    rcases split_cons split with ⟨rfl, _⟩ | ⟨front, tail⟩
    · exact absurd departs (not_departs_of_steady steady)
    · exact ih tail
  | departed _ reply =>
    rcases split_cons split with ⟨rfl, rfl⟩ | ⟨front, tail⟩
    · exact ⟨reply, false, [], rfl, fun _ => rfl⟩
    · rcases split_cons tail with ⟨rfl, _⟩ | ⟨front, tail⟩
      · cases departs.polled
      · exact absurd tail not_split_nil
  | returned _ reply _ ih =>
    rcases split_cons split with ⟨rfl, rfl⟩ | ⟨front, tail⟩
    · exact ⟨reply, true, _, rfl, by simp⟩
    · rcases split_cons tail with ⟨rfl, _⟩ | ⟨front, later⟩
      · cases departs.polled
      · exact ih later

theorem of_pairwise (steady : calls.Pairwise fun earlier _ => earlier.moved = false)
    (foreign : ∀ call ∈ calls, call.owner = none) : Faithful calls := by
  induction calls with
  | nil => exact .nil
  | cons call rest ih =>
    have stays : ¬ call.Departs := fun departs => by
      simpa [foreign call List.mem_cons_self] using departs.owned
    cases rest with
    | nil => exact .last stays
    | cons next later =>
      obtain ⟨quiet, steady⟩ := List.pairwise_cons.mp steady
      refine .cons (quiet next List.mem_cons_self) (ih steady ?_)
      intro other member
      exact foreign other (List.mem_cons_of_mem call member)

end Faithful

theorem faithful_finishing {token between token' : ScopeToken} (e : RunningEvent A) (slot : Action)
    (reply : Reply) {later : List Call} (faithful : Faithful later)
    (back : later = [] ∨ token' = token) :
    Faithful (e.call slot .update .finished (decide (between ≠ token)) ::
      e.call slot .cleanup reply (decide (token' ≠ between)) :: later) := by
  by_cases same : between = token
  · subst same
    refine .cons (by simp [RunningEvent.call]) ?_
    rcases back with rfl | rfl
    · exact .last (Faithful.not_departs_of_hook (by simp [RunningEvent.call]))
    · exact .cons (by simp [RunningEvent.call]) faithful
  · have departs : (e.call slot .update .finished (decide (between ≠ token))).Departs :=
      ⟨rfl, rfl, rfl, by simp [RunningEvent.call, same]⟩
    -- The update has taken the scope away. Only a second change, in the cleanup, can bring the old
    -- token back and let the drain go on.
    by_cases stayed : token' = between
    · obtain rfl : later = [] := back.resolve_right (stayed ▸ same)
      subst stayed
      have still : decide (token' ≠ token') = false := by simp
      rw [still]
      exact .departed departs reply
    · rw [decide_eq_true stayed]
      exact .returned departs reply faithful

theorem Driven.faithful {token token' : ScopeToken} {e e' : RunningEvent A} {calls : List Call}
    {result : Except EngineError Drain} (driven : Driven token e calls e' token' result) :
    Faithful calls ∧
      (token' = token → ∀ later, Faithful later → Faithful (calls ++ later)) := by
  -- Only a drain that ends in the scope it began with has more calls of the pass behind it.
  induction driven with
  | complete | refused => exact ⟨.nil, fun _ _ faithful => faithful⟩
  | startFailed =>
    refine ⟨.last (Faithful.not_departs_of_hook (by simp [RunningEvent.call])), ?_⟩
    intro same later faithful
    exact .cons (by simp [RunningEvent.call, same]) faithful
  | startedAway _ _ _ _ away =>
    exact ⟨.last (Faithful.not_departs_of_hook (by simp [RunningEvent.call])),
      fun same => absurd same away⟩
  | started _ _ _ _ _ ih =>
    refine ⟨.cons rfl ih.1, ?_⟩
    intro same later faithful
    exact .cons rfl (ih.2 same later faithful)
  | skipped _ _ _ ih => exact ih
  | updateFailed | held =>
    refine ⟨.last (fun departs => by cases departs.finished), ?_⟩
    intro same later faithful
    exact .cons (by simp [RunningEvent.call, same]) faithful
  | cleanupFailed =>
    refine ⟨faithful_finishing _ _ .failed .nil (.inl rfl), ?_⟩
    intro same later faithful
    exact faithful_finishing _ _ .failed faithful (.inr same)
  | finishedAway _ _ _ _ _ away =>
    exact ⟨faithful_finishing _ _ .finished .nil (.inl rfl), fun same => absurd same away⟩
  | finished _ _ _ _ _ _ ih =>
    refine ⟨faithful_finishing _ _ .finished ih.1 (.inr rfl), ?_⟩
    intro same later faithful
    exact faithful_finishing _ _ .finished (ih.2 same later faithful) (.inr rfl)

theorem lifecycle_onlyCancels {calls : List Call} (hooks : OnlyCancels calls) :
    lifecycle calls = [] := by
  simpa [lifecycle, OnlyCancels] using hooks

theorem Driven.lifecycle_eq {token token' : ScopeToken} {e e' : RunningEvent A}
    {calls : List Call} {result : Except EngineError Drain}
    (driven : Driven token e calls e' token' result) : lifecycle calls = calls := by
  refine List.filter_eq_self.mpr fun call member => ?_
  simpa using (driven.own call member).2.2

section Pass

variable [ActionHandler W A] {factories : Dictionary (ActionFactory A)} {policy : FailurePolicy}
  {dt : Seconds} {token : ScopeToken} {index : Nat} {s s' : Sweep W A} {journal : Journal}
  {result : Except EngineError Unit}

theorem lifecycle_applyPending (s : Sweep W A) : lifecycle (calls s.applyPending.2) = [] :=
  lifecycle_onlyCancels s.applyPending_halted.2

theorem lifecycle_close (s : Sweep W A) : lifecycle (calls (s.close token).2) = [] := by
  unfold Sweep.close
  split
  next => exact lifecycle_applyPending s
  next => rfl

theorem Pass.faithful (pass : Pass factories policy dt token index s journal s' result) :
    Faithful (lifecycle (calls journal)) := by
  induction pass with
  | closed past fresh =>
    rw [lifecycle_applyPending]
    exact .nil
  | removed here flagged rest ih => simpa using ih
  | passed drives settles same rest ih =>
    simpa [settles.silent, lifecycle_applyPending, drives.driven.lifecycle_eq] using
      drives.driven.faithful.2 same _ ih
  | abandoned drives abandons away =>
    simpa [abandons.silent, drives.driven.lifecycle_eq] using drives.driven.faithful.1
  | aborted drives strict failed =>
    simpa [lifecycle_close, drives.driven.lifecycle_eq] using drives.driven.faithful.1

end Pass

def Settled (token : ScopeToken) (driven : Call × ScopeToken) : Prop :=
  driven.1.hook ≠ .update → driven.2 = token

/-- In the journal of a pass that began with `token` and leaves `left`, only an update may change
the token and have calls behind it that drive actions. -/
structure Keeps (token left : ScopeToken) (journal : Journal) : Prop where
  token_eq : token.after (changes journal) = left
  pairwise : (driving token journal).Pairwise fun earlier _ => Settled token earlier
  back : left = token → ∀ driven ∈ driving token journal, Settled token driven

namespace Keeps

variable {token between left : ScopeToken} {journal later : Journal} {call update : Call}

theorem idle (silent : lifecycle (calls journal) = []) (steady : changes journal = 0) :
    Keeps token token journal := by
  have nobody := driving_of_calls silent token
  exact ⟨by rw [steady, token.after_zero], by rw [nobody]; exact .nil, by simp [nobody]⟩

theorem still (quiet : journal.Only Notice.quiet) : Keeps token token journal :=
  .idle (lifecycle_of_quiet quiet) (changes_of_quiet quiet)

theorem single (token_eq : token.after (changes journal) = left)
    (driven : driving token journal = [(call, left)]) : Keeps token left journal := by
  refine ⟨token_eq, by simp [driven], fun same => ?_⟩
  simp [driven, Settled, same]

theorem behind_update (token_eq : token.after (changes journal) = left)
    (driven : driving token journal = [(update, between), (call, left)])
    (polled : update.hook = .update) : Keeps token left journal := by
  refine ⟨token_eq, by simp [driven, Settled, polled], fun same => ?_⟩
  simp [driven, Settled, polled, same]

theorem trans (first : Keeps token between journal) (same : between = token)
    (second : Keeps token left later) : Keeps token left (journal ++ later) := by
  subst same
  have settled := first.back rfl
  have split : driving between (journal ++ later) =
      driving between journal ++ driving between later := by
    rw [driving_append, first.token_eq]
  refine ⟨?_, ?_, fun same => ?_⟩
  · rw [changes_append, ← ScopeToken.after_after, first.token_eq, second.token_eq]
  · rw [split]
    exact List.pairwise_append.mpr
      ⟨first.pairwise, second.pairwise, fun called member _ _ => settled called member⟩
  · rw [split]
    exact List.forall_mem_append.mpr ⟨settled, second.back same⟩

theorem behind_quiet {notices : Journal} (quiet : notices.Only Notice.quiet)
    (keeps : Keeps token left journal) : Keeps token left (notices ++ journal) :=
  (Keeps.still quiet).trans rfl keeps

theorem quietly (keeps : Keeps token left journal) {notices : Journal}
    (quiet : notices.Only Notice.quiet) : Keeps token left (journal ++ notices) := by
  have nobody := driving_of_calls (lifecycle_of_quiet quiet) left
  have split : driving token (journal ++ notices) = driving token journal := by
    rw [driving_append, keeps.token_eq, nobody, List.append_nil]
  refine ⟨?_, split ▸ keeps.pairwise, split ▸ keeps.back⟩
  rw [changes_append, changes_of_quiet quiet, Nat.add_zero, keeps.token_eq]

theorem brings_back (keeps : Keeps token left journal) {pre post : List Call}
    (split : lifecycle (calls journal) = pre ++ call :: post) (other : call.hook ≠ .update)
    (more : post ≠ []) :
    ∃ earlier later, journal = earlier ++ .called call :: later ∧ lifecycle (calls earlier) = pre ∧
      token.after (changes earlier) = token := by
  rw [← driving_calls token] at split
  obtain ⟨front, tail, driven, front_eq, tail_eq⟩ := List.map_eq_append_iff.mp split
  obtain ⟨⟨here, brought⟩, rest, rfl, rfl, rest_eq⟩ := List.map_eq_cons_iff.mp tail_eq
  obtain ⟨next, waiting⟩ : ∃ next, next ∈ rest :=
    List.exists_mem_of_ne_nil _ fun none => more (by simp [← rest_eq, none])
  have pairwise := keeps.pairwise
  rw [driven] at pairwise
  have behind := (List.pairwise_append.mp pairwise).2.1
  obtain rfl : brought = token := (List.pairwise_cons.mp behind).1 next waiting other
  obtain ⟨earlier, later, journal_eq, earlier_eq, token_eq⟩ := driving_split driven
  refine ⟨earlier, later, journal_eq, ?_, token_eq⟩
  rw [← front_eq, ← earlier_eq, driving_calls]

end Keeps

theorem callHook_keeps {B : Type} [Replies B] (kind : String) (phase : Phase) {hook : Hook}
    (drives : hook ≠ .cancel) (slot : Nat) (moment : Moment)
    (hookOf : A → Moment → Scene W → Outcome W A B) (action : A) (scene : Scene W) :
    Keeps scene.state.token
      (callHook kind phase hook slot moment hookOf action scene).scene.state.token
      (callHook kind phase hook slot moment hookOf action scene).journal := by
  obtain ⟨_, _, driven⟩ := callHook_driving kind phase drives slot moment hookOf action scene
  exact .single (callHook_token kind phase hook slot moment hookOf action scene).symm driven

section Tokens

variable [ActionHandler W A] {factories : Dictionary (ActionFactory A)} {policy : FailurePolicy}
  {dt : Seconds} {token : ScopeToken} {d d' : Drive W A} {slot : Action} {journal : Journal}

theorem startHook_keeps {notices : Journal} {action : A}
    (created : d.create factories slot = (.ok action, notices)) (fresh : d.state.token = token) :
    Keeps token (d.started dt slot action).state.token
      (notices ++ (d.startHook dt slot action).journal) := by
  subst fresh
  refine .behind_quiet (create_quiet created) ?_
  exact callHook_keeps slot.kind .start (by decide : Hook.start ≠ .cancel) d.event.cursor
    ⟨some d.event.id, dt⟩ ActionHandler.start action d.scene

theorem updateHook_keeps (fresh : d.state.token = token) (current : InFlight A) :
    Keeps token (d.polled dt slot current).state.token
      (d.updateHook dt slot current.action).journal := by
  subst fresh
  exact callHook_keeps slot.kind .update (by decide : Hook.update ≠ .cancel) d.event.cursor
    ⟨some d.event.id, dt⟩ ActionHandler.update current.action d.scene

theorem closing_keeps (fresh : d.state.token = token) (current : InFlight A) :
    Keeps token (d.closed dt slot current).state.token
      ((d.updateHook dt slot current.action).journal ++ (d.closing dt slot current).journal) := by
  subst fresh
  have between : (d.polled dt slot current).state.token =
      d.state.token.after (changes (d.updateHook dt slot current.action).journal) :=
    (updateHook_hands current.action).token_eq
  obtain ⟨update, polled, first⟩ := callHook_driving slot.kind .update
    (by decide : Hook.update ≠ .cancel) d.event.cursor ⟨some d.event.id, dt⟩ ActionHandler.update
    current.action d.scene
  obtain ⟨cleanup, _, second⟩ := callHook_driving slot.kind .cleanup
    (by decide : Hook.cleanup ≠ .cancel) d.event.cursor ⟨some d.event.id, dt⟩
    ActionHandler.cleanup (d.updateHook dt slot current.action).action
    (d.polled dt slot current).scene
  have driven : driving d.state.token
      ((d.updateHook dt slot current.action).journal ++ (d.closing dt slot current).journal) =
        [(update, (d.polled dt slot current).state.token),
          (cleanup, (d.closed dt slot current).state.token)] := by
    rw [driving_append, ← between]
    exact congrArg₂ (· ++ ·) first second
  exact .behind_update (closing_hands current).token_eq.symm driven polled

theorem Walk.keeps {result : Except EngineError Drain}
    (walk : Walk factories dt token d journal d' result) (fresh : d.state.token = token) :
    Keeps token d'.state.token journal := by
  induction walk with
  | complete => exact fresh ▸ .still (by simp)
  | refused _ _ created => exact fresh ▸ .still (create_quiet created)
  | startFailed _ _ created => exact startHook_keeps created fresh
  | startedAway _ _ created => exact (startHook_keeps created fresh).quietly (by simp)
  | started _ _ created _ same _ ih =>
    exact ((startHook_keeps created fresh).quietly (by simp)).trans same (ih same)
  | skipped _ _ _ ih => exact .behind_quiet (by simp) (ih fresh)
  | updateFailed | held => exact updateHook_keeps fresh _
  | cleanupFailed => exact closing_keeps fresh _
  | finishedAway => exact (closing_keeps fresh _).quietly (by simp)
  | finished _ _ _ _ _ same _ ih =>
    exact ((closing_keeps fresh _).quietly (by simp)).trans same (ih same)

theorem Pass.keeps {index : Nat} {s s' : Sweep W A} {result : Except EngineError Unit}
    (pass : Pass factories policy dt token index s journal s' result) :
    ∃ left, Keeps token left journal := by
  induction pass with
  | closed past fresh => exact ⟨_, .still (Sweep.applyPending_quiet _)⟩
  | removed here flagged rest ih =>
    obtain ⟨left, later⟩ := ih
    exact ⟨left, .behind_quiet (by simp) later⟩
  | passed drives settles same rest ih =>
    obtain ⟨left, later⟩ := ih
    exact ⟨left, (((drives.walk.keeps drives.fresh).quietly settles.quiet).quietly
      (Sweep.applyPending_quiet _)).trans same later⟩
  | abandoned drives abandons away =>
    exact ⟨_, (drives.walk.keeps drives.fresh).quietly abandons.quiet⟩
  | aborted drives strict failed =>
    refine ⟨_, ((drives.walk.keeps drives.fresh).quietly (by simp)).quietly ?_⟩
    unfold Sweep.close
    split
    next => exact Sweep.applyPending_quiet _
    next => simp

end Tokens

namespace Engine

variable [ActionHandler W A]

theorem update_keeps (engine : Engine W A) (world : W) (dt : Seconds) :
    ∃ left, Keeps engine.state.token left (engine.update world dt).journal := by
  have silent := intake_calls { engine with trace := [] } world dt
  have steady := changes_of_only (intake_admits { engine with trace := [] } world dt)
    fun _ _ => rfl
  have tested : Keeps engine.state.token engine.state.token
      ({ engine with trace := [] }.intake world dt).journal :=
    .idle (by simp [silent, lifecycle]) steady
  have same := intake_same world dt { engine with trace := [] }
  rcases update_cases engine world dt with ⟨cause, _, ended⟩ | ⟨taken, journal, s', result, half,
    pass, ended⟩
  · rw [ended]
    exact ⟨_, tested⟩
  · rw [half] at same
    obtain ⟨left, keeps⟩ := pass.keeps
    rw [same.token] at keeps
    rw [ended, ← List.append_assoc]
    exact ⟨left, (tested.quietly (Sweep.applyPending_quiet _)).trans rfl keeps⟩

theorem update_faithful (engine : Engine W A) (world : W) (dt : Seconds) :
    Faithful (lifecycle (calls (engine.update world dt).journal)) := by
  have silent := intake_calls { engine with trace := [] } world dt
  rcases update_cases engine world dt with ⟨cause, _, ended⟩ | ⟨taken, journal, s', result, half,
    pass, ended⟩
  · rw [ended, silent]
    exact .nil
  · rw [ended]
    simpa [silent, lifecycle_applyPending] using pass.faithful

theorem execute_faithful (polls : Nat) (engine : Engine W A) (world : W) (name : String)
    (parameters : List String) (skip : Bool) (step : Seconds) :
    Faithful (lifecycle
      (calls (engine.execute polls world name parameters skip step).journal)) := by
  obtain ⟨alone, cancels, kept, calls_eq, foreign, steady, _, _, hooks⟩ :=
    execute_calls polls engine world name parameters skip step
  rw [calls_eq, lifecycle_append, lifecycle_onlyCancels hooks, List.append_nil]
  -- A call without an owner never departs, for the one-shot driver looks at the token itself.
  refine .of_pairwise steady fun call member => ?_
  exact foreign call (List.mem_of_mem_filter member)

theorem perform_faithful (engine : Engine W A) (operation : Operation W A) :
    Faithful (lifecycle (calls (engine.perform operation).journal)) := by
  cases operation with
  | update world dt => exact update_faithful engine world dt
  | execute polls world name parameters skip step =>
    exact execute_faithful polls engine world name parameters skip step
  | _ =>
    rw [lifecycle_onlyCancels (perform_onlyCancels engine _ rfl)]
    exact .nil

theorem perform_keeps_of_departs {engine : Engine W A} {operation : Operation W A} {call : Call}
    (member : call ∈ calls (engine.perform operation).journal) (departs : call.Departs) :
    ∃ left, Keeps engine.state.token left (engine.perform operation).journal := by
  have other : call.hook ≠ .cancel := by simp [departs.polled]
  cases operation with
  | update world dt => exact update_keeps engine world dt
  | execute polls world name parameters skip step =>
    obtain ⟨alone, cancels, _, calls_eq, foreign, _, _, _, hooks⟩ :=
      execute_calls polls engine world name parameters skip step
    have inside : call ∈ alone ++ cancels := calls_eq ▸ member
    rcases List.mem_append.mp inside with own | cancel
    · simpa [foreign call own] using departs.owned
    · exact absurd (hooks call cancel) other
  | _ => exact absurd (perform_onlyCancels engine _ rfl call member) other

/-- No hook is called for a stale scope in any operation, but for the cleanup of an action whose
update took the scope away and reported that the action is done. That cleanup is the last such call,
unless it brings back the token that the operation began with. -/
theorem perform_neverStale_iff (engine : Engine W A) (operation : Operation W A) :
    (NeverStale (calls (engine.perform operation).journal) ↔
      ∀ call ∈ calls (engine.perform operation).journal, ¬ call.Departs) ∧
    ∀ pre call post, lifecycle (calls (engine.perform operation).journal) = pre ++ call :: post →
      call.Departs → ∃ reply moved rest,
        post = call.cleanup reply moved :: rest ∧ (moved = false → rest = []) ∧
          (rest ≠ [] → ∃ earlier later,
            (engine.perform operation).journal =
              earlier ++ .called (call.cleanup reply moved) :: later ∧
            lifecycle (calls earlier) = pre ++ [call] ∧
            engine.state.token.after (changes earlier) = engine.state.token) := by
  have faithful := perform_faithful engine operation
  constructor
  · refine faithful.pairwise_iff.trans ⟨?_, ?_⟩
    · intro none call member departs
      refine none call (List.mem_filter.mpr ⟨member, ?_⟩) departs
      simp [departs.polled]
    · intro none call member
      exact none call (List.mem_of_mem_filter member)
  · intro pre call post split departs
    obtain ⟨reply, moved, rest, rfl, stays⟩ := faithful.behind split departs
    refine ⟨reply, moved, rest, rfl, stays, fun more => ?_⟩
    have member : call ∈ lifecycle (calls (engine.perform operation).journal) := by simp [split]
    obtain ⟨left, keeps⟩ := perform_keeps_of_departs (List.mem_of_mem_filter member) departs
    exact keeps.brings_back (by simpa using split) (by simp [Call.cleanup]) more

-- The update of the only action resets the scope and is done; the cleanup is called all the same.
theorem departed_is_cleaned_up :
    ¬ NeverStale (calls
      (((Scripted.engine { Scripted.idle with update := ⟨[.reset], .ok .done⟩ } .abort).run
        [.loadScope (Scripted.scope [Scripted.event ⟨1⟩]), .update () .zero]).2)) := by
  unfold NeverStale
  decide

end Engine

end MapScript
