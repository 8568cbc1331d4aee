import MapScript.Proofs.Engine.Kinds
import MapScript.Proofs.Engine.Life
import MapScript.Proofs.Engine.Reachable

set_option autoImplicit false

namespace MapScript

open Number Journal

variable {W A : Type}

structure Agrees (id : EventId) (l : Life) (running : List (RunningEvent A)) : Prop where
  sound : Sound running
  life_eq : ∀ e ∈ running, e.id = id → e.life = l

def Tells (id : EventId) (running : List (RunningEvent A)) (journal : Journal)
    (running' : List (RunningEvent A)) : Prop :=
  ∀ l, Agrees id l running → ∃ l', Orderly id l journal l' ∧ Agrees id l' running'

section Lists

variable {id : EventId} {running middle running' : List (RunningEvent A)} {journal later : Journal}

theorem orderly_unmarked {l : Life} (unmarked : marks id journal = []) :
    Orderly id l journal l := by
  have whole : Orderly id l (journal ++ []) l := (orderly_of_unmarked unmarked).mpr rfl
  simpa using whole

namespace Tells

theorem trans (first : Tells id running journal middle) (second : Tells id middle later running') :
    Tells id running (journal ++ later) running' := by
  intro l agrees
  obtain ⟨m, before, between⟩ := first l agrees
  obtain ⟨l', after, agrees'⟩ := second m between
  exact ⟨l', before.append after, agrees'⟩

theorem dropped (kept : running'.Sublist running) (unmarked : marks id journal = []) :
    Tells id running journal running' := by
  intro l agrees
  refine ⟨l, orderly_unmarked unmarked, agrees.sound.dropped kept, ?_⟩
  exact fun e standing => agrees.life_eq e (kept.subset standing)

theorem refl (running : List (RunningEvent A)) : Tells id running [] running :=
  dropped (.refl running) rfl

theorem started (event : Event) (fresh : event.id ∉ ids running)
    (unmarked : marks id journal = []) :
    Tells id running (.eventStarted event.id event.name event.actions.length :: journal)
      (running ++ [.start event]) := by
  intro l agrees
  have sound := agrees.sound.started event fresh
  by_cases mine : event.id = id
  · subst mine
    refine ⟨_, (orderly_cons_of_some (mark_eventStarted _ _ _)).mpr
      ⟨trivial, nofun, orderly_unmarked unmarked⟩, sound, ?_⟩
    intro e standing same
    rcases List.mem_append.mp standing with old | new
    · exact absurd (List.mem_map.mpr ⟨e, old, same⟩) fresh
    · obtain rfl := List.mem_singleton.mp new
      rfl
  · have silent :
        marks id (.eventStarted event.id event.name event.actions.length :: journal) = [] := by
      simp [Notice.mark?, mine, unmarked]
    refine ⟨l, orderly_unmarked silent, sound, ?_⟩
    intro e standing same
    rcases List.mem_append.mp standing with old | new
    · exact agrees.life_eq e old same
    · obtain rfl := List.mem_singleton.mp new
      exact absurd same mine

theorem driven {index : Nat} {e e' : RunningEvent A} (here : running[index]? = some e)
    (sound : Sound running → Sound (running.set index e')) (same : e'.id = e.id)
    (mine : e.WellFormed → Orderly e.id e.life journal e'.life)
    (foreign : ∀ id, e.id ≠ id → marks id journal = []) :
    Tells id running journal (running.set index e') := by
  intro l agrees
  by_cases own : e.id = id
  · subst own
    obtain rfl := agrees.life_eq e (List.mem_of_getElem? here) rfl
    refine ⟨e'.life, mine (agrees.sound.each e (List.mem_of_getElem? here)), sound agrees.sound, ?_⟩
    intro other standing id_eq
    rw [eq_of_mem_set agrees.sound.distinct here same standing id_eq]
  · refine ⟨l, orderly_unmarked (foreign id own), sound agrees.sound, ?_⟩
    intro other standing id_eq
    rcases List.mem_or_eq_of_mem_set standing with old | rfl
    · exact agrees.life_eq other old id_eq
    · exact absurd (same.symm.trans id_eq) own

end Tells

theorem Stops.foreign {e e' : RunningEvent A} (stops : Stops e journal e') (other : e.id ≠ id) :
    marks id journal = [] := by
  cases stops <;> simp [Notice.mark?, other]

theorem Stops.orderly {e e' : RunningEvent A} (stops : Stops e journal e') :
    Orderly e.id e.life journal e'.life := by
  cases stops with
  | spared => rfl
  | flagged live quiet =>
    exact (orderly_cons_of_some (mark_eventCancelled _ _ _)).mpr
      ⟨⟨quiet, live⟩, by simp [Mark.passes], rfl⟩
  | @cancelled action live flying action' records =>
    have running : e.life.action = some .running := by
      simp [RunningEvent.life, RunningEvent.actionState?, flying]
    rw [List.append_assoc, orderly_of_unmarked (marks_said records)]
    refine (orderly_cons_of_some (mark_called rfl)).mpr ⟨⟨rfl, running⟩, by simp [Mark.passes], ?_⟩
    exact (orderly_cons_of_some (mark_eventCancelled _ _ _)).mpr ⟨⟨by simp [Life.follow], live⟩,
      by simp [Mark.passes], rfl⟩
  | @stopped action flying action' records =>
    have running : e.life.action = some .running := by
      simp [RunningEvent.life, RunningEvent.actionState?, flying]
    rw [List.append_assoc, orderly_of_unmarked (marks_said records)]
    refine (orderly_cons_of_some (mark_called rfl)).mpr ⟨⟨rfl, running⟩, by simp [Mark.passes], ?_⟩
    exact orderly_unmarked rfl

theorem Cancels.foreign (cancels : Cancels running journal running') (apart : id ∉ ids running) :
    marks id journal = [] := by
  induction cancels with
  | none | ignored => simp [Notice.mark?]
  | event one _ ih =>
    simp only [ids, List.map_cons, List.mem_cons, not_or] at apart
    rw [marks_append, one.foreign (Ne.symm apart.1), ih apart.2, List.append_nil]
  | trans first _ before after =>
    rw [marks_append, before apart, after (by rwa [ids_halted first.halted.1]), List.append_nil]

theorem Cancels.tells (cancels : Cancels running journal running') :
    Tells id running journal running' := by
  induction cancels with
  | none => exact .refl []
  | ignored => exact .dropped (.refl []) rfl
  | @event e e' rest rest' journal later one others ih =>
    intro l agrees
    have sound := agrees.sound.halted (.cons one.halted.1 others.halted.1)
    have behind : Agrees id l rest :=
      ⟨agrees.sound.dropped (List.sublist_cons_self e rest),
        fun f standing => agrees.life_eq f (List.mem_cons_of_mem e standing)⟩
    -- Ids are distinct, so the rest of the collection is silent about this event.
    by_cases mine : e.id = id
    · subst mine
      obtain rfl := agrees.life_eq e List.mem_cons_self rfl
      have apart : e.id ∉ ids rest := (List.nodup_cons.mp agrees.sound.distinct).1
      refine ⟨e'.life, one.orderly.append (orderly_unmarked (others.foreign apart)), sound, ?_⟩
      intro f standing same
      rcases List.mem_cons.mp standing with rfl | later
      · rfl
      · rw [← ids_halted others.halted.1] at apart
        exact absurd (List.mem_map.mpr ⟨f, later, same⟩) apart
    · obtain ⟨l', orderly, agrees'⟩ := ih l behind
      refine ⟨l', .append (orderly_unmarked (one.foreign mine)) orderly, sound, ?_⟩
      intro f standing same
      rcases List.mem_cons.mp standing with rfl | later
      · exact absurd (one.halted.1.id_eq.symm.trans same) mine
      · exact agrees'.life_eq f later same
  | trans _ _ first second => exact first.trans second

end Lists

section Notices

variable {id : EventId} {policy : FailurePolicy} {other : EventId}
  {result : Except EngineError Drain} {ended : Bool} {notices : Journal}

theorem Settles.unmarked (settles : Settles policy other result ended notices) :
    marks id notices = [] := by
  cases settles <;> simp [Notice.mark?]

theorem Abandons.unmarked (abandons : Abandons policy other result ended notices) :
    marks id notices = [] := by
  cases abandons with
  | scopeChanged => simp [Notice.mark?]
  | settles settles => exact settles.unmarked

theorem Settles.kept (settles : Settles policy other result ended notices) :
    result ≠ .ok .scopeChanged := by
  cases settles <;> nofun

theorem Abandons.closes (abandons : Abandons policy other result ended notices)
    (changed : result = .ok .scopeChanged) : Closes other notices := by
  cases abandons with
  | scopeChanged => exact .abandoned []
  | settles settles => exact absurd changed settles.kept

theorem unmarked_of_tests (tests : notices.Only Notice.tests) : marks id notices = [] := by
  refine List.filterMap_eq_nil_iff.mpr fun notice member => ?_
  have known := tests notice member
  cases notice <;> first | rfl | cases known

theorem unmarked_of_alone (alone : notices.Only Notice.alone) : marks id notices = [] := by
  refine List.filterMap_eq_nil_iff.mpr fun notice member => ?_
  have known := alone notice member
  cases notice with
  | called call => simp_all [Notice.mark?]
  | _ => first | rfl | cases known

end Notices

section Pass

variable [ActionHandler W A] {factories : Dictionary (ActionFactory A)} {policy : FailurePolicy}
  {dt : Seconds} {token : ScopeToken} {index : Nat} {s s' : Sweep W A} {journal notices : Journal}
  {result : Except EngineError Unit} {id : EventId} {event : RunningEvent A}
  {drained : Drained W A}

theorem Sweep.Drives.tells (drives : s.Drives factories dt token index event drained) (ended : Bool)
    (unmarked : ∀ id, marks id notices = [])
    (closes : drained.result = .ok .scopeChanged → Closes event.id notices) :
    Tells id s.running (drained.journal ++ notices)
      (s.afterVisit index event drained.drive ended).running := by
  rw [Sweep.afterVisit_running]
  refine .driven drives.here (fun sound => sound.driven drives.here drives.live drives.driven)
    drives.driven.id_eq ?_ ?_
  · intro wf
    exact drives.walk.orderly drives.live wf closes (orderly_unmarked (unmarked event.id))
  · intro id other
    rw [marks_append, drives.walk.foreign other, unmarked, List.append_nil]

theorem Sweep.applyPending_tells (s : Sweep W A) :
    Tells id s.running s.applyPending.2 s.applyPending.1.running :=
  (applyRequests_cancels s.state.requests s.running).tells

theorem Sweep.close_tells (s : Sweep W A) :
    Tells id s.running (s.close token).2 (s.close token).1.running := by
  unfold close
  split
  next =>
    rw [← List.append_nil s.applyPending.2]
    exact s.applyPending_tells.trans (.dropped List.filter_sublist rfl)
  next => exact .dropped (List.nil_sublist _) rfl

theorem Pass.tells (pass : Pass factories policy dt token index s journal s' result) :
    Tells id s.running journal s'.running := by
  induction pass with
  | @closed index s past fresh =>
    have closing : Tells id s.running (s.close token).2 (s.close token).1.running := s.close_tells
    simpa [Sweep.close, fresh] using closing
  | removed here flagged rest ih => exact .trans (.dropped (.refl _) rfl) ih
  | @passed index s s' event drained ended notices journal result drives settles same rest ih =>
    exact ((drives.tells ended (fun _ => settles.unmarked) fun changed =>
      absurd changed settles.kept).trans (Sweep.applyPending_tells _)).trans ih
  | @abandoned index s event drained ended notices drives abandons away =>
    rw [← List.append_nil (drained.journal ++ notices)]
    exact (drives.tells ended (fun _ => abandons.unmarked) abandons.closes).trans
      (.dropped (List.nil_sublist _) rfl)
  | @aborted index s event drained cause drives strict failed =>
    have drive : Tells id s.running (drained.journal ++ [.frameAborted event.id cause])
        (s.afterDrain index drained.drive).running :=
      drives.tells false (fun _ => rfl) (by simp [failed])
    exact drive.trans (Sweep.close_tells _)

end Pass

namespace Engine

variable {id : EventId}

theorem startEvent_tells (engine : Engine W A) (event : Event) :
    Tells id engine.running (engine.startEvent event).2.2
      (engine.startEvent event).2.1.running := by
  unfold startEvent
  split
  next => exact .refl _
  next idle =>
    have fresh : event.id ∉ ids engine.running := fun running => idle (isRunning_iff.mpr running)
    refine .started event fresh ?_
    rcases retireInit_notices engine.state event.id with none | retired
    · rw [none, marks_nil]
    · rw [retired]
      rfl

theorem startSatisfied_tells (world : W) (dt : Seconds) (events : List Event)
    (engine : Engine W A) :
    Tells id engine.running (startSatisfied world dt events engine).journal
      (startSatisfied world dt events engine).engine.running := by
  induction events generalizing engine with
  | nil => exact .refl _
  | cons event rest ih =>
    have tested : Tells id engine.running (engine.conditionsMet world dt event).journal
        (engine.conditionsMet world dt event).engine.running := by
      rw [conditionsMet_running]
      exact .dropped (.refl _) (unmarked_of_tests (conditionsMet_tests engine world dt event))
    simp only [startSatisfied]
    split
    next => exact tested
    next holds _ =>
      cases holds with
      | false => exact (tested.trans (.refl _)).trans (ih _)
      | true => exact (tested.trans (startEvent_tells _ event)).trans (ih _)

variable [ActionHandler W A]

theorem update_tells (engine : Engine W A) (world : W) (dt : Seconds) :
    Tells id engine.running (engine.update world dt).journal
      (engine.update world dt).engine.running := by
  have begun : Tells id engine.running ({ engine with trace := [] }.intake world dt).journal
      ({ engine with trace := [] }.intake world dt).engine.running :=
    startSatisfied_tells world dt _ { engine with trace := [] }
  rcases update_cases engine world dt with ⟨cause, _, ended⟩ | ⟨taken, journal, s', result, half,
    pass, ended⟩
  · rw [ended]
    exact begun
  · rw [half] at begun
    rw [ended]
    exact begun.trans ((Sweep.applyPending_tells (taken.sweepStart world)).trans pass.tells)

theorem execute_tells (polls : Nat) (engine : Engine W A) (world : W) (name : String)
    (parameters : List String) (skip : Bool) (step : Seconds) :
    Tells id engine.running (engine.execute polls world name parameters skip step).journal
      (engine.execute polls world name parameters skip step).engine.running := by
  obtain ⟨alone, cancels, ending, kept, journal_eq, own, ends, cancelled, sublist, _⟩ :=
    execute_parts engine polls world name parameters skip step
  rw [journal_eq]
  exact ((Tells.dropped sublist (unmarked_of_alone own)).trans cancelled.tells).trans
    (.dropped (.refl _) (unmarked_of_alone ends))

theorem perform_tells (engine : Engine W A) (operation : Operation W A) :
    Tells id engine.running (engine.perform operation).journal
      (engine.perform operation).engine.running := by
  cases operation with
  | loadScope scope =>
    refine .dropped (List.nil_sublist _) ?_
    simp [perform, loadScope, ScopeState.load, ScopeState.reset, Notice.mark?]
  | reset =>
    refine .dropped (List.nil_sublist _) ?_
    simp [perform, reset, ScopeState.reset, Notice.mark?]
  | startEvent event => exact startEvent_tells engine event
  | update world dt => exact update_tells engine world dt
  | execute polls world name parameters skip step =>
    exact execute_tells polls engine world name parameters skip step
  | cancelEvent other => exact (cancelById_cancels other engine.running).tells
  | cancelAllEvents => exact (cancelAll_cancels engine.running).tells
  | cancelCurrentAction other => exact (cancelActionIn_cancels other engine.running).tells
  | checkCondition world event condition dt =>
    exact .dropped (.refl _) (unmarked_of_tests (testCondition_tests _ world dt event condition _))
  | configure | registerAction | registerCondition | replaceActions | replaceConditions
  | remember => exact .dropped (.refl _) rfl

theorem run_tells (engine : Engine W A) (operations : List (Operation W A)) :
    Tells id engine.running (engine.run operations).2 (engine.run operations).1.running := by
  induction operations generalizing engine with
  | nil => exact .refl _
  | cons operation rest ih => exact (perform_tells engine operation).trans (ih _)

theorem reached_tells {actions : Dictionary (ActionFactory A)}
    {conditions : Dictionary (ConditionTest W)} {settings : Settings}
    {before : List (Operation W A)} {engine : Engine W A} {past : Journal} (id : EventId)
    (reached : (new actions conditions settings).run before = (engine, past)) :
    ∃ l, Orderly id .unborn past l ∧ Agrees id l engine.running := by
  have unborn : Agrees id .unborn (new actions conditions settings : Engine W A).running :=
    ⟨new_sound actions conditions settings, fun e standing => absurd standing List.not_mem_nil⟩
  have ran := run_tells (new actions conditions settings) before _ unborn
  rwa [reached] at ran

end Engine

end MapScript
