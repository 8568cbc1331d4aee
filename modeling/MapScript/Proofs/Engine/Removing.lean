import MapScript.Proofs.Engine.Chronicle
import MapScript.Proofs.Engine.Finishing

set_option autoImplicit false

namespace MapScript

open Number Journal

variable {W A : Type}

@[simp] def Notice.removes (id : EventId) : Notice → Bool
  | .eventFinished other | .cancelledRemoved other | .eventDropped other _ => other = id
  | _ => false

def Journal.Removes (id : EventId) (journal : Journal) : Prop :=
  ∃ notice ∈ journal, notice.removes id = true

section Lists

variable {id : EventId} {notice : Notice} {mark : Mark} {earlier later journal : Journal}

theorem mem_marks (member : notice ∈ journal) (marked : notice.mark? id = some mark) :
    mark ∈ marks id journal :=
  List.mem_filterMap.mpr ⟨notice, member, marked⟩

theorem eventFinished_of_ended (ended : .ended ∈ marks id journal) :
    .eventFinished id ∈ journal := by
  obtain ⟨notice, member, marked⟩ := List.mem_filterMap.mp ended
  cases notice <;> simp [Notice.mark?] at marked
  exact marked ▸ member

@[simp] theorem removes_nil : ¬ Removes id [] := by
  simp [Removes]

@[simp] theorem removes_cons :
    Removes id (notice :: later) ↔ notice.removes id = true ∨ Removes id later := by
  simp [Removes]

@[simp] theorem removes_append :
    Removes id (earlier ++ later) ↔ Removes id earlier ∨ Removes id later := by
  simp [Removes, or_and_right, exists_or]

theorem not_removes_of_only {kind : Notice → Bool} (only : journal.Only kind)
    (other : ∀ notice, kind notice = true → notice.removes id = false) : ¬ Removes id journal := by
  rintro ⟨notice, member, removes⟩
  rw [other notice (only notice member)] at removes
  cases removes

theorem not_removes_of_cancels (cancels : journal.Only Notice.cancels) : ¬ Removes id journal :=
  not_removes_of_only cancels fun notice known => by cases notice <;> first | rfl | cases known

theorem not_removes_of_idles (idles : journal.Only Notice.idles) : ¬ Removes id journal :=
  not_removes_of_only idles fun notice known => by cases notice <;> first | rfl | cases known

theorem not_removes_of_admits (admits : journal.Only Notice.admits) : ¬ Removes id journal :=
  not_removes_of_idles (admits.mono Notice.idles_of_admits)

theorem not_removes_of_alone (alone : journal.Only Notice.alone) : ¬ Removes id journal :=
  not_removes_of_only alone fun notice known => by cases notice <;> first | rfl | cases known

theorem Settles.removes_iff {policy : FailurePolicy} {other : EventId} {ended : Bool}
    {result : Except EngineError Drain} {notices : Journal}
    (settles : Settles policy other result ended notices) :
    (other = id ∧ result = .ok .complete) ∨ Removes id notices ↔ other = id ∧ ended = true := by
  cases settles <;> simp

end Lists

section Pass

variable [ActionHandler W A] {factories : Dictionary (ActionFactory A)} {policy : FailurePolicy}
  {dt : Seconds} {token : ScopeToken} {index : Nat} {d d' : Drive W A} {s s' : Sweep W A}
  {journal : Journal} {id : EventId}

theorem Walk.ended_iff {result : Except EngineError Drain}
    (walk : Walk factories dt token d journal d' result) :
    .ended ∈ marks d.event.id journal ↔ result = .ok .complete := by
  induction walk with
  | complete => simp [Notice.mark?]
  | refused _ _ created => simp [create_marks created]
  | startFailed _ _ created => simp [create_marks created, (startHook_heard _ _ _ _).marks_eq]
  | startedAway _ _ created =>
    simp [create_marks created, (startHook_heard _ _ _ _).marks_eq, Notice.mark?]
  | started _ _ created _ _ _ ih =>
    refine Iff.trans ?_ ih
    simp [create_marks created, (startHook_heard _ _ _ _).marks_eq, Notice.mark?]
    rfl
  | skipped _ _ _ ih =>
    refine Iff.trans ?_ ih
    simp [Notice.mark?]
    rfl
  | updateFailed => simp [(updateHook_heard _ _ _ _).marks_eq]
  | held =>
    simp [(updateHook_heard _ _ _ _).marks_eq]
    split <;> simp
  | cleanupFailed => simp [(updateHook_heard _ _ _ _).marks_eq, (closing_heard _ _ _ _).marks_eq]
  | finishedAway =>
    simp [(updateHook_heard _ _ _ _).marks_eq, (closing_heard _ _ _ _).marks_eq, Notice.mark?]
  | finished _ _ _ _ _ _ _ ih =>
    refine Iff.trans ?_ ih
    simp [(updateHook_heard _ _ _ _).marks_eq, (closing_heard _ _ _ _).marks_eq, Notice.mark?]
    rfl

theorem Walk.removes_iff {result : Except EngineError Drain}
    (walk : Walk factories dt token d journal d' result) :
    Removes id journal ↔ d.event.id = id ∧ result = .ok .complete := by
  constructor
  · rintro ⟨notice, member, removes⟩
    have known := walk.drives notice member
    cases notice with
    | eventFinished other =>
      obtain rfl : other = id := by simpa using removes
      have ended := mem_marks member (mark_eventFinished other)
      by_cases mine : d.event.id = other
      · subst mine
        exact ⟨rfl, walk.ended_iff.mp ended⟩
      · exact absurd (walk.foreign mine ▸ ended) List.not_mem_nil
    | _ => simp at known removes
  · rintro ⟨rfl, complete⟩
    exact ⟨_, eventFinished_of_ended (walk.ended_iff.mpr complete), by simp⟩

theorem visit_removes_iff {event : RunningEvent A} {drained : Drained W A} {ended : Bool}
    {notices : Journal} (drives : s.Drives factories dt token index event drained)
    (settles : Settles policy event.id drained.result ended notices) :
    Removes id (drained.journal ++ notices) ↔ event.id = id ∧ ended = true := by
  rw [removes_append, drives.walk.removes_iff]
  exact settles.removes_iff

theorem close_removes (token : ScopeToken) (s : Sweep W A) (present : id ∈ ids s.running)
    (gone : id ∉ ids (s.close token).1.running) :
    (s.close token).1.state.token ≠ token ∨ id ∈ s.finished := by
  unfold Sweep.close at gone ⊢
  split at gone
  next same =>
    rw [← ids_halted s.applyPending_halted.1] at present
    obtain ⟨e, standing, rfl⟩ := List.mem_map.mp present
    refine .inr (by_contra fun unfinished => not_mem_ids.mp gone e ?_ rfl)
    exact List.mem_filter.mpr ⟨standing, by simpa using unfinished⟩
  next away =>
    rw [if_neg away]
    exact .inl away

variable {result : Except EngineError Unit}

theorem Pass.gone_of_removes (pass : Pass factories policy dt token index s journal s' result)
    (removes : Removes id journal) : id ∉ ids s'.running := by
  induction pass with
  | closed => exact absurd removes (not_removes_of_cancels (Sweep.applyPending_cancels _))
  | @removed index s s' event journal result here flagged rest ih =>
    rcases removes_append.mp removes with here | later
    · obtain rfl : event.id = id := by simpa using here
      exact not_mem_ids.mpr (rest.gone (List.mem_append_right _ List.mem_cons_self))
    · exact ih later
  | @passed index s s' event drained ended notices journal result drives settles same rest ih =>
    rw [removes_append, removes_append, visit_removes_iff drives settles] at removes
    rcases removes with (⟨rfl, rfl⟩ | cancelled) | later
    · exact not_mem_ids.mpr (rest.gone (List.mem_append_right _ List.mem_cons_self))
    · exact absurd cancelled (not_removes_of_cancels (Sweep.applyPending_cancels _))
    · exact ih later
  | abandoned => exact List.not_mem_nil
  | @aborted index s event drained cause drives strict failed =>
    have cancels := Sweep.close_cancels token (s.afterDrain index drained.drive)
    rw [removes_append, removes_append, drives.walk.removes_iff, failed] at removes
    simp [not_removes_of_cancels cancels] at removes

theorem Pass.removes_of_gone (pass : Pass factories policy dt token index s journal s' result)
    (present : id ∈ ids s.running) (gone : id ∉ ids s'.running) :
    s'.state.token ≠ token ∨ id ∈ s.finished ∨ Removes id journal := by
  induction pass with
  | @closed index s past fresh =>
    have closing := close_removes token s present
    simp only [Sweep.close, fresh, if_true] at closing
    exact (closing gone).imp_right .inl
  | @removed index s s' event journal result here flagged rest ih =>
    rcases ih present gone with away | before | later
    · exact .inl away
    · rcases List.mem_append.mp before with finished | now
      · exact .inr (.inl finished)
      · obtain rfl := List.mem_singleton.mp now
        exact .inr (.inr (by simp))
    · exact .inr (.inr (removes_append.mpr (.inr later)))
  | @passed index s s' event drained ended notices journal result drives settles same rest ih =>
    rw [← ids_afterVisit ended drives] at present
    rw [removes_append, removes_append, visit_removes_iff drives settles]
    rcases ih present gone with away | before | later
    · exact .inl away
    · cases ended with
      | false => exact .inr (.inl before)
      | true =>
        rcases List.mem_append.mp before with finished | now
        · exact .inr (.inl finished)
        · obtain rfl := List.mem_singleton.mp now
          exact .inr (.inr (.inl (.inl ⟨rfl, rfl⟩)))
    · exact .inr (.inr (.inr later))
  | @abandoned index s event drained ended notices drives abandons away =>
    rw [Sweep.abandon, Sweep.afterVisit_state]
    exact .inl away
  | @aborted index s event drained cause drives strict failed =>
    have standing : id ∈ ids (s.afterDrain index drained.drive).running := by
      rw [Sweep.afterDrain, ids_set drives.here drives.driven.id_eq]
      exact present
    exact (close_removes token _ standing gone).imp_right .inl

end Pass

namespace Engine

variable [ActionHandler W A] {id : EventId} (engine : Engine W A)

theorem execute_not_removes (polls : Nat) (world : W) (name : String) (parameters : List String)
    (skip : Bool) (step : Seconds) :
    ¬ Removes id (engine.execute polls world name parameters skip step).journal := by
  obtain ⟨alone, cancels, ending, kept, journal_eq, own, ends, cancelled, _⟩ :=
    execute_parts engine polls world name parameters skip step
  simp [journal_eq, not_removes_of_alone own, not_removes_of_alone ends,
    not_removes_of_cancels cancelled.cancels]

theorem perform_gone_of_removes (operation : Operation W A)
    (removes : Removes id (engine.perform operation).journal) :
    id ∉ ids (engine.perform operation).engine.running := by
  cases operation with
  | update world dt =>
    have admits := intake_admits { engine with trace := [] } world dt
    simp only [perform] at removes ⊢
    rcases update_cases engine world dt with ⟨cause, _, ended⟩ | ⟨taken, journal, s', result, half,
      pass, ended⟩
    · rw [ended] at removes
      exact absurd removes (not_removes_of_admits admits)
    · rw [ended] at removes ⊢
      rcases removes_append.mp removes with tested | removes
      · exact absurd tested (not_removes_of_admits admits)
      · rcases removes_append.mp removes with cancelled | later
        · exact absurd cancelled (not_removes_of_cancels (Sweep.applyPending_cancels _))
        · exact pass.gone_of_removes later
  | execute polls world name parameters skip step =>
    exact absurd removes (execute_not_removes engine polls world name parameters skip step)
  | _ => exact absurd removes (not_removes_of_idles (perform_idles engine _ rfl))

end Engine

end MapScript
