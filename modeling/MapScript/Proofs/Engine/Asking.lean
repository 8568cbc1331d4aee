import MapScript.Proofs.Engine.Hushing
import MapScript.Proofs.Engine.InitPool
import MapScript.Proofs.Engine.Turns

set_option autoImplicit false

namespace MapScript

open Number Journal

variable {W A : Type}

section Asking

variable {id : EventId} {before : List CancelRequest} {notice : Notice}
  {earlier later journal : Journal}

@[simp] theorem asks_append : Asks id (earlier ++ later) ↔ Asks id earlier ∨ Asks id later := by
  simp only [Asks, List.mem_append]
  exact or_or_or_comm

theorem not_asks_of_only {kind : Notice → Bool} (only : journal.Only kind)
    (named : ∀ other, kind (.cancelRequested other) = false)
    (all : kind .cancelAllRequested = false) : ¬ Asks id journal := by
  rintro (asked | asked) <;> have known := only _ asked <;> simp [named, all] at known

theorem not_asks_of_cancels (cancels : journal.Only Notice.cancels) : ¬ Asks id journal :=
  not_asks_of_only cancels (fun _ => rfl) rfl

theorem aimed_pends_of_aimed (aimed : Aimed id before) (kept : ¬ Resets [notice]) :
    Aimed id (notice.pends before) := by
  cases notice with
  | scopeReset previous token => exact absurd ⟨previous, token, List.mem_cons_self⟩ kept
  | cancelRequested other => exact aimed_append.mpr (.inl aimed)
  | cancelAllRequested => exact aimed_append.mpr (.inl aimed)
  | _ => exact aimed

theorem aimed_pends_of_asks (asks : Asks id [notice]) : Aimed id (notice.pends before) := by
  rcases asks with named | all
  · obtain rfl := List.mem_singleton.mp named
    exact aimed_append.mpr (.inr (.inl List.mem_cons_self))
  · obtain rfl := List.mem_singleton.mp all
    exact aimed_append.mpr (.inr (.inr List.mem_cons_self))

theorem aimed_pending_iff (kept : ¬ Resets journal) :
    Aimed id (pending before journal) ↔ Aimed id before ∨ Asks id journal := by
  refine ⟨aimed_pending, fun asked => ?_⟩
  induction journal generalizing before with
  | nil => simpa [Asks] using asked
  | cons notice rest ih =>
    rw [← List.singleton_append, resets_append, not_or] at kept
    rw [← List.singleton_append, asks_append] at asked
    refine ih kept.2 ?_
    rcases asked with aimed | here | behind
    · exact .inl (aimed_pends_of_aimed aimed kept.1)
    · exact .inl (aimed_pends_of_asks here)
    · exact .inr behind

end Asking

section Cancels

variable [ActionHandler W A] {id : EventId} {running : List (RunningEvent A)} {e : RunningEvent A}

theorem heed_of_not_aimed {requests : List CancelRequest} (spared : ¬ Aimed e.id requests) :
    e.heed W requests = e :=
  if_neg spared

theorem heed_cancelled {requests : List CancelRequest} (aimed : Aimed e.id requests) :
    (e.heed W requests).cancelled = true := by
  rw [RunningEvent.heed, if_pos aimed]
  exact cancel_cancelled e

theorem heed_at (requests : List CancelRequest) {place : Nat} (distinct : (ids running).Nodup)
    (here : running[place]? = some e) :
    (applyRequests W requests running).1[place]? = some (e.heed W requests) := by
  rw [applyRequests_heed distinct, List.getElem?_map, here, Option.map_some]

theorem applyRequests_hooks {requests : List CancelRequest} {place : Nat}
    (distinct : (ids running).Nodup) (here : running[place]? = some e)
    (live : e.cancelled = false) (flying : e.actionState? = some .running)
    (aimed : Aimed e.id requests) : callsOf e.id (applyRequests W requests running).2 ≠ [] := by
  obtain ⟨f, there, halted⟩ := (applyRequests_cancels (W := W) requests running).haltedBy here
  obtain rfl : e.heed W requests = f := Option.some.inj ((heed_at _ distinct here).symm.trans there)
  refine halted.hooked flying ?_
  rcases halted.halted.stopped (heed_cancelled aimed) with before | stopped
  · simp [live] at before
  · exact stopped

theorem cancelById_aimed {other : EventId} (called : callsOf id (cancelById W other running).2.2 ≠ []) :
    other = id := by
  by_contra apart
  refine called ?_
  clear called
  induction running with
  | nil => rfl
  | cons e rest ih =>
    simp only [cancelById]
    split
    next named =>
      exact callsOf_of_unmarked ((cancel_stops (W := W) e).foreign (named ▸ apart))
    next => exact ih

theorem applyRequests_aimed {requests : List CancelRequest}
    (called : callsOf id (applyRequests W requests running).2 ≠ []) : Aimed id requests := by
  induction requests generalizing running with
  | nil => exact absurd rfl called
  | cons request rest ih =>
    cases request with
    | all => exact .inr List.mem_cons_self
    | event other =>
      simp only [applyRequests, callsOf_append, ne_eq, List.append_eq_nil_iff, not_and_or] at called
      rcases called with here | later
      · obtain rfl := cancelById_aimed here
        exact .inl List.mem_cons_self
      · exact (ih later).imp (List.mem_cons_of_mem _) (List.mem_cons_of_mem _)

end Cancels

section Drives

variable [ActionHandler W A] {factories : Dictionary (ActionFactory A)} {policy : FailurePolicy}
  {dt : Seconds} {token : ScopeToken} {index : Nat} {s : Sweep W A} {id : EventId}
  {event : RunningEvent A} {drained : Drained W A} {ended : Bool} {notices : Journal}

theorem Sweep.Drives.aimed_iff (drives : s.Drives factories dt token index event drained)
    (idle : s.state.requests = []) (kept : ¬ Resets drained.journal) :
    Aimed id drained.drive.state.requests ↔ Asks id drained.journal := by
  rw [(drives.drains idle).requests_eq, aimed_pending_iff kept]
  simp [Aimed]

theorem Sweep.Drives.resets_of_away (drives : s.Drives factories dt token index event drained)
    (away : drained.drive.state.token ≠ token) : Resets drained.journal :=
  drives.noted.token.resolve_left fun same => away (same.trans drives.fresh)

omit [ActionHandler W A] in
theorem Abandons.not_asks (abandons : Abandons policy event.id drained.result ended notices) :
    ¬ Asks id notices :=
  not_asks_of_only abandons.quiet (fun _ => rfl) rfl

end Drives

end MapScript
