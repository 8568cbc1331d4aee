import MapScript.Proofs.Engine.Reachable

set_option autoImplicit false

namespace MapScript

open Number Journal

variable {W A : Type}

structure Call.At (id : EventId) (slot : Nat) (call : Call) : Prop where
  owner_eq : call.owner = some id
  slot_eq : call.slot = slot

def Call.Starts (id : EventId) (slot : Nat) (call : Call) : Prop :=
  call.At id slot ∧ call.hook = .start

def Call.Polls (id : EventId) (slot : Nat) (call : Call) : Prop :=
  call.At id slot ∧ (call.hook = .update ∨ call.hook = .cleanup)

def Rests (id : EventId) (slot : Nat) : List Call → Prop
  | [] => True
  | call :: rest => ¬ call.Polls id slot ∧ (call.Starts id slot ∨ Rests id slot rest)

def RunningEvent.Flying (slot : Nat) (e : RunningEvent A) : Prop :=
  e.cursor = slot ∧ ∃ current, e.current = some current ∧ current.state ≠ .cancelled

def Idles (id : EventId) (slot : Nat) (calls : List Call) (after : Prop) : Prop :=
  Rests id slot calls ∧ ((∃ call ∈ calls, call.Starts id slot) ∨ after)

def Pollable (id : EventId) (slot : Nat) (running : List (RunningEvent A)) : Prop :=
  ∃ e ∈ running, e.id = id ∧ e.cancelled = false ∧ e.Flying slot

section Lists

variable {id : EventId} {slot : Nat} {calls later : List Call}

theorem rests_append (first : Rests id slot calls)
    (second : (∃ call ∈ calls, call.Starts id slot) ∨ Rests id slot later) :
    Rests id slot (calls ++ later) := by
  induction calls with
  | nil => simpa using second
  | cons call rest ih =>
    obtain ⟨still, started | rests⟩ := first
    · exact ⟨still, .inl started⟩
    · by_cases now : call.Starts id slot
      · exact ⟨still, .inl now⟩
      · refine ⟨still, .inr (ih rests ?_)⟩
        simpa [now] using second

theorem rests_of_none (none : ∀ call ∈ calls, ¬ call.Polls id slot) : Rests id slot calls := by
  induction calls with
  | nil => trivial
  | cons call rest ih =>
    refine ⟨none call List.mem_cons_self, .inr (ih ?_)⟩
    intro other member
    exact none other (List.mem_cons_of_mem call member)

theorem idles_append {middle after : Prop} (first : Idles id slot calls middle)
    (second : middle → Idles id slot later after) : Idles id slot (calls ++ later) after := by
  obtain ⟨rests, started | quiet⟩ := first
  · refine ⟨rests_append rests (.inl started), .inl ?_⟩
    obtain ⟨call, member, starts⟩ := started
    exact ⟨call, List.mem_append_left later member, starts⟩
  · obtain ⟨restsLater, started | quiet⟩ := second quiet
    · refine ⟨rests_append rests (.inr restsLater), .inl ?_⟩
      obtain ⟨call, member, starts⟩ := started
      exact ⟨call, List.mem_append_right calls member, starts⟩
    · exact ⟨rests_append rests (.inr restsLater), .inr quiet⟩

theorem idles_of_none {after : Prop} (none : ∀ call ∈ calls, ¬ call.Polls id slot)
    (quiet : after) : Idles id slot calls after :=
  ⟨rests_of_none none, .inr quiet⟩

theorem rests_of_append (both : Rests id slot (calls ++ later)) : Rests id slot calls := by
  induction calls with
  | nil => trivial
  | cons call rest ih =>
    obtain ⟨still, started | rests⟩ := both
    · exact ⟨still, .inl started⟩
    · exact ⟨still, .inr (ih rests)⟩

theorem not_rests_append (quiet : ∀ call ∈ calls, ¬ call.Starts id slot)
    (polled : ¬ Rests id slot later) : ¬ Rests id slot (calls ++ later) := by
  induction calls with
  | nil => exact polled
  | cons call rest ih =>
    rintro ⟨_, started | rests⟩
    · exact quiet call List.mem_cons_self started
    · refine ih ?_ rests
      intro other member
      exact quiet other (List.mem_cons_of_mem call member)

end Lists

namespace RunningEvent

theorem not_flying_of_none {e : RunningEvent A} (slot : Nat) (idle : e.current = none) :
    ¬ e.Flying slot := by
  rintro ⟨_, current, flying, _⟩
  simp [idle] at flying

theorem flying_of_halted {e e' : RunningEvent A} {slot : Nat} (halted : Halted e e')
    (flying : e'.Flying slot) : e.Flying slot := by
  obtain ⟨here, current, flying, live⟩ := flying
  refine ⟨halted.cursor ▸ here, ?_⟩
  rcases halted.action with same | ⟨_, _, _, stopped⟩
  · exact ⟨current, same ▸ flying, live⟩
  · rw [stopped] at flying
    obtain rfl := Option.some.inj flying
    exact absurd rfl live

end RunningEvent

section Calls

variable {e : RunningEvent A} {action : Action} {hook : Hook} {reply : Reply} {moved : Bool}
  {slot : Nat} {later : List Call} {after : Prop}

theorem idles_call (away : e.cursor ≠ slot) (behind : Idles e.id slot later after) :
    Idles e.id slot (e.call action hook reply moved :: later) after := by
  have alone : Idles e.id slot [e.call action hook reply moved] True := by
    refine idles_of_none ?_ trivial
    intro call member polls
    obtain rfl := List.mem_singleton.mp member
    exact away polls.1.slot_eq
  exact idles_append alone fun _ => behind

theorem idles_start (behind : e.cursor ≠ slot → Idles e.id slot later after) :
    Idles e.id slot (e.call action .start reply moved :: later) after := by
  by_cases here : e.cursor = slot
  · have starts : (e.call action .start reply moved).Starts e.id slot := ⟨⟨rfl, here⟩, rfl⟩
    refine ⟨⟨?_, .inl starts⟩, .inl ⟨_, List.mem_cons_self, starts⟩⟩
    rintro ⟨_, update | cleanup⟩
    · cases update
    · cases cleanup
  · exact idles_call here (behind here)

end Calls

theorem Driven.idles {token token' : ScopeToken} {e e' : RunningEvent A} {calls : List Call}
    {result : Except EngineError Drain} (driven : Driven token e calls e' token' result)
    {slot : Nat} (idle : ¬ e.Flying slot) : Idles e.id slot calls (¬ e'.Flying slot) := by
  have elsewhere {e : RunningEvent A} {current : InFlight A} (idle : ¬ e.Flying slot)
      (flying : e.current = some current) (live : current.state ≠ .cancelled) : e.cursor ≠ slot :=
    fun here => idle ⟨here, current, flying, live⟩
  induction driven with
  | complete => exact ⟨trivial, .inr idle⟩
  | refused => exact ⟨trivial, .inr idle⟩
  | startFailed =>
    refine idles_start fun away => ⟨trivial, .inr ?_⟩
    exact RunningEvent.not_flying_of_none slot rfl
  | startedAway => exact idles_start fun away => ⟨trivial, .inr fun flying => away flying.1⟩
  | started _ _ _ _ _ ih =>
    exact idles_start fun away => ih fun flying => away flying.1
  | skipped _ _ _ ih => exact ih (RunningEvent.not_flying_of_none slot rfl)
  | updateFailed _ _ _ _ flying live =>
    have away := elsewhere idle flying live
    exact idles_call away ⟨trivial, .inr fun flying => away flying.1⟩
  | held _ _ _ flying live =>
    have away := elsewhere idle flying live
    exact idles_call away ⟨trivial, .inr fun flying => away flying.1⟩
  | cleanupFailed _ _ _ _ _ flying live =>
    have away := elsewhere idle flying live
    exact idles_call away (idles_call away ⟨trivial, .inr fun flying => away flying.1⟩)
  | finishedAway _ _ _ flying live =>
    have away := elsewhere idle flying live
    refine idles_call away (idles_call away ⟨trivial, .inr ?_⟩)
    exact RunningEvent.not_flying_of_none slot rfl
  | finished _ _ _ flying live _ ih =>
    have away := elsewhere idle flying live
    exact idles_call away (idles_call away (ih (RunningEvent.not_flying_of_none slot rfl)))

section Moves

variable {free : EventId → Prop} {running running' : List (RunningEvent A)} {calls : List Call}
  {id : EventId} {slot : Nat}

theorem not_polls_of_onlyCancels (hooks : OnlyCancels calls) :
    ∀ call ∈ calls, ¬ call.Polls id slot := by
  intro call member polls
  have cancel := hooks call member
  rcases polls.2 with update | cleanup
  · simp [cancel] at update
  · simp [cancel] at cleanup

theorem not_starts_of_onlyCancels (hooks : OnlyCancels calls) :
    ∀ call ∈ calls, ¬ call.Starts id slot := by
  intro call member starts
  have start := starts.2
  rw [hooks call member] at start
  cases start

theorem Move.idles (move : Move free running calls running')
    (idle : ¬ Pollable id slot running) : Idles id slot calls (¬ Pollable id slot running') := by
  cases move with
  | @driven index e e' _ token token' result here live mine driven =>
    have member := List.mem_of_getElem? here
    by_cases same : e.id = id
    · subst same
      have grounded : ¬ e.Flying slot := fun flying => idle ⟨e, member, rfl, live, flying⟩
      obtain ⟨rests, started | quiet⟩ := driven.idles grounded
      · exact ⟨rests, .inl started⟩
      · refine ⟨rests, .inr ?_⟩
        rintro ⟨other, standing, id_eq, unflagged, flying⟩
        rcases List.mem_or_eq_of_mem_set standing with old | rfl
        · exact idle ⟨other, old, id_eq, unflagged, flying⟩
        · exact quiet flying
    · apply idles_of_none
      · intro call called polls
        have owner := (driven.own call called).1
        rw [polls.1.owner_eq] at owner
        exact same (Option.some.inj owner).symm
      · rintro ⟨other, standing, id_eq, unflagged, flying⟩
        rcases List.mem_or_eq_of_mem_set standing with old | rfl
        · exact idle ⟨other, old, id_eq, unflagged, flying⟩
        · exact same (driven.id_eq ▸ id_eq)
  | halted halted hooks =>
    refine idles_of_none (not_polls_of_onlyCancels hooks) ?_
    rintro ⟨other, standing, id_eq, unflagged, flying⟩
    obtain ⟨e, before, stopped⟩ := halted_mem halted standing
    refine idle ⟨e, before, stopped.id_eq ▸ id_eq, ?_,
      RunningEvent.flying_of_halted stopped flying⟩
    by_contra flagged
    rw [stopped.flag (by simpa using flagged)] at unflagged
    cases unflagged
  | started event fresh mine =>
    refine idles_of_none (by simp) ?_
    rintro ⟨other, standing, id_eq, unflagged, flying⟩
    rcases List.mem_append.mp standing with old | new
    · exact idle ⟨other, old, id_eq, unflagged, flying⟩
    · obtain rfl := List.mem_singleton.mp new
      exact RunningEvent.not_flying_of_none slot rfl flying
  | dropped kept =>
    refine idles_of_none (by simp) ?_
    rintro ⟨other, standing, known⟩
    exact idle ⟨other, kept.subset standing, known⟩
  | apart foreign =>
    refine idles_of_none ?_ idle
    intro call called polls
    simpa [foreign call called] using polls.1.owner_eq

theorem Moves.idles (moves : Moves free running calls running')
    (idle : ¬ Pollable id slot running) : Idles id slot calls (¬ Pollable id slot running') := by
  induction moves with
  | still => exact ⟨trivial, .inr idle⟩
  | more move _ ih => exact idles_append (move.idles idle) ih

end Moves

theorem Engine.run_rests [ActionHandler W A] (engine : Engine W A)
    (operations : List (Operation W A)) {id : EventId} {slot : Nat}
    (idle : ¬ Pollable id slot engine.running) :
    Rests id slot (calls (engine.run operations).2) :=
  ((run_moves engine operations).idles idle).1

end MapScript
