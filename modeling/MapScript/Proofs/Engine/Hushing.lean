import MapScript.Proofs.Engine.CancelledEvents

set_option autoImplicit false

namespace MapScript

open Number Journal

variable {W A : Type}

namespace Journal

def callsOf (id : EventId) (journal : Journal) : List Call :=
  (calls journal).filter fun call => call.owner = some id

variable {id : EventId} {notice : Notice} {earlier later rest : Journal}

@[simp] theorem callsOf_append :
    callsOf id (earlier ++ later) = callsOf id earlier ++ callsOf id later := by
  simp [callsOf]

theorem mem_callsOf {call : Call} :
    call ∈ callsOf id rest ↔ call ∈ calls rest ∧ call.owner = some id := by
  simp [callsOf]

theorem callsOf_cons_of_called {call : Call} (owned : call.owner = some id) :
    callsOf id (.called call :: rest) = call :: callsOf id rest := by
  simp [callsOf, owned]

theorem callsOf_cons_of_mark {mark : Mark} (marked : notice.mark? id = some mark)
    (other : ∀ slot hook reply, mark ≠ .called slot hook reply) :
    callsOf id (notice :: rest) = callsOf id rest := by
  cases notice with
  | called call =>
    obtain ⟨_, rfl⟩ := by simpa [Notice.mark?] using marked
    exact absurd rfl (other _ _ _)
  | _ => simp [callsOf]

theorem callsOf_cons_of_none (silent : notice.mark? id = none) :
    callsOf id (notice :: rest) = callsOf id rest := by
  cases notice with
  | called call =>
    have foreign : call.owner ≠ some id := by simpa [Notice.mark?] using silent
    simp [callsOf, foreign]
  | _ => simp [callsOf]

theorem callsOf_of_unmarked (unmarked : marks id rest = []) : callsOf id rest = [] := by
  induction rest with
  | nil => rfl
  | cons notice rest ih =>
    obtain ⟨silent, unmarked⟩ := List.append_eq_nil_iff.mp (marks_cons.symm.trans unmarked)
    rw [callsOf_cons_of_none (Option.toList_eq_nil_iff.mp silent), ih unmarked]

end Journal

theorem called_of_mark {id : EventId} {notice : Notice} {slot : Nat} {hook : Hook} {reply : Reply}
    (marked : notice.mark? id = some (.called slot hook reply)) :
    ∃ call, notice = .called call ∧ call.owner = some id ∧ call.slot = slot ∧
      call.hook = hook := by
  cases notice <;> simp [Notice.mark?] at marked
  obtain ⟨owned, slot_eq, hook_eq, _⟩ := marked
  exact ⟨_, rfl, owned, slot_eq, hook_eq⟩

/-- The calls of an event that nobody drives: the cancel hook of the action that is running, if one
is, and at most once. -/
inductive Hushed (l : Life) : List Call → Prop
  | silent : Hushed l []
  | cancelled {call : Call} (running : l.action = some .running) (cancels : call.hook = .cancel)
      (slot_eq : call.slot = l.cursor) : Hushed l [call]

namespace Life

variable {l : Life} {slot : Nat} {mark : Mark} {later : List Call}

theorem hushed_of_follow (allowed : l.Allows mark)
    (other : ∀ slot hook reply, mark ≠ .called slot hook reply)
    (unstarted : ∀ slots, mark ≠ .begun slots) (hushed : Hushed (l.follow mark) later) :
    Hushed l later := by
  cases hushed with
  | silent => exact .silent
  | cancelled running cancels slot_eq =>
    cases mark with
    | begun slots => exact absurd rfl (unstarted slots)
    | called => exact absurd rfl (other _ _ _)
    | skipped => simp [follow] at running
    | flagged | ended => exact .cancelled running cancels slot_eq

def Spent (slot : Nat) (l : Life) : Prop :=
  slot < l.cursor ∨ (slot = l.cursor ∧ l.action = some .cancelled)

theorem Spent.follow (spent : l.Spent slot) (allowed : l.Allows mark)
    (unstarted : ∀ slots, mark ≠ .begun slots) : (l.follow mark).Spent slot := by
  rcases spent with past | ⟨rfl, stopped⟩
  · cases mark with
    | begun slots => exact absurd rfl (unstarted slots)
    | called other hook reply =>
      cases hook <;> cases reply <;> first | exact .inl past | exact .inl (Nat.lt_succ_of_lt past)
    | skipped => exact .inl (Nat.lt_succ_of_lt past)
    | flagged | ended => exact .inl past
  · cases mark with
    | begun slots => exact absurd rfl (unstarted slots)
    | called other hook reply => cases hook <;> simp [Allows, stopped] at allowed
    | skipped => exact .inl (Nat.lt_succ_self _)
    | flagged => exact .inr ⟨rfl, stopped⟩
    | ended => simp [Allows, stopped] at allowed

theorem Spent.lt_of_called {other : Nat} {hook : Hook} {reply : Reply} (spent : l.Spent slot)
    (allowed : l.Allows (.called other hook reply)) : slot < other := by
  rcases spent with past | ⟨_, stopped⟩
  · cases hook <;> exact allowed.1 ▸ past
  · cases hook <;> simp [Allows, stopped] at allowed

end Life

section Lives

variable {id : EventId} {l l' : Life} {journal front rest : Journal} {slot : Nat}

theorem Journal.Orderly.hushed (orderly : Orderly id l journal l')
    (aside : Aside id (calls journal))
    (unstarted : ∀ name slots, .eventStarted id name slots ∉ journal) :
    Hushed l (callsOf id journal) := by
  induction journal generalizing l with
  | nil => exact .silent
  | cons notice rest ih =>
    have later (name : String) (slots : Nat) : .eventStarted id name slots ∉ rest :=
      fun member => unstarted name slots (List.mem_cons_of_mem notice member)
    rw [calls_cons] at aside
    obtain ⟨here, behind⟩ := aside_append.mp aside
    cases heard : notice.mark? id with
    | none =>
      rw [callsOf_cons_of_none heard]
      exact ih ((orderly_cons_of_none heard).mp orderly) behind later
    | some mark =>
      obtain ⟨allowed, _, orderly⟩ := (orderly_cons_of_some heard).mp orderly
      have hushed := ih orderly behind later
      have unbegun (slots : Nat) : mark ≠ .begun slots := by
        rintro rfl
        obtain ⟨name, rfl⟩ := begun_of_mark heard
        exact unstarted name slots List.mem_cons_self
      cases mark with
      | called slot hook reply =>
        obtain ⟨call, rfl, owned, rfl, rfl⟩ := called_of_mark heard
        have cancels : call.hook = .cancel := here call (by simp) owned
        rw [cancels] at allowed hushed
        rw [callsOf_cons_of_called owned]
        -- The action is cancelled from here on, so there is no second hook.
        generalize callsOf id rest = later at hushed ⊢
        cases hushed with
        | silent => exact .cancelled allowed.2 cancels allowed.1
        | cancelled running => simp [Life.follow] at running
      | begun | skipped | flagged | ended =>
        rw [callsOf_cons_of_mark heard (by simp)]
        exact Life.hushed_of_follow allowed (by simp) unbegun hushed

theorem Journal.Orderly.called_of_spent {call : Call}
    (orderly : Orderly id l (front ++ .called call :: rest) l') (spent : l.Spent slot)
    (owned : call.owner = some id) :
    (∃ name slots, .eventStarted id name slots ∈ front) ∨ slot < call.slot := by
  induction front generalizing l with
  | nil => exact .inr (spent.lt_of_called ((orderly_cons_of_some (mark_called owned)).mp orderly).1)
  | cons first front ih =>
    rw [List.cons_append] at orderly
    cases heard : first.mark? id with
    | none =>
      refine (ih ((orderly_cons_of_none heard).mp orderly) spent).imp_left ?_
      exact fun ⟨name, slots, member⟩ => ⟨name, slots, List.mem_cons_of_mem first member⟩
    | some mark =>
      obtain ⟨allowed, _, orderly⟩ := (orderly_cons_of_some heard).mp orderly
      by_cases begun : ∃ slots, mark = .begun slots
      · obtain ⟨slots, rfl⟩ := begun
        obtain ⟨name, rfl⟩ := begun_of_mark heard
        exact .inl ⟨name, slots, List.mem_cons_self⟩
      · have still := spent.follow allowed fun slots same => begun ⟨slots, same⟩
        refine (ih orderly still).imp_left ?_
        exact fun ⟨name, slots, member⟩ => ⟨name, slots, List.mem_cons_of_mem first member⟩

theorem Journal.Orderly.spent (orderly : Orderly id l journal l') (spent : l.Spent slot)
    (unstarted : ∀ name slots, .eventStarted id name slots ∉ journal) : l'.Spent slot := by
  induction journal generalizing l with
  | nil =>
    obtain rfl : l = l' := orderly
    exact spent
  | cons notice rest ih =>
    have later (name : String) (slots : Nat) : .eventStarted id name slots ∉ rest :=
      fun member => unstarted name slots (List.mem_cons_of_mem notice member)
    cases heard : notice.mark? id with
    | none => exact ih ((orderly_cons_of_none heard).mp orderly) spent later
    | some mark =>
      obtain ⟨allowed, _, orderly⟩ := (orderly_cons_of_some heard).mp orderly
      refine ih orderly (spent.follow allowed fun slots same => ?_) later
      subst same
      obtain ⟨name, rfl⟩ := begun_of_mark heard
      exact unstarted name slots List.mem_cons_self

end Lives

structure HaltedBy (journal : Journal) (e f : RunningEvent A) : Prop where
  halted : Halted e f
  flagged : f.cancelled = true →
    e.cancelled = true ∨ ∃ name cursor, .eventCancelled e.id name cursor ∈ journal
  hooked : e.actionState? = some .running → f.actionState? ≠ some .running →
    callsOf e.id journal ≠ []

namespace HaltedBy

variable {e m f : RunningEvent A} {journal earlier later : Journal}

theorem behind (known : HaltedBy later e f) (earlier : Journal) :
    HaltedBy (earlier ++ later) e f where
  halted := known.halted
  flagged set := (known.flagged set).imp_right fun ⟨name, cursor, member⟩ =>
    ⟨name, cursor, List.mem_append_right earlier member⟩
  hooked running stopped := by
    rw [callsOf_append]
    exact List.append_ne_nil_of_right_ne_nil _ (known.hooked running stopped)

theorem before (known : HaltedBy earlier e f) (later : Journal) :
    HaltedBy (earlier ++ later) e f where
  halted := known.halted
  flagged set := (known.flagged set).imp_right fun ⟨name, cursor, member⟩ =>
    ⟨name, cursor, List.mem_append_left later member⟩
  hooked running stopped := by
    rw [callsOf_append]
    exact List.append_ne_nil_of_left_ne_nil (known.hooked running stopped) _

theorem trans (first : HaltedBy journal e m) (second : HaltedBy journal m f) :
    HaltedBy journal e f where
  halted := first.halted.trans second.halted
  flagged set := by
    rcases second.flagged set with before | noted
    · exact first.flagged before
    · exact .inr (first.halted.id_eq ▸ noted)
  hooked running stopped := by
    by_cases between : m.actionState? = some .running
    · exact first.halted.id_eq ▸ second.hooked between stopped
    · exact first.hooked running between

end HaltedBy

theorem Stops.haltedBy {e f : RunningEvent A} {journal : Journal} (stops : Stops e journal f) :
    HaltedBy journal e f where
  halted := stops.halted.1
  flagged set := by
    cases stops with
    | spared | stopped => exact .inl set
    | flagged | cancelled => exact .inr ⟨e.declaration.name, e.cursor, by simp⟩
  hooked running stopped := by
    cases stops with
    | spared | flagged => exact absurd running stopped
    | cancelled | stopped => simp [callsOf]

theorem Cancels.haltedBy {running running' : List (RunningEvent A)} {journal : Journal}
    (cancels : Cancels running journal running') {place : Nat} {e : RunningEvent A}
    (here : running[place]? = some e) :
    ∃ f, running'[place]? = some f ∧ HaltedBy journal e f := by
  induction cancels generalizing place e with
  | none | ignored => simp at here
  | @event first first' rest rest' journal later one others ih =>
    cases place with
    | zero =>
      obtain rfl : first = e := by simpa using here
      exact ⟨first', rfl, one.haltedBy.before later⟩
    | succ place =>
      obtain ⟨f, there, halted⟩ := ih (by simpa using here)
      exact ⟨f, by simpa using there, halted.behind journal⟩
  | @trans running middle running' journal later _ _ first second =>
    obtain ⟨m, between, once⟩ := first here
    obtain ⟨f, there, again⟩ := second between
    exact ⟨f, there, (once.before later).trans (again.behind journal)⟩

end MapScript
