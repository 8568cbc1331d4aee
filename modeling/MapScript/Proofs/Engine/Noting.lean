import MapScript.Proofs.Engine.Handing

set_option autoImplicit false

namespace MapScript

open Number

variable {W A B : Type}

def Notice.pends (pending : List CancelRequest) : Notice → List CancelRequest
  | .scopeReset _ _ => []
  | .cancelRequested id => pending ++ [.event id]
  | .cancelAllRequested => pending ++ [.all]
  | _ => pending

namespace Journal

def pending (before : List CancelRequest) (journal : Journal) : List CancelRequest :=
  journal.foldl Notice.pends before

def Resets (journal : Journal) : Prop :=
  ∃ previous token, .scopeReset previous token ∈ journal

variable (before other : List CancelRequest) (earlier later : Journal)

@[simp] theorem pending_nil : pending before [] = before := rfl

@[simp] theorem pending_cons (notice : Notice) (rest : Journal) :
    pending before (notice :: rest) = pending (notice.pends before) rest := rfl

@[simp] theorem pending_append :
    pending before (earlier ++ later) = pending (pending before earlier) later :=
  List.foldl_append

theorem pending_eq_of_resets (resets : Resets later) :
    pending before later = pending other later := by
  obtain ⟨previous, token, member⟩ := resets
  obtain ⟨front, behind, rfl⟩ := List.append_of_mem member
  simp [Notice.pends]

end Journal

open Journal

/-- The journal accounts for what has become of the requests, and for a change of the scope. -/
structure Noted (s : ScopeState) (journal : Journal) (s' : ScopeState) : Prop where
  requests_eq : s'.requests = pending s.requests journal
  token : s'.token = s.token ∨ Resets journal

namespace Noted

variable {s m s' : ScopeState} {earlier later : Journal}

theorem still (s : ScopeState) (journal : Journal)
    (quiet : pending s.requests journal = s.requests) : Noted s journal s :=
  ⟨quiet.symm, .inl rfl⟩

theorem trans (first : Noted s earlier m) (second : Noted m later s') :
    Noted s (earlier ++ later) s' := by
  refine ⟨by rw [second.requests_eq, first.requests_eq, pending_append], ?_⟩
  rcases first.token with same | ⟨previous, token, member⟩
  · rcases second.token with kept | ⟨previous, token, member⟩
    · exact .inl (kept.trans same)
    · exact .inr ⟨previous, token, List.mem_append_right earlier member⟩
  · exact .inr ⟨previous, token, List.mem_append_left later member⟩

end Noted

namespace ScopeState

theorem apply_noted (s : ScopeState) (effect : Effect) :
    Noted s (s.apply effect).2 (s.apply effect).1 := by
  cases effect with
  | say record => exact ⟨rfl, .inl rfl⟩
  | reset => exact ⟨rfl, .inr ⟨_, _, List.mem_cons_self⟩⟩
  | load scope => exact ⟨rfl, .inr ⟨_, _, List.mem_cons_self⟩⟩
  | cancelEvent id => exact ⟨rfl, .inl rfl⟩
  | cancelAll => exact ⟨rfl, .inl rfl⟩
  | remember memory => exact ⟨rfl, .inl rfl⟩

theorem applyAll_noted (s : ScopeState) (effects : List Effect) :
    Noted s (s.applyAll effects).2 (s.applyAll effects).1 := by
  induction effects generalizing s with
  | nil => exact .still s [] rfl
  | cons effect rest ih => exact (s.apply_noted effect).trans (ih _)

end ScopeState

theorem callHook_noted [Replies B] (kind : String) (phase : Phase) (hook : Hook) (slot : Nat)
    (moment : Moment) (hookOf : A → Moment → Scene W → Outcome W A B) (action : A)
    (scene : Scene W) :
    Noted scene.state (callHook kind phase hook slot moment hookOf action scene).journal
      (callHook kind phase hook slot moment hookOf action scene).scene.state :=
  (scene.state.applyAll_noted _).trans (.still _ _ rfl)

theorem quiet_pending (before : List CancelRequest) {journal : Journal}
    (quiet : journal.Only Notice.quiet) :
    pending before journal = before := by
  induction journal with
  | nil => rfl
  | cons notice rest ih =>
    obtain ⟨silent, later⟩ := (only_cons notice rest).mp quiet
    have still : notice.pends before = before := by
      cases notice <;> first | rfl | cases silent
    rw [pending_cons, still, ih later]

variable [ActionHandler W A]

theorem Hands.noted {s s' : ScopeState} {journal : Journal} (hands : Hands W A s journal s') :
    Noted s journal s' := by
  induction hands with
  | still s quiet => exact .still s _ (quiet_pending s.requests quiet)
  | acts acts => cases acts <;> exact callHook_noted _ _ _ _ _ _ _ _
  | trans _ _ first second => exact first.trans second

theorem drain_noted (dt : Seconds) (factories : Dictionary (ActionFactory A)) (d : Drive W A) :
    Noted d.state (drain factories dt d).journal (drain factories dt d).drive.state :=
  (drain_walk factories dt d).hands.noted

theorem OneShot.run_noted (name : String) (step : Seconds) (polls : Nat) (skip : Bool) (action : A)
    (scene : Scene W) :
    Noted scene.state (run polls name skip step action scene).1.journal
      (run polls name skip step action scene).1.scene.state :=
  (run_hands name step polls skip action scene).noted

end MapScript
