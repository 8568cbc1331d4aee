import MapScript.Proofs.Engine.Noting

set_option autoImplicit false

namespace MapScript

open Number Journal

variable {W A : Type}

def ScopeToken.after (token : ScopeToken) (changes : Nat) : ScopeToken :=
  ⟨token.number + UInt64.ofNat changes⟩

theorem ScopeToken.after_zero (token : ScopeToken) : token.after 0 = token := by
  simp [after]

theorem ScopeToken.after_after (token : ScopeToken) (earlier later : Nat) :
    (token.after earlier).after later = token.after (earlier + later) := by
  simp [after, UInt64.ofNat_add, UInt64.add_assoc]

theorem ScopeToken.eq_zero_or_le_of_after_eq {token : ScopeToken} {changes : Nat}
    (same : token.after changes = token) : changes = 0 ∨ UInt64.size ≤ changes := by
  -- Token numbers have 64 bits, so only a whole round of changes brings a token back.
  have wrapped : UInt64.ofNat changes = 0 := by
    simpa [after] using congrArg ScopeToken.number same
  have multiple : changes % UInt64.size = 0 := by
    simpa using congrArg UInt64.toNat wrapped
  exact (Nat.eq_zero_or_pos changes).imp_right fun positive =>
    Nat.le_of_dvd positive (Nat.dvd_of_mod_eq_zero multiple)

@[simp] def Notice.resets : Notice → Bool
  | .scopeReset _ _ => true
  | _ => false

namespace Journal

def changes (journal : Journal) : Nat :=
  journal.countP Notice.resets

@[simp] theorem changes_append (earlier later : Journal) :
    changes (earlier ++ later) = changes earlier + changes later :=
  List.countP_append

@[simp] theorem changes_cons (notice : Notice) (rest : Journal) :
    changes (notice :: rest) = (if notice.resets then 1 else 0) + changes rest := by
  rw [changes, List.countP_cons, Nat.add_comm]
  rfl

@[simp] theorem changes_nil : changes [] = 0 := rfl

theorem not_resets_of_changes {journal : Journal} (none : changes journal = 0) :
    ¬ Resets journal := by
  rintro ⟨previous, token, member⟩
  exact absurd rfl (List.countP_eq_zero.mp none _ member)

theorem changes_of_only {kind : Notice → Bool} {journal : Journal} (only : journal.Only kind)
    (other : ∀ previous token, kind (.scopeReset previous token) = false) :
    changes journal = 0 := by
  refine List.countP_eq_zero.mpr fun notice member resets => ?_
  have known := only notice member
  cases notice <;> simp_all

theorem changes_of_quiet {journal : Journal} (quiet : journal.Only Notice.quiet) :
    changes journal = 0 :=
  changes_of_only quiet fun _ _ => rfl

end Journal

theorem ScopeState.apply_token (s : ScopeState) (effect : Effect) :
    (s.apply effect).1.token = s.token.after (changes (s.apply effect).2) := by
  cases effect <;> simp [apply, load, reset, ScopeToken.after, ScopeToken.next]

theorem ScopeState.applyAll_token (s : ScopeState) (effects : List Effect) :
    (s.applyAll effects).1.token = s.token.after (changes (s.applyAll effects).2) := by
  induction effects generalizing s with
  | nil => exact s.token.after_zero.symm
  | cons effect rest ih =>
    simp only [applyAll, changes_append, ← ScopeToken.after_after, ← s.apply_token]
    exact ih _

theorem callHook_token {B : Type} [Replies B] (kind : String) (phase : Phase) (hook : Hook)
    (slot : Nat) (moment : Moment) (hookOf : A → Moment → Scene W → Outcome W A B) (action : A)
    (scene : Scene W) :
    (callHook kind phase hook slot moment hookOf action scene).scene.state.token =
      scene.state.token.after
        (changes (callHook kind phase hook slot moment hookOf action scene).journal) := by
  have applied := scene.state.applyAll_token (hookOf action moment scene).effects
  simpa [callHook] using applied

section Hooks

variable [ActionHandler W A] {s s' : ScopeState} {journal : Journal}

theorem Hands.token_eq (hands : Hands W A s journal s') :
    s'.token = s.token.after (changes journal) := by
  induction hands with
  | still s quiet => rw [changes_of_quiet quiet, ScopeToken.after_zero]
  | acts acts => cases acts <;> exact callHook_token _ _ _ _ _ _ _ _
  | trans _ _ first second => rw [second, first, ScopeToken.after_after, changes_append]

end Hooks

/-- The calls that drive actions, each with the token that it leaves. -/
def Journal.driving : ScopeToken → Journal → List (Call × ScopeToken)
  | _, [] => []
  | token, .called call :: rest =>
    if call.hook = .cancel then driving token rest else (call, token) :: driving token rest
  | token, notice :: rest => driving (token.after (if notice.resets then 1 else 0)) rest

namespace Journal

variable {token left : ScopeToken} {journal : Journal}

@[simp] theorem driving_nil (token : ScopeToken) : driving token [] = [] := by
  simp [driving]

theorem driving_append (token : ScopeToken) (earlier later : Journal) :
    driving token (earlier ++ later) =
      driving token earlier ++ driving (token.after (changes earlier)) later := by
  fun_induction driving token earlier with
  | case1 token => simp [ScopeToken.after_zero]
  | case2 token call rest stop ih | case3 token call rest other ih => simp [driving, *]
  | case4 token notice rest other ih =>
    simp only [List.cons_append, driving, changes_cons, ih, ScopeToken.after_after]

theorem driving_calls (token : ScopeToken) (journal : Journal) :
    (driving token journal).map Prod.fst = lifecycle (calls journal) := by
  fun_induction driving token journal with
  | case1 => rfl
  | case2 token call rest stop ih | case3 token call rest other ih => simp [lifecycle, *]
  | case4 token notice rest other ih =>
    have silent : notice.call? = none := by
      cases notice <;> first | rfl | exact (other _ rfl).elim
    simp only [calls_cons, silent, ih, Option.toList_none, List.nil_append]

theorem lifecycle_of_quiet (quiet : journal.Only Notice.quiet) :
    lifecycle (calls journal) = [] := by
  refine List.filter_eq_nil_iff.mpr fun call member => ?_
  obtain ⟨notice, noted, called⟩ := List.mem_filterMap.mp member
  have known := quiet notice noted
  cases notice <;> simp_all

theorem driving_of_calls (silent : lifecycle (calls journal) = []) (token : ScopeToken) :
    driving token journal = [] := by
  rw [← driving_calls token] at silent
  exact List.map_eq_nil_iff.mp silent

theorem driving_split {call : Call} {pre post : List (Call × ScopeToken)}
    (split : driving token journal = pre ++ (call, left) :: post) :
    ∃ earlier later, journal = earlier ++ .called call :: later ∧ driving token earlier = pre ∧
      token.after (changes earlier) = left := by
  fun_induction driving token journal generalizing pre with
  | case1 => exact absurd split not_split_nil
  | case2 token other rest stop ih =>
    obtain ⟨earlier, later, rfl, earlier_eq, left_eq⟩ := ih split
    exact ⟨.called other :: earlier, later, rfl, by simp [driving, stop, earlier_eq],
      by simpa using left_eq⟩
  | case3 token other rest drives ih =>
    cases pre with
    | nil =>
      obtain ⟨same, _⟩ := List.cons.inj split
      obtain ⟨rfl, rfl⟩ := Prod.mk.inj same
      exact ⟨[], rest, rfl, by simp, token.after_zero⟩
    | cons before pre =>
      obtain ⟨rfl, behind⟩ := List.cons.inj split
      obtain ⟨earlier, later, rfl, earlier_eq, left_eq⟩ := ih behind
      exact ⟨.called other :: earlier, later, rfl, by simp [driving, drives, earlier_eq],
        by simpa using left_eq⟩
  | case4 token notice rest other ih =>
    obtain ⟨earlier, later, rfl, earlier_eq, left_eq⟩ := ih split
    exact ⟨notice :: earlier, later, rfl, by rw [driving, earlier_eq]; exact other,
      by rw [changes_cons, ← ScopeToken.after_after, left_eq]⟩

end Journal

theorem callHook_driving {B : Type} [Replies B] (kind : String) (phase : Phase) {hook : Hook}
    (drives : hook ≠ .cancel) (slot : Nat) (moment : Moment)
    (hookOf : A → Moment → Scene W → Outcome W A B) (action : A) (scene : Scene W) :
    ∃ call, call.hook = hook ∧ driving scene.state.token
        (callHook kind phase hook slot moment hookOf action scene).journal =
      [(call, (callHook kind phase hook slot moment hookOf action scene).scene.state.token)] := by
  have applied := scene.state.applyAll_token (hookOf action moment scene).effects
  have silent : lifecycle (calls (scene.state.applyAll (hookOf action moment scene).effects).2) =
      [] := by simp [lifecycle]
  let outcome := hookOf action moment scene
  refine ⟨⟨moment.event, slot, kind, hook, replyOf outcome.result,
    (scene.state.applyAll outcome.effects).1.token ≠ scene.state.token⟩, rfl, ?_⟩
  simp only [callHook, driving_append, driving_of_calls silent, List.nil_append, driving, drives,
    if_false, ← applied]
  rfl

end MapScript
