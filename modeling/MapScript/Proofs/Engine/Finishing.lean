import MapScript.Proofs.Engine.Resting

set_option autoImplicit false

namespace MapScript

open Number Journal

variable {W A : Type}

theorem Driven.cursor_le {token token' : ScopeToken} {e e' : RunningEvent A} {calls : List Call}
    {result : Except EngineError Drain} (driven : Driven token e calls e' token' result) :
    e.cursor ≤ e'.cursor := by
  induction driven with
  | complete | refused | startFailed | startedAway | updateFailed | held | cleanupFailed =>
    exact Nat.le_refl _
  | finishedAway => exact Nat.le_succ _
  | started _ _ _ _ _ ih => exact ih
  | skipped _ _ _ ih => exact Nat.le_of_succ_le ih
  | finished _ _ _ _ _ _ ih => exact Nat.le_of_succ_le ih

def RunningEvent.Stuck (slot : Nat) (e : RunningEvent A) : Prop :=
  e.cursor = slot ∧ ∃ action, e.current = some ⟨action, .done⟩

inductive Left (slot : Nat) (e' : RunningEvent A) (result : Except EngineError Drain) :
    Reply → List Call → Prop
  | beyond {rest : List Call} (moved : slot < e'.cursor)
      (later : ∀ other ∈ rest, slot < other.slot) : Left slot e' result .finished rest
  | stuck (stuck : e'.Stuck slot) (cause : EngineError) (failed : result = .error cause) :
      Left slot e' result .failed []

theorem Driven.finishing {token token' : ScopeToken} {e e' : RunningEvent A} {calls : List Call}
    {result : Except EngineError Drain} (driven : Driven token e calls e' token' result)
    {pre post : List Call} {call : Call} (split : calls = pre ++ call :: post)
    (polled : call.hook = .update) (finished : call.reply = .finished) :
    ∃ reply moved rest, post = call.cleanup reply moved :: rest ∧
      Left call.slot e' result reply rest := by
  induction driven generalizing pre with
  | complete => exact absurd split not_split_nil
  | refused => exact absurd split not_split_nil
  | startFailed | startedAway =>
    rcases split_cons split with ⟨rfl, _⟩ | ⟨front, tail⟩
    · cases polled
    · exact absurd tail not_split_nil
  | started _ _ _ _ _ ih =>
    rcases split_cons split with ⟨rfl, _⟩ | ⟨front, tail⟩
    · cases polled
    · exact ih tail
  | skipped _ _ _ ih => exact ih split
  | updateFailed | held =>
    rcases split_cons split with ⟨rfl, _⟩ | ⟨front, tail⟩
    · cases finished
    · exact absurd tail not_split_nil
  | cleanupFailed _ action context cause =>
    rcases split_cons split with ⟨rfl, rfl⟩ | ⟨front, tail⟩
    · exact ⟨.failed, _, [], rfl, .stuck ⟨rfl, action, rfl⟩ cause rfl⟩
    · rcases split_cons tail with ⟨rfl, _⟩ | ⟨front, tail⟩
      · cases polled
      · exact absurd tail not_split_nil
  | finishedAway =>
    rcases split_cons split with ⟨rfl, rfl⟩ | ⟨front, tail⟩
    · exact ⟨.finished, _, [], rfl, .beyond (Nat.lt_succ_self _) (by simp)⟩
    · rcases split_cons tail with ⟨rfl, _⟩ | ⟨front, tail⟩
      · cases polled
      · exact absurd tail not_split_nil
  | finished _ _ _ _ _ rest ih =>
    rcases split_cons split with ⟨rfl, rfl⟩ | ⟨front, tail⟩
    · refine ⟨.finished, _, _, rfl, .beyond rest.cursor_le ?_⟩
      intro other member
      exact (rest.own other member).2.1
    · rcases split_cons tail with ⟨rfl, _⟩ | ⟨front, later⟩
      · cases polled
      · exact ih later

theorem Move.untouched {free : EventId → Prop} {running running' : List (RunningEvent A)}
    {calls : List Call} (move : Move free running calls running') {id : EventId}
    (apart : ¬ free id) :
    (∀ call ∈ calls, call.owner = some id → call.hook = .cancel) ∧
      ∀ e' ∈ running', e'.id = id → ∃ e ∈ running, Halted e e' := by
  cases move with
  | driven here live mine driven =>
    constructor
    · intro call member owned
      have owner := (driven.own call member).1
      rw [owned] at owner
      exact absurd (Option.some.inj owner ▸ mine) apart
    · intro other standing id_eq
      rcases List.mem_or_eq_of_mem_set standing with old | rfl
      · exact ⟨other, old, .refl other⟩
      · exact absurd (id_eq ▸ driven.id_eq ▸ mine) apart
  | halted halted cancels =>
    refine ⟨fun call member _ => cancels call member, ?_⟩
    intro e' standing _
    exact halted_mem halted standing
  | started event fresh mine =>
    refine ⟨by simp, ?_⟩
    intro other standing id_eq
    rcases List.mem_append.mp standing with old | new
    · exact ⟨other, old, .refl other⟩
    · obtain rfl := List.mem_singleton.mp new
      exact absurd (id_eq ▸ mine) apart
  | dropped kept => exact ⟨by simp, fun e standing _ => ⟨e, kept.subset standing, .refl e⟩⟩
  | apart foreign =>
    refine ⟨fun call member owned => ?_, fun e standing _ => ⟨e, standing, .refl e⟩⟩
    simp [foreign call member] at owned

theorem Moves.untouched {free : EventId → Prop} {running running' : List (RunningEvent A)}
    {calls : List Call} (moves : Moves free running calls running') {id : EventId}
    (apart : ¬ free id) :
    (∀ call ∈ calls, call.owner = some id → call.hook = .cancel) ∧
      ∀ e' ∈ running', e'.id = id → ∃ e ∈ running, Halted e e' := by
  induction moves with
  | still => exact ⟨by simp, fun e member _ => ⟨e, member, .refl e⟩⟩
  | more move _ ih =>
    obtain ⟨hooks, sources⟩ := ih
    obtain ⟨own, kept⟩ := move.untouched apart
    constructor
    · intro call member owned
      rcases List.mem_append.mp member with now | later
      · exact own call now owned
      · exact hooks call later owned
    · intro e' standing id_eq
      obtain ⟨m, between, later⟩ := sources e' standing id_eq
      obtain ⟨e, before, now⟩ := kept m between (later.id_eq.symm.trans id_eq)
      exact ⟨e, before, now.trans later⟩

namespace RunningEvent

theorem Stuck.halted {e e' : RunningEvent A} {slot : Nat} (stuck : e.Stuck slot)
    (halted : Halted e e') : e'.Stuck slot := by
  obtain ⟨here, action, flying⟩ := stuck
  refine ⟨halted.cursor.trans here, ?_⟩
  rcases halted.action with same | ⟨_, _, running, _⟩
  · exact ⟨action, same.trans flying⟩
  · simp [flying] at running

def Remains (policy : FailurePolicy) (reply : Reply) (slot : Nat) (e : RunningEvent A) : Prop :=
  if reply = .failed ∧ policy = .abort then e.Stuck slot else slot < e.cursor

theorem Remains.halted {policy : FailurePolicy} {reply : Reply} {slot : Nat}
    {e e' : RunningEvent A} (remains : e.Remains policy reply slot) (halted : Halted e e') :
    e'.Remains policy reply slot := by
  unfold Remains at *
  split
  next both =>
    rw [if_pos both] at remains
    exact remains.halted halted
  next other =>
    rw [if_neg other] at remains
    exact halted.cursor ▸ remains

end RunningEvent

theorem not_ahead {running : List (RunningEvent A)} {index : Nat} {event : RunningEvent A}
    (distinct : (ids running).Nodup) (here : running[index]? = some event) :
    ¬ Ahead (index + 1) running event.id := by
  obtain ⟨within, rfl⟩ := List.getElem?_eq_some_iff.mp here
  have bound : index < (ids running).length := by simpa [ids] using within
  have suffix : ((ids running).drop index).Nodup := distinct.sublist (List.drop_sublist _ _)
  rw [List.drop_eq_getElem_cons bound] at suffix
  have first : (ids running)[index] = running[index].id := by simp [ids]
  rw [← first]
  exact (List.nodup_cons.mp suffix).1

theorem settle_gone {s : Sweep W A} {id : EventId} (past : id ∈ s.finished) :
    ∀ e ∈ s.settle.running, e.id ≠ id := by
  rintro e standing rfl
  have unfinished := (List.mem_filter.mp standing).2
  simp [past] at unfinished

namespace Left

variable {policy : FailurePolicy} {slot : Nat} {e' : RunningEvent A}
  {result : Except EngineError Drain} {reply : Reply} {rest : List Call}

theorem elsewhere (left : Left slot e' result reply rest) (id : EventId) :
    ∀ other ∈ rest, ¬ other.At id slot := by
  cases left with
  | beyond moved later =>
    intro other member here
    exact Nat.lt_irrefl slot (here.slot_eq ▸ later other member)
  | stuck => simp

theorem remains_of_abort (left : Left slot e' result reply rest) (strict : policy = .abort) :
    e'.Remains policy reply slot := by
  cases left with
  | beyond moved later => simpa [RunningEvent.Remains] using moved
  | stuck stuck cause failed => simpa [RunningEvent.Remains, strict] using stuck

theorem remains_of_settles (left : Left slot e' result reply rest) {id : EventId} {ended : Bool}
    {notices : Journal} (settles : Settles policy id result ended notices) :
    ended = true ∨ e'.Remains policy reply slot := by
  cases left with
  | beyond moved later => exact .inr (by simpa [RunningEvent.Remains] using moved)
  | stuck stuck cause failed =>
    subst failed
    cases settles
    exact .inl rfl

end Left

theorem onlyCancels_not_split {calls pre post : List Call} {call : Call} (hooks : OnlyCancels calls)
    (split : calls = pre ++ call :: post) (polled : call.hook = .update) : False := by
  have cancel := hooks call (by simp [split])
  simp [cancel] at polled

section Pass

variable [ActionHandler W A] {factories : Dictionary (ActionFactory A)} {policy : FailurePolicy}
  {dt : Seconds} {token : ScopeToken} {index : Nat} {s s' : Sweep W A} {journal : Journal}
  {result : Except EngineError Unit}

theorem Pass.gone (pass : Pass factories policy dt token index s journal s' result) {id : EventId}
    (past : id ∈ s.finished) : ∀ e ∈ s'.running, e.id ≠ id := by
  induction pass with
  | closed => exact settle_gone past
  | removed here flagged rest ih => exact ih (List.mem_append_left _ past)
  | @passed _ _ _ _ _ ended _ _ _ drives settles same rest ih =>
    apply ih
    cases ended with
    | false => exact past
    | true => exact List.mem_append_left _ past
  | abandoned => exact fun e standing => absurd standing List.not_mem_nil
  | aborted =>
    unfold Sweep.close
    split
    next => exact settle_gone past
    next => exact fun e standing => absurd standing List.not_mem_nil

theorem close_halted (token : ScopeToken) (s : Sweep W A) :
    OnlyCancels (calls (s.close token).2) ∧
      ∀ e' ∈ (s.close token).1.running, ∃ e ∈ s.running, Halted e e' := by
  unfold Sweep.close
  split
  next =>
    obtain ⟨halted, hooks⟩ := s.applyPending_halted
    refine ⟨hooks, fun e' standing => ?_⟩
    exact halted_mem halted (List.mem_of_mem_filter standing)
  next => exact ⟨by simp [OnlyCancels], fun e' standing => absurd standing List.not_mem_nil⟩

theorem drain_finishing {event : RunningEvent A} {drained : Drained W A}
    (drives : s.Drives factories dt token index event drained)
    {pre post : List Call} {call : Call} {id : EventId}
    (split : calls drained.journal = pre ++ call :: post) (owned : call.owner = some id)
    (polled : call.hook = .update) (finished : call.reply = .finished) :
    event.id = id ∧ ∃ reply moved rest, post = call.cleanup reply moved :: rest ∧
      Left call.slot drained.drive.event drained.result reply rest := by
  have driven := drives.driven
  have owner := (driven.own call (by simp [split])).1
  rw [owned] at owner
  exact ⟨(Option.some.inj owner).symm, driven.finishing split polled finished⟩

theorem Sweep.Drives.untouched {event : RunningEvent A} {drained : Drained W A} {ended : Bool}
    (drives : s.Drives factories dt token index event drained) (distinct : (ids s.running).Nodup)
    (pass : Pass factories policy dt token (index + 1)
      (s.afterVisit index event drained.drive ended).applyPending.1 journal s' result) :
    (∀ call ∈ calls journal, call.owner = some event.id → call.hook = .cancel) ∧
      ∀ e ∈ s'.running, e.id = event.id → Halted drained.drive.event e := by
  have beyond : ¬ Ahead (index + 1)
      (s.afterVisit index event drained.drive ended).applyPending.1.running event.id := by
    rw [Ahead, ids_afterVisit ended drives]
    exact not_ahead distinct drives.here
  obtain ⟨own, kept⟩ := pass.moves.untouched beyond
  refine ⟨own, fun e standing id_eq => ?_⟩
  obtain ⟨m, between, later⟩ := kept e standing id_eq
  obtain ⟨e', before, now⟩ := halted_mem (Sweep.applyPending_halted _).1 between
  rw [Sweep.afterVisit_running] at before
  have whole := now.trans later
  obtain rfl := eq_of_mem_set distinct drives.here drives.driven.id_eq before
    (whole.id_eq.symm.trans id_eq)
  exact whole

theorem Pass.finishing (pass : Pass factories policy dt token index s journal s' result)
    (distinct : (ids s.running).Nodup) {pre post : List Call} {call : Call} {id : EventId}
    (split : calls journal = pre ++ call :: post) (owned : call.owner = some id)
    (polled : call.hook = .update) (finished : call.reply = .finished) :
    ∃ reply moved rest, post = call.cleanup reply moved :: rest ∧
      (∀ other ∈ rest, other.At id call.slot → other.hook = .cancel) ∧
      ∀ e ∈ s'.running, e.id = id → e.Remains policy reply call.slot := by
  induction pass generalizing pre with
  | @closed index s past fresh =>
    exact (onlyCancels_not_split s.applyPending_halted.2 split polled).elim
  | removed here flagged rest ih => exact ih distinct split
  | @passed index s s' event drained ended notices journal result drives settles same pass ih =>
    obtain ⟨halted, hooks⟩ := (s.afterVisit index event drained.drive ended).applyPending_halted
    simp only [calls_append, settles.silent, List.nil_append, List.append_assoc] at split
    rcases split_append split with ⟨rest, mine, rfl⟩ | ⟨front, split⟩
    · obtain ⟨rfl, reply, moved, rest, rfl, left⟩ :=
        drain_finishing drives mine owned polled finished
      obtain ⟨own, kept⟩ := drives.untouched distinct pass
      refine ⟨reply, moved, _, rfl, ?_, ?_⟩
      · intro other member at_slot
        rcases List.mem_append.mp member with drained | member
        · exact absurd at_slot (left.elsewhere event.id other drained)
        · rcases List.mem_append.mp member with cancelled | later
          · exact hooks other cancelled
          · exact own other later at_slot.owner_eq
      · intro e standing id_eq
        rcases left.remains_of_settles settles with rfl | remains
        · have past : event.id ∈ (s.afterVisit index event drained.drive true).finished :=
            List.mem_append_right _ List.mem_cons_self
          exact absurd id_eq (pass.gone past e standing)
        · exact remains.halted (kept e standing id_eq)
    · rcases split_append split with ⟨rest, cancelled, _⟩ | ⟨front, split⟩
      · exact (onlyCancels_not_split hooks cancelled polled).elim
      · rw [← ids_afterVisit ended drives] at distinct
        exact ih distinct split
  | @abandoned index s event drained ended notices drives abandons away =>
    simp only [calls_append, abandons.silent, List.append_nil] at split
    obtain ⟨rfl, reply, moved, rest, rfl, left⟩ :=
      drain_finishing drives split owned polled finished
    refine ⟨reply, moved, rest, rfl, ?_, fun e standing => absurd standing List.not_mem_nil⟩
    intro other member at_slot
    exact absurd at_slot (left.elsewhere event.id other member)
  | @aborted index s event drained cause drives strict failed =>
    obtain ⟨hooks, kept⟩ := close_halted token (s.afterDrain index drained.drive)
    simp only [calls_append, List.append_assoc] at split
    rcases split_append split with ⟨rest, mine, rfl⟩ | ⟨front, split⟩
    · obtain ⟨rfl, reply, moved, rest, rfl, left⟩ :=
        drain_finishing drives mine owned polled finished
      refine ⟨reply, moved, _, rfl, ?_, ?_⟩
      · intro other member at_slot
        rcases List.mem_append.mp member with drained | cancelled
        · exact absurd at_slot (left.elsewhere event.id other drained)
        · exact hooks other cancelled
      · intro e standing id_eq
        obtain ⟨e', before, halted⟩ := kept e standing
        obtain rfl := eq_of_mem_set distinct drives.here drives.driven.id_eq before
          (halted.id_eq.symm.trans id_eq)
        exact (left.remains_of_abort strict).halted halted
    · exact (onlyCancels_not_split hooks split polled).elim

end Pass

end MapScript
