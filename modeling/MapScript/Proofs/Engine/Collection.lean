import Mathlib.Data.List.Nodup
import MapScript.Proofs.Engine.Executing
import MapScript.Proofs.Engine.Operation
import MapScript.Proofs.Engine.Passing

set_option autoImplicit false

namespace MapScript

open Number Journal

variable {W A : Type}

namespace Driven

variable {token token' : ScopeToken} {e e' : RunningEvent A} {calls : List Call}
  {result : Except EngineError Drain}

theorem declaration_eq (driven : Driven token e calls e' token' result) :
    e'.declaration = e.declaration := by
  induction driven with
  | complete | refused | startFailed | startedAway | updateFailed | held | cleanupFailed
  | finishedAway => rfl
  | started _ _ _ _ _ ih => exact ih
  | skipped _ _ _ ih => exact ih
  | finished _ _ _ _ _ _ ih => exact ih

theorem cancelled_eq (driven : Driven token e calls e' token' result) :
    e'.cancelled = e.cancelled := by
  induction driven with
  | complete | refused | startFailed | startedAway | updateFailed | held | cleanupFailed
  | finishedAway => rfl
  | started _ _ _ _ _ ih => exact ih
  | skipped _ _ _ ih => exact ih
  | finished _ _ _ _ _ _ ih => exact ih

theorem id_eq (driven : Driven token e calls e' token' result) : e'.id = e.id :=
  congrArg Event.id driven.declaration_eq

theorem own (driven : Driven token e calls e' token' result) :
    ∀ call ∈ calls, call.owner = some e.id ∧ e.cursor ≤ call.slot ∧ call.hook ≠ .cancel := by
  induction driven with
  | complete | refused => simp
  | startFailed | startedAway | updateFailed | held => simp [RunningEvent.call]
  | cleanupFailed | finishedAway => simp [RunningEvent.call]
  | started _ _ _ _ _ ih =>
    intro call member
    rcases List.mem_cons.mp member with rfl | later
    · simp [RunningEvent.call]
    · exact ih call later
  | skipped _ _ _ ih =>
    intro call member
    obtain ⟨owner, slot, hook⟩ := ih call member
    exact ⟨owner, Nat.le_of_succ_le slot, hook⟩
  | finished _ _ _ _ _ _ ih =>
    intro call member
    rcases List.mem_cons.mp member with rfl | member
    · simp [RunningEvent.call]
    · rcases List.mem_cons.mp member with rfl | later
      · simp [RunningEvent.call]
      · obtain ⟨owner, slot, hook⟩ := ih call later
        exact ⟨owner, Nat.le_of_succ_le slot, hook⟩

end Driven

structure RunningEvent.WellFormed (e : RunningEvent A) : Prop where
  cursor_le : e.cursor ≤ e.declaration.actions.length
  cursor_lt : e.current.isSome = true → e.cursor < e.declaration.actions.length
  stopped : e.cancelled = true → e.actionState? ≠ some .running

namespace RunningEvent

theorem start_wellFormed (event : Event) : (start event : RunningEvent A).WellFormed where
  cursor_le := Nat.zero_le _
  cursor_lt flying := by simp [start] at flying
  stopped set := by simp [start] at set

theorem cursor_lt_of_slot {e : RunningEvent A} {slot : Action} (here : e.slot? = some slot) :
    e.cursor < e.declaration.actions.length :=
  (List.getElem?_eq_some_iff.mp here).1

theorem wellFormed_at_slot {e : RunningEvent A} {slot : Action} (here : e.slot? = some slot)
    (live : e.cancelled = false) (current : Option (InFlight A)) (context : Dictionary Value) :
    WellFormed { e with current, context } where
  cursor_le := Nat.le_of_lt (cursor_lt_of_slot here)
  cursor_lt _ := cursor_lt_of_slot here
  stopped set := by simp [live] at set

theorem wellFormed_advance {e : RunningEvent A} {slot : Action} (here : e.slot? = some slot)
    (live : e.cancelled = false) (context : Dictionary Value) :
    WellFormed { e.advance with context } where
  cursor_le := cursor_lt_of_slot here
  cursor_lt flying := by simp [advance] at flying
  stopped set := by simp [advance, live] at set

theorem WellFormed.halted {e e' : RunningEvent A} (wf : e.WellFormed) (halted : Halted e e') :
    e'.WellFormed where
  cursor_le := by
    rw [halted.cursor, halted.declaration]
    exact wf.cursor_le
  cursor_lt flying := by
    rw [halted.cursor, halted.declaration]
    apply wf.cursor_lt
    rcases halted.action with same | ⟨_, _, flying, _⟩
    · rwa [same] at flying
    · simp [flying]
  stopped set := by
    rcases halted.stopped set with before | quiet
    · exact halted.notRunning (wf.stopped before)
    · exact quiet

end RunningEvent

theorem Driven.wellFormed {token token' : ScopeToken} {e e' : RunningEvent A} {calls : List Call}
    {result : Except EngineError Drain} (driven : Driven token e calls e' token' result)
    (wf : e.WellFormed) (live : e.cancelled = false) : e'.WellFormed := by
  induction driven with
  | complete | refused => exact wf
  | startFailed _ _ here => exact RunningEvent.wellFormed_at_slot here live _ _
  | startedAway _ _ here => exact RunningEvent.wellFormed_at_slot here live _ _
  | updateFailed _ _ _ here => exact RunningEvent.wellFormed_at_slot here live _ _
  | held _ _ here => exact RunningEvent.wellFormed_at_slot here live _ _
  | cleanupFailed _ _ _ _ here => exact RunningEvent.wellFormed_at_slot here live _ _
  | finishedAway _ context here => exact RunningEvent.wellFormed_advance here live context
  | started _ _ here _ _ ih => exact ih (RunningEvent.wellFormed_at_slot here live _ _) live
  | @skipped e _ _ _ _ _ _ here _ _ ih =>
    exact ih (RunningEvent.wellFormed_advance here live e.context) live
  | finished _ context here _ _ _ ih =>
    exact ih (RunningEvent.wellFormed_advance here live context) live

def ids (running : List (RunningEvent A)) : List EventId :=
  running.map RunningEvent.id

theorem not_mem_ids {id : EventId} {running : List (RunningEvent A)} :
    id ∉ ids running ↔ ∀ e ∈ running, e.id ≠ id := by
  simp [ids]

theorem Engine.isRunning_iff {engine : Engine W A} {id : EventId} :
    engine.isRunning id = true ↔ id ∈ ids engine.running := by
  simp [isRunning, ids]

structure Sound (running : List (RunningEvent A)) : Prop where
  distinct : (ids running).Nodup
  each : ∀ e ∈ running, e.WellFormed

/-- One change of the collection with the hooks called in it. Only free ids are driven or
started. -/
inductive Move (free : EventId → Prop) :
    List (RunningEvent A) → List Call → List (RunningEvent A) → Prop
  | driven {running : List (RunningEvent A)} {index : Nat} {e e' : RunningEvent A}
      {calls : List Call} {token token' : ScopeToken} {result : Except EngineError Drain}
      (here : running[index]? = some e) (live : e.cancelled = false) (mine : free e.id)
      (driven : Driven token e calls e' token' result) :
      Move free running calls (running.set index e')
  | halted {running running' : List (RunningEvent A)} {calls : List Call}
      (halted : List.Forall₂ Halted running running') (hooks : OnlyCancels calls) :
      Move free running calls running'
  | started {running : List (RunningEvent A)} (event : Event) (fresh : event.id ∉ ids running)
      (mine : free event.id) : Move free running [] (running ++ [.start event])
  | dropped {running running' : List (RunningEvent A)} (kept : running'.Sublist running) :
      Move free running [] running'
  | apart {running : List (RunningEvent A)} {calls : List Call}
      (foreign : ∀ call ∈ calls, call.owner = none) : Move free running calls running

inductive Moves (free : EventId → Prop) :
    List (RunningEvent A) → List Call → List (RunningEvent A) → Prop
  | still {running : List (RunningEvent A)} : Moves free running [] running
  | more {running middle running' : List (RunningEvent A)} {calls later : List Call}
      (move : Move free running calls middle) (rest : Moves free middle later running') :
      Moves free running (calls ++ later) running'

theorem ids_set {running : List (RunningEvent A)} {index : Nat} {e e' : RunningEvent A}
    (here : running[index]? = some e) (same : e'.id = e.id) :
    ids (running.set index e') = ids running := by
  obtain ⟨within, rfl⟩ := List.getElem?_eq_some_iff.mp here
  have bound : index < (running.map RunningEvent.id).length := by simpa using within
  have here : (running.map RunningEvent.id)[index] = running[index].id := by simp
  rw [ids, List.map_set, same, ← here, List.set_getElem_self]
  rfl

theorem eq_of_mem_set {running : List (RunningEvent A)} {index : Nat} {event e' e : RunningEvent A}
    (distinct : (ids running).Nodup) (here : running[index]? = some event)
    (same : e'.id = event.id) (member : e ∈ running.set index e') (id_eq : e.id = event.id) :
    e = e' := by
  rw [← ids_set here same] at distinct
  have within : index < running.length := (List.getElem?_eq_some_iff.mp here).1
  refine List.inj_on_of_nodup_map distinct member (List.mem_set within e') ?_
  exact id_eq.trans same.symm

theorem ids_halted {running running' : List (RunningEvent A)}
    (halted : List.Forall₂ Halted running running') : ids running' = ids running := by
  induction halted with
  | nil => rfl
  | cons head _ ih => simpa [ids, head.id_eq] using ih

namespace Sound

variable {running running' : List (RunningEvent A)}

theorem driven (before : Sound running) {index : Nat} {e e' : RunningEvent A} {calls : List Call}
    {token token' : ScopeToken} {result : Except EngineError Drain} (here : running[index]? = some e)
    (live : e.cancelled = false) (driven : Driven token e calls e' token' result) :
    Sound (running.set index e') := by
  refine ⟨by rw [ids_set here driven.id_eq]; exact before.distinct, ?_⟩
  intro other member
  rcases List.mem_or_eq_of_mem_set member with old | rfl
  · exact before.each other old
  · exact driven.wellFormed (before.each _ (List.mem_of_getElem? here)) live

theorem halted (before : Sound running) (halted : List.Forall₂ Halted running running') :
    Sound running' := by
  refine ⟨by rw [ids_halted halted]; exact before.distinct, ?_⟩
  intro other member
  obtain ⟨e, standing, stopped⟩ := halted_mem halted member
  exact (before.each e standing).halted stopped

theorem started (before : Sound running) (event : Event) (fresh : event.id ∉ ids running) :
    Sound (running ++ [.start event]) := by
  constructor
  · rw [ids, List.map_append]
    refine List.nodup_append.mpr ⟨before.distinct, by simp, ?_⟩
    intro id old id' new same
    obtain rfl : id' = event.id := by simpa [RunningEvent.id, RunningEvent.start] using new
    exact fresh (same ▸ old)
  · intro other member
    rcases List.mem_append.mp member with old | new
    · exact before.each other old
    · obtain rfl := List.mem_singleton.mp new
      exact RunningEvent.start_wellFormed event

theorem dropped (before : Sound running) (kept : running'.Sublist running) : Sound running' where
  distinct := before.distinct.sublist (kept.map _)
  each other member := before.each other (kept.subset member)

end Sound

namespace Move

variable {free other : EventId → Prop} {running running' : List (RunningEvent A)}
  {calls : List Call}

theorem mono (move : Move free running calls running') (wider : ∀ id, free id → other id) :
    Move other running calls running' := by
  cases move with
  | driven here live mine driven => exact .driven here live (wider _ mine) driven
  | halted halted hooks => exact .halted halted hooks
  | started event fresh mine => exact .started event fresh (wider _ mine)
  | dropped kept => exact .dropped kept
  | apart foreign => exact .apart foreign

theorem sound (move : Move free running calls running') (before : Sound running) :
    Sound running' := by
  cases move with
  | driven here live _ driven => exact before.driven here live driven
  | halted halted _ => exact before.halted halted
  | started event fresh _ => exact before.started event fresh
  | dropped kept => exact before.dropped kept
  | apart => exact before

end Move

namespace Moves

variable {free other : EventId → Prop} {running middle running' : List (RunningEvent A)}
  {calls later : List Call}

theorem once (move : Move free running calls running') : Moves free running calls running' := by
  simpa using Moves.more move .still

theorem trans (first : Moves free running calls middle)
    (second : Moves free middle later running') :
    Moves free running (calls ++ later) running' := by
  induction first with
  | still => exact second
  | more move _ ih =>
    rw [List.append_assoc]
    exact .more move (ih second)

theorem mono (moves : Moves free running calls running') (wider : ∀ id, free id → other id) :
    Moves other running calls running' := by
  induction moves with
  | still => exact .still
  | more move _ ih => exact .more (move.mono wider) ih

theorem sound (moves : Moves free running calls running') (before : Sound running) :
    Sound running' := by
  induction moves with
  | still => exact before
  | more move _ ih => exact ih (move.sound before)

end Moves

end MapScript
