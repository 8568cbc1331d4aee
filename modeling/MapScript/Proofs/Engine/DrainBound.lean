import Mathlib.Data.List.Count
import Mathlib.Data.List.Perm.Subperm
import MapScript.Proofs.Engine.DrainLoop
import MapScript.Proofs.Engine.Kinds

set_option autoImplicit false

namespace MapScript

open Number Journal

variable {W A : Type}

inductive Stage where
  | built
  | called (hook : Hook)
  deriving DecidableEq, Repr

def Stage.rank : Stage → Nat
  | .built => 0
  | .called .start => 1
  | .called .update => 2
  | .called .cleanup => 3
  | .called .cancel => 4

structure Handling where
  owner : Option EventId
  slot : Nat
  stage : Stage
  deriving DecidableEq, Repr

namespace Handling

def Before (first second : Handling) : Prop :=
  first.slot < second.slot ∨ first.slot = second.slot ∧ first.stage.rank < second.stage.rank

def place (h : Handling) : Nat :=
  5 * h.slot + h.stage.rank

theorem rank_lt (stage : Stage) : stage.rank < 5 := by
  rcases stage with _ | _ | _ | _ | _ <;> decide

theorem before_iff {first second : Handling} :
    first.Before second ↔ first.place < second.place := by
  have small := rank_lt first.stage
  have small' := rank_lt second.stage
  simp only [Before, place]
  omega

end Handling

@[simp] def Notice.handling? : Notice → Option Handling
  | .actionCreated owner slot _ => some ⟨owner, slot, .built⟩
  | .called call => some ⟨call.owner, call.slot, .called call.hook⟩
  | _ => none

namespace Journal

def handlings (journal : Journal) : List Handling :=
  journal.filterMap Notice.handling?

@[simp] theorem handlings_nil : handlings [] = [] := rfl

@[simp] theorem handlings_cons (notice : Notice) (rest : Journal) :
    handlings (notice :: rest) = notice.handling?.toList ++ handlings rest := by
  rw [handlings, handlings, List.filterMap_cons]
  cases notice.handling? <;> rfl

@[simp] theorem handlings_append (earlier later : Journal) :
    handlings (earlier ++ later) = handlings earlier ++ handlings later :=
  List.filterMap_append

theorem handlings_of_effects {journal : Journal} (effects : journal.Only Notice.effects) :
    handlings journal = [] := by
  refine List.filterMap_eq_nil_iff.mpr fun notice member => ?_
  have known := effects notice member
  cases notice <;> first | rfl | cases known

end Journal

theorem callHook_handlings {B : Type} [Replies B] (kind : String) (phase : Phase) (hook : Hook)
    (slot : Nat) (moment : Moment) (hookOf : A → Moment → Scene W → Outcome W A B) (action : A)
    (scene : Scene W) :
    handlings (callHook kind phase hook slot moment hookOf action scene).journal =
      [⟨moment.event, slot, .called hook⟩] := by
  have silent := handlings_of_effects
    (scene.state.applyAll_effects (hookOf action moment scene).effects)
  simp [callHook, silent]

section Hooks

variable {factories : Dictionary (ActionFactory A)} {dt : Seconds} {d : Drive W A} {slot : Action}
  {journal : Journal}

theorem create_handlings {action : A} (created : d.create factories slot = (.ok action, journal)) :
    handlings journal = [⟨some d.event.id, d.event.cursor, .built⟩] := by
  unfold Drive.create createAction at created
  split at created
  · cases created
  · split at created <;> cases created
    rfl

theorem refused_handlings {cause : EngineError}
    (refused : d.create factories slot = (.error cause, journal)) : handlings journal = [] := by
  unfold Drive.create createAction at refused
  split at refused
  · cases refused
    rfl
  · split at refused <;> cases refused
    rfl

variable [ActionHandler W A]

theorem startHook_handlings (action : A) : handlings (d.startHook dt slot action).journal =
    [⟨some d.event.id, d.event.cursor, .called .start⟩] :=
  callHook_handlings _ _ _ _ _ _ _ _

theorem updateHook_handlings (action : A) : handlings (d.updateHook dt slot action).journal =
    [⟨some d.event.id, d.event.cursor, .called .update⟩] :=
  callHook_handlings _ _ _ _ _ _ _ _

theorem closing_handlings (current : InFlight A) :
    handlings (d.closing dt slot current).journal =
      [⟨some d.event.id, d.event.cursor, .called .cleanup⟩] :=
  callHook_handlings _ _ _ _ _ _ _ _

end Hooks

/-- `Ascends owner slots place handlings`: what is done with the actions of one event, from a place
of its script on, each time at a later place. -/
inductive Ascends (owner : EventId) (slots : Nat) : Nat → List Handling → Prop
  | done (place : Nat) : Ascends owner slots place []
  | step {place slot : Nat} {stage : Stage} {later : List Handling} (inside : slot < slots)
      (ahead : place ≤ Handling.place ⟨some owner, slot, stage⟩)
      (rest : Ascends owner slots (Handling.place ⟨some owner, slot, stage⟩ + 1) later) :
      Ascends owner slots place (⟨some owner, slot, stage⟩ :: later)

namespace Ascends

variable {owner : EventId} {slots place lower : Nat} {handlings : List Handling}

theorem mono (ascends : Ascends owner slots place handlings) (le : lower ≤ place) :
    Ascends owner slots lower handlings := by
  cases ascends with
  | done => exact .done lower
  | step inside ahead rest => exact .step inside (Nat.le_trans le ahead) rest

theorem each (ascends : Ascends owner slots place handlings) :
    ∀ h ∈ handlings, h.owner = some owner ∧ place ≤ h.place ∧ h.slot < slots := by
  induction ascends with
  | done => simp
  | step inside ahead _ ih =>
    refine List.forall_mem_cons.mpr ⟨⟨rfl, ahead, inside⟩, fun h member => ?_⟩
    obtain ⟨owned, behind, within⟩ := ih h member
    exact ⟨owned, by omega, within⟩

theorem ordered (ascends : Ascends owner slots place handlings) :
    handlings.Pairwise Handling.Before := by
  induction ascends with
  | done => exact .nil
  | step _ _ rest ih =>
    refine .cons (fun h member => ?_) ih
    exact Handling.before_iff.mpr (rest.each h member).2.1

end Ascends

section Counting

variable {owner : EventId} {slots first : Nat} {handlings : List Handling}

theorem nodup_of_ordered (ordered : handlings.Pairwise Handling.Before) : handlings.Nodup :=
  ordered.imp fun before same => by
    rw [same, Handling.before_iff] at before
    exact Nat.lt_irrefl _ before

theorem countP_stage_le (ordered : handlings.Pairwise Handling.Before)
    (inside : ∀ h ∈ handlings, first ≤ h.slot ∧ h.slot < slots) (stage : Stage) :
    handlings.countP (·.stage = stage) ≤ slots - first := by
  let own := handlings.filter (·.stage = stage)
  have distinct : (own.map Handling.slot).Nodup := by
    refine List.pairwise_map.mpr ((ordered.filter _).imp_of_mem fun {h k} member member' before => ?_)
    have here : h.stage = stage := by simpa using (List.mem_filter.mp member).2
    have there : k.stage = stage := by simpa using (List.mem_filter.mp member').2
    rcases before with less | ⟨_, less⟩
    · exact Nat.ne_of_lt less
    · rw [here, there] at less
      exact absurd less (Nat.lt_irrefl _)
  have covered : own.map Handling.slot ⊆ List.range' first (slots - first) := by
    intro slot member
    obtain ⟨h, kept, rfl⟩ := List.mem_map.mp member
    obtain ⟨low, high⟩ := inside h (List.mem_filter.mp kept).1
    rw [List.mem_range'_1]
    omega
  calc
    handlings.countP (·.stage = stage) = (own.map Handling.slot).length := by
      rw [List.length_map, List.countP_eq_length_filter]
    _ ≤ (List.range' first (slots - first)).length :=
      (List.subperm_of_subset distinct covered).length_le
    _ = slots - first := List.length_range'

theorem countP_slot_le (distinct : handlings.Nodup)
    (owned : ∀ h ∈ handlings, h.owner = some owner) (slot : Nat) (stage : Stage) :
    handlings.countP (fun h => h.slot = slot ∧ h.stage = stage) ≤ 1 := by
  have same : handlings.countP (fun h => h.slot = slot ∧ h.stage = stage) =
      handlings.count ⟨some owner, slot, stage⟩ := by
    refine List.countP_congr fun h member => ?_
    obtain ⟨holder, slot', stage'⟩ := h
    obtain rfl : holder = some owner := owned _ member
    simp
  rw [same]
  exact List.nodup_iff_count_le_one.mp distinct _

end Counting

def RunningEvent.place (e : RunningEvent A) : Nat :=
  5 * e.cursor + if e.current.isSome then 2 else 0

theorem RunningEvent.place_flying {e : RunningEvent A} {current : InFlight A}
    (flying : e.current = some current) : e.place = 5 * e.cursor + 2 := by
  simp [RunningEvent.place, flying]

namespace Ascends

variable {e : RunningEvent A} {slot : Action} {later : List Handling}

theorem started (here : e.slot? = some slot) (idle : e.current = none)
    (rest : Ascends e.id e.declaration.actions.length (5 * e.cursor + 2) later) :
    Ascends e.id e.declaration.actions.length e.place
      (⟨some e.id, e.cursor, .built⟩ :: ⟨some e.id, e.cursor, .called .start⟩ :: later) := by
  have within := RunningEvent.cursor_lt_of_slot here
  have standing : e.place = 5 * e.cursor := by simp [RunningEvent.place, idle]
  exact .step within (Nat.le_of_eq standing) (.step within (Nat.le_refl _) rest)

theorem updated {current : InFlight A} (here : e.slot? = some slot)
    (flying : e.current = some current)
    (rest : Ascends e.id e.declaration.actions.length (5 * e.cursor + 3) later) :
    Ascends e.id e.declaration.actions.length e.place
      (⟨some e.id, e.cursor, .called .update⟩ :: later) := by
  have standing := RunningEvent.place_flying flying
  exact .step (RunningEvent.cursor_lt_of_slot here) (Nat.le_of_eq standing) rest

theorem cleaned (here : e.slot? = some slot)
    (rest : Ascends e.id e.declaration.actions.length (5 * (e.cursor + 1)) later) :
    Ascends e.id e.declaration.actions.length (5 * e.cursor + 3)
      (⟨some e.id, e.cursor, .called .cleanup⟩ :: later) := by
  have last : Handling.place ⟨some e.id, e.cursor, .called .cleanup⟩ = 5 * e.cursor + 3 := rfl
  exact .step (RunningEvent.cursor_lt_of_slot here) (Nat.le_refl _) (rest.mono (by omega))

end Ascends

section Walks

variable [ActionHandler W A] {factories : Dictionary (ActionFactory A)} {dt : Seconds}
  {token : ScopeToken} {d d' : Drive W A} {journal : Journal} {result : Except EngineError Drain}

theorem Walk.ascends (walk : Walk factories dt token d journal d' result) :
    Ascends d.event.id d.event.declaration.actions.length d.event.place (handlings journal) := by
  induction walk with
  | complete => exact .done _
  | refused _ _ created =>
    rw [refused_handlings created]
    exact .done _
  | startFailed here idle created =>
    simpa [create_handlings created, startHook_handlings] using .started here idle (.done _)
  | startedAway here idle created =>
    simpa [create_handlings created, startHook_handlings] using .started here idle (.done _)
  | started here idle created _ _ _ ih =>
    simpa [create_handlings created, startHook_handlings] using .started here idle ih
  | @skipped d _ _ _ _ _ _ flying _ ih =>
    -- Nothing is done with the action of this slot, and the walk goes on in the next one.
    have standing := RunningEvent.place_flying flying
    have next : d.advanced.event.place = 5 * (d.event.cursor + 1) := rfl
    exact ih.mono (by omega)
  | updateFailed here flying | held here flying =>
    simpa [updateHook_handlings] using .updated here flying (.done _)
  | cleanupFailed here flying | finishedAway here flying =>
    simpa [updateHook_handlings, closing_handlings] using
      .updated here flying (.cleaned here (.done _))
  | finished here flying _ _ _ _ _ ih =>
    simpa [updateHook_handlings, closing_handlings] using .updated here flying (.cleaned here ih)

end Walks

/-- What one drain does at most, from its slot on to the end of the script. -/
structure Bounded [ActionHandler W A] (factories : Dictionary (ActionFactory A)) (dt : Seconds)
    (d : Drive W A) (first slots : Nat) : Prop where
  returns : ∀ spare, loopWithin factories dt d.state.token (2 * (slots - first) + 1 + spare) d =
    some (drain factories dt d)
  own : ∀ h ∈ handlings (drain factories dt d).journal, h.owner = some d.event.id
  inside : ∀ h ∈ handlings (drain factories dt d).journal, first ≤ h.slot ∧ h.slot < slots
  ordered : (handlings (drain factories dt d).journal).Pairwise Handling.Before
  once : ∀ slot stage, (handlings (drain factories dt d).journal).countP
    (fun h => h.slot = slot ∧ h.stage = stage) ≤ 1
  few : ∀ stage, (handlings (drain factories dt d).journal).countP (·.stage = stage) ≤ slots - first

theorem drain_is_bounded [ActionHandler W A] (factories : Dictionary (ActionFactory A))
    (dt : Seconds) (d : Drive W A) :
    Bounded factories dt d d.event.cursor d.event.declaration.actions.length := by
  have ascends := (drain_walk factories dt d).ascends
  have own (h : Handling) (member : h ∈ handlings (drain factories dt d).journal) :
      h.owner = some d.event.id := (ascends.each h member).1
  have inside (h : Handling) (member : h ∈ handlings (drain factories dt d).journal) :
      d.event.cursor ≤ h.slot ∧ h.slot < d.event.declaration.actions.length := by
    obtain ⟨_, ahead, within⟩ := ascends.each h member
    have small := Handling.rank_lt h.stage
    simp only [RunningEvent.place, Handling.place] at ahead
    exact ⟨by omega, within⟩
  exact {
    returns := drain_loops factories dt d
    own, inside
    ordered := ascends.ordered
    once := countP_slot_le (nodup_of_ordered ascends.ordered) own
    few := countP_stage_le ascends.ordered inside }

end MapScript
