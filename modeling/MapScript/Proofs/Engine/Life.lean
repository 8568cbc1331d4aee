import MapScript.Proofs.Engine.Collection

/-!
The life of a running event as the journal tells it: its start, the hooks called for it, the slots
it passes and its end. A journal is orderly for an id if every mark is one that the life before it
allows, and if a drain that passes the last slot is closed at once.
-/

set_option autoImplicit false

namespace MapScript

open Number Journal

variable {W A : Type}

inductive Mark where
  | begun (slots : Nat)
  | called (slot : Nat) (hook : Hook) (reply : Reply)
  | skipped
  | flagged
  | ended

def Notice.mark? (id : EventId) : Notice → Option Mark
  | .eventStarted other _ slots => if other = id then some (.begun slots) else none
  | .called call =>
    if call.owner = some id then some (.called call.slot call.hook call.reply) else none
  | .actionSkipped other _ => if other = id then some .skipped else none
  | .eventCancelled other _ _ => if other = id then some .flagged else none
  | .eventFinished other => if other = id then some .ended else none
  | _ => none

theorem mark_eventStarted (id : EventId) (name : String) (slots : Nat) :
    (Notice.eventStarted id name slots).mark? id = some (.begun slots) := by
  simp [Notice.mark?]

theorem mark_called {id : EventId} {call : Call} (owned : call.owner = some id) :
    (Notice.called call).mark? id = some (.called call.slot call.hook call.reply) := by
  simp [Notice.mark?, owned]

theorem mark_eventCancelled (id : EventId) (name : String) (cursor : Nat) :
    (Notice.eventCancelled id name cursor).mark? id = some .flagged := by
  simp [Notice.mark?]

theorem mark_eventFinished (id : EventId) : (Notice.eventFinished id).mark? id = some .ended := by
  simp [Notice.mark?]

theorem mark_actionSkipped (id : EventId) (slot : Action) :
    (Notice.actionSkipped id slot).mark? id = some .skipped := by
  simp [Notice.mark?]

theorem begun_of_mark {id : EventId} {notice : Notice} {slots : Nat}
    (marked : notice.mark? id = some (.begun slots)) :
    ∃ name, notice = .eventStarted id name slots := by
  cases notice <;> simp [Notice.mark?] at marked
  obtain ⟨rfl, rfl⟩ := marked
  exact ⟨_, rfl⟩

def Mark.passes : Mark → Bool
  | .called _ .cleanup .finished | .skipped => true
  | _ => false

structure Life where
  slots : Nat
  cursor : Nat
  action : Option ActionState
  cancelled : Bool

def RunningEvent.life (e : RunningEvent A) : Life :=
  ⟨e.declaration.actions.length, e.cursor, e.actionState?, e.cancelled⟩

namespace Life

def unborn : Life :=
  ⟨0, 0, none, true⟩

def follow (l : Life) : Mark → Life
  | .begun slots => ⟨slots, 0, none, false⟩
  | .called _ .start .finished => { l with action := some .running }
  | .called _ .update .finished => { l with action := some .done }
  | .called _ .cleanup .finished => { l with cursor := l.cursor + 1, action := none }
  | .called _ .cancel _ => { l with action := some .cancelled }
  | .skipped => { l with cursor := l.cursor + 1, action := none }
  | .flagged => { l with cancelled := true }
  | _ => l

def Allows (l : Life) : Mark → Prop
  | .begun _ => True
  | .called slot .start _ =>
    slot = l.cursor ∧ l.cursor < l.slots ∧ l.action = none ∧ l.cancelled = false
  | .called slot .update _ =>
    slot = l.cursor ∧ (l.action = some .running ∨ l.action = some .done) ∧ l.cancelled = false
  | .called slot .cleanup _ => slot = l.cursor ∧ l.action = some .done ∧ l.cancelled = false
  | .called slot .cancel _ => slot = l.cursor ∧ l.action = some .running
  | .skipped => l.action = some .cancelled ∧ l.cancelled = false
  | .flagged => l.action ≠ some .running ∧ l.cancelled = false
  | .ended => l.cursor = l.slots ∧ l.action = none ∧ l.cancelled = false

end Life

namespace Journal

def marks (id : EventId) (journal : Journal) : List Mark :=
  journal.filterMap (Notice.mark? id)

def replay (id : EventId) (l : Life) (journal : Journal) : Life :=
  (marks id journal).foldl Life.follow l

inductive Closes (id : EventId) : Journal → Prop
  | noted (action : Action) {rest : Journal} (closes : Closes id rest) :
      Closes id (.actionFinished id action :: rest)
  | finished (rest : Journal) : Closes id (.eventFinished id :: rest)
  | abandoned (rest : Journal) : Closes id (.scopeAbandoned id :: rest)

/-- `Orderly id l journal l'`: the journal turns one life of the event into the other. -/
def Orderly (id : EventId) : Life → Journal → Life → Prop
  | l, [], l' => l = l'
  | l, notice :: rest, l' =>
    match notice.mark? id with
    | none => Orderly id l rest l'
    | some mark =>
      l.Allows mark ∧ (mark.passes = true → (l.follow mark).cursor = l.slots → Closes id rest) ∧
        Orderly id (l.follow mark) rest l'

variable {id : EventId} {l m l' : Life} {notice : Notice} {mark : Mark}
  {earlier later rest : Journal}

@[simp] theorem marks_nil : marks id [] = [] := rfl

@[simp] theorem marks_cons :
    marks id (notice :: rest) = (notice.mark? id).toList ++ marks id rest := by
  rw [marks, marks, List.filterMap_cons]
  cases notice.mark? id <;> rfl

@[simp] theorem marks_append : marks id (earlier ++ later) = marks id earlier ++ marks id later :=
  List.filterMap_append

@[simp] theorem marks_said (records : List Record) : marks id (records.map Notice.said) = [] := by
  induction records with
  | nil => rfl
  | cons record rest ih => simpa [Notice.mark?] using ih

@[simp] theorem replay_nil : replay id l [] = l := rfl

@[simp] theorem replay_append :
    replay id l (earlier ++ later) = replay id (replay id l earlier) later := by
  simp [replay]

theorem replay_of_unmarked (unmarked : marks id rest = []) : replay id l rest = l := by
  simp [replay, unmarked]

theorem orderly_cons_of_none (silent : notice.mark? id = none) :
    Orderly id l (notice :: rest) l' ↔ Orderly id l rest l' := by
  simp [Orderly, silent]

theorem orderly_cons_of_some (marked : notice.mark? id = some mark) :
    Orderly id l (notice :: rest) l' ↔ l.Allows mark ∧
      (mark.passes = true → (l.follow mark).cursor = l.slots → Closes id rest) ∧
      Orderly id (l.follow mark) rest l' := by
  simp [Orderly, marked]

theorem orderly_of_unmarked (unmarked : marks id earlier = []) :
    Orderly id l (earlier ++ later) l' ↔ Orderly id l later l' := by
  induction earlier with
  | nil => rfl
  | cons notice rest ih =>
    obtain ⟨silent, unmarked⟩ := List.append_eq_nil_iff.mp (marks_cons.symm.trans unmarked)
    rw [List.cons_append, orderly_cons_of_none (Option.toList_eq_nil_iff.mp silent), ih unmarked]

theorem Closes.append (closes : Closes id earlier) (later : Journal) :
    Closes id (earlier ++ later) := by
  induction closes with
  | noted action _ ih => exact .noted action ih
  | finished rest => exact .finished _
  | abandoned rest => exact .abandoned _

theorem Orderly.append (first : Orderly id l earlier m) (second : Orderly id m later l') :
    Orderly id l (earlier ++ later) l' := by
  induction earlier generalizing l with
  | nil =>
    cases first
    exact second
  | cons notice rest ih =>
    rw [List.cons_append]
    cases marked : notice.mark? id with
    | none =>
      rw [orderly_cons_of_none marked] at first ⊢
      exact ih first
    | some mark =>
      rw [orderly_cons_of_some marked] at first ⊢
      obtain ⟨allowed, closes, orderly⟩ := first
      exact ⟨allowed, fun passes last => (closes passes last).append later, ih orderly⟩

theorem Orderly.behind (whole : Orderly id l (earlier ++ later) l') :
    Orderly id (replay id l earlier) later l' := by
  induction earlier generalizing l with
  | nil => exact whole
  | cons notice rest ih =>
    rw [List.cons_append] at whole
    cases marked : notice.mark? id with
    | none =>
      rw [orderly_cons_of_none marked] at whole
      simpa [replay, marked] using ih whole
    | some mark =>
      rw [orderly_cons_of_some marked] at whole
      simpa [replay, marked] using ih whole.2.2

end Journal

section Hooks

variable {id : EventId} {l : Life} {later : Journal}

theorem ScopeState.apply_marks (s : ScopeState) (effect : Effect) :
    marks id (s.apply effect).2 = [] := by
  cases effect <;> simp [apply, load, reset, Notice.mark?]

theorem ScopeState.applyAll_marks (s : ScopeState) (effects : List Effect) :
    marks id (s.applyAll effects).2 = [] := by
  induction effects generalizing s with
  | nil => rfl
  | cons effect rest ih => simp [applyAll, apply_marks, ih]

theorem callHook_marks {B : Type} [Replies B] (kind : String) (phase : Phase) (hook : Hook)
    (slot : Nat) (moment : Moment) (hookOf : A → Moment → Scene W → Outcome W A B) (action : A)
    (scene : Scene W) :
    marks id (callHook kind phase hook slot moment hookOf action scene).journal =
      if moment.event = some id then
        [.called slot hook (replyOf (hookOf action moment scene).result)]
      else [] := by
  simp only [callHook, marks_append, ScopeState.applyAll_marks, List.nil_append, marks_cons,
    marks_nil, List.append_nil, Notice.mark?]
  split <;> rfl

variable (id) in
theorem createAction_marks (factories : Dictionary (ActionFactory A)) (owner : Option EventId)
    (slot : Nat) (name : String) (parameters : List String) :
    marks id (createAction factories owner slot name parameters).2 = [] := by
  unfold createAction
  split
  next => simp [Notice.mark?]
  next => split <;> simp [Notice.mark?]

variable [ActionHandler W A] {factories : Dictionary (ActionFactory A)} {dt : Seconds}
  {token : ScopeToken} {d d' : Drive W A} {slot : Action} {journal : Journal}
  {result : Except EngineError Drain}

omit [ActionHandler W A] in
theorem create_marks {created : Except EngineError A}
    (eq : d.create factories slot = (created, journal)) : marks id journal = [] := by
  have silent := createAction_marks id factories (some d.event.id) d.event.cursor slot.kind
    slot.parameters
  unfold Drive.create at eq
  rwa [eq] at silent

structure Heard (owner : EventId) (slot : Nat) (hook : Hook) (reply : Reply) (journal : Journal) :
    Prop where
  marks_eq : ∀ id, marks id journal = if owner = id then [.called slot hook reply] else []
  orderly_iff : ∀ l later l', Orderly owner l (journal ++ later) l' ↔
    l.Allows (.called slot hook reply) ∧
      (Mark.passes (.called slot hook reply) = true →
        (l.follow (.called slot hook reply)).cursor = l.slots → Closes owner later) ∧
      Orderly owner (l.follow (.called slot hook reply)) later l'

omit [ActionHandler W A] in
theorem callHook_heard {B : Type} [Replies B] (kind : String) (phase : Phase) (hook : Hook)
    (owner : EventId) (slot : Nat) (hookOf : A → Moment → Scene W → Outcome W A B) (action : A)
    (scene : Scene W) :
    Heard owner slot hook
      (replyTo (callHook kind phase hook slot ⟨some owner, dt⟩ hookOf action scene).result)
      (callHook kind phase hook slot ⟨some owner, dt⟩ hookOf action scene).journal := by
  constructor
  · intro id
    rw [callHook_marks]
    simp [callHook, replyTo_mapError]
  · intro l later l'
    simp only [callHook, replyTo_mapError]
    rw [List.append_assoc, orderly_of_unmarked (scene.state.applyAll_marks _)]
    exact orderly_cons_of_some (mark_called rfl)

variable (dt : Seconds) (slot : Action) (d : Drive W A)

theorem startHook_heard (action : A) : Heard d.event.id d.event.cursor .start
    (replyTo (d.startHook dt slot action).result) (d.startHook dt slot action).journal :=
  callHook_heard _ _ _ _ _ _ _ _

theorem updateHook_heard (current : InFlight A) : Heard d.event.id d.event.cursor .update
    (replyTo (d.updateHook dt slot current.action).result)
    (d.updateHook dt slot current.action).journal :=
  callHook_heard _ _ _ _ _ _ _ _

theorem closing_heard (current : InFlight A) : Heard d.event.id d.event.cursor .cleanup
    (replyTo (d.closing dt slot current).result) (d.closing dt slot current).journal :=
  callHook_heard _ _ _ _ _ _ _ _

end Hooks

section Walks

variable [ActionHandler W A] {factories : Dictionary (ActionFactory A)} {dt : Seconds}
  {token : ScopeToken} {d d' : Drive W A} {journal : Journal} {id : EventId}
  {result : Except EngineError Drain}

theorem Walk.foreign (walk : Walk factories dt token d journal d' result)
    (other : d.event.id ≠ id) :
    marks id journal = [] := by
  induction walk with
  | complete => simp [Notice.mark?, other]
  | refused _ _ created => exact create_marks created
  | startFailed _ _ created =>
    simp [create_marks created, (startHook_heard _ _ _ _).marks_eq, other]
  | startedAway _ _ created =>
    simp [create_marks created, (startHook_heard _ _ _ _).marks_eq, other, Notice.mark?]
  | started _ _ created _ _ _ ih =>
    simp [create_marks created, (startHook_heard _ _ _ _).marks_eq, other, Notice.mark?, ih other]
  | skipped _ _ _ ih => simp [other, Notice.mark?, ih other]
  | updateFailed | held => simp [(updateHook_heard _ _ _ _).marks_eq, other]
  | cleanupFailed =>
    simp [(updateHook_heard _ _ _ _).marks_eq, (closing_heard _ _ _ _).marks_eq, other]
  | finishedAway =>
    simp [(updateHook_heard _ _ _ _).marks_eq, (closing_heard _ _ _ _).marks_eq, other,
      Notice.mark?]
  | finished _ _ _ _ _ _ _ ih =>
    simp [(updateHook_heard _ _ _ _).marks_eq, (closing_heard _ _ _ _).marks_eq, other,
      Notice.mark?, ih other]

end Walks

namespace Heard

variable {e : RunningEvent A} {slot : Action} {current : InFlight A} {reply : Reply}
  {journal later : Journal} {l' : Life}

theorem started (heard : Heard e.id e.cursor .start reply journal) (here : e.slot? = some slot)
    (idle : e.current = none) (live : e.cancelled = false)
    (rest : Orderly e.id (e.life.follow (.called e.cursor .start reply)) later l') :
    Orderly e.id e.life (journal ++ later) l' := by
  refine (heard.orderly_iff _ _ _).mpr ⟨⟨rfl, RunningEvent.cursor_lt_of_slot here, ?_, live⟩,
    nofun, rest⟩
  simp [RunningEvent.life, RunningEvent.actionState?, idle]

theorem updated (heard : Heard e.id e.cursor .update reply journal)
    (flying : e.current = some current) (live : e.cancelled = false)
    (able : current.state ≠ .cancelled)
    (rest : Orderly e.id (e.life.follow (.called e.cursor .update reply)) later l') :
    Orderly e.id e.life (journal ++ later) l' := by
  refine (heard.orderly_iff _ _ _).mpr ⟨⟨rfl, ?_, live⟩, nofun, rest⟩
  cases state : current.state <;> simp_all [RunningEvent.life, RunningEvent.actionState?]

theorem cleaned (heard : Heard e.id e.cursor .cleanup reply journal) (live : e.cancelled = false)
    (closes : reply = .finished → e.cursor + 1 = e.declaration.actions.length → Closes e.id later)
    (rest : Orderly e.id ((e.life.follow (.called e.cursor .update .finished)).follow
      (.called e.cursor .cleanup reply)) later l') :
    Orderly e.id (e.life.follow (.called e.cursor .update .finished)) (journal ++ later) l' := by
  refine (heard.orderly_iff _ _ _).mpr ⟨⟨rfl, rfl, live⟩, ?_, rest⟩
  cases reply with
  | finished => exact fun _ last => closes rfl last
  | running | failed => exact nofun

end Heard

section Walks

variable [ActionHandler W A] {factories : Dictionary (ActionFactory A)} {dt : Seconds}
  {token : ScopeToken} {d d' : Drive W A} {journal later : Journal}
  {result : Except EngineError Drain} {l' : Life}

theorem Walk.closes_of_past (walk : Walk factories dt token d journal d' result)
    (past : d.event.slot? = none) (later : Journal) : Closes d.event.id (journal ++ later) := by
  cases walk with
  | complete => exact .finished _
  | _ => simp_all

theorem life_polled (dt : Seconds) (slot : Action) {current : InFlight A}
    (flying : d.event.current = some current) :
    (d.polled dt slot current).event.life = d.event.life := by
  simp [RunningEvent.life, RunningEvent.actionState?, flying, Drive.polled, Drive.after]

omit [ActionHandler W A] in
theorem slot_none_of_last {e : RunningEvent A}
    (last : e.cursor + 1 = e.declaration.actions.length) :
    e.advance.slot? = none := by
  simp [RunningEvent.slot?, RunningEvent.advance, last]

theorem Walk.orderly (walk : Walk factories dt token d journal d' result)
    (live : d.event.cancelled = false) (wf : d.event.WellFormed)
    (closes : result = .ok .scopeChanged → Closes d.event.id later)
    (behind : Orderly d.event.id d'.event.life later l') :
    Orderly d.event.id d.event.life (journal ++ later) l' := by
  induction walk with
  | @complete d past =>
    have done : d.event.cursor = d.event.declaration.actions.length :=
      Nat.le_antisymm wf.cursor_le (by simpa [RunningEvent.slot?] using past)
    have idle : d.event.current = none := by
      by_contra flying
      have within := wf.cursor_lt (Option.isSome_iff_ne_none.mpr flying)
      omega
    rw [List.cons_append, orderly_cons_of_some (mark_eventFinished _)]
    have resting : d.event.actionState? = none := by simp [RunningEvent.actionState?, idle]
    exact ⟨⟨done, resting, live⟩, by simp [Mark.passes], behind⟩
  | refused _ _ created => exact (orderly_of_unmarked (create_marks created)).mpr behind
  | @startFailed d slot _ action _ here idle created failed =>
    have heard := startHook_heard dt slot d action
    rw [failed] at heard
    rw [List.append_assoc, orderly_of_unmarked (create_marks created)]
    apply heard.started here idle live
    have same : (d.after (d.startHook dt slot action) none).event.life = d.event.life := by
      simp [RunningEvent.life, RunningEvent.actionState?, idle, Drive.after]
    exact same ▸ behind
  | @startedAway d slot _ action here idle created ready away =>
    have heard := startHook_heard dt slot d action
    rw [ready] at heard
    rw [List.append_assoc, List.append_assoc, orderly_of_unmarked (create_marks created)]
    apply heard.started here idle live
    exact (orderly_cons_of_none rfl).mpr behind
  | @started d _ slot _ _ action _ here idle created ready same rest ih =>
    have heard := startHook_heard dt slot d action
    rw [ready] at heard
    rw [List.append_assoc, List.append_assoc, List.append_assoc,
      orderly_of_unmarked (create_marks created)]
    apply heard.started here idle live
    refine (orderly_cons_of_none rfl).mpr (ih live ?_ closes behind)
    exact RunningEvent.wellFormed_at_slot here live _ _
  | @skipped d _ slot _ action _ here flying rest ih =>
    rw [List.append_assoc, List.cons_append,
      orderly_cons_of_some (mark_actionSkipped _ _)]
    refine ⟨⟨by simp [RunningEvent.life, RunningEvent.actionState?, flying], live⟩, ?_, ?_⟩
    -- Behind the last slot the rest of the drain can only close it.
    · intro _ last
      exact rest.closes_of_past (slot_none_of_last last) later
    · exact ih live (RunningEvent.wellFormed_advance here live _) closes behind
  | @updateFailed d slot current _ here flying able failed =>
    have heard := updateHook_heard dt slot d current
    rw [failed] at heard
    apply heard.updated flying live able
    exact life_polled dt slot flying ▸ behind
  | @held d slot current here flying able busy =>
    have heard := updateHook_heard dt slot d current
    rw [busy] at heard
    apply heard.updated flying live able
    exact life_polled dt slot flying ▸ behind
  | @cleanupFailed d slot current _ here flying able done failed =>
    have heard := updateHook_heard dt slot d current
    have closing := closing_heard dt slot d current
    rw [done] at heard
    rw [failed] at closing
    rw [List.append_assoc]
    apply heard.updated flying live able
    exact closing.cleaned live (by simp [replyTo]) behind
  | @finishedAway d slot current here flying able done cleaned away =>
    have heard := updateHook_heard dt slot d current
    have closing := closing_heard dt slot d current
    rw [done] at heard
    rw [cleaned] at closing
    rw [List.append_assoc, List.append_assoc]
    apply heard.updated flying live able
    -- With the scope gone the drain stops here, so what follows it has to close it.
    refine closing.cleaned live (fun _ _ => .noted slot (closes rfl)) ?_
    exact (orderly_cons_of_none rfl).mpr behind
  | @finished d _ slot _ current _ here flying able done cleaned same rest ih =>
    have heard := updateHook_heard dt slot d current
    have closing := closing_heard dt slot d current
    rw [done] at heard
    rw [cleaned] at closing
    rw [List.append_assoc, List.append_assoc, List.append_assoc]
    apply heard.updated flying live able
    refine closing.cleaned live ?_ ?_
    · intro _ last
      exact .noted slot (rest.closes_of_past (slot_none_of_last last) later)
    · refine (orderly_cons_of_none rfl).mpr (ih live ?_ closes behind)
      exact RunningEvent.wellFormed_advance here live _

end Walks

end MapScript
