import MapScript.Proofs.Engine.Heeding
import MapScript.Proofs.Engine.Kinds

set_option autoImplicit false

namespace MapScript

open Number Journal

variable {W A : Type}

/-- One turn in a pass: the event as it was found and as it was left, whether it is over with the
event, what was noted about the event itself, and the cancellations that followed. -/
structure Turn (A : Type) where
  found : RunningEvent A
  left : RunningEvent A
  removed : Bool
  own : Journal
  after : Journal

namespace Turn

def journal (t : Turn A) : Journal :=
  t.own ++ t.after

def requests (t : Turn A) : List CancelRequest :=
  pending [] t.own

end Turn

def requestsOf (turns : List (Turn A)) : List CancelRequest :=
  turns.flatMap Turn.requests

def remaining (W : Type) [ActionHandler W A] (later : List CancelRequest) :
    List (Turn A) → List (RunningEvent A)
  | [] => []
  | t :: turns =>
    if t.removed then remaining W later turns
    else t.left.heed W (t.requests ++ requestsOf turns ++ later) :: remaining W later turns

section Rounds

variable [ActionHandler W A]

structure Drains (factories : Dictionary (ActionFactory A)) (dt : Seconds) (token : ScopeToken)
    (world : W) (state : ScopeState) (e : RunningEvent A) (drained : Drained W A) : Prop where
  live : e.cancelled = false
  fresh : state.token = token
  idle : state.requests = []
  drain_eq : drain factories dt ⟨e, world, state⟩ = drained

variable (factories : Dictionary (ActionFactory A)) (policy : FailurePolicy) (dt : Seconds)
  (token : ScopeToken)

inductive Turn.Goes (world : W) (state : ScopeState) : Turn A → W → ScopeState → Prop
  | flagged {e : RunningEvent A} (set : e.cancelled = true) :
      Goes world state ⟨e, e, true, [.cancelledRemoved e.id], []⟩ world state
  | driven {e : RunningEvent A} {drained : Drained W A} {ended : Bool} {notices after : Journal}
      (drains : Drains factories dt token world state e drained)
      (settles : Settles policy e.id drained.result ended notices)
      (same : drained.drive.state.token = token) (cancels : after.Only Notice.cancels)
      (hooks : OnlyCancels (calls after)) :
      Goes world state ⟨e, drained.drive.event, ended, drained.journal ++ notices, after⟩
        drained.drive.world { drained.drive.state with requests := [] }

inductive Turn.Ends (world : W) (state : ScopeState) :
    Turn A → W → ScopeState → Except EngineError Unit → Prop
  | abandoned {e : RunningEvent A} {drained : Drained W A} {ended : Bool} {notices : Journal}
      (drains : Drains factories dt token world state e drained)
      (abandons : Abandons policy e.id drained.result ended notices)
      (away : drained.drive.state.token ≠ token) :
      Ends world state ⟨e, drained.drive.event, ended, drained.journal ++ notices, []⟩
        drained.drive.world drained.drive.state (.ok ())
  | aborted {e : RunningEvent A} {drained : Drained W A} {cause : EngineError} {after : Journal}
      (drains : Drains factories dt token world state e drained) (strict : policy = .abort)
      (failed : drained.result = .error cause) (same : drained.drive.state.token = token)
      (cancels : after.Only Notice.cancels) (hooks : OnlyCancels (calls after)) :
      Ends world state
        ⟨e, drained.drive.event, false, drained.journal ++ [.frameAborted e.id cause], after⟩
        drained.drive.world { drained.drive.state with requests := [] } (.error cause)
  | lost {e : RunningEvent A} {drained : Drained W A} {cause : EngineError}
      (drains : Drains factories dt token world state e drained) (strict : policy = .abort)
      (failed : drained.result = .error cause) (away : drained.drive.state.token ≠ token) :
      Ends world state
        ⟨e, drained.drive.event, false, drained.journal ++ [.frameAborted e.id cause], []⟩
        drained.drive.world drained.drive.state (.error cause)

/-- `Round world state todo turns left world' state' result`: the events `todo` wait for their
turns, and at the end `left` still do. An event that waits heeds the requests of each turn. -/
inductive Round : W → ScopeState → List (RunningEvent A) → List (Turn A) → List (RunningEvent A) →
    W → ScopeState → Except EngineError Unit → Prop
  | closed (world : W) (state : ScopeState) (fresh : state.token = token) :
      Round world state [] [] [] world state (.ok ())
  | goes {world world₁ world' : W} {state state₁ state' : ScopeState} {t : Turn A}
      {rest left : List (RunningEvent A)} {turns : List (Turn A)}
      {result : Except EngineError Unit}
      (goes : t.Goes factories policy dt token world state world₁ state₁)
      (later : Round world₁ state₁ (rest.map (RunningEvent.heed W t.requests)) turns left world'
        state' result) :
      Round world state (t.found :: rest) (t :: turns) left world' state' result
  | ends {world world' : W} {state state' : ScopeState} {t : Turn A}
      (rest : List (RunningEvent A)) {result : Except EngineError Unit}
      (ends : t.Ends factories policy dt token world state world' state' result) :
      Round world state (t.found :: rest) [t] (rest.map (RunningEvent.heed W t.requests)) world'
        state' result

end Rounds

def unfinished (finished : List EventId) (running : List (RunningEvent A)) :
    List (RunningEvent A) :=
  running.filter fun e => !finished.contains e.id

section Lists

variable {finished : List EventId} {past todo : List (RunningEvent A)} {e e' : RunningEvent A}

theorem unfinished_append (finished : List EventId) (past todo : List (RunningEvent A)) :
    unfinished finished (past ++ todo) = unfinished finished past ++ unfinished finished todo :=
  List.filter_append past todo

theorem apart_of_order {running : List (RunningEvent A)} (order : running = past ++ e :: todo)
    (distinct : (ids running).Nodup) : e.id ∉ ids past ∧ e.id ∉ ids todo := by
  rw [order, ids, List.map_append, List.map_cons, List.nodup_append] at distinct
  obtain ⟨_, waiting, clash⟩ := distinct
  exact ⟨fun before => clash _ before _ List.mem_cons_self rfl, (List.nodup_cons.mp waiting).1⟩

theorem waiting_finish (apart : e.id ∉ ids todo)
    (waiting : ∀ id ∈ finished, id ∉ ids (e :: todo)) :
    ∀ id ∈ finished ++ [e.id], id ∉ ids todo := by
  intro id listed
  rcases List.mem_append.mp listed with before | now
  · exact fun later => waiting id before (List.mem_cons_of_mem _ later)
  · rwa [List.mem_singleton.mp now]

theorem unfinished_waiting (waiting : ∀ id ∈ finished, id ∉ ids todo) :
    unfinished finished todo = todo := by
  refine List.filter_eq_self.mpr fun e standing => ?_
  have absent : e.id ∉ finished := fun listed => waiting e.id listed (List.mem_map_of_mem standing)
  simp [absent]

theorem waits_first {running : List (RunningEvent A)} {index : Nat} (order : running = past ++ todo)
    (place : past.length = index) (here : running[index]? = some e) : ∃ rest, todo = e :: rest := by
  rw [order, List.getElem?_append_right (Nat.le_of_eq place), place, Nat.sub_self] at here
  cases todo with
  | nil => cases here
  | cons first rest =>
    obtain rfl := Option.some.inj here
    exact ⟨rest, rfl⟩

theorem Sweep.afterVisit_finished (s : Sweep W A) (index : Nat) (event : RunningEvent A)
    (drive : Drive W A) (ended : Bool) : (s.afterVisit index event drive ended).finished =
      if ended then s.finished ++ [event.id] else s.finished := by
  cases ended <;> rfl

theorem Sweep.afterVisit_world (s : Sweep W A) (index : Nat) (event : RunningEvent A)
    (drive : Drive W A) (ended : Bool) :
    (s.afterVisit index event drive ended).world = drive.world := by
  cases ended <;> rfl

variable [ActionHandler W A]

theorem unfinished_passed (ended : Bool) (requests : List CancelRequest) (same : e'.id = e.id)
    (apart : e.id ∉ ids past) (waiting : e.id ∉ finished) :
    unfinished (if ended then finished ++ [e.id] else finished)
        ((past ++ [e']).map (RunningEvent.heed W requests)) =
      unfinished finished (past.map (RunningEvent.heed W requests)) ++
        if ended then [] else [e'.heed W requests] := by
  rw [List.map_append, unfinished_append]
  cases ended with
  | false => simp [unfinished, same, waiting]
  | true =>
    have others : unfinished (finished ++ [e.id]) (past.map (RunningEvent.heed W requests)) =
        unfinished finished (past.map (RunningEvent.heed W requests)) := by
      refine List.filter_congr fun other standing => ?_
      have different : other.id ≠ e.id := by
        rintro same
        rw [← ids_heed (W := W) requests past, ← same] at apart
        exact apart (List.mem_map_of_mem standing)
      simp [different]
    simp only [if_true, others]
    simp [unfinished, same]

end Lists

section Pass

variable [ActionHandler W A] {factories : Dictionary (ActionFactory A)} {policy : FailurePolicy}
  {dt : Seconds} {token : ScopeToken} {index : Nat} {s s' : Sweep W A} {journal : Journal}
  {result : Except EngineError Unit} {past todo : List (RunningEvent A)} {event : RunningEvent A}
  {drained : Drained W A}

theorem Sweep.Drives.drains (drives : s.Drives factories dt token index event drained)
    (idle : s.state.requests = []) :
    Drains factories dt token s.world s.state event drained :=
  ⟨drives.live, drives.fresh, idle, drives.drain_eq⟩

theorem Drains.requests_eq {world : W} {state : ScopeState}
    (drains : Drains factories dt token world state event drained) :
    drained.drive.state.requests = pending [] drained.journal := by
  rw [← drains.drain_eq, ← drains.idle]
  exact (drain_noted dt factories ⟨event, world, state⟩).requests_eq

theorem afterVisit_order {rest : List (RunningEvent A)} (ended : Bool)
    (drives : s.Drives factories dt token index event drained)
    (order : s.running = past ++ event :: rest) (place : past.length = index)
    (distinct : (ids s.running).Nodup) :
    (s.afterVisit index event drained.drive ended).applyPending.1.running =
      (past ++ [drained.drive.event]).map (RunningEvent.heed W drained.drive.state.requests) ++
        rest.map (RunningEvent.heed W drained.drive.state.requests) := by
  have set : (s.afterVisit index event drained.drive ended).running =
      past ++ [drained.drive.event] ++ rest := by
    rw [Sweep.afterVisit_running, order, ← place]
    simp
  have kept : (ids (past ++ [drained.drive.event] ++ rest)).Nodup := by
    rw [← set, Sweep.afterVisit_running, ids_set drives.here drives.driven.id_eq]
    exact distinct
  simp only [Sweep.applyPending, set, Sweep.afterVisit_state, applyRequests_heed kept,
    List.map_append]

variable (factories policy dt token) in
structure Plays (s : Sweep W A) (past todo : List (RunningEvent A)) (journal : Journal)
    (s' : Sweep W A) (result : Except EngineError Unit) (turns : List (Turn A))
    (left : List (RunningEvent A)) : Prop where
  round : Round factories policy dt token s.world s.state todo turns left s'.world s'.state result
  journal_eq : journal = turns.flatMap Turn.journal
  running_eq : s'.state.token = token →
    s'.running = unfinished s.finished (past.map (RunningEvent.heed W (requestsOf turns))) ++
      remaining W [] turns ++ left

section Plays

variable {rest left : List (RunningEvent A)} {turns : List (Turn A)} {cause : EngineError}
  {ended : Bool} {notices : Journal}

theorem plays_closed (order : s.running = past) (fresh : s.state.token = token)
    (idle : s.state.requests = []) :
    Plays factories policy dt token s past [] s.applyPending.2 s.applyPending.1.settle (.ok ()) []
      [] where
  round := by
    have same : s.applyPending.1.state = s.state := by
      simp only [Sweep.applyPending, ← idle]
    simp only [Sweep.settle, same]
    exact .closed s.world s.state fresh
  journal_eq := by simp [Sweep.applyPending, idle, applyRequests]
  running_eq _ := by
    simp [Sweep.applyPending, idle, applyRequests, order, remaining, requestsOf, unfinished,
      Sweep.settle]

theorem plays_removed (flagged : event.cancelled = true) (apart : event.id ∉ ids past)
    (fresh : event.id ∉ s.finished)
    (plays : Plays factories policy dt token (s.finish event.id) (past ++ [event]) rest journal s'
      result turns left) :
    Plays factories policy dt token s past (event :: rest)
      ([.cancelledRemoved event.id] ++ journal) s' result
      (⟨event, event, true, [.cancelledRemoved event.id], []⟩ :: turns) left where
  round := by
    refine .goes (.flagged flagged) ?_
    simpa [Turn.requests, Notice.pends, Sweep.finish] using plays.round
  journal_eq := by simp [plays.journal_eq, Turn.journal]
  running_eq same := by
    have passed := unfinished_passed (W := W) true (requestsOf turns) rfl apart fresh
    simp only [if_true] at passed
    rw [plays.running_eq same]
    simp only [Sweep.finish, passed]
    simp [remaining, requestsOf, Turn.requests, Notice.pends]

theorem plays_passed (drives : s.Drives factories dt token index event drained)
    (settles : Settles policy event.id drained.result ended notices)
    (same : drained.drive.state.token = token) (idle : s.state.requests = [])
    (apart : event.id ∉ ids past) (fresh : event.id ∉ s.finished)
    (plays : Plays factories policy dt token
      (s.afterVisit index event drained.drive ended).applyPending.1
      ((past ++ [drained.drive.event]).map (RunningEvent.heed W drained.drive.state.requests))
      (rest.map (RunningEvent.heed W drained.drive.state.requests)) journal s' result turns left) :
    Plays factories policy dt token s past (event :: rest)
      (drained.journal ++ notices ++
        (s.afterVisit index event drained.drive ended).applyPending.2 ++ journal) s' result
      (⟨event, drained.drive.event, ended, drained.journal ++ notices,
        (s.afterVisit index event drained.drive ended).applyPending.2⟩ :: turns) left := by
  have asked : pending [] (drained.journal ++ notices) = drained.drive.state.requests := by
    rw [pending_append, settles.pending_eq, (drives.drains idle).requests_eq]
  refine ⟨?_, by simp [plays.journal_eq, Turn.journal], fun kept => ?_⟩
  · refine .goes (.driven (drives.drains idle) settles same (Sweep.applyPending_cancels _)
      (Sweep.applyPending_halted _).2) ?_
    simpa [Turn.requests, asked, Sweep.applyPending, Sweep.afterVisit_state,
      Sweep.afterVisit_world] using plays.round
  · have passed := unfinished_passed (W := W) ended
      (drained.drive.state.requests ++ requestsOf turns) drives.driven.id_eq apart fresh
    rw [plays.running_eq kept]
    simp only [Sweep.applyPending, Sweep.afterVisit_finished, List.map_map, Function.comp_def,
      RunningEvent.heed_heed, passed]
    cases ended <;> simp [remaining, requestsOf, Turn.requests, asked]

theorem plays_abandoned (drives : s.Drives factories dt token index event drained)
    (abandons : Abandons policy event.id drained.result ended notices)
    (away : drained.drive.state.token ≠ token) (idle : s.state.requests = []) :
    Plays factories policy dt token s past (event :: rest) (drained.journal ++ notices)
      (s.afterVisit index event drained.drive ended).abandon (.ok ())
      [⟨event, drained.drive.event, ended, drained.journal ++ notices, []⟩]
      (rest.map (RunningEvent.heed W (pending [] (drained.journal ++ notices)))) := by
  refine ⟨?_, by simp [Turn.journal], fun same => ?_⟩
  · simp only [Sweep.abandon, Sweep.afterVisit_state, Sweep.afterVisit_world]
    exact .ends rest (.abandoned (drives.drains idle) abandons away)
  · simp only [Sweep.abandon, Sweep.afterVisit_state] at same
    exact absurd same away

theorem plays_aborted (drives : s.Drives factories dt token index event drained)
    (strict : policy = .abort) (failed : drained.result = .error cause)
    (same : drained.drive.state.token = token) (order : s.running = past ++ event :: rest)
    (place : past.length = index) (distinct : (ids s.running).Nodup) (idle : s.state.requests = [])
    (waiting : ∀ id ∈ s.finished, id ∉ ids (event :: rest)) :
    Plays factories policy dt token s past (event :: rest)
      (drained.journal ++ [.frameAborted event.id cause] ++
        ((s.afterDrain index drained.drive).close token).2)
      ((s.afterDrain index drained.drive).close token).1 (.error cause)
      [⟨event, drained.drive.event, false, drained.journal ++ [.frameAborted event.id cause],
        (s.afterDrain index drained.drive).applyPending.2⟩]
      (rest.map (RunningEvent.heed W (pending []
        (drained.journal ++ [.frameAborted event.id cause])))) := by
  have drains := drives.drains idle
  rw [Sweep.close_eq (s := s.afterDrain index drained.drive) same]
  refine ⟨.ends rest (.aborted drains strict failed same (Sweep.applyPending_cancels _)
    (Sweep.applyPending_halted _).2), by simp [Turn.journal], fun _ => ?_⟩
  have asked : pending [] (drained.journal ++ [.frameAborted event.id cause]) =
      drained.drive.state.requests := by
    simp [drains.requests_eq, Notice.pends]
  have next := afterVisit_order false drives order place distinct
  have passed := unfinished_passed (W := W) false drained.drive.state.requests
    drives.driven.id_eq (apart_of_order order distinct).1
    fun listed => waiting event.id listed List.mem_cons_self
  have waits : ∀ id ∈ s.finished,
      id ∉ ids (rest.map (RunningEvent.heed W drained.drive.state.requests)) := by
    rw [ids_heed]
    exact fun id listed later => waiting id listed (List.mem_cons_of_mem _ later)
  have settled : (s.afterDrain index drained.drive).applyPending.1.settle.running =
      unfinished s.finished (s.afterDrain index drained.drive).applyPending.1.running := rfl
  simp only [Sweep.afterVisit, Bool.false_eq_true, if_false] at next passed
  rw [settled, next, unfinished_append, unfinished_waiting waits, passed]
  simp [remaining, requestsOf, Turn.requests, asked]

theorem plays_lost (drives : s.Drives factories dt token index event drained)
    (strict : policy = .abort) (failed : drained.result = .error cause)
    (away : drained.drive.state.token ≠ token) (idle : s.state.requests = []) :
    Plays factories policy dt token s past (event :: rest)
      (drained.journal ++ [.frameAborted event.id cause] ++
        ((s.afterDrain index drained.drive).close token).2)
      ((s.afterDrain index drained.drive).close token).1 (.error cause)
      [⟨event, drained.drive.event, false, drained.journal ++ [.frameAborted event.id cause], []⟩]
      (rest.map (RunningEvent.heed W (pending []
        (drained.journal ++ [.frameAborted event.id cause])))) := by
  refine ⟨?_, ?_, fun kept => ?_⟩
  · simp only [Sweep.close, Sweep.afterDrain, away, if_false, Sweep.abandon]
    exact .ends rest (.lost (drives.drains idle) strict failed away)
  · simp [Turn.journal, Sweep.close, Sweep.afterDrain, away]
  · simp only [Sweep.close, Sweep.afterDrain, away, if_false, Sweep.abandon] at kept

end Plays

theorem Pass.plays (pass : Pass factories policy dt token index s journal s' result)
    (order : s.running = past ++ todo) (place : past.length = index)
    (distinct : (ids s.running).Nodup) (idle : s.state.requests = [])
    (waiting : ∀ id ∈ s.finished, id ∉ ids todo) :
    ∃ turns left, Plays factories policy dt token s past todo journal s' result turns left := by
  induction pass generalizing past todo with
  | @closed index s passed fresh =>
    obtain rfl : todo = [] := by
      rw [order, List.length_append, place] at passed
      exact List.length_eq_zero_iff.mp (by omega)
    exact ⟨[], [], plays_closed (by simpa using order) fresh idle⟩
  | @removed index s s' event journal result here flagged pass ih =>
    obtain ⟨rest, rfl⟩ := waits_first order place here
    have apart := apart_of_order order distinct
    have next : (s.finish event.id).running = (past ++ [event]) ++ rest := by
      simpa [Sweep.finish] using order
    obtain ⟨turns, left, plays⟩ :=
      ih next (by simp [place]) distinct idle (waiting_finish apart.2 waiting)
    exact ⟨_, left, plays_removed flagged apart.1
      (fun listed => waiting event.id listed List.mem_cons_self) plays⟩
  | @passed index s s' event drained ended notices journal result drives settles same pass ih =>
    obtain ⟨rest, rfl⟩ := waits_first order place drives.here
    have apart := apart_of_order order distinct
    have waits : ∀ id ∈ (s.afterVisit index event drained.drive ended).applyPending.1.finished,
        id ∉ ids (rest.map (RunningEvent.heed W drained.drive.state.requests)) := by
      simp only [Sweep.applyPending, Sweep.afterVisit_finished, ids_heed]
      cases ended with
      | false => exact fun id listed later => waiting id listed (List.mem_cons_of_mem _ later)
      | true => exact waiting_finish apart.2 waiting
    obtain ⟨turns, left, plays⟩ := ih (afterVisit_order ended drives order place distinct)
      (by simp [place]) (ids_afterVisit ended drives ▸ distinct) rfl waits
    exact ⟨_, left, plays_passed drives settles same idle apart.1
      (fun listed => waiting event.id listed List.mem_cons_self) plays⟩
  | @abandoned index s event drained ended notices drives abandons away =>
    obtain ⟨rest, rfl⟩ := waits_first order place drives.here
    exact ⟨_, _, plays_abandoned drives abandons away idle⟩
  | @aborted index s event drained cause drives strict failed =>
    obtain ⟨rest, rfl⟩ := waits_first order place drives.here
    by_cases same : drained.drive.state.token = token
    · exact ⟨_, _, plays_aborted drives strict failed same order place distinct idle waiting⟩
    · exact ⟨_, _, plays_lost drives strict failed same idle⟩

end Pass

end MapScript
