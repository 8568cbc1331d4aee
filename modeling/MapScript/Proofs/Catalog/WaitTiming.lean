import MapScript.Proofs.Catalog.Waiting

set_option autoImplicit false

namespace MapScript

open Number Text Journal

variable {W A : Type}

def ticks (operations : List (Operation W A)) : List Seconds :=
  operations.filterMap fun
    | .update _ dt => some dt
    | _ => none

/-- What has passed after the first of the times, if it was `x` before them. -/
def elapsed (x : Seconds) (times : List Seconds) (i : Nat) : Seconds :=
  (times.take i).foldl (· + ·) x

def Short (s x : Seconds) (times : List Seconds) : Prop :=
  ∀ i < times.length, s.le (elapsed x times (i + 1)) = false

theorem ticks_cons_update (world : W) (dt : Seconds) (rest : List (Operation W A)) :
    ticks (.update world dt :: rest) = dt :: ticks rest :=
  rfl

theorem ticks_concat (earlier : List (Operation W A)) (world : W) (dt : Seconds) :
    ticks (earlier ++ [.update world dt]) = ticks earlier ++ [dt] := by
  simp [ticks]

theorem ticks_cons_idle {operation : Operation W A} (idle : operation.isUpdate = false)
    (rest : List (Operation W A)) : ticks (operation :: rest) = ticks rest := by
  cases operation with
  | update => cases idle
  | _ => rfl

section Times

variable {s x t : Seconds} {times : List Seconds}

@[simp] theorem elapsed_zero : elapsed x times 0 = x := by
  simp [elapsed]

@[simp] theorem elapsed_cons (i : Nat) :
    elapsed x (t :: times) (i + 1) = elapsed (x + t) times i := by
  simp [elapsed]

theorem elapsed_concat : elapsed x (times ++ [t]) (times ++ [t]).length =
    elapsed x times times.length + t := by
  simp only [elapsed, List.take_length, List.foldl_concat]

theorem short_nil : Short s x [] := by
  simp [Short]

theorem short_cons : Short s x (t :: times) ↔ s.le (x + t) = false ∧ Short s (x + t) times := by
  simp only [Short, List.length_cons, Nat.forall_lt_succ_left, elapsed_cons, elapsed_zero]

end Times

/-- The run of the event that the journal is about waits for the action of the slot. -/
structure BlockedAt (running : List (RunningEvent A)) (id : EventId) (j : Nat) (journal : Journal) :
    Prop where
  same_run : ¬ Removes id journal
  waits : ∃ e ∈ running, e.id = id ∧ e.cursor = j ∧ e.actionState? = some .running ∧
    e.cancelled = false

/-- The run of the event that the journal is about is over, or has the slot behind it. -/
def Beyond (running : List (RunningEvent A)) (id : EventId) (j : Nat) (journal : Journal) : Prop :=
  Removes id journal ∨ ∃ e ∈ running, e.id = id ∧ j < e.cursor ∧ e.cancelled = false

theorem Beyond.not_blockedAt {running : List (RunningEvent A)} {id : EventId} {j : Nat}
    {journal : Journal} (beyond : Beyond running id j journal) (distinct : (ids running).Nodup) :
    ¬ BlockedAt running id j journal := by
  rintro ⟨same_run, e, standing, rfl, rfl, _⟩
  obtain removed | ⟨e', standing', same, later, _⟩ := beyond
  · exact same_run removed
  · obtain rfl := List.inj_on_of_nodup_map distinct standing' standing same
    exact Nat.lt_irrefl _ later

theorem Beyond.behind {running : List (RunningEvent A)} {id : EventId} {j : Nat} {later : Journal}
    (beyond : Beyond running id j later) (earlier : Journal) :
    Beyond running id j (earlier ++ later) :=
  beyond.imp_left fun removes => removes_append.mpr (.inr removes)

theorem WaitsAt.blockedAt {embed : Builtin → A} {declaration : Event} {j : Nat} {s x : Seconds}
    {e : RunningEvent A} {running : List (RunningEvent A)} {journal : Journal}
    (waits : WaitsAt embed declaration j s x e) (standing : e ∈ running)
    (same_run : ¬ Removes declaration.id journal) :
    BlockedAt running declaration.id j journal := by
  obtain ⟨rfl, rfl, flying, live⟩ := waits
  exact ⟨same_run, e, standing, rfl, rfl, by rw [RunningEvent.actionState?, flying]; rfl, live⟩

namespace Engine

variable [ActionHandler W A]

/-- An operation that goes well, keeps the scope and cancels nothing of the event. -/
structure Gentle (engine : Engine W A) (id : EventId) (operation : Operation W A) : Prop where
  fine : ∀ world cause, (engine.perform operation).answer ≠ .updated world (.error cause)
  kept : (engine.perform operation).engine.state.token = engine.state.token
  spared : (engine.perform operation).journal.Only (Notice.spares id)

def Gently (engine : Engine W A) (id : EventId) : List (Operation W A) → Prop
  | [] => True
  | operation :: rest =>
    engine.Gentle id operation ∧ (engine.perform operation).engine.Gently id rest

theorem gently_append {engine : Engine W A} {id : EventId}
    {earlier later : List (Operation W A)} :
    engine.Gently id (earlier ++ later) ↔
      engine.Gently id earlier ∧ (engine.run earlier).1.Gently id later := by
  induction earlier generalizing engine with
  | nil => simp [Gently, run]
  | cons operation rest ih => simp [Gently, run, ih, and_assoc]

section Frames

variable [VariableStore W] {embed : Builtin → A} {engine : Engine W A} {declaration : Event}
variable {j : Nat} {slot : Action} {s x : Seconds} {world : W} {dt : Seconds} {e : RunningEvent A}

omit [VariableStore W] in
theorem Gentle.walks (gentle : engine.Gentle e.id (.update world dt))
    (sound : Sound engine.running)
    (standing : e ∈ (engine.beforeHooks (.update world dt)).running) (live : e.cancelled = false) :
    WalkedOnce W engine.actions dt engine.state.token e (engine.update world dt).journal
      (engine.update world dt).engine.running :=
  update_walks engine sound (update_fine engine gentle.fine) gentle.kept gentle.spared standing live

theorem frame_of_walk (embeds : Builtin.Embeds W embed) {factories : Dictionary (ActionFactory A)}
    {token : ScopeToken} {d d' : Drive W A} {front mine behind journal : Journal}
    {result : Except EngineError Drain} {running' : List (RunningEvent A)}
    (walk : Walk factories dt token d mine d' result) (fresh : d.state.token = token)
    (waits : WaitsAt embed declaration j s x d.event) (here : declaration.actions[j]? = some slot)
    (journal_eq : journal = front ++ mine ++ behind)
    (outcome : (result = .ok .blocked ∧ d'.event ∈ running') ∨ result = .ok .complete ∨
      ∃ cause, result = .error cause ∧ .eventDropped declaration.id cause ∈ journal) :
    (s.le (x + dt) = false → ∃ e ∈ running', WaitsAt embed declaration j s (x + dt) e) ∧
    (s.le (x + dt) = true → Beyond running' declaration.id j journal ∧
      PassesOn factories declaration j slot journal) := by
  obtain ⟨short, reached⟩ := walk.waits embeds fresh waits here
  have driven := walk.driven fresh
  obtain ⟨rfl, _, _, live⟩ := waits
  refine ⟨fun early => ?_, fun late => ?_⟩
  · obtain ⟨rfl, later⟩ := short early
    obtain ⟨_, standing⟩ | complete | ⟨_, failed, _⟩ := outcome
    · exact ⟨_, standing, later⟩
    · cases complete
    · cases failed
  · obtain ⟨past, passes⟩ := reached late
    refine ⟨?_, journal_eq ▸ passes.within front behind⟩
    obtain ⟨_, standing⟩ | rfl | ⟨cause, _, noted⟩ := outcome
    · exact .inr ⟨_, standing, driven.id_eq, past, driven.cancelled_eq.trans live⟩
    · have removes := walk.removes_iff.mpr ⟨rfl, rfl⟩
      refine .inl ?_
      rw [journal_eq, removes_append, removes_append]
      exact .inl (.inr removes)
    · exact .inl ⟨_, noted, by simp⟩

theorem Gentle.polls (embeds : Builtin.Embeds W embed) (sound : Sound engine.running)
    (gentle : engine.Gentle declaration.id (.update world dt)) (standing : e ∈ engine.running)
    (waits : WaitsAt embed declaration j s x e) (here : declaration.actions[j]? = some slot) :
    (s.le (x + dt) = false → ∃ e ∈ (engine.update world dt).engine.running,
      WaitsAt embed declaration j s (x + dt) e) ∧
    (s.le (x + dt) = true →
      Beyond (engine.update world dt).engine.running declaration.id j
        (engine.update world dt).journal ∧
      PassesOn engine.actions declaration j slot (engine.update world dt).journal) := by
  obtain rfl := waits.same
  cases gentle.walks sound (mem_beforeHooks engine world dt standing) waits.live with
  | intro fresh _ journal_eq walk _ _ outcome =>
    exact frame_of_walk embeds walk fresh waits here journal_eq outcome

theorem Gentle.enters (embeds : Builtin.Embeds W embed) (sound : Sound engine.running)
    (gentle : engine.Gentle e.id (.update world dt))
    (standing : e ∈ (engine.beforeHooks (.update world dt)).running) (live : e.cancelled = false)
    (here : e.declaration.actions[j]? = some slot)
    (known : engine.Knows embed slot.kind Builtin.readWait)
    (accepted : Builtin.readWait (Arguments.ofParameters slot.parameters) = .ok (.wait s .zero))
    (entered : ∃ call ∈ calls (engine.update world dt).journal,
      call.owner = some e.id ∧ call.slot = j ∧ call.hook = .start) :
    (s.le (.zero + dt) = false → ∃ e' ∈ (engine.update world dt).engine.running,
      WaitsAt embed e.declaration j s (.zero + dt) e') ∧
    (s.le (.zero + dt) = true →
      Beyond (engine.update world dt).engine.running e.id j (engine.update world dt).journal ∧
      PassesOn engine.actions e.declaration j slot (engine.update world dt).journal) := by
  obtain ⟨call, member, owned, at_slot, hook⟩ := entered
  cases gentle.walks sound standing live with
  | @intro _ _ front mine behind _ _ fresh _ journal_eq walk before after outcome =>
    have aside {calls : List Call} (aside : Aside e.id calls) : call ∉ calls := fun member => by
      cases hook.symm.trans (aside call member owned)
    -- Nothing but the drain of the event calls a start hook of its actions.
    have drained : call ∈ calls mine := by
      rw [journal_eq] at member
      simpa [aside before, aside after] using member
    obtain ⟨first, rest, d₁, rfl, walk, fresh, waits⟩ := walk.enters_wait embeds known accepted
      fresh rfl here live ⟨call, drained, at_slot, hook⟩
    have whole : (engine.update world dt).journal = front ++ first ++ rest ++ behind := by
      rw [journal_eq]
      simp only [List.append_assoc]
    exact frame_of_walk embeds walk fresh waits here whole outcome

omit [VariableStore W] in
theorem Gentle.beyond {operation : Operation W A} {id : EventId} {since : Journal}
    (gentle : engine.Gentle id operation) (sound : Sound engine.running)
    (beyond : Beyond engine.running id j since) :
    Beyond (engine.perform operation).engine.running id j
      (since ++ (engine.perform operation).journal) := by
  obtain removed | ⟨e, standing, rfl, past, live⟩ := beyond
  · exact .inl (removes_append.mpr (.inl removed))
  · cases frame : operation.isUpdate with
    | false =>
      have stays := perform_stays engine operation frame standing (.inr gentle.spared)
      exact .inr ⟨e, stays.resolve_left (not_not_intro gentle.kept), rfl, past, live⟩
    | true =>
      cases operation with
      | update world dt =>
        cases gentle.walks sound (mem_beforeHooks engine world dt standing) live with
        | intro fresh _ journal_eq walk _ _ outcome =>
          have driven := walk.driven fresh
          obtain ⟨_, standing⟩ | rfl | ⟨cause, _, noted⟩ := outcome
          · exact .inr ⟨_, standing, driven.id_eq, Nat.lt_of_lt_of_le past driven.cursor_le,
              driven.cancelled_eq.trans live⟩
          · have removes := walk.removes_iff.mpr ⟨rfl, rfl⟩
            refine .inl (removes_append.mpr (.inr ?_))
            simp only [perform]
            rw [journal_eq, removes_append, removes_append]
            exact .inl (.inr removes)
          · exact .inl (removes_append.mpr (.inr ⟨_, noted, by simp⟩))
      | _ => cases frame

omit [VariableStore W] in
theorem run_beyond {operations : List (Operation W A)} {id : EventId} {since : Journal}
    (gently : engine.Gently id operations) (sound : Sound engine.running)
    (beyond : Beyond engine.running id j since) :
    Beyond (engine.run operations).1.running id j (since ++ (engine.run operations).2) := by
  induction operations generalizing engine since with
  | nil => simpa [run] using beyond
  | cons operation rest ih =>
    have next := ih gently.2 ((perform_moves engine operation).sound sound)
      (gently.1.beyond sound beyond)
    simpa [run] using next

omit [VariableStore W] in
theorem not_removes_of_waits (engine : Engine W A) (operation : Operation W A)
    (standing : e ∈ (engine.perform operation).engine.running)
    (waits : WaitsAt embed declaration j s x e) :
    ¬ Removes declaration.id (engine.perform operation).journal := by
  obtain rfl := waits.same
  exact fun removes =>
    not_mem_ids.mp (perform_gone_of_removes engine operation removes) e standing rfl

/-- After the operations the event still waits if the time was short all along; otherwise it has the
slot behind it. -/
structure Timed (embed : Builtin → A) (declaration : Event) (j : Nat) (s x : Seconds)
    (engine : Engine W A) (operations : List (Operation W A)) : Prop where
  waiting : Short s x (ticks operations) → ¬ Removes declaration.id (engine.run operations).2 ∧
    ∃ e ∈ (engine.run operations).1.running, WaitsAt embed declaration j s
      (elapsed x (ticks operations) (ticks operations).length) e
  past : ¬ Short s x (ticks operations) →
    Beyond (engine.run operations).1.running declaration.id j (engine.run operations).2

omit [VariableStore W] in
theorem Timed.frame {rest : List (Operation W A)} (sound : Sound engine.running)
    (gently : engine.Gently declaration.id (.update world dt :: rest))
    (early : s.le (x + dt) = false → ∃ e ∈ (engine.update world dt).engine.running,
      WaitsAt embed declaration j s (x + dt) e)
    (reached : s.le (x + dt) = true → Beyond (engine.update world dt).engine.running
      declaration.id j (engine.update world dt).journal)
    (later : ∀ e ∈ (engine.update world dt).engine.running,
      WaitsAt embed declaration j s (x + dt) e →
      Timed embed declaration j s (x + dt) (engine.update world dt).engine rest) :
    Timed embed declaration j s x engine (.update world dt :: rest) := by
  cases timely : s.le (x + dt) with
  | true =>
    have late : ¬ Short s x (ticks (.update world dt :: rest)) := fun short => by
      simp [ticks_cons_update, short_cons, timely] at short
    refine ⟨fun short => absurd short late, fun _ => ?_⟩
    exact run_beyond gently.2 ((update_moves world dt engine).sound sound) (reached timely)
  | false =>
    obtain ⟨e, standing, waits⟩ := early timely
    obtain ⟨waiting, past⟩ := later e standing waits
    have fresh := not_removes_of_waits engine (.update world dt) standing waits
    refine ⟨fun short => ?_, fun late => ?_⟩
    · obtain ⟨same_run, last⟩ := waiting (short_cons.mp short).2
      refine ⟨fun removes => (removes_append.mp removes).elim fresh same_run, ?_⟩
      rw [ticks_cons_update, List.length_cons, elapsed_cons]
      exact last
    · exact (past fun short => late (short_cons.mpr ⟨timely, short⟩)).behind _

theorem Timed.of_waits (embeds : Builtin.Embeds W embed) {operations : List (Operation W A)}
    (gently : engine.Gently declaration.id operations) (sound : Sound engine.running)
    (standing : e ∈ engine.running) (waits : WaitsAt embed declaration j s x e)
    (here : declaration.actions[j]? = some slot) :
    Timed embed declaration j s x engine operations := by
  -- Between operations the event stands at the wait, with the frames so far behind it.
  induction operations generalizing engine x e with
  | nil => exact ⟨fun _ => ⟨by simp [run], e, standing, waits⟩, fun late => absurd short_nil late⟩
  | cons operation rest ih =>
    have sound' := (perform_moves engine operation).sound sound
    cases frame : operation.isUpdate with
    | false =>
      obtain rfl := waits.same
      have stays := perform_stays engine operation frame standing (.inr gently.1.spared)
      have kept := stays.resolve_left (not_not_intro gently.1.kept)
      have fresh := not_removes_of_waits engine operation kept waits
      obtain ⟨waiting, past⟩ := ih gently.2 sound' kept waits
      rw [← ticks_cons_idle frame rest] at waiting past
      refine ⟨fun short => ?_, fun late => (past late).behind _⟩
      obtain ⟨same_run, last⟩ := waiting short
      exact ⟨fun removes => (removes_append.mp removes).elim fresh same_run, last⟩
    | true =>
      cases operation with
      | update world dt =>
        obtain ⟨early, reached⟩ := gently.1.polls embeds sound standing waits here
        exact Timed.frame sound gently early (fun late => (reached late).1)
          fun e' kept waits => ih gently.2 sound' kept waits
      | _ => cases frame

theorem wait_takes_its_time (embeds : Builtin.Embeds W embed)
    (actions : Dictionary (ActionFactory A)) (conditions : Dictionary (ConditionTest W))
    (settings : Settings) (past : List (Operation W A)) {engine : Engine W A} {since : Journal}
    (reached : (new actions conditions settings).run past = (engine, since))
    {world world' : W} {dt dt' : Seconds} {rest earlier : List (Operation W A)}
    (standing : e ∈ (engine.beforeHooks (.update world dt)).running) (live : e.cancelled = false)
    (here : e.declaration.actions[j]? = some slot)
    (known : engine.Knows embed slot.kind Builtin.readWait)
    (accepted : Builtin.readWait (Arguments.ofParameters slot.parameters) = .ok (.wait s .zero))
    (entered : ∃ call ∈ calls (engine.update world dt).journal,
      call.owner = some e.id ∧ call.slot = j ∧ call.hook = .start)
    (frames : .update world dt :: rest = earlier ++ [.update world' dt'])
    (gently : engine.Gently e.id (.update world dt :: rest)) :
    let times := ticks (.update world dt :: rest)
    let after := engine.run (.update world dt :: rest)
    let last := (engine.run earlier).1
    (BlockedAt after.1.running e.id j after.2 ↔ Short s .zero times) ∧
      (Short s .zero (ticks earlier) → s.le (elapsed .zero times times.length) = true →
        PassesOn last.actions e.declaration j slot (last.update world' dt').journal) ∧
      ∀ text b, Builtin.readWait (Arguments.ofParameters [text]) = .ok b ↔
        ∃ x : Seconds, readBinary (trim text.toList) = some x ∧ x.isFinite = true ∧
          x.lt .zero = false ∧ b = .wait x .zero := by
  intro times after last
  have sound := reached_sound reached
  obtain ⟨early, late⟩ := gently.1.enters embeds sound standing live here known accepted entered
  have timed {operations : List (Operation W A)}
      (gently : engine.Gently e.id (.update world dt :: operations)) :
      Timed embed e.declaration j s .zero engine (.update world dt :: operations) :=
    Timed.frame sound gently early (fun timely => (late timely).1) fun e' kept waits =>
      Timed.of_waits embeds gently.2 ((update_moves world dt engine).sound sound) kept waits here
  refine ⟨?_, ?_, fun text b => readWait_eq_ok_iff⟩
  · obtain ⟨waiting, past⟩ := timed gently
    constructor
    · intro blocked
      by_contra timely
      exact (past timely).not_blockedAt (run_sound engine _ sound).distinct blocked
    · intro short
      obtain ⟨same_run, e', kept, waits⟩ := waiting short
      exact waits.blockedAt kept same_run
  · -- The last frame is the one that enters the slot, or it finds the event still at the wait.
    intro short timely
    cases earlier with
    | nil =>
      obtain ⟨first, rfl⟩ := List.cons.inj frames
      obtain ⟨rfl, rfl⟩ := Operation.update.inj first
      exact (late timely).2
    | cons operation between =>
      obtain rfl := (List.cons.inj frames).1
      have times_eq : times = ticks (.update world dt :: between) ++ [dt'] := by
        simp only [times, frames, ticks_concat]
      rw [times_eq, elapsed_concat] at timely
      rw [frames, gently_append] at gently
      obtain ⟨before, final, _⟩ := gently
      obtain ⟨_, e', kept, waits⟩ := (timed before).waiting short
      exact ((final.polls embeds (run_sound engine _ sound) kept waits here).2 timely).2

end Frames

def nap : Event :=
  ⟨⟨1⟩, "", none, [], [⟨"wait", ["0"], "act1"⟩, ⟨"wait", [" 0.05"], "act2"⟩,
    ⟨"set_variable", ["slept:yes"], "act3"⟩]⟩

def napping : Engine Variables Builtin × Journal :=
  (new (Catalog.engine (W := Variables) (fun b => b) .default).1.actions Dictionary.empty
    .default).run [.loadScope ⟨"", [], [nap]⟩]

def blink : Seconds :=
  Binary.ofFraction false 3 100

def blinking : Operation Variables Builtin :=
  .update Dictionary.empty blink

theorem gentle_of_calm {engine : Engine Variables Builtin} {id : EventId} {dt : Seconds}
    (fine : (engine.update Dictionary.empty dt).result.toBool = true)
    (kept : (engine.update Dictionary.empty dt).engine.state.token = engine.state.token)
    (spared : ∀ notice ∈ (engine.update Dictionary.empty dt).journal, notice.spares id = true) :
    engine.Gentle id (.update Dictionary.empty dt) where
  fine := engine.fine_of_update fine
  kept := kept
  spared := spared

theorem blinks_gently : napping.1.Gently nap.id [blinking, blinking] :=
  ⟨gentle_of_calm (by decide +kernel) (by decide +kernel) (by decide +kernel),
    gentle_of_calm (by decide +kernel) (by decide +kernel) (by decide +kernel), trivial⟩

theorem wait_takes_its_time_napping :
    let first := napping.1.run [blinking]
    let second := napping.1.run [blinking, blinking]
    BlockedAt first.1.running nap.id 1 first.2 ∧ ¬ BlockedAt second.1.running nap.id 1 second.2 ∧
      PassesOn first.1.actions nap 1 ⟨"wait", [" 0.05"], "act2"⟩
        (first.1.update Dictionary.empty blink).journal := by
  have standing : RunningEvent.start nap ∈ (napping.1.beforeHooks blinking).running :=
    List.mem_singleton.mpr rfl
  have known : napping.1.Knows (fun b => b) "wait" Builtin.readWait := rfl
  have accepted : Builtin.readWait (Arguments.ofParameters [" 0.05"]) =
      .ok (.wait (Binary.ofFraction false 1 20) .zero) := by decide +kernel
  have entered : ∃ call ∈ calls (napping.1.update Dictionary.empty blink).journal,
      call.owner = some nap.id ∧ call.slot = 1 ∧ call.hook = .start := by decide +kernel
  have once : [.update Dictionary.empty blink] = [] ++ [blinking] := rfl
  have twice : [.update Dictionary.empty blink, blinking] = [blinking] ++ [blinking] := rfl
  obtain ⟨blocked, _⟩ := wait_takes_its_time Builtin.Embeds.id _ _ _ _
    (rfl : _ = (napping.1, napping.2)) standing rfl rfl known accepted entered once
    ⟨blinks_gently.1, trivial⟩
  obtain ⟨freed, passes, _⟩ := wait_takes_its_time Builtin.Embeds.id _ _ _ _
    (rfl : _ = (napping.1, napping.2)) standing rfl rfl known accepted entered twice blinks_gently
  have early : Short (Binary.ofFraction false 1 20) .zero [blink] := by
    unfold Short
    decide +kernel
  have late : Binary.le (Binary.ofFraction false 1 20) (elapsed .zero [blink, blink] 2) = true := by
    decide +kernel
  refine ⟨blocked.mpr early, fun waiting => ?_, passes early late⟩
  exact Bool.false_ne_true ((freed.mp waiting 1 (by decide)).symm.trans late)

end Engine

end MapScript
