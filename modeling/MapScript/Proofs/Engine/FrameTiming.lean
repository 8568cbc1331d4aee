import Mathlib.Algebra.BigOperators.Group.Finset.Basic
import MapScript.Proofs.Engine.Sparing

set_option autoImplicit false

namespace MapScript

open Number Journal

variable {W A : Type}

def pollCount (id : EventId) (slot : Nat) (calls : List Call) : Nat :=
  calls.countP fun call => call.owner = some id ∧ call.slot = slot ∧ call.hook = .update

/-- The action of every slot is done at its poll number `p slot`, and is not done before. -/
def Paced (id : EventId) (p : Nat → Nat) (calls : List Call) : Prop :=
  ∀ earlier call later, calls = earlier ++ call :: later → call.owner = some id →
    call.hook = .update →
    call.reply = if pollCount id call.slot earlier + 1 < p call.slot then .running else .finished

theorem paced_iff {id : EventId} {p : Nat → Nat} {calls : List Call} :
    Paced id p calls ↔ ∀ index : Fin calls.length, calls[index].owner = some id →
      calls[index].hook = .update → calls[index].reply =
        if pollCount id calls[index].slot (calls.take index) + 1 < p calls[index].slot then .running
        else .finished := by
  constructor
  · intro paced index owned polled
    refine paced (calls.take index) calls[index] (calls.drop (index + 1)) ?_ owned polled
    simp
  · rintro paced earlier call later rfl owned polled
    simpa using paced ⟨earlier.length, by simp⟩ (by simpa using owned) (by simpa using polled)

instance (id : EventId) (p : Nat → Nat) (calls : List Call) : Decidable (Paced id p calls) :=
  decidable_of_iff _ paced_iff.symm

/-- The frames that the first slots of a script spend waiting. -/
def waits (p : Nat → Nat) (slots : Nat) : Nat :=
  ∑ slot ∈ Finset.range slots, (p slot - 1)

section Polls

variable {id : EventId} {slot : Nat} {calls earlier later : List Call}

@[simp] theorem pollCount_append :
    pollCount id slot (earlier ++ later) = pollCount id slot earlier + pollCount id slot later :=
  List.countP_append

theorem pollCount_aside (aside : Aside id calls) : pollCount id slot calls = 0 := by
  refine List.countP_eq_zero.mpr fun call member => ?_
  simp only [decide_eq_true_eq]
  rintro ⟨owned, _, polled⟩
  simp [aside call member owned] at polled

theorem waits_succ (p : Nat → Nat) (slots : Nat) :
    waits p (slots + 1) = waits p slots + (p slots - 1) :=
  Finset.sum_range_succ _ _

theorem waits_le (p : Nat → Nat) {slots more : Nat} (le : slots ≤ more) :
    waits p slots ≤ waits p more := by
  induction le with
  | refl => exact Nat.le_refl _
  | step _ ih =>
    rw [waits_succ]
    omega

end Polls

structure Progress (p : Nat → Nat) (e : RunningEvent A) (calls : List Call) (frames : Nat) :
    Prop where
  within : e.cursor ≤ e.declaration.actions.length
  ahead : ∀ slot, e.cursor < slot → pollCount e.id slot calls = 0
  current : (e.current = none ∧ pollCount e.id e.cursor calls = 0) ∨
    ∃ action, e.current = some ⟨action, .running⟩ ∧
      e.cursor < e.declaration.actions.length ∧ pollCount e.id e.cursor calls < p e.cursor
  frames_eq : frames = waits p e.cursor + pollCount e.id e.cursor calls

theorem Progress.aside {p : Nat → Nat} {e : RunningEvent A} {before calls : List Call}
    {frames : Nat} (progress : Progress p e before frames) (aside : Aside e.id calls) :
    Progress p e (before ++ calls) frames := by
  obtain ⟨within, ahead, current, frames_eq⟩ := progress
  constructor <;> simp_all [pollCount_aside aside]

def Progress.Waits (p : Nat → Nat) (e : RunningEvent A) (calls : List Call) (frames : Nat) : Prop :=
  Progress p e calls frames ∧ 0 < pollCount e.id e.cursor calls

section Drains

variable {token token' : ScopeToken} {e e' : RunningEvent A} {slot : Action}
  {before after calls : List Call} {reply : Reply} {moved : Bool} {p : Nat → Nat} {frames : Nat}

@[simp] theorem pollCount_nil (id : EventId) (number : Nat) : pollCount id number [] = 0 := rfl

@[simp] theorem pollCount_call (number : Nat) (hook : Hook) (reply : Reply) (moved : Bool) :
    pollCount e.id number (e.call slot hook reply moved :: calls) =
      (if e.cursor = number ∧ hook = .update then 1 else 0) + pollCount e.id number calls := by
  simp [pollCount, RunningEvent.call, List.countP_cons, Nat.add_comm]

theorem Progress.flying (progress : Progress p e before frames) {current : InFlight A}
    (flying : e.current = some current) :
    e.cursor < e.declaration.actions.length ∧ current.state = .running ∧
      pollCount e.id e.cursor before < p e.cursor := by
  rcases progress.current with ⟨none, _⟩ | ⟨action, some, within, more⟩
  · simp [none] at flying
  · obtain rfl := Option.some.inj (some.symm.trans flying)
    exact ⟨within, rfl, more⟩

theorem Progress.idle (progress : Progress p e before frames) (idle : e.current = none) :
    pollCount e.id e.cursor before = 0 := by
  rcases progress.current with ⟨_, fresh⟩ | ⟨action, some, _⟩
  · exact fresh
  · simp [some] at idle

theorem Paced.polled (paced : Paced e.id p (before ++ e.call slot .update reply moved :: after)) :
    reply = if pollCount e.id e.cursor before + 1 < p e.cursor then .running else .finished :=
  paced _ _ _ rfl rfl rfl

theorem Progress.complete (progress : Progress p e before frames) (past : e.slot? = none) :
    frames = waits p e.declaration.actions.length := by
  have last : e.declaration.actions.length ≤ e.cursor := List.getElem?_eq_none_iff.mp past
  have idle : e.current = none := by
    cases flying : e.current with
    | none => rfl
    | some current => exact absurd (progress.flying flying).1 (Nat.not_lt.mpr last)
  have frames_eq := progress.frames_eq
  rw [progress.idle idle, Nat.le_antisymm progress.within last] at frames_eq
  exact frames_eq

theorem Progress.started (progress : Progress p e before frames) (action : A)
    (context : Dictionary Value) (idle : e.current = none)
    (within : e.cursor < e.declaration.actions.length) (positive : 0 < p e.cursor) :
    Progress p { e with current := some ⟨action, .running⟩, context }
      (before ++ [e.call slot .start reply moved]) frames := by
  have same (number : Nat) : pollCount e.id number (before ++ [e.call slot .start reply moved]) =
      pollCount e.id number before := by
    simp
  refine ⟨progress.within, fun number later => (same number).trans (progress.ahead number later),
    .inr ⟨action, rfl, within, ?_⟩, ?_⟩
  · exact ((same e.cursor).trans (progress.idle idle)).trans_lt positive
  · exact progress.frames_eq.trans (congrArg _ (same e.cursor).symm)

theorem Progress.polled (progress : Progress p e before frames) (action : A)
    (context : Dictionary Value) {current : InFlight A} (flying : e.current = some current)
    (more : pollCount e.id e.cursor before + 1 < p e.cursor) :
    Progress.Waits p { e with current := some ⟨action, current.state⟩, context }
      (before ++ [e.call slot .update reply moved]) (frames + 1) := by
  obtain ⟨within, busy, _⟩ := progress.flying flying
  have polled : pollCount e.id e.cursor (before ++ [e.call slot .update reply moved]) =
      pollCount e.id e.cursor before + 1 := by
    simp
  have ahead (number : Nat) (later : e.cursor < number) :
      pollCount e.id number (before ++ [e.call slot .update reply moved]) = 0 := by
    simp [progress.ahead number later, Nat.ne_of_lt later]
  have counted : frames + 1 = waits p e.cursor +
      pollCount e.id e.cursor (before ++ [e.call slot .update reply moved]) := by
    rw [polled, progress.frames_eq, Nat.add_assoc]
  refine ⟨⟨progress.within, ahead, .inr ⟨action, ?_, within, ?_⟩, counted⟩, ?_⟩
  · simp [busy]
  · exact polled.trans_lt more
  · exact polled ▸ Nat.succ_pos _

theorem Progress.advanced (progress : Progress p e before frames) (context : Dictionary Value)
    (within : e.cursor < e.declaration.actions.length)
    (spent : pollCount e.id e.cursor before = p e.cursor - 1) {reply' : Reply} {moved' : Bool} :
    Progress p { e.advance with context } (before ++ [e.call slot .update reply moved] ++
      [e.call slot .cleanup reply' moved']) frames := by
  have fresh (number : Nat) (later : e.cursor < number) :
      pollCount e.id number (before ++ [e.call slot .update reply moved] ++
        [e.call slot .cleanup reply' moved']) = 0 := by
    simp [progress.ahead number later, Nat.ne_of_lt later]
  -- The last poll of a slot is not a frame of its own: the drain goes on in the same frame.
  have counted : frames = waits p (e.cursor + 1) := by
    rw [progress.frames_eq, spent, ← waits_succ]
  have next := fresh (e.cursor + 1) (Nat.lt_succ_self e.cursor)
  exact ⟨within, fun number later => fresh number (Nat.lt_of_succ_lt later), .inl ⟨rfl, next⟩,
    counted.trans (next ▸ rfl)⟩

theorem Driven.progress {result : Except EngineError Drain}
    (driven : Driven token e calls e' token' result) (kept : token' = token)
    (progress : Progress p e before frames)
    (positive : ∀ slot < e.declaration.actions.length, 0 < p slot)
    (paced : Paced e.id p (before ++ calls ++ after)) :
    (result = .ok .blocked → Progress.Waits p e' (before ++ calls) (frames + 1)) ∧
      (result = .ok .complete → frames = waits p e.declaration.actions.length) := by
  -- With every slot that the drain goes through, its calls join those before it.
  induction driven generalizing before with
  | complete past => exact ⟨nofun, fun _ => progress.complete past⟩
  | refused | startFailed | updateFailed | cleanupFailed => exact ⟨nofun, nofun⟩
  | startedAway _ _ _ _ away => exact absurd kept away
  | finishedAway _ _ _ _ _ away => exact absurd kept away
  | started action context here idle rest ih =>
    have within := RunningEvent.cursor_lt_of_slot here
    rw [List.append_cons] at paced ⊢
    exact ih kept (progress.started action context idle within (positive _ within)) positive paced
  | skipped here flying =>
    cases (progress.flying flying).2.1
  | held action context here flying live =>
    have answer := Paced.polled (by simpa using paced)
    refine ⟨fun _ => progress.polled action context flying ?_, by simp [kept]⟩
    by_contra finished
    simp [finished] at answer
  | @finished e _ _ _ _ _ _ between context here flying live rest ih =>
    obtain ⟨within, _, more⟩ := progress.flying flying
    have answer := Paced.polled (by simpa using paced)
    have spent : pollCount e.id e.cursor before = p e.cursor - 1 := by
      by_contra unfinished
      have busy : pollCount e.id e.cursor before + 1 < p e.cursor := by omega
      simp [busy] at answer
    rw [List.append_cons, List.append_cons] at paced ⊢
    exact ih kept (progress.advanced context within spent) positive paced

theorem Progress.frames_le (progress : Progress p e calls frames) :
    frames ≤ waits p e.declaration.actions.length := by
  rw [progress.frames_eq]
  rcases progress.current with ⟨_, fresh⟩ | ⟨_, _, within, more⟩
  · rw [fresh]
    exact waits_le p progress.within
  · have next := waits_le p (Nat.succ_le_of_lt within)
    rw [waits_succ] at next
    omega

end Drains

namespace Engine

variable [ActionHandler W A]

/-- An operation that goes well, keeps the scope and does nothing to the event but drive it. -/
structure Smooth (engine : Engine W A) (id : EventId) (operation : Operation W A) : Prop where
  fine : ∀ world cause, (engine.perform operation).answer ≠ .updated world (.error cause)
  kept : (engine.perform operation).engine.state.token = engine.state.token
  spared : (engine.perform operation).journal.Only (Notice.spares id)
  undropped : ∀ cause, .eventDropped id cause ∉ (engine.perform operation).journal

def Smoothly (engine : Engine W A) (id : EventId) : List (Operation W A) → Prop
  | [] => True
  | operation :: rest =>
    engine.Smooth id operation ∧ (engine.perform operation).engine.Smoothly id rest

theorem smoothly_append {engine : Engine W A} {id : EventId}
    {earlier later : List (Operation W A)} :
    engine.Smoothly id (earlier ++ later) ↔
      engine.Smoothly id earlier ∧ (engine.run earlier).1.Smoothly id later := by
  induction earlier generalizing engine with
  | nil => simp [Smoothly, run]
  | cons operation rest ih => simp [Smoothly, run, ih, and_assoc]

structure Holds (engine : Engine W A) (p : Nat → Nat) (declaration : Event) (calls : List Call)
    (frames : Nat) (e : RunningEvent A) : Prop where
  standing : e ∈ engine.running
  live : e.cancelled = false
  same : e.declaration = declaration
  progress : Progress p e calls frames

variable {engine : Engine W A} {p : Nat → Nat} {e : RunningEvent A} {before after : List Call}
  {frames : Nat} {world : W} {dt : Seconds}

theorem update_once (sound : Sound engine.running) (smooth : engine.Smooth e.id (.update world dt))
    (standing : e ∈ (engine.beforeHooks (.update world dt)).running) (live : e.cancelled = false) :
    DrivenOnce engine.state.token e (engine.update world dt).journal
      (engine.update world dt).engine.running := by
  obtain ⟨fine, kept, spared, undropped⟩ := smooth
  have fine := update_fine engine fine
  exact (update_walks engine sound fine kept spared standing live).drivenOnce undropped

theorem update_progress {declaration : Event} (sound : Sound engine.running)
    (holds : (engine.beforeHooks (.update world dt)).Holds p declaration before frames e)
    (smooth : engine.Smooth declaration.id (.update world dt))
    (positive : ∀ slot < declaration.actions.length, 0 < p slot)
    (paced : Paced declaration.id p (before ++ calls (engine.update world dt).journal ++ after)) :
    (∃ e', (engine.update world dt).engine.Holds p declaration
        (before ++ calls (engine.update world dt).journal) (frames + 1) e' ∧
      0 < pollCount declaration.id e'.cursor (before ++ calls (engine.update world dt).journal)) ∨
    (frames = waits p declaration.actions.length ∧
      .eventFinished declaration.id ∈ (engine.update world dt).journal) := by
  obtain ⟨standing, live, rfl, progress⟩ := holds
  cases update_once sound smooth standing live with
  | @blocked front mine behind e' calls_eq driven first aside standing =>
    have whole : before ++ calls (engine.update world dt).journal =
        before ++ front ++ mine ++ behind := by
      simp [calls_eq]
    rw [whole, List.append_assoc] at paced
    obtain ⟨progress, polled⟩ := (driven.progress rfl (progress.aside first) positive paced).1 rfl
    rw [whole]
    refine .inl ⟨e', ⟨standing, driven.cancelled_eq.trans live, driven.declaration_eq, ?_⟩, ?_⟩
    · exact progress.aside (driven.id_eq ▸ aside)
    · rw [pollCount_append]
      rw [driven.id_eq] at polled
      exact Nat.add_pos_left polled _
  | @complete front mine behind e' calls_eq driven first aside finished =>
    have whole : before ++ calls (engine.update world dt).journal =
        before ++ front ++ mine ++ behind := by
      simp [calls_eq]
    rw [whole, List.append_assoc] at paced
    have drained := driven.progress rfl (progress.aside first) positive paced
    exact .inr ⟨drained.2 rfl, finished⟩

omit [ActionHandler W A] in
theorem Holds.admitted {declaration : Event} (holds : engine.Holds p declaration before frames e)
    (world : W) (dt : Seconds) :
    (engine.beforeHooks (.update world dt)).Holds p declaration before frames e := by
  exact ⟨mem_beforeHooks engine world dt holds.standing, holds.live, holds.same, holds.progress⟩

theorem Holds.step {declaration : Event} {operation : Operation W A}
    (holds : engine.Holds p declaration before frames e) (sound : Sound engine.running)
    (smooth : engine.Smooth declaration.id operation)
    (positive : ∀ slot < declaration.actions.length, 0 < p slot)
    (paced : Paced declaration.id p
      (before ++ calls (engine.perform operation).journal ++ after))
    (early : frames + [operation].countP Operation.isUpdate ≤
      waits p declaration.actions.length) :
    ∃ e', (engine.perform operation).engine.Holds p declaration
      (before ++ calls (engine.perform operation).journal)
      (frames + [operation].countP Operation.isUpdate) e' := by
  cases frame : operation.isUpdate with
  | false =>
    obtain rfl := holds.same
    have stays := perform_stays engine operation frame holds.standing (.inr smooth.spared)
    refine ⟨e, stays.resolve_left (not_not_intro smooth.kept), holds.live, rfl, ?_⟩
    simpa [frame] using holds.progress.aside (perform_aside engine operation frame)
  | true =>
    -- Too early to be finished, so the frame leaves the event waiting.
    rw [List.countP_singleton, if_pos frame] at early ⊢
    cases operation with
    | update world dt =>
      rcases update_progress sound (holds.admitted world dt) smooth positive paced with
        ⟨e', next, _⟩ | ⟨spent, _⟩
      · exact ⟨e', next⟩
      · omega
    | _ => cases frame

theorem Holds.run {declaration : Event} {operations : List (Operation W A)}
    (holds : engine.Holds p declaration before frames e) (sound : Sound engine.running)
    (smooth : engine.Smoothly declaration.id operations)
    (positive : ∀ slot < declaration.actions.length, 0 < p slot)
    (paced : Paced declaration.id p (before ++ calls (engine.run operations).2 ++ after))
    (early : frames + operations.countP Operation.isUpdate ≤
      waits p declaration.actions.length) :
    ∃ e', (engine.run operations).1.Holds p declaration
      (before ++ calls (engine.run operations).2)
      (frames + operations.countP Operation.isUpdate) e' := by
  induction operations generalizing engine before frames e with
  | nil => exact ⟨e, by simpa [run] using holds⟩
  | cons operation rest ih =>
    obtain ⟨first, later⟩ := smooth
    rw [← List.singleton_append, List.countP_append, ← Nat.add_assoc] at early ⊢
    simp only [run, calls_append, List.singleton_append] at paced ⊢
    rw [← List.append_assoc] at paced ⊢
    obtain ⟨e', next⟩ := holds.step sound first positive
      (by rwa [← List.append_assoc]) (Nat.le_of_add_right_le early)
    exact ih next ((perform_moves engine operation).sound sound) later paced early

/-- At the end of frame `k` of its script, counted from nought, the event waits for a slot. -/
structure Blocked (engine : Engine W A) (p : Nat → Nat) (declaration : Event) (calls : List Call)
    (k : Nat) (e : RunningEvent A) : Prop where
  standing : e ∈ engine.running
  same : e.declaration = declaration
  flying : e.actionState? = some .running
  within : e.cursor < declaration.actions.length
  slot : waits p e.cursor ≤ k ∧ k < waits p (e.cursor + 1)
  pollCount_eq : pollCount e.id e.cursor calls = 1 + k - waits p e.cursor

omit [ActionHandler W A] in
theorem Holds.blocked {declaration : Event} {k : Nat}
    (holds : engine.Holds p declaration before (k + 1) e)
    (polled : 0 < pollCount e.id e.cursor before) :
    engine.Blocked p declaration before k e := by
  obtain ⟨standing, _, same, progress⟩ := holds
  have frames_eq := progress.frames_eq
  rcases progress.current with ⟨_, fresh⟩ | ⟨action, flying, within, more⟩
  · omega
  · refine ⟨standing, same, by simp [RunningEvent.actionState?, flying], same ▸ within, ?_, ?_⟩
    · rw [waits_succ]
      omega
    · omega

theorem Holds.last {world world' : W} {dt dt' : Seconds} {rest earlier : List (Operation W A)}
    {declaration : Event} (sound : Sound engine.running)
    (split : .update world dt :: rest = earlier ++ [.update world' dt'])
    (holds : (engine.beforeHooks (.update world dt)).Holds p declaration [] 0 e)
    (smooth : engine.Smoothly declaration.id (.update world dt :: rest))
    (positive : ∀ slot < declaration.actions.length, 0 < p slot)
    (paced : Paced declaration.id p (calls (engine.run (.update world dt :: rest)).2))
    (early : earlier.countP Operation.isUpdate ≤ waits p declaration.actions.length) :
    ∃ e', ((engine.run earlier).1.beforeHooks (.update world' dt')).Holds p declaration
      (calls (engine.run earlier).2) (earlier.countP Operation.isUpdate) e' := by
  cases earlier with
  | nil =>
    obtain ⟨rfl, rfl⟩ : world = world' ∧ dt = dt' := by simpa using (List.cons.inj split).1
    exact ⟨e, holds⟩
  | cons operation earlier =>
    rw [List.cons_append] at split
    obtain ⟨rfl, rfl⟩ := List.cons.inj split
    obtain ⟨first, later⟩ := smooth
    simp only [Engine.run, run_append, calls_append] at paced ⊢
    rw [List.countP_cons_of_pos rfl, Nat.add_comm] at early ⊢
    rcases update_progress sound holds first positive paced with ⟨e', next, _⟩ | ⟨spent, _⟩
    · rw [← List.append_assoc] at paced
      have sound := (update_moves world dt engine).sound sound
      obtain ⟨last, holds⟩ := next.run sound (smoothly_append.mp later).1 positive paced early
      exact ⟨last, holds.admitted world' dt'⟩
    · omega

theorem script_takes_its_frames (actions : Dictionary (ActionFactory A))
    (conditions : Dictionary (ConditionTest W)) (settings : Settings)
    (past : List (Operation W A)) {engine : Engine W A} {since : Journal}
    (reached : (new actions conditions settings).run past = (engine, since))
    {world world' : W} {dt dt' : Seconds} {rest earlier : List (Operation W A)}
    (frames : .update world dt :: rest = earlier ++ [.update world' dt'])
    (first : e ∈ (engine.beforeHooks (.update world dt)).running)
    (new : e.cursor = 0 ∧ e.current = none ∧ e.cancelled = false)
    (positive : ∀ slot < e.declaration.actions.length, 1 ≤ p slot)
    (smooth : engine.Smoothly e.id (.update world dt :: rest))
    (paced : Paced e.id p (calls (engine.run (.update world dt :: rest)).2)) :
    let k := earlier.countP Operation.isUpdate
    let last := (engine.run earlier).1.perform (.update world' dt')
    (k < waits p e.declaration.actions.length →
      ∃ e', last.engine.Blocked p e.declaration
        (calls (engine.run (.update world dt :: rest)).2) k e') ∧
    (k = waits p e.declaration.actions.length →
      .eventFinished e.id ∈ last.journal ∧ e.id ∉ ids last.engine.running) := by
  intro k last
  have sound : Sound engine.running := by
    have known := run_sound _ past (new_sound actions conditions settings)
    rwa [reached] at known
  obtain ⟨unstarted, idle, live⟩ := new
  have begun : Progress p e [] 0 :=
    ⟨by simp [unstarted], by simp, .inl ⟨idle, rfl⟩, by simp [unstarted, waits]⟩
  by_cases early : k ≤ waits p e.declaration.actions.length
  · obtain ⟨e', holds⟩ :=
      Holds.last sound frames ⟨first, live, rfl, begun⟩ smooth positive paced early
    have sound := run_sound engine earlier sound
    rw [frames, run_append, run_singleton, calls_append] at paced ⊢
    rw [frames] at smooth
    rw [← List.append_nil (_ ++ _)] at paced
    rcases update_progress sound holds (smoothly_append.mp smooth).2.1 positive paced with
      ⟨e', next, polled⟩ | ⟨spent, finished⟩
    · have id_eq : e'.id = e.id := congrArg Event.id next.same
      have before := next.progress.frames_le
      rw [next.same] at before
      refine ⟨fun _ => ⟨e', next.blocked (id_eq ▸ polled)⟩, fun same => ?_⟩
      omega
    · refine ⟨fun less => ?_, fun _ => ⟨finished, ?_⟩⟩
      · omega
      · exact perform_gone_of_removes _ _ ⟨_, finished, by simp [RunningEvent.id]⟩
  · exact ⟨fun less => absurd (Nat.le_of_lt less) early,
      fun same => absurd (Nat.le_of_eq same) early⟩

end Engine

structure Countdown where
  left : Nat

namespace Countdown

instance : ActionHandler Unit Countdown where
  start a _ scene := ⟨a, scene.world, scene.locals, [], .ok ()⟩
  update a _ scene :=
    ⟨⟨a.left - 1⟩, scene.world, scene.locals, [], .ok (if a.left ≤ 1 then .done else .running)⟩
  cleanup a _ scene := ⟨a, scene.world, scene.locals, [], .ok ()⟩
  cancel a := (a, [])

def script : Event :=
  ⟨⟨1⟩, "", none, [], [⟨"wait", ["", ""], ""⟩, ⟨"wait", [], ""⟩]⟩

def loaded : Engine Unit Countdown × Journal :=
  (Engine.new (Dictionary.empty.insert "wait" fun arguments => .ok ⟨arguments.values.length⟩)
    Dictionary.empty ⟨false, .abort⟩).run [.loadScope ⟨"", [script], []⟩]

theorem smooth_of_quiet {engine : Engine Unit Countdown} {id : EventId}
    (fine : (engine.update () .zero).result.toBool = true)
    (kept : (engine.update () .zero).engine.state.token = engine.state.token)
    (quiet : ∀ notice ∈ (engine.update () .zero).journal,
      notice.drives = true ∨ notice.admits = true) :
    engine.Smooth id (.update () .zero) where
  fine := engine.fine_of_update fine
  kept := kept
  spared notice member := by
    have known := quiet notice member
    cases notice <;> simp at known ⊢
  undropped cause member := by
    have known := quiet _ member
    simp at known

def twoFrames : List (Operation Unit Countdown) :=
  [.update () .zero, .update () .zero]

theorem loaded_smoothly : loaded.1.Smoothly ⟨1⟩ twoFrames :=
  ⟨smooth_of_quiet rfl rfl (by decide), smooth_of_quiet rfl rfl (by decide), trivial⟩

-- The first frame leaves the event waiting, and the second is the one that finishes it.
theorem script_takes_its_frames_waiting :
    let p := fun slot => if slot = 0 then 2 else 1
    let last := (loaded.1.run [.update () .zero]).1.perform (.update () .zero)
    waits p 2 = 1 ∧ Paced ⟨1⟩ p (calls (loaded.1.run twoFrames).2) ∧
      .eventFinished ⟨1⟩ ∈ last.journal ∧ ⟨1⟩ ∉ ids last.engine.running := by
  intro p last
  have first : RunningEvent.start script ∈ (loaded.1.beforeHooks (.update () .zero)).running :=
    List.mem_singleton.mpr rfl
  have positive : ∀ slot < script.actions.length, 1 ≤ p slot := by decide
  have paced : Paced ⟨1⟩ p (calls (loaded.1.run twoFrames).2) := by decide
  have split : twoFrames = [.update () .zero] ++ [.update () .zero] := rfl
  have counted : waits p 2 = 1 := by decide
  have taken := Engine.script_takes_its_frames _ _ _ _ rfl split first ⟨rfl, rfl, rfl⟩ positive
    loaded_smoothly paced
  exact ⟨counted, paced, taken.2 counted.symm⟩

end Countdown

end MapScript
