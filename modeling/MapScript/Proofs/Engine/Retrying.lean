import MapScript.Proofs.Engine.Finishing

set_option autoImplicit false

namespace MapScript

open Number Journal

variable {W A : Type}

theorem Driven.polls {token token' : ScopeToken} {e e' : RunningEvent A} {calls : List Call}
    {result : Except EngineError Drain} (driven : Driven token e calls e' token' result)
    {slot : Nat} (stuck : e.Stuck slot) (within : e.slot? ≠ none) : ¬ Rests e.id slot calls := by
  obtain ⟨here, action, flying⟩ := stuck
  have polled (action : Action) (reply : Reply) (moved : Bool) (later : List Call) :
      ¬ Rests e.id slot (e.call action .update reply moved :: later) :=
    fun rests => rests.1 ⟨⟨rfl, here⟩, .inl rfl⟩
  cases driven with
  | complete past => exact absurd past within
  | refused _ idle => simp [flying] at idle
  | startFailed _ _ _ idle => simp [flying] at idle
  | startedAway _ _ _ idle => simp [flying] at idle
  | started _ _ _ idle => simp [flying] at idle
  | skipped _ stopped => simp [flying] at stopped
  | updateFailed | held | cleanupFailed | finishedAway | finished => exact polled _ _ _ _

theorem Pass.reaches [ActionHandler W A] {factories : Dictionary (ActionFactory A)}
    {policy : FailurePolicy} {dt : Seconds} {token : ScopeToken} {index : Nat} {s s' : Sweep W A}
    {journal : Journal} {result : Except EngineError Unit}
    (pass : Pass factories policy dt token index s journal s' result)
    {front behind : List (RunningEvent A)} {e : RunningEvent A}
    (order : s.running = front ++ e :: behind) (flagged : ∀ f ∈ front, f.cancelled = true)
    (live : e.cancelled = false) (ahead : index ≤ front.length) :
    ∃ first e' token' result rest,
      Driven token e first e' token' result ∧ calls journal = first ++ rest := by
  have found {index : Nat} {s : Sweep W A} {event : RunningEvent A}
      (order : s.running = front ++ e :: behind) (ahead : index ≤ front.length)
      (here : s.running[index]? = some event) :
      index = front.length ∧ event = e ∨ index < front.length ∧ event.cancelled = true := by
    rcases Nat.lt_or_eq_of_le ahead with before | reached
    · rw [order, List.getElem?_append_left before] at here
      exact .inr ⟨before, flagged event (List.mem_of_getElem? here)⟩
    · rw [order, reached, List.getElem?_append_right (Nat.le_refl _)] at here
      exact .inl ⟨reached, by simpa using here.symm⟩
  -- Only a flagged event can be passed by, and every drain on the way is that of `e`.
  have driven {index : Nat} {s : Sweep W A} {event : RunningEvent A} {drained : Drained W A}
      (order : s.running = front ++ e :: behind) (ahead : index ≤ front.length)
      (drives : s.Drives factories dt token index event drained) (later : List Call) :
      ∃ first e' token' result rest, Driven token e first e' token' result ∧
        calls drained.journal ++ later = first ++ rest := by
    rcases found order ahead drives.here with ⟨_, rfl⟩ | ⟨_, cancelled⟩
    · exact ⟨_, _, _, _, later, drives.driven, rfl⟩
    · simp [drives.live] at cancelled
  induction pass with
  | closed past =>
    simp only [order, List.length_append, List.length_cons] at past
    omega
  | @removed index s s' event journal result here cancelled rest ih =>
    rcases found order ahead here with ⟨_, rfl⟩ | ⟨before, _⟩
    · simp [live] at cancelled
    · exact ih order before
  | passed drives settles same rest ih =>
    rw [calls_append, calls_append, calls_append, List.append_assoc, List.append_assoc]
    exact driven order ahead drives _
  | abandoned drives abandons away =>
    rw [calls_append]
    exact driven order ahead drives _
  | aborted drives strict failed =>
    rw [calls_append, calls_append, List.append_assoc]
    exact driven order ahead drives _

section Cancels

variable [ActionHandler W A]

theorem cancel_cancelled (e : RunningEvent A) : (e.cancel W).1.cancelled = true := by
  unfold RunningEvent.cancel
  split
  next flagged => exact flagged
  next => rfl

theorem cancelById_reached {front behind : List (RunningEvent A)} {e : RunningEvent A}
    (apart : ∀ f ∈ front, f.id ≠ e.id) :
    (cancelById W e.id (front ++ e :: behind)).2.1 = front ++ (e.cancel W).1 :: behind := by
  induction front with
  | nil => simp [cancelById]
  | cons f rest ih =>
    have other : ¬ f.id = e.id := apart f List.mem_cons_self
    simp only [List.cons_append, cancelById, if_neg other]
    rw [ih fun g member => apart g (List.mem_cons_of_mem f member)]

namespace Engine

theorem run_cancels (engine : Engine W A) {flagged front behind : List (RunningEvent A)}
    (distinct : (ids (flagged ++ (front ++ behind))).Nodup)
    (set : ∀ f ∈ flagged, f.cancelled = true) :
    ∃ flagged' journal,
      run { engine with running := flagged ++ (front ++ behind) }
          (front.map fun f => Operation.cancelEvent f.id) =
        ({ engine with running := flagged' ++ behind }, journal) ∧
      (∀ f ∈ flagged', f.cancelled = true) ∧ OnlyCancels (calls journal) := by
  induction front generalizing flagged with
  | nil => exact ⟨flagged, [], rfl, set, by simp [OnlyCancels]⟩
  | cons f rest ih =>
    have apart : ∀ g ∈ flagged, g.id ≠ f.id := by
      intro g member same
      rw [ids, List.map_append] at distinct
      have clash := (List.nodup_append.mp distinct).2.2 g.id (List.mem_map_of_mem member) f.id
      exact clash (by simp) same
    have renamed : ids (flagged ++ [(f.cancel W).1] ++ (rest ++ behind)) =
        ids (flagged ++ (f :: rest ++ behind)) := by
      simp [ids, (cancel_stops (W := W) f).halted.1.id_eq]
    have distinctNext : (ids (flagged ++ [(f.cancel W).1] ++ (rest ++ behind))).Nodup := by
      rw [renamed]
      exact distinct
    have setNext : ∀ g ∈ flagged ++ [(f.cancel W).1], g.cancelled = true := by
      intro g member
      rcases List.mem_append.mp member with old | new
      · exact set g old
      · obtain rfl := List.mem_singleton.mp new
        exact cancel_cancelled f
    obtain ⟨flagged', journal, ran, cancelled, hooks⟩ := ih distinctNext setNext
    have stepped : (perform { engine with running := flagged ++ (f :: rest ++ behind) }
        (.cancelEvent f.id)).engine =
          { engine with running := flagged ++ [(f.cancel W).1] ++ (rest ++ behind) } := by
      simp only [perform, cancelEvent, List.cons_append]
      rw [cancelById_reached apart]
      simp
    have first := (cancelById_cancels (W := W) f.id (flagged ++ (f :: rest ++ behind))).halted.2
    refine ⟨flagged', (cancelById W f.id (flagged ++ (f :: rest ++ behind))).2.2 ++ journal, ?_,
      cancelled, ?_⟩
    · simp only [List.map_cons, run, stepped, ran]
      rfl
    · rw [calls_append]
      exact onlyCancels_append first hooks

end Engine

end Cancels

section Lenient

variable {judge : Condition → Memory → Tested Bool}

theorem judgeCondition_lenient {settings : Settings} (lenient : settings.failurePolicy = .dropEvent)
    (tests : Dictionary (ConditionTest W)) (world : W) (dt : Seconds) (event : Event)
    (condition : Condition) (memory : Memory) :
    ∃ holds,
      (judgeCondition settings tests world dt event condition memory).result = .ok holds := by
  unfold judgeCondition
  dsimp only
  rw [lenient]
  cases tested : (testCondition tests world dt event condition memory).result with
  | error cause => exact ⟨false, rfl⟩
  | ok holds => exact ⟨holds, tested⟩

theorem allHold_lenient (lenient : ∀ condition memory, ∃ holds,
    (judge condition memory).result = .ok holds) (conditions : List Condition) (memory : Memory) :
    ∃ holds, (allHold judge conditions memory).result = .ok holds := by
  induction conditions generalizing memory with
  | nil => exact ⟨true, rfl⟩
  | cons condition rest ih =>
    obtain ⟨holds, judged⟩ := lenient condition memory
    simp only [allHold, judged]
    cases holds with
    | false => exact ⟨false, rfl⟩
    | true => exact ih _

end Lenient

namespace Engine

def lenient : Settings := ⟨false, .dropEvent⟩

theorem conditionsMet_lenient (world : W) (dt : Seconds) (engine : Engine W A) (event : Event)
    (settings : engine.settings = lenient) :
    ∃ holds, (engine.conditionsMet world dt event).result = .ok holds := by
  have judged (condition : Condition) (memory : Memory) :
      ∃ holds, (engine.judge world dt event condition memory).result = .ok holds :=
    judgeCondition_lenient (by simp [settings, lenient]) _ _ _ _ _ _
  unfold conditionsMet
  simp only [settings, lenient, Bool.false_eq_true, if_false]
  exact allHold_lenient judged _ _

theorem startSatisfied_lenient (world : W) (dt : Seconds) (events : List Event)
    (engine : Engine W A) (settings : engine.settings = lenient) :
    (startSatisfied world dt events engine).result = .ok () := by
  induction events generalizing engine with
  | nil => rfl
  | cons event rest ih =>
    obtain ⟨holds, met⟩ := conditionsMet_lenient world dt engine event settings
    have same := conditionsMet_same world dt engine event
    simp only [startSatisfied, met]
    cases holds with
    | false => exact ih _ (same.settings.trans settings)
    | true =>
      have kept := startEvent_same (engine.conditionsMet world dt event).engine event
      exact ih _ (kept.settings.trans (same.settings.trans settings))

variable [ActionHandler W A]

theorem update_reaches (world : W) (dt : Seconds) (engine : Engine W A)
    {front behind : List (RunningEvent A)} {e : RunningEvent A} {slot : Nat}
    (settings : engine.settings = lenient) (requests : engine.state.requests = [])
    (order : engine.running = front ++ e :: behind) (flagged : ∀ f ∈ front, f.cancelled = true)
    (live : e.cancelled = false) (stuck : e.Stuck slot) (within : e.slot? ≠ none) :
    ¬ Rests e.id slot (calls (engine.update world dt).journal) := by
  have finished : ({ engine with trace := [] }.intake world dt).result = .ok () :=
    startSatisfied_lenient world dt _ { engine with trace := [] } settings
  obtain ⟨new, grown⟩ := intake_grows world dt { engine with trace := [] }
  have same := intake_same world dt { engine with trace := [] }
  have silent := intake_calls { engine with trace := [] } world dt
  rcases update_cases engine world dt with ⟨cause, failed, _⟩ | ⟨taken, journal, s', result, half,
    pass, ended⟩
  · simp [finished] at failed
  · rw [half] at grown same
    have pending : (taken.sweepStart world).applyPending.1.running = taken.running := by
      simp [Sweep.applyPending, sweepStart, same.requests, requests, applyRequests]
    have standing : (taken.sweepStart world).applyPending.1.running =
        front ++ e :: (behind ++ new) := by
      rw [pending, grown]
      simp [order]
    obtain ⟨first, _, _, _, rest, driven, swept⟩ :=
      pass.reaches standing flagged live (Nat.zero_le _)
    rw [ended, calls_append, silent, calls_append, List.nil_append, swept]
    apply not_rests_append
    · exact not_starts_of_onlyCancels (Sweep.applyPending_halted _).2
    · exact fun rests => driven.polls stuck within (rests_of_append rests)

theorem polled_again (world : W) (engine : Engine W A) {e : RunningEvent A} {slot : Nat}
    (sound : Sound engine.running) (requests : engine.state.requests = [])
    (standing : e ∈ engine.running) (live : e.cancelled = false) (stuck : e.Stuck slot) :
    ∃ operations, ¬ Rests e.id slot (calls (engine.run operations).2) := by
  have within : e.slot? ≠ none := by
    obtain ⟨_, action, flying⟩ := stuck
    have bound := (sound.each e standing).cursor_lt (by simp [flying])
    simp [RunningEvent.slot?, bound]
  obtain ⟨front, behind, order⟩ := List.append_of_mem standing
  have distinct : (ids ([] ++ (front ++ e :: behind))).Nodup := order ▸ sound.distinct
  obtain ⟨flagged, journal, ran, cancelled, hooks⟩ := run_cancels engine distinct (by simp)
  -- The events before it are flagged first, so that the frame reaches `e` whatever they would do,
  -- and no failure of a condition may end that frame in its first half.
  refine ⟨front.map (fun f => .cancelEvent f.id) ++ [.configure lenient, .update world .zero], ?_⟩
  have whole : engine = { engine with running := [] ++ (front ++ e :: behind) } := by
    rw [List.nil_append, ← order]
  rw [run_append, whole, ran, calls_append]
  apply not_rests_append (not_starts_of_onlyCancels hooks)
  have again := update_reaches world .zero
    { engine with running := flagged ++ e :: behind, settings := lenient } rfl requests rfl
    cancelled live stuck within
  simpa [run, perform] using again

end Engine

end MapScript
