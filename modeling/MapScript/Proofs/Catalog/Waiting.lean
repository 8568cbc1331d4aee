import MapScript.Proofs.Catalog.ScopeReset
import MapScript.Proofs.Engine.Skipping

set_option autoImplicit false

namespace MapScript

open Number Text Journal

variable {W A : Type}

theorem required_seconds {text : String} {x : Seconds} :
    (Arguments.ofParameters [text]).required Seconds 0 "seconds" = .ok x ↔
      readBinary (trim text.toList) = some x := by
  by_cases empty : text = ""
  · subst empty
    exact ⟨nofun, nofun⟩
  · have single : Arguments.ofParameters [text] = ⟨[text]⟩ := if_neg (by simpa using empty)
    simp only [single, Arguments.required, Arguments.raw?, List.getElem?_cons_zero, Arguments.read,
      Readable.read?, trimmed, String.toList_ofList]
    cases (readBinary (trim text.toList) : Option Seconds) <;> simp

theorem readWait_eq_ok_iff {text : String} {b : Builtin} :
    Builtin.readWait (Arguments.ofParameters [text]) = .ok b ↔
      ∃ x : Seconds, readBinary (trim text.toList) = some x ∧ x.isFinite = true ∧
        x.lt .zero = false ∧ b = .wait x .zero := by
  have few : (Arguments.ofParameters [text]).atMost 1 = .ok () := by
    unfold Arguments.ofParameters
    split <;> rfl
  have read (x : Seconds) := @required_seconds text x
  unfold Builtin.readWait
  rw [few]
  cases outcome : (Arguments.ofParameters [text]).required Seconds 0 "seconds" with
  | error cause =>
    simp only [outcome, reduceCtorEq, false_iff] at read
    exact ⟨nofun, fun ⟨x, known, _⟩ => absurd known (read x)⟩
  | ok x =>
    have known := (read x).mp outcome
    have tested : (do
        if !x.isFinite || x.lt .zero then
          throw (.invalid 0 "seconds" x.text "non-negative seconds")
        return .wait x .zero : Except ArgumentError Builtin) = .ok b ↔
        x.isFinite = true ∧ x.lt .zero = false ∧ b = .wait x .zero := by
      cases x.isFinite with
      | false => exact ⟨nofun, nofun⟩
      | true =>
        cases x.lt .zero with
        | true => exact ⟨nofun, nofun⟩
        | false =>
          exact ⟨fun accepted => ⟨rfl, rfl, (Except.ok.inj accepted).symm⟩,
            fun ⟨_, _, same⟩ => congrArg Except.ok same.symm⟩
    simp only [known, Option.some.injEq, exists_eq_left']
    exact tested

section Hooks

variable [VariableStore W] [ActionHandler W A] {embed : Builtin → A}
variable (dt : Seconds) (slot : Action) (d : Drive W A) (s x : Seconds)

def Drive.calm (slot : Action) (hook : Hook) (reply : Reply) (d : Drive W A) : Journal :=
  [.called ⟨some d.event.id, d.event.cursor, slot.kind, hook, reply, false⟩]

theorem wait_startHook (embeds : Builtin.Embeds W embed) :
    (d.startHook dt slot (embed (.wait s x))).result = .ok () ∧
      d.started dt slot (embed (.wait s x)) =
        { d with event := { d.event with current := some ⟨embed (.wait s .zero), .running⟩ } } := by
  simp only [Drive.startHook, Drive.started, callHook, embeds.start]
  exact ⟨rfl, rfl⟩

theorem wait_updateHook (embeds : Builtin.Embeds W embed) :
    (d.updateHook dt slot (embed (.wait s x))).result =
        .ok (if s.le (x + dt) then .done else .running) ∧
      (d.updateHook dt slot (embed (.wait s x))).action = embed (.wait s (x + dt)) ∧
      (d.updateHook dt slot (embed (.wait s x))).journal =
        d.calm slot .update (if s.le (x + dt) then .finished else .running) ∧
      d.polled dt slot ⟨embed (.wait s x), .running⟩ =
        { d with event :=
          { d.event with current := some ⟨embed (.wait s (x + dt)), .running⟩ } } := by
  simp only [Drive.updateHook, Drive.polled, callHook, embeds.update]
  refine ⟨rfl, rfl, ?_, rfl⟩
  cases reached : s.le (x + dt) <;>
    simp [Builtin.update, reached, Builtin.idle, Outcome.mapAction, ScopeState.applyAll, replyOf,
      Replies.reply, Drive.calm]

theorem wait_closing (embeds : Builtin.Embeds W embed) :
    (d.closing dt slot ⟨embed (.wait s x), .running⟩).result = .ok () ∧
      (d.closing dt slot ⟨embed (.wait s x), .running⟩).journal =
        d.calm slot .cleanup .finished ∧
      (d.closed dt slot ⟨embed (.wait s x), .running⟩).advanced =
        { d with event := d.event.advance } := by
  obtain ⟨_, action_eq, _, polled_eq⟩ := wait_updateHook dt slot d s x embeds
  simp only [Drive.closed, Drive.closing, polled_eq, action_eq, Drive.cleanupHook, callHook,
    embeds.cleanup]
  refine ⟨rfl, ?_, rfl⟩
  simp [Builtin.idle, Outcome.mapAction, ScopeState.applyAll, replyOf, Replies.reply, Drive.calm,
    RunningEvent.id]

end Hooks

def lastOf (id : EventId) (j : Nat) (slot : Action) : Journal :=
  [.called ⟨some id, j, slot.kind, .update, .finished, false⟩,
    .called ⟨some id, j, slot.kind, .cleanup, .finished, false⟩, .actionFinished id slot]

def firstAt (factories : Dictionary (ActionFactory A)) (declaration : Event) (j : Nat) : Journal :=
  match declaration.actions[j]? with
  | none => [.eventFinished declaration.id]
  | some next => (createAction factories (some declaration.id) j next.kind next.parameters).2

/-- The slot of a wait is over and the script goes on behind it: the next slot is entered, unless
there is none or its action cannot be made. -/
structure PassesOn (factories : Dictionary (ActionFactory A)) (declaration : Event) (j : Nat)
    (slot : Action) (journal : Journal) : Prop where
  passed : ∃ front behind, journal =
    front ++ (lastOf declaration.id j slot ++ firstAt factories declaration (j + 1)) ++ behind
  entered : ∀ next action notices, declaration.actions[j + 1]? = some next →
    createAction factories (some declaration.id) (j + 1) next.kind next.parameters =
      (.ok action, notices) →
    ∃ call ∈ calls journal,
      call.owner = some declaration.id ∧ call.slot = j + 1 ∧ call.hook = .start

theorem PassesOn.within {factories : Dictionary (ActionFactory A)} {declaration : Event} {j : Nat}
    {slot : Action} {mine : Journal} (passes : PassesOn factories declaration j slot mine)
    (front behind : Journal) :
    PassesOn factories declaration j slot (front ++ mine ++ behind) where
  passed := by
    obtain ⟨before, after, rfl⟩ := passes.passed
    exact ⟨front ++ before, after ++ behind, by simp only [List.append_assoc]⟩
  entered next action notices here created := by
    obtain ⟨call, member, entry⟩ := passes.entered next action notices here created
    exact ⟨call, by simp [calls_append, member], entry⟩

theorem Proceeds.firstAt {factories : Dictionary (ActionFactory A)} {e : RunningEvent A}
    {journal : Journal} (proceeds : Proceeds factories e journal) :
    ∃ rest, journal = MapScript.firstAt factories e.declaration e.cursor ++ rest := by
  unfold Proceeds RunningEvent.slot? at proceeds
  unfold MapScript.firstAt
  cases here : e.declaration.actions[e.cursor]? with
  | none =>
    rw [here] at proceeds
    exact ⟨[], proceeds⟩
  | some slot =>
    rw [here] at proceeds
    exact proceeds

structure WaitsAt (embed : Builtin → A) (declaration : Event) (j : Nat) (s x : Seconds)
    (e : RunningEvent A) : Prop where
  same : e.declaration = declaration
  cursor : e.cursor = j
  flying : e.current = some ⟨embed (.wait s x), .running⟩
  live : e.cancelled = false

section Walks

variable [VariableStore W] [ActionHandler W A] {embed : Builtin → A}
variable {factories : Dictionary (ActionFactory A)} {dt : Seconds} {token : ScopeToken}
variable {d d' : Drive W A} {journal : Journal} {result : Except EngineError Drain}
variable {declaration : Event} {j : Nat} {slot : Action} {s x : Seconds}

omit [VariableStore W] in
theorem Walk.starts {action : A} {notices : Journal}
    (walk : Walk factories dt token d journal d' result) (idle : d.event.current = none)
    (here : d.event.slot? = some slot) (created : d.create factories slot = (.ok action, notices)) :
    ∃ call ∈ calls journal,
      call.owner = some d.event.id ∧ call.slot = d.event.cursor ∧ call.hook = .start := by
  cases walk with
  | complete past => cases past.symm.trans here
  | refused found _ refused =>
    obtain rfl := Option.some.inj (found.symm.trans here)
    cases created.symm.trans refused
  | startFailed | startedAway | started =>
    simp [calls_append, startHook_calls, or_and_right, exists_or, RunningEvent.call]
  | skipped _ flying | updateFailed _ flying | held _ flying | cleanupFailed _ flying
  | finishedAway _ flying | finished _ flying => simp [idle] at flying

theorem Walk.waits (embeds : Builtin.Embeds W embed)
    (walk : Walk factories dt token d journal d' result) (fresh : d.state.token = token)
    (waits : WaitsAt embed declaration j s x d.event) (here : declaration.actions[j]? = some slot) :
    (s.le (x + dt) = false → result = .ok .blocked ∧
      WaitsAt embed declaration j s (x + dt) d'.event) ∧
    (s.le (x + dt) = true → j < d'.event.cursor ∧
      PassesOn factories declaration j slot journal) := by
  obtain ⟨rfl, rfl, flying, live⟩ := waits
  obtain ⟨updated, _, update_eq, polled⟩ := wait_updateHook dt slot d s x embeds
  obtain ⟨cleaned, cleanup_eq, advanced⟩ := wait_closing dt slot d s x embeds
  have closed_state : (d.closed dt slot ⟨embed (.wait s x), .running⟩).state = d.state := by
    change (d.closed dt slot ⟨embed (.wait s x), .running⟩).advanced.state = d.state
    rw [advanced]
  have inFlight {current : InFlight A} (some : d.event.current = some current) :
      current = ⟨embed (.wait s x), .running⟩ :=
    Option.some.inj (some.symm.trans flying)
  have atSlot {other : Action} (found : d.event.slot? = some other) : other = slot :=
    Option.some.inj (found.symm.trans here)
  -- The wait is in flight and running, so the drain begins with its update.
  cases walk with
  | complete past => exact absurd (past.symm.trans here) nofun
  | refused _ idle | startFailed _ idle | startedAway _ idle | started _ idle =>
    simp [flying] at idle
  | skipped _ stopped => cases inFlight stopped
  | updateFailed found some _ failed =>
    obtain rfl := inFlight some
    obtain rfl := atSlot found
    cases updated.symm.trans failed
  | held found some _ busy =>
    obtain rfl := inFlight some
    obtain rfl := atSlot found
    rw [updated] at busy
    have short : s.le (x + dt) = false := by
      cases reached : s.le (x + dt) with
      | false => rfl
      | true => simp [reached] at busy
    simp only [polled, fresh, short, if_true, reduceCtorEq, false_implies, and_true]
    exact fun _ => ⟨trivial, rfl, rfl, rfl, live⟩
  | cleanupFailed found some _ _ failed =>
    obtain rfl := inFlight some
    obtain rfl := atSlot found
    cases cleaned.symm.trans failed
  | finishedAway found some _ _ _ away =>
    obtain rfl := inFlight some
    obtain rfl := atSlot found
    exact absurd (by rw [closed_state]; exact fresh) away
  | finished found some _ done _ same rest =>
    obtain rfl := inFlight some
    obtain rfl := atSlot found
    rw [updated] at done
    have reached : s.le (x + dt) = true := by
      cases short : s.le (x + dt) with
      | true => rfl
      | false => simp [short] at done
    rw [advanced] at rest
    have beyond := (rest.driven fresh).cursor_le
    obtain ⟨behind, first⟩ := (rest.proceeds rfl).firstAt
    refine ⟨by simp [reached], fun _ => ⟨beyond, ⟨[], behind, ?_⟩, ?_⟩⟩
    · rw [update_eq, cleanup_eq, reached, first, List.nil_append, List.append_assoc]
      rfl
    · -- The rest of the drain is at the next slot, with nothing in flight.
      intro next action notices next_eq created
      obtain ⟨call, member, entry⟩ := rest.starts rfl next_eq created
      exact ⟨call, by simp [calls_append, member], entry⟩

omit [VariableStore W] [ActionHandler W A] in
theorem create_wait
    (known : factories.find? slot.kind =
      some fun arguments => (Builtin.readWait arguments).map embed)
    (accepted : Builtin.readWait (Arguments.ofParameters slot.parameters) = .ok (.wait s .zero)) :
    d.create factories slot =
      (.ok (embed (.wait s .zero)),
        [.actionCreated (some d.event.id) d.event.cursor slot.kind]) := by
  simp only [Drive.create, createAction, known, accepted]
  rfl

theorem wait_started (embeds : Builtin.Embeds W embed)
    (known : factories.find? slot.kind =
      some fun arguments => (Builtin.readWait arguments).map embed)
    (accepted : Builtin.readWait (Arguments.ofParameters slot.parameters) = .ok (.wait s .zero))
    {found : Action} {action : A} {notices : Journal} (found_eq : d.event.slot? = some found)
    (here : d.event.declaration.actions[d.event.cursor]? = some slot)
    (created : d.create factories found = (.ok action, notices)) :
    (d.startHook dt found action).result = .ok () ∧ d.started dt found action =
      { d with event := { d.event with current := some ⟨embed (.wait s .zero), .running⟩ } } := by
  obtain rfl : found = slot := Option.some.inj (found_eq.symm.trans here)
  rw [create_wait known accepted] at created
  obtain ⟨made, _⟩ := Prod.mk.inj created
  obtain rfl := Except.ok.inj made
  exact wait_startHook dt found d s .zero embeds

theorem Walk.enters_wait (embeds : Builtin.Embeds W embed)
    (known : factories.find? slot.kind =
      some fun arguments => (Builtin.readWait arguments).map embed)
    (accepted : Builtin.readWait (Arguments.ofParameters slot.parameters) = .ok (.wait s .zero))
    (walk : Walk factories dt token d journal d' result) (fresh : d.state.token = token)
    (same : d.event.declaration = declaration) (here : declaration.actions[j]? = some slot)
    (live : d.event.cancelled = false)
    (entered : ∃ call ∈ calls journal, call.slot = j ∧ call.hook = .start) :
    ∃ front mine d₁, journal = front ++ mine ∧ Walk factories dt token d₁ mine d' result ∧
      d₁.state.token = token ∧ WaitsAt embed declaration j s .zero d₁.event := by
  obtain ⟨call, member, at_slot, hook⟩ := entered
  have polls {d : Drive W A} {other : Action} {current : InFlight A} :
      call ∉ calls (d.updateHook dt other current.action).journal := by
    rw [updateHook_calls, List.mem_singleton]
    rintro rfl
    cases hook
  have cleans {d : Drive W A} {other : Action} {current : InFlight A} :
      call ∉ calls (d.closing dt other current).journal := by
    rw [closing_calls, List.mem_singleton]
    rintro rfl
    cases hook
  -- Slots before the wait may finish in the same drain; the start of the wait is behind them.
  induction walk with
  | complete => simp at member
  | refused _ _ created => simp [create_calls created] at member
  | startFailed found _ created failed =>
    rw [calls_append, create_calls created, startHook_calls] at member
    obtain rfl := List.mem_singleton.mp member
    obtain rfl := at_slot
    obtain rfl := same
    cases (wait_started embeds known accepted found here created).1.symm.trans failed
  | startedAway found _ created _ away =>
    rw [calls_append, calls_append, create_calls created, startHook_calls] at member
    obtain rfl := List.mem_singleton.mp member
    obtain rfl := at_slot
    obtain rfl := same
    rw [(wait_started embeds known accepted found here created).2] at away
    exact absurd fresh away
  | started found _ created _ kept rest ih =>
    simp only [calls_append, create_calls created, startHook_calls] at member
    rcases List.mem_cons.mp (by simpa using member) with rfl | later
    · obtain rfl := at_slot
      obtain rfl := same
      rw [(wait_started embeds known accepted found here created).2] at rest
      exact ⟨_, _, _, rfl, rest, fresh, rfl, rfl, rfl, live⟩
    · obtain ⟨front, mine, d₁, split, waiting⟩ := ih kept same live later
      exact ⟨_, mine, d₁, by rw [split, ← List.append_assoc], waiting⟩
  | skipped _ _ _ ih =>
    obtain ⟨front, mine, d₁, split, waiting⟩ := ih fresh same live (by simpa using member)
    exact ⟨_, mine, d₁, by rw [split, ← List.append_assoc], waiting⟩
  | updateFailed | held => exact absurd member polls
  | cleanupFailed | finishedAway =>
    simp [polls, cleans] at member
  | finished _ _ _ _ _ kept _ ih =>
    obtain ⟨front, mine, d₁, split, waiting⟩ := ih kept same live
      (by simpa [polls, cleans] using member)
    exact ⟨_, mine, d₁, by rw [split, ← List.append_assoc], waiting⟩

end Walks

end MapScript
