import MapScript.Proofs.Catalog.InstantActions
import MapScript.Proofs.Catalog.Waiting
import MapScript.Proofs.Number.RepeatedSums
import MapScript.Simulation.Basic
import MapScript.Simulation.Options

set_option autoImplicit false

namespace MapScript

open Number Text

variable {W A : Type}

section Alone

variable [VariableStore W] [ActionHandler W A] {embed : Builtin → A}

theorem wait_update (embeds : Builtin.Embeds W embed) (name : String) (slot : Nat)
    (moment : Moment) (s x : Seconds) (scene : Scene W) :
    let called := callHook name .update .update slot moment ActionHandler.update
      (embed (.wait s x)) scene
    called.action = embed (.wait s (x + moment.dt)) ∧
      called.result = .ok (if s.le (x + moment.dt) then .done else .running) ∧
      called.scene = scene := by
  simp only [callHook, embeds.update]
  exact ⟨rfl, rfl, rfl⟩

theorem wait_proceed (embeds : Builtin.Embeds W embed) (name : String) (s step : Seconds)
    (scene : Scene W) (polls : Nat) (x : Seconds) (backlog : List Notice) :
    let shot := OneShot.proceed name step scene.state.token polls false
      ⟨embed (.wait s x), scene, backlog⟩
    (∀ i < polls, s.le ((· + step)^[i + 1] x) = true → shot.2 = .finished) ∧
      ((∀ i < polls, s.le ((· + step)^[i + 1] x) = false) → shot.2 = .unfinished) := by
  induction polls generalizing x backlog with
  | zero =>
    unfold OneShot.proceed
    simp
  | succ polls ih =>
    obtain ⟨action, ready, left⟩ := wait_update embeds name 0 ⟨none, step⟩ s x scene
    have later := ih (x + step)
    unfold OneShot.proceed
    simp only [ne_eq, not_true_eq_false, if_false, Bool.false_eq_true, ready, OneShot.after, action,
      left]
    cases reached : s.le (x + step) with
    | true =>
      -- The update that reaches the time is the last one, and its cleanup does nothing.
      obtain ⟨ended, _⟩ := proceed_done embeds polls name step (.wait s (x + step)) scene
        ((callHook name .update .update 0 ⟨none, step⟩ ActionHandler.update (embed (.wait s x))
          scene).journal.reverse ++ backlog)
      refine ⟨fun _ _ _ => ended, fun short => ?_⟩
      exact absurd (reached.symm.trans (short 0 (Nat.succ_pos polls))) (by decide)
    | false =>
      refine ⟨fun i before enough => ?_, fun short => ?_⟩
      · cases i with
        | zero => exact absurd (reached.symm.trans enough) (by decide)
        | succ i => exact (later _).1 i (by omega) enough
      · exact (later _).2 fun i before => short (i + 1) (by omega)

theorem wait_shot (embeds : Builtin.Embeds W embed) {s step : Seconds}
    (finite : step.isFinite = true) (positive : Binary.zero.lt step = true)
    (number : s.isFinite = true) (above : s.lt .zero = false) (fits : s.place ≤ binary32.largest)
    (name : String) (scene : Scene W) :
    (s.place ≤ step.standstill → ∀ polls : Nat, s.place < polls →
      (OneShot.run polls name false step (embed (.wait s .zero)) scene).2 = .finished) ∧
    (step.standstill < s.place → ∀ polls,
      (OneShot.run polls name false step (embed (.wait s .zero)) scene).2 = .unfinished) := by
  obtain ⟨reaches, stays⟩ := Binary.le_total (by decide) finite positive number fits
  have begun : Builtin.start (.wait s .zero) ⟨none, step⟩ scene =
      ⟨.wait s .zero, scene.world, scene.locals, [], .ok ()⟩ := rfl
  obtain ⟨same, ready, left⟩ := quiet_start embeds begun name 0
  simp only [OneShot.run, ready, Except.mapError, same, left]
  refine ⟨fun within polls enough => ?_, fun beyond polls => ?_⟩
  · have some : 0 < polls := by
      have := Binary.place_nonneg number above
      omega
    obtain ⟨last, rfl⟩ := Nat.exists_eq_add_of_le' some
    apply (wait_proceed embeds name s step scene _ _ _).1 last (Nat.lt_succ_self last)
    exact reaches within (last + 1) (by omega)
  · apply (wait_proceed embeds name s step scene _ _ _).2
    exact fun i _ => stays beyond (i + 1)

theorem skipped_wait_shot (embeds : Builtin.Embeds W embed) (s step : Seconds) (polls : Nat)
    (name : String) (scene : Scene W) :
    (OneShot.run polls name true step (embed (.wait s .zero)) scene).2 = .finished := by
  have begun : Builtin.start (.wait s .zero) ⟨none, step⟩ scene =
      ⟨.wait s .zero, scene.world, scene.locals, [], .ok ()⟩ := rfl
  obtain ⟨same, ready, left⟩ := quiet_start embeds begun name 0
  simp only [OneShot.run, ready, Except.mapError, same, left]
  exact (proceed_done embeds polls name step _ scene _).1

end Alone

namespace Engine

variable [VariableStore W] [ActionHandler W A] {embed : Builtin → A} {engine : Engine W A}
variable {text : String} {s step : Seconds}

theorem execute_wait (embeds : Builtin.Embeds W embed)
    (known : engine.Knows embed "wait" Builtin.readWait)
    (accepted : Builtin.readWait (Arguments.ofParameters [text]) = .ok (.wait s .zero))
    (finite : step.isFinite = true) (positive : Binary.zero.lt step = true) (world : W) :
    (s.place ≤ step.standstill → ∀ polls : Nat, s.place < polls →
      (engine.execute polls world "wait" [text] false step).ending = .finished) ∧
    (step.standstill < s.place → ∀ polls,
      (engine.execute polls world "wait" [text] false step).ending = .unfinished) := by
  obtain ⟨x, read, number, above, same⟩ := readWait_eq_ok_iff.mp accepted
  obtain ⟨rfl, _⟩ := Builtin.wait.inj same
  obtain ⟨within, beyond⟩ := wait_shot embeds finite positive number above
    (readBinary_place_le read) "wait" ⟨world, Dictionary.empty, engine.state⟩
  have created := known.create_eq none 0 [text]
  rw [accepted] at created
  have ending (polls : Nat) := (execute_created created polls world false step).1
  exact ⟨fun fits polls enough => (ending polls).trans (within fits polls enough),
    fun far polls => (ending polls).trans (beyond far polls)⟩

end Engine

theorem ofInt_rate {rate : Nat} (pos : 0 < rate) (small : rate < 2 ^ 32) :
    ∃ m, 2 ^ 149 ≤ m ∧ m ≤ 2 ^ 181 ∧ (Binary.ofInt rate : Seconds) = .finite false m := by
  have least : 2 ^ 149 ≤ rate * 2 ^ 149 / 1 := by omega
  obtain ⟨m, low, high, rounded⟩ := ofUnits_eq_finite (f := binary32) (by decide) Nat.one_pos
    (n := rate * 2 ^ 149) (by omega) (k := 181) (by omega) (by decide) false
  have size : 149 ≤ (rate * 2 ^ 149 / 1).log2 := (Nat.le_log2 (by omega)).mpr least
  refine ⟨m, (Nat.pow_le_pow_right Nat.two_pos size).trans low, high, ?_⟩
  rw [← rounded]
  rfl

theorem frameTime_pos (options : Options) :
    options.frameTime.isFinite = true ∧ Binary.zero.lt options.frameTime = true := by
  have small : max options.fps.toNat 1 < 2 ^ 32 := by
    have := options.fps.toNat_lt
    omega
  obtain ⟨rate, low, high, rate_eq⟩ := ofInt_rate (by omega) small
  obtain ⟨one, low', high', one_eq⟩ := ofInt_rate Nat.one_pos (by decide)
  have nonzero : rate ≠ 0 := by omega
  have whole : one * 2 ^ 149 / rate ≠ 0 := by
    apply Nat.ne_of_gt
    apply Nat.div_pos (high.trans _) (by omega)
    omega
  have bounded : one * 2 ^ 149 / rate < 2 ^ 182 := by
    calc one * 2 ^ 149 / rate ≤ one * 2 ^ 149 / 2 ^ 149 :=
          Nat.div_le_div_left low (Nat.two_pow_pos 149)
      _ = one := Nat.mul_div_cancel one (Nat.two_pow_pos 149)
      _ < 2 ^ 182 := by omega
  obtain ⟨m, size, _, rounded⟩ := ofUnits_eq_finite (f := binary32) (by decide)
    (Nat.pos_of_ne_zero nonzero) whole bounded (by decide) false
  have frame_eq : options.frameTime = .finite false m := by
    have cast : max (options.fps.toNat : Int) 1 = (max options.fps.toNat 1 : Nat) := by omega
    have one_eq : (Binary.ofInt 1 : Seconds) = .finite false one := one_eq
    rw [Options.frameTime, cast, Binary.inverse, rate_eq, one_eq, ← rounded]
    exact if_pos nonzero
  have pos : 0 < m := Nat.lt_of_lt_of_le (Nat.two_pow_pos _) size
  rw [frame_eq]
  refine ⟨rfl, Binary.lt_iff.mpr ⟨nofun, nofun, .inr ⟨rfl, ?_⟩⟩⟩
  simpa [Binary.place, Binary.zero, Binary.signedUnits] using pos

theorem Simulation.execute_parsed {line : String} {action : Action}
    (parsed : Script.parseAction "console" line = .ok action) (polls : Nat) (dt : Seconds)
    (sim : Simulation) :
    let ending := (sim.engine.execute polls sim.world action.kind action.parameters false dt).ending
    (ending = .finished → (sim.execute polls dt line).2 = .ok ()) ∧
      (ending = .unfinished → (sim.execute polls dt line).2 = .error (.commandUnfinished line)) := by
  constructor
  all_goals
    intro ended
    simp only [execute, parsed, ended]

/-- A wait on its own comes back exactly if the time to wait is not beyond the standstill of its
steps: 2 ^ 24 times the least power of two that is not less than the step, which is 2 ^ 19 seconds
at sixty frames a second. Then it takes at most as many updates as the time has units; beyond it no
number of updates is enough. From the console this is so with the frame time of any rate. Only a
wait whose updates are skipped comes back always. -/
theorem console_wait_comes_back_iff [VariableStore W] [ActionHandler W A] {embed : Builtin → A}
    {engine : Engine W A} (embeds : Builtin.Embeds W embed)
    (known : engine.Knows embed "wait" Builtin.readWait) {text : String} {s step : Seconds}
    (accepted : Builtin.readWait (Arguments.ofParameters [text]) = .ok (.wait s .zero))
    (finite : step.isFinite = true) (positive : Binary.zero.lt step = true) (world : W) :
    (s.place ≤ step.standstill → ∀ polls : Nat, s.place < polls →
      (engine.execute polls world "wait" [text] false step).ending = .finished) ∧
    (step.standstill < s.place → ∀ polls,
      (engine.execute polls world "wait" [text] false step).ending = .unfinished) ∧
    (∀ polls, (engine.execute polls world "wait" [text] true step).ending = .finished) ∧
    ∀ (sim : Simulation) (options : Options) (line slot : String),
      Script.parseAction "console" line = .ok ⟨"wait", [text], slot⟩ →
      sim.engine.Knows (fun b => b) "wait" Builtin.readWait →
      (s.place ≤ options.frameTime.standstill → ∀ polls : Nat, s.place < polls →
        (sim.execute polls options.frameTime line).2 = .ok ()) ∧
      (options.frameTime.standstill < s.place → ∀ polls,
        (sim.execute polls options.frameTime line).2 = .error (.commandUnfinished line)) := by
  obtain ⟨within, beyond⟩ := Engine.execute_wait embeds known accepted finite positive world
  refine ⟨within, beyond, fun polls => ?_, fun sim options line slot parsed knows => ?_⟩
  · have created := known.create_eq none 0 [text]
    rw [accepted] at created
    have executed := Engine.execute_created created polls world true step
    exact executed.1.trans (skipped_wait_shot embeds s step polls "wait" _)
  obtain ⟨finite, positive⟩ := frameTime_pos options
  obtain ⟨within, beyond⟩ :=
    Engine.execute_wait Builtin.Embeds.id knows accepted finite positive sim.world
  have ended (polls : Nat) := sim.execute_parsed parsed polls options.frameTime
  exact ⟨fun fits polls enough => (ended polls).1 (within fits polls enough),
    fun far polls => (ended polls).2 (beyond far polls)⟩

example : Engine.consoleStep.standstill = (Binary.ofInt (2 ^ 19) : Seconds).place := by
  decide +kernel

theorem readWait_million :
    Builtin.readWait (Arguments.ofParameters ["1000000"]) =
      .ok (.wait (Binary.ofInt 1000000) .zero) := by
  decide +kernel

theorem console_wait_comes_back_iff_million :
    let engine : Engine Variables Builtin := (Catalog.engine (fun b => b) .default).1
    let sim : Simulation := .new ⟨"", [], []⟩ .default Dictionary.empty
    let slow : Options := ⟨"", none, 1, 0, false, [], []⟩
    (∃ polls, (engine.execute polls Dictionary.empty "wait" ["1000000"] false
      (Binary.ofInt 1)).ending = .finished) ∧
    (∀ polls, (engine.execute polls Dictionary.empty "wait" ["1000000"] false
      Engine.consoleStep).ending = .unfinished) ∧
    (∃ polls, (sim.execute polls slow.frameTime "wait 1000000").2 = .ok ()) := by
  intro engine sim slow
  have known : engine.Knows (fun b => b) "wait" Builtin.readWait := rfl
  have parsed : Script.parseAction "console" "wait 1000000" =
      .ok ⟨"wait", ["1000000"], "console"⟩ := by decide +kernel
  obtain ⟨enough, _, _, commands⟩ := console_wait_comes_back_iff Builtin.Embeds.id known
    readWait_million (show (Binary.ofInt 1 : Seconds).isFinite = true by decide +kernel)
    (by decide +kernel) Dictionary.empty
  obtain ⟨_, never, _⟩ := console_wait_comes_back_iff Builtin.Embeds.id known readWait_million
    (show Engine.consoleStep.isFinite = true by decide +kernel) (by decide +kernel)
    Dictionary.empty
  obtain ⟨returns, _⟩ := commands sim slow "wait 1000000" "console" parsed rfl
  exact ⟨⟨_, enough (by decide +kernel) _ (Int.lt_toNat.mp (Nat.lt_succ_self _))⟩,
    never (by decide +kernel),
    ⟨_, returns (by decide +kernel) _ (Int.lt_toNat.mp (Nat.lt_succ_self _))⟩⟩

theorem million_seconds_never_pass :
    let engine : Engine Variables Builtin := (Catalog.engine (fun b => b) .default).1
    Builtin.readWait (Arguments.ofParameters ["1000000"]) =
        .ok (.wait (Binary.ofInt 1000000) .zero) ∧
      Engine.consoleStep.isFinite = true ∧ Binary.zero.lt Engine.consoleStep = true ∧
      ¬ ∃ polls, (engine.execute polls Dictionary.empty "wait" ["1000000"] false
        Engine.consoleStep).ending ≠ .unfinished := by
  intro engine
  have finite : Engine.consoleStep.isFinite = true := by decide +kernel
  have positive : Binary.zero.lt Engine.consoleStep = true := by decide +kernel
  have known : engine.Knows (fun b => b) "wait" Builtin.readWait := rfl
  obtain ⟨_, never⟩ := Engine.execute_wait Builtin.Embeds.id known readWait_million finite positive
    Dictionary.empty
  exact ⟨readWait_million, finite, positive, fun ⟨polls, ended⟩ =>
    ended (never (by decide +kernel) polls)⟩

end MapScript
