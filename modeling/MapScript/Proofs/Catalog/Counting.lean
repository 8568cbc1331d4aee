import MapScript.Proofs.Catalog.InstantActions
import MapScript.Proofs.Number.DecimalIntegers

set_option autoImplicit false

namespace MapScript

open Number Text Journal

def Fits (n : Int) : Prop :=
  (signedRange 64).1 ≤ n ∧ n ≤ (signedRange 64).2

instance (n : Int) : Decidable (Fits n) :=
  inferInstanceAs (Decidable (_ ∧ _))

/-- The number that a variable stands for: what it reads as, or zero if it is unset or empty. -/
inductive Counts : Option String → Int → Prop
  | unset : Counts none 0
  | empty : Counts (some "") 0
  | numeral {raw : String} {n : Int} (denotes : Denotes (trim raw.toList) n) (fits : Fits n) :
      Counts (some raw) n

structure Amount where
  text : String
  value : Int
  denotes : Denotes (trim text.toList) value
  fits : Fits value

namespace Amount

def ofInt64 (n : Int64) : Amount where
  text := decimal n.toInt
  value := n.toInt
  denotes := by
    rw [trim_decimal]
    exact writeInteger_denotes n.toInt
  fits := ⟨n.le_toInt, Int.le_sub_one_of_lt n.toInt_lt⟩

end Amount

section Numbers

variable {raw key : String} {old : Option String} {n : Int} {amount : Int64}

theorem readInteger_signed {cs : List Char} :
    readInteger (signedRange 64).1 (signedRange 64).2 cs = .ok n ↔ Denotes cs n ∧ Fits n :=
  readInteger_eq_ok_iff (by decide) (by decide)

theorem counts_unset : Counts none n ↔ 0 = n := by
  constructor
  · intro counts
    cases counts
    rfl
  · rintro rfl
    exact .unset

theorem counts_empty : Counts (some "") n ↔ 0 = n := by
  constructor
  · intro counts
    cases counts with
    | empty => rfl
    | numeral denotes => exact absurd denotes not_denotes_nil
  · rintro rfl
    exact .empty

theorem counts_text (filled : raw ≠ "") :
    Counts (some raw) n ↔ Denotes (trim raw.toList) n ∧ Fits n := by
  constructor
  · intro counts
    cases counts with
    | empty => exact absurd rfl filled
    | numeral denotes fits => exact ⟨denotes, fits⟩
  · exact fun ⟨denotes, fits⟩ => .numeral denotes fits

theorem counted_eq_ok_iff : Builtin.counted key old = .ok n ↔ Counts old n := by
  cases old with
  | none => simp [Builtin.counted, counts_unset]
  | some raw =>
    by_cases blank : raw = ""
    · subst blank
      simp [Builtin.counted, counts_empty]
    · rw [counts_text blank, ← readInteger_signed]
      simp only [Builtin.counted, if_neg blank]
      split
      next m read => simp [read]
      next cause read => simp [read]

theorem Counts.decimal (fits : Fits n) : Counts (some (decimal n)) n := by
  refine .numeral ?_ fits
  rw [trim_decimal]
  exact writeInteger_denotes n

theorem incremented_of_fits (counts : Counts old n) (fits : Fits (n + amount.toInt)) :
    Builtin.incremented key amount old = .ok (decimal (n + amount.toInt)) := by
  simp only [Builtin.incremented, counted_eq_ok_iff.mpr counts]
  exact if_pos fits

theorem incremented_of_not_fits (counts : Counts old n) (beyond : ¬ Fits (n + amount.toInt)) :
    ∃ cause, Builtin.incremented key amount old = .error cause := by
  simp only [Builtin.incremented, counted_eq_ok_iff.mpr counts]
  exact ⟨_, if_neg beyond⟩

theorem incremented_of_no_number (none : ∀ n, ¬ Counts old n) :
    ∃ cause, Builtin.incremented key amount old = .error cause := by
  unfold Builtin.incremented
  cases outcome : Builtin.counted key old with
  | ok n => exact absurd (counted_eq_ok_iff.mp outcome) (none n)
  | error cause => exact ⟨cause, rfl⟩

end Numbers

theorem Amount.readIncrement {k : String} (nonempty : k ≠ "") (amount : Amount) :
    ∃ n : Int64, n.toInt = amount.value ∧
      Builtin.readIncrement (Arguments.ofParameters [k, amount.text]) =
        .ok (.incrementVariable k n) := by
  have present : amount.text ≠ "" := by
    intro none
    have denotes := amount.denotes
    rw [none] at denotes
    exact not_denotes_nil denotes
  have read : Readable.read? (trimmed amount.text) = some (Int64.ofInt amount.value) := by
    have within := readInteger_signed.mpr ⟨amount.denotes, amount.fits⟩
    simp only [Readable.read?, readBounded, trimmed, String.toList_ofList, within]
  have both : Arguments.ofParameters [k, amount.text] = ⟨[k, amount.text]⟩ := if_neg (by simp)
  have key_eq : Arguments.text ⟨[k, amount.text]⟩ 0 "key" = .ok k := if_neg nonempty
  have amount_eq : Arguments.optional Int64 ⟨[k, amount.text]⟩ 1 "amount" =
      .ok (some (Int64.ofInt amount.value)) := by
    simp [Arguments.optional, Arguments.raw?, Arguments.read, present, read, Except.map]
  refine ⟨Int64.ofInt amount.value, ?_, ?_⟩
  · have fits := amount.fits
    exact Int64.toInt_ofInt_of_le fits.1 (Int.lt_of_le_sub_one fits.2)
  · rw [both, Builtin.readIncrement, key_eq, amount_eq]
    rfl

section Runs

variable {W A : Type} [VariableStore W] [ActionHandler W A] {embed : Builtin → A}
variable {k value : String} {amount : Int64} {scene : Scene W}

theorem increment_shot (embeds : Builtin.Embeds W embed) (scene : Scene W)
    (sum : Builtin.incremented k amount (VariableStore.lookup scene.world k) = .ok value)
    (polls : Nat) (name : String) (skip : Bool) (step : Seconds) :
    let shot := OneShot.run (polls + 1) name skip step (embed (.incrementVariable k amount)) scene
    shot.2 = .finished ∧
      shot.1.scene = { scene with world := VariableStore.assign scene.world k value } := by
  have begun : Builtin.start (.incrementVariable k amount) ⟨none, step⟩ scene =
      ⟨.incrementVariable k amount, VariableStore.assign scene.world k value, scene.locals, [],
        .ok ()⟩ := by
    simp only [Builtin.start, sum]
    rfl
  exact instant_shot embeds rfl begun polls name skip

theorem increment_shot_refused {cause : Failure} (embeds : Builtin.Embeds W embed)
    (scene : Scene W)
    (sum : Builtin.incremented k amount (VariableStore.lookup scene.world k) = .error cause)
    (polls : Nat) (name : String) (skip : Bool) (step : Seconds) :
    let shot := OneShot.run polls name skip step (embed (.incrementVariable k amount)) scene
    (∃ cause, shot.2 = .failed cause) ∧ shot.1.scene = scene := by
  have refused : Builtin.start (.incrementVariable k amount) ⟨none, step⟩ scene =
      ⟨.incrementVariable k amount, scene.world, scene.locals, [], .error cause⟩ := by
    simp only [Builtin.start, sum]
    rfl
  obtain ⟨failed, left⟩ := refused_shot embeds refused polls name skip
  exact ⟨⟨_, failed⟩, left⟩

end Runs

def subtotal (c : Int) (amounts : List Amount) (i : Nat) : Int :=
  (amounts.take i).foldl (fun sum amount => sum + amount.value) c

theorem subtotal_zero (c : Int) (amounts : List Amount) : subtotal c amounts 0 = c := by
  simp [subtotal]

theorem subtotal_cons (c : Int) (amount : Amount) (rest : List Amount) (i : Nat) :
    subtotal c (amount :: rest) (i + 1) = subtotal (c + amount.value) rest i := by
  simp [subtotal]

namespace Engine

variable {W A : Type} [ActionHandler W A]

def executeAll (polls : Nat) (skip : Bool) (step : Seconds) :
    Engine W A → W → List (String × List String) → List (Executed W A)
  | _, _, [] => []
  | engine, world, (name, parameters) :: rest =>
    let executed := engine.execute polls world name parameters skip step
    executed :: executeAll polls skip step executed.engine executed.world rest

theorem Knows.execute {embed : Builtin → A} {name : String}
    {read : Arguments → Except ArgumentError Builtin} {engine : Engine W A}
    (known : engine.Knows embed name read) (polls : Nat) (world : W) (other : String)
    (parameters : List String) (skip : Bool) (step : Seconds) :
    (engine.execute polls world other parameters skip step).engine.Knows embed name read := by
  rw [Knows, execute_actions]
  exact known

end Engine

def increments (k : String) (amounts : List Amount) : List (String × List String) :=
  amounts.map fun amount => ("increment_variable", [k, amount.text])

/-- Each run adds its amount to the number that the variable holds, or fails and leaves the world
as it is. -/
inductive Tallies {W A : Type} [VariableStore W] (k : String) :
    Int → W → List Amount → List (Executed W A) → Prop
  | none {c : Int} {world : W} : Tallies k c world [] []
  | counted {c : Int} {world : W} {amount : Amount} {amounts : List Amount}
      {first : Executed W A} {steps : List (Executed W A)} (fits : Fits (c + amount.value))
      (done : first.ending = .finished)
      (world_eq : first.world = VariableStore.assign world k (decimal (c + amount.value)))
      (later : Tallies k (c + amount.value) first.world amounts steps) :
      Tallies k c world (amount :: amounts) (first :: steps)
  | refused {c : Int} {world : W} {amount : Amount} {amounts : List Amount}
      {first : Executed W A} {steps : List (Executed W A)} (beyond : ¬ Fits (c + amount.value))
      (failed : ∃ cause, first.ending = .failed cause) (world_eq : first.world = world)
      (later : Tallies k c first.world amounts steps) :
      Tallies k c world (amount :: amounts) (first :: steps)

namespace Tallies

variable {W A : Type} [VariableStore W] {k : String} {c : Int} {world : W} {amounts : List Amount}
variable {steps : List (Executed W A)}

theorem length_eq (tallies : Tallies k c world amounts steps) : steps.length = amounts.length := by
  induction tallies with
  | none => rfl
  | counted _ _ _ _ ih | refused _ _ _ _ ih => simp [ih]

theorem finished_iff (tallies : Tallies k c world amounts steps) :
    (∀ s ∈ steps, s.ending = .finished) ↔
      ∀ i < amounts.length, Fits (subtotal c amounts (i + 1)) := by
  induction tallies with
  | none => simp
  | counted fits done _ _ ih =>
    rw [List.forall_mem_cons, ih, List.length_cons, Nat.forall_lt_succ_left]
    simp only [subtotal_cons, subtotal_zero, done, fits, true_and]
  | refused beyond failed _ _ _ =>
    rw [List.forall_mem_cons, List.length_cons, Nat.forall_lt_succ_left]
    obtain ⟨cause, failed⟩ := failed
    simp only [subtotal_cons, subtotal_zero, failed, beyond, reduceCtorEq, false_and]

theorem counted_at [LawfulVariableStore W] (tallies : Tallies k c world amounts steps) {i : Nat}
    (here : i < amounts.length) (fits : ∀ j ≤ i, Fits (subtotal c amounts (j + 1))) :
    ∃ s, steps[i]? = some s ∧ s.ending = .finished ∧
      VariableStore.lookup s.world k = some (decimal (subtotal c amounts (i + 1))) := by
  induction tallies generalizing i with
  | none => cases here
  | counted _ done world_eq _ ih =>
    cases i with
    | zero =>
      refine ⟨_, rfl, done, ?_⟩
      rw [world_eq, LawfulVariableStore.lookup_assign_self, subtotal_cons, subtotal_zero]
    | succ i =>
      rw [subtotal_cons]
      refine ih (Nat.lt_of_succ_lt_succ here) fun j before => ?_
      rw [← subtotal_cons]
      exact fits (j + 1) (Nat.succ_le_succ before)
  | refused beyond =>
    have first := fits 0 (Nat.zero_le i)
    rw [subtotal_cons, subtotal_zero] at first
    exact absurd first beyond

theorem refused_at (tallies : Tallies k c world amounts steps) {i : Nat}
    (here : i < amounts.length) (fits : ∀ j < i, Fits (subtotal c amounts (j + 1)))
    (beyond : ¬ Fits (subtotal c amounts (i + 1))) :
    ∃ s, steps[i]? = some s ∧ (∃ cause, s.ending = .failed cause) ∧
      (world :: steps.map Executed.world)[i]? = some s.world := by
  induction tallies generalizing i with
  | none => cases here
  | counted within done world_eq _ ih =>
    cases i with
    | zero =>
      rw [subtotal_cons, subtotal_zero] at beyond
      exact absurd within beyond
    | succ i =>
      rw [subtotal_cons] at beyond
      refine ih (Nat.lt_of_succ_lt_succ here) (fun j before => ?_) beyond
      rw [← subtotal_cons]
      exact fits (j + 1) (Nat.succ_lt_succ before)
  | refused out failed world_eq =>
    cases i with
    | zero => exact ⟨_, rfl, failed, by simp [world_eq]⟩
    | succ i =>
      have first := fits 0 (Nat.succ_pos i)
      rw [subtotal_cons, subtotal_zero] at first
      exact absurd first out

theorem elsewhere [LawfulVariableStore W] (tallies : Tallies k c world amounts steps)
    {other : String} (away : other ≠ k) :
    ∀ s ∈ steps, VariableStore.lookup s.world other = VariableStore.lookup world other := by
  induction tallies with
  | none => simp
  | counted _ _ world_eq _ ih =>
    rw [world_eq, LawfulVariableStore.lookup_assign_of_ne _ _ _ _ away] at ih
    refine List.forall_mem_cons.mpr ⟨?_, ih⟩
    rw [world_eq, LawfulVariableStore.lookup_assign_of_ne _ _ _ _ away]
  | refused _ _ world_eq _ ih =>
    rw [world_eq] at ih
    exact List.forall_mem_cons.mpr ⟨by rw [world_eq], ih⟩

end Tallies

namespace Engine

section Increments

variable {W A : Type} [VariableStore W] [ActionHandler W A] {embed : Builtin → A}
variable {engine : Engine W A} {k : String} {c : Int}

omit [VariableStore W] [ActionHandler W A] in
theorem create_increment (known : engine.Knows embed "increment_variable" Builtin.readIncrement)
    (nonempty : k ≠ "") (amount : Amount) :
    ∃ n : Int64, n.toInt = amount.value ∧
      createAction engine.actions none 0 "increment_variable" [k, amount.text] =
        (.ok (embed (.incrementVariable k n)), [.actionCreated none 0 "increment_variable"]) := by
  obtain ⟨n, value_eq, read⟩ := amount.readIncrement nonempty
  refine ⟨n, value_eq, ?_⟩
  rw [known.create_eq, read]

theorem execute_increment (embeds : Builtin.Embeds W embed)
    (known : engine.Knows embed "increment_variable" Builtin.readIncrement) (nonempty : k ≠ "")
    (amount : Amount) (polls : Nat) (world : W) (skip : Bool) (step : Seconds)
    (counts : Counts (VariableStore.lookup world k) c) (fits : Fits (c + amount.value)) :
    let executed := engine.execute (polls + 1) world "increment_variable" [k, amount.text] skip step
    executed.ending = .finished ∧
      executed.world = VariableStore.assign world k (decimal (c + amount.value)) := by
  obtain ⟨n, value_eq, created⟩ := create_increment known nonempty amount
  rw [← value_eq] at fits ⊢
  have shot := increment_shot embeds ⟨world, Dictionary.empty, engine.state⟩
    (incremented_of_fits counts fits) polls "increment_variable" skip step
  have executed := execute_created created (polls + 1) world skip step
  exact ⟨executed.1.trans shot.1, executed.2.trans (congrArg Scene.world shot.2)⟩

theorem execute_increment_refused (embeds : Builtin.Embeds W embed)
    (known : engine.Knows embed "increment_variable" Builtin.readIncrement) (nonempty : k ≠ "")
    (amount : Amount) (polls : Nat) (world : W) (skip : Bool) (step : Seconds)
    (refused : ∀ n : Int64, n.toInt = amount.value →
      ∃ cause, Builtin.incremented k n (VariableStore.lookup world k) = .error cause) :
    let executed := engine.execute polls world "increment_variable" [k, amount.text] skip step
    (∃ cause, executed.ending = .failed cause) ∧ executed.world = world := by
  obtain ⟨n, value_eq, created⟩ := create_increment known nonempty amount
  obtain ⟨cause, sum⟩ := refused n value_eq
  obtain ⟨⟨failure, failed⟩, left⟩ := increment_shot_refused embeds
    ⟨world, Dictionary.empty, engine.state⟩ sum polls "increment_variable" skip step
  have executed := execute_created created polls world skip step
  exact ⟨⟨failure, executed.1.trans failed⟩, executed.2.trans (congrArg Scene.world left)⟩

theorem executeAll_tallies [LawfulVariableStore W] (embeds : Builtin.Embeds W embed)
    (known : engine.Knows embed "increment_variable" Builtin.readIncrement) (nonempty : k ≠ "")
    (polls : Nat) (skip : Bool) (step : Seconds) (world : W) (amounts : List Amount)
    (counts : Counts (VariableStore.lookup world k) c) :
    Tallies k c world amounts
      (engine.executeAll (polls + 1) skip step world (increments k amounts)) := by
  induction amounts generalizing engine world c with
  | nil => exact .none
  | cons amount rest ih =>
    have known' := known.execute (polls + 1) world "increment_variable" [k, amount.text] skip step
    by_cases fits : Fits (c + amount.value)
    · obtain ⟨done, left⟩ := execute_increment embeds known nonempty amount polls world skip step
        counts fits
      -- The sum has become the text that the next run reads.
      refine .counted fits done left (ih known' _ ?_)
      rw [left, LawfulVariableStore.lookup_assign_self]
      exact .decimal fits
    · obtain ⟨failed, left⟩ := execute_increment_refused embeds known nonempty amount (polls + 1)
        world skip step fun n value_eq => incremented_of_not_fits counts (by rwa [value_eq])
      refine .refused fits failed left (ih known' _ ?_)
      rw [left]
      exact counts

theorem executeAll_no_number (embeds : Builtin.Embeds W embed)
    (known : engine.Knows embed "increment_variable" Builtin.readIncrement) (nonempty : k ≠ "")
    (polls : Nat) (skip : Bool) (step : Seconds) (world : W) (amounts : List Amount)
    (none : ∀ c, ¬ Counts (VariableStore.lookup world k) c) :
    let steps := engine.executeAll polls skip step world (increments k amounts)
    steps.length = amounts.length ∧
      ∀ s ∈ steps, (∃ cause, s.ending = .failed cause) ∧ s.world = world := by
  induction amounts generalizing engine with
  | nil => exact ⟨rfl, by simp [increments, executeAll]⟩
  | cons amount rest ih =>
    obtain ⟨failed, left⟩ := execute_increment_refused embeds known nonempty amount polls world
      skip step fun n _ => incremented_of_no_number none
    obtain ⟨length_eq, later⟩ := ih
      (known.execute polls world "increment_variable" [k, amount.text] skip step)
    simp only [increments, List.map_cons, executeAll, left]
    exact ⟨by simpa [increments] using length_eq,
      List.forall_mem_cons.mpr ⟨⟨failed, left⟩, later⟩⟩

theorem counting_exact [LawfulVariableStore W] (embeds : Builtin.Embeds W embed)
    (known : engine.Knows embed "increment_variable" Builtin.readIncrement) (nonempty : k ≠ "")
    (polls : Nat) (skip : Bool) (step : Seconds) (world : W) (amounts : List Amount) :
    let steps := engine.executeAll (polls + 1) skip step world (increments k amounts)
    steps.length = amounts.length ∧
      (∀ c, Counts (VariableStore.lookup world k) c →
        ((∀ s ∈ steps, s.ending = .finished) ↔
          ∀ i < amounts.length, Fits (subtotal c amounts (i + 1))) ∧
        (∀ i < amounts.length, (∀ j ≤ i, Fits (subtotal c amounts (j + 1))) →
          ∃ s, steps[i]? = some s ∧ s.ending = .finished ∧
            VariableStore.lookup s.world k = some (decimal (subtotal c amounts (i + 1)))) ∧
        (∀ i < amounts.length, (∀ j < i, Fits (subtotal c amounts (j + 1))) →
          ¬ Fits (subtotal c amounts (i + 1)) →
          ∃ s, steps[i]? = some s ∧ (∃ cause, s.ending = .failed cause) ∧
            (world :: steps.map Executed.world)[i]? = some s.world)) ∧
      ((∀ c, ¬ Counts (VariableStore.lookup world k) c) →
        ∀ s ∈ steps, (∃ cause, s.ending = .failed cause) ∧ s.world = world) ∧
      ∀ s ∈ steps, ∀ other, other ≠ k →
        VariableStore.lookup s.world other = VariableStore.lookup world other := by
  intro steps
  -- Without a number at the start the other variables are safe because no run does anything.
  by_cases number : ∃ c, Counts (VariableStore.lookup world k) c
  · have tallies {c : Int} (counts : Counts (VariableStore.lookup world k) c) :
        Tallies k c world amounts steps :=
      executeAll_tallies embeds known nonempty polls skip step world amounts counts
    obtain ⟨c, counts⟩ := number
    refine ⟨(tallies counts).length_eq, fun c counts => ⟨(tallies counts).finished_iff, ?_, ?_⟩,
      fun none => absurd counts (none c), fun s member other away =>
        (tallies counts).elsewhere away s member⟩
    · exact fun i here fits => (tallies counts).counted_at here fits
    · exact fun i here fits beyond => (tallies counts).refused_at here fits beyond
  · have none : ∀ c, ¬ Counts (VariableStore.lookup world k) c := not_exists.mp number
    obtain ⟨length_eq, failed⟩ :=
      executeAll_no_number embeds known nonempty (polls + 1) skip step world amounts none
    refine ⟨length_eq, fun c counts => absurd counts (none c), fun _ => failed, ?_⟩
    exact fun s member other _ => by rw [(failed s member).2]

end Increments

-- From the least number to the greatest, and one beyond it.
theorem counting_exact_to_the_limits :
    let steps := (Catalog.engine (fun b => b) .default).1.executeAll 1 false .zero
      ((Dictionary.empty : Variables).insert "gold" " -9223372036854775808 ")
      (increments "gold" ([Int64.maxValue, 1, Int64.maxValue, 1].map Amount.ofInt64))
    (∃ s, steps[2]? = some s ∧ s.ending = .finished ∧
      s.world.find? "gold" = some "9223372036854775807") ∧
      ∃ s, steps[3]? = some s ∧ (∃ cause, s.ending = .failed cause) ∧
        s.world.find? "gold" = some "9223372036854775807" := by
  intro steps
  have counts : Counts (some " -9223372036854775808 ") (-9223372036854775808) := by
    have read : readInteger (signedRange 64).1 (signedRange 64).2
        (trim " -9223372036854775808 ".toList) = .ok (-9223372036854775808) := by decide
    obtain ⟨denotes, fits⟩ := readInteger_signed.mp read
    exact .numeral denotes fits
  obtain ⟨_, number, _⟩ := counting_exact (k := "gold") Builtin.Embeds.id
    (show (Catalog.engine (W := Variables) (fun b => b) .default).1.Knows _ _ _ from rfl)
    (by decide) 0 false .zero
    ((Dictionary.empty : Variables).insert "gold" " -9223372036854775808 ")
    ([Int64.maxValue, 1, Int64.maxValue, 1].map Amount.ofInt64)
  obtain ⟨_, counted, refused⟩ := number _ counts
  obtain ⟨third, here, done, holds⟩ := counted 2 (by decide) (by decide)
  obtain ⟨fourth, there, failed, same⟩ := refused 3 (by decide) (by decide) (by decide)
  have left : some third.world = some fourth.world := by
    rw [← same, List.getElem?_cons_succ, List.getElem?_map, here, Option.map_some]
  refine ⟨⟨third, here, done, holds⟩, fourth, there, failed, ?_⟩
  rw [← Option.some.inj left]
  exact holds

end Engine

end MapScript
