import Mathlib.Logic.Function.Iterate
import MapScript.Simulation.Basic

set_option autoImplicit false

namespace MapScript.Simulation

open Number

def afterFrames (dt : Seconds) (n : Nat) (s : Simulation) : Simulation :=
  (fun s => (s.frame dt).1)^[n] s

def outcome (dt : Seconds) (n : Nat) (s : Simulation) : Except EngineError Unit :=
  ((s.afterFrames dt n).frame dt).2

def Succeeds (dt : Seconds) (n : Nat) (s : Simulation) : Prop :=
  ∀ k < n, s.outcome dt k = .ok ()

def Busy (dt : Seconds) (n : Nat) (s : Simulation) : Prop :=
  ∀ k, 1 ≤ k → k ≤ n → (s.afterFrames dt k).isIdle = false

/-- The frames are numbered from one. -/
structure FirstFailure (dt : Seconds) (frame : Nat) (cause : EngineError) (s : Simulation) :
    Prop where
  pos : 1 ≤ frame
  before : s.Succeeds dt (frame - 1)
  failed : s.outcome dt (frame - 1) = .error cause

/-- A frame that fails does not count as one that ends. -/
structure FirstIdle (dt : Seconds) (frame : Nat) (s : Simulation) : Prop where
  pos : 1 ≤ frame
  succeeds : s.Succeeds dt frame
  idle : (s.afterFrames dt frame).isIdle = true
  before : s.Busy dt (frame - 1)

section Frames

variable {dt : Seconds} {s : Simulation} {m n : Nat}

theorem afterFrames_add (dt : Seconds) (m n : Nat) (s : Simulation) :
    s.afterFrames dt (m + n) = (s.afterFrames dt m).afterFrames dt n := by
  rw [Nat.add_comm]
  exact Function.iterate_add_apply _ n m s

theorem outcome_add (dt : Seconds) (m n : Nat) (s : Simulation) :
    s.outcome dt (m + n) = (s.afterFrames dt m).outcome dt n := by
  rw [outcome, afterFrames_add]
  rfl

theorem succeeds_add_iff :
    s.Succeeds dt (m + n) ↔ s.Succeeds dt m ∧ (s.afterFrames dt m).Succeeds dt n := by
  constructor
  · intro all
    refine ⟨fun k before => all k (by omega), fun k before => ?_⟩
    rw [← outcome_add]
    exact all _ (by omega)
  · rintro ⟨first, later⟩ k before
    by_cases early : k < m
    · exact first k early
    · obtain ⟨rest, rfl⟩ := Nat.exists_eq_add_of_le (Nat.le_of_not_lt early)
      rw [outcome_add]
      exact later rest (by omega)

theorem succeeds_succ_iff :
    s.Succeeds dt (n + 1) ↔ (s.frame dt).2 = .ok () ∧ (s.frame dt).1.Succeeds dt n := by
  rw [Nat.add_comm, succeeds_add_iff]
  have first : s.Succeeds dt 1 ↔ (s.frame dt).2 = .ok () :=
    ⟨fun all => all 0 Nat.one_pos, fun here k before => by
      obtain rfl : k = 0 := by omega
      exact here⟩
  rw [first]
  rfl

theorem busy_succ_iff :
    s.Busy dt (n + 1) ↔ (s.frame dt).1.isIdle = false ∧ (s.frame dt).1.Busy dt n := by
  constructor
  · intro all
    exact ⟨all 1 (Nat.le_refl 1) (by omega), fun k _ before => all (k + 1) (by omega) (by omega)⟩
  · rintro ⟨here, later⟩ k pos before
    obtain ⟨k, rfl⟩ := Nat.exists_eq_add_of_le' pos
    cases k with
    | zero => exact here
    | succ k => exact later (k + 1) (by omega) (by omega)

theorem succeeds_or_fails (dt : Seconds) (n : Nat) (s : Simulation) :
    s.Succeeds dt n ∨ ∃ frame ≤ n, ∃ cause, s.FirstFailure dt frame cause := by
  induction n with
  | zero => exact .inl fun k before => absurd before (Nat.not_lt_zero k)
  | succ n ih =>
    rcases ih with all | ⟨frame, before, cause, first⟩
    · cases last : s.outcome dt n with
      | error cause => exact .inr ⟨n + 1, Nat.le_refl _, cause, by omega, all, last⟩
      | ok =>
        left
        intro k before
        rcases Nat.lt_succ_iff_lt_or_eq.mp before with early | rfl
        · exact all k early
        · exact last
    · exact .inr ⟨frame, by omega, cause, first⟩

theorem FirstFailure.later {frame : Nat} {cause : EngineError} (succeeds : s.Succeeds dt m)
    (first : (s.afterFrames dt m).FirstFailure dt frame cause) :
    s.FirstFailure dt (m + frame) cause := by
  have pos := first.pos
  have place : m + frame - 1 = m + (frame - 1) := by omega
  refine ⟨by omega, ?_, ?_⟩
  · rw [place]
    exact succeeds_add_iff.mpr ⟨succeeds, first.before⟩
  · rw [place, outcome_add]
    exact first.failed

theorem busy_or_firstIdle (succeeds : s.Succeeds dt n) :
    s.Busy dt n ∨ ∃ frame ≤ n, s.FirstIdle dt frame := by
  induction n with
  | zero => exact .inl fun k pos before => by omega
  | succ n ih =>
    have front : s.Succeeds dt n := fun k before => succeeds k (by omega)
    rcases ih front with busy | ⟨frame, before, first⟩
    · cases last : (s.afterFrames dt (n + 1)).isIdle with
      | true => exact .inr ⟨n + 1, Nat.le_refl _, by omega, succeeds, last, busy⟩
      | false =>
        left
        intro k pos before
        rcases Nat.lt_succ_iff_lt_or_eq.mp (Nat.lt_succ_of_le before) with early | rfl
        · exact busy k pos (by omega)
        · exact last
    · exact .inr ⟨frame, by omega, first⟩

end Frames

section Exits

variable {dt : Seconds} {untilIdle : Bool} {m n : Nat} {s : Simulation}

theorem runAfter_step (succeeded : (s.frame dt).2 = .ok ())
    (goes : untilIdle = true → (s.frame dt).1.isIdle = false) (past n : Nat) :
    runAfter dt untilIdle past (n + 1) s = runAfter dt untilIdle (past + 1) n (s.frame dt).1 := by
  rw [runAfter]
  rcases framed : s.frame dt with ⟨next, result⟩
  rw [framed] at succeeded goes
  simp only at succeeded goes
  cases untilIdle with
  | false => simp [succeeded]
  | true => simp [succeeded, goes rfl]

theorem runAfter_add (succeeds : s.Succeeds dt m) (goes : untilIdle = true → s.Busy dt m)
    (past n : Nat) :
    runAfter dt untilIdle past (m + n) s =
      runAfter dt untilIdle (past + m) n (s.afterFrames dt m) := by
  induction m generalizing s past with
  | zero =>
    rw [Nat.zero_add]
    rfl
  | succ m ih =>
    obtain ⟨here, later⟩ := succeeds_succ_iff.mp succeeds
    rw [Nat.add_right_comm, runAfter_step here fun asked => (busy_succ_iff.mp (goes asked)).1,
      ih later fun asked => (busy_succ_iff.mp (goes asked)).2, Nat.add_right_comm past 1]
    rfl

theorem runAfter_of_succeeds (succeeds : s.Succeeds dt n) (goes : untilIdle = true → s.Busy dt n)
    (past : Nat) :
    runAfter dt untilIdle past n s =
      (s.afterFrames dt n, .ok ⟨past + n, (s.afterFrames dt n).isIdle⟩) :=
  runAfter_add succeeds goes past 0

theorem runAfter_of_firstFailure {frame : Nat} {cause : EngineError}
    (first : s.FirstFailure dt frame cause) (goes : untilIdle = true → s.Busy dt (frame - 1))
    (within : frame ≤ n) (past : Nat) :
    runAfter dt untilIdle past n s =
      (s.afterFrames dt frame, .error (.frameFailed (past + frame) cause)) := by
  obtain ⟨k, rfl⟩ := Nat.exists_eq_add_of_le' first.pos
  obtain ⟨rest, rfl⟩ := Nat.exists_eq_add_of_le within
  obtain ⟨_, before, failed⟩ := first
  rw [Nat.add_sub_cancel] at before failed goes
  have left : s.afterFrames dt (k + 1) = ((s.afterFrames dt k).frame dt).1 :=
    afterFrames_add dt k 1 s
  rw [Nat.add_assoc, runAfter_add before goes, Nat.add_comm 1, runAfter, left]
  rcases framed : (s.afterFrames dt k).frame dt with ⟨next, result⟩
  obtain rfl : result = .error cause := by simpa only [outcome, framed] using failed
  rfl

theorem runAfter_of_firstIdle {frame : Nat} (first : s.FirstIdle dt frame) (within : frame ≤ n)
    (past : Nat) :
    runAfter dt true past n s = (s.afterFrames dt frame, .ok ⟨past + frame, true⟩) := by
  obtain ⟨k, rfl⟩ := Nat.exists_eq_add_of_le' first.pos
  obtain ⟨rest, rfl⟩ := Nat.exists_eq_add_of_le within
  obtain ⟨_, succeeds, idle, busy⟩ := first
  rw [Nat.add_sub_cancel] at busy
  have left : s.afterFrames dt (k + 1) = ((s.afterFrames dt k).frame dt).1 :=
    afterFrames_add dt k 1 s
  have succeeded : s.outcome dt k = .ok () := succeeds k (by omega)
  have front : s.Succeeds dt k := fun j before => succeeds j (by omega)
  rw [left] at idle ⊢
  rw [Nat.add_assoc, runAfter_add front fun _ => busy, Nat.add_comm 1, runAfter]
  rcases framed : (s.afterFrames dt k).frame dt with ⟨next, result⟩
  obtain rfl : result = .ok () := by simpa only [outcome, framed] using succeeded
  rw [framed] at idle
  simp only [show next.isIdle = true from idle, Bool.and_self, if_true, Nat.add_assoc]

end Exits

def reportedAfter (past : Nat) :
    Except SimulationError Report → Except SimulationError Report
  | .ok report => .ok { report with ticks := past + report.ticks }
  | .error (.frameFailed frame cause) => .error (.frameFailed (past + frame) cause)
  | .error cause => .error cause

section Runs

variable {dt : Seconds} {n : Nat} {s : Simulation}

theorem run_of_succeeds (succeeds : s.Succeeds dt n) :
    s.run dt false n = (s.afterFrames dt n, .ok ⟨n, (s.afterFrames dt n).isIdle⟩) := by
  rw [run, runAfter_of_succeeds succeeds (fun asked => by cases asked), Nat.zero_add]

theorem run_of_firstFailure {frame : Nat} {cause : EngineError}
    (first : s.FirstFailure dt frame cause) (within : frame ≤ n) :
    s.run dt false n = (s.afterFrames dt frame, .error (.frameFailed frame cause)) := by
  rw [run, runAfter_of_firstFailure first (fun asked => by cases asked) within, Nat.zero_add]

theorem succeeds_of_run {report : Report} (ended : (s.run dt false n).2 = .ok report) :
    s.Succeeds dt n := by
  rcases succeeds_or_fails dt n s with all | ⟨frame, within, cause, first⟩
  · exact all
  · rw [run_of_firstFailure first within] at ended
    cases ended

theorem run_add {a b : Nat} {report : Report} (ended : (s.run dt false a).2 = .ok report) :
    let later := (s.run dt false a).1.run dt false b
    s.run dt false (a + b) = (later.1, reportedAfter a later.2) := by
  have front := succeeds_of_run ended
  rw [run_of_succeeds front]
  rcases succeeds_or_fails dt b (s.afterFrames dt a) with all | ⟨frame, within, cause, first⟩
  · rw [run_of_succeeds all, run_of_succeeds (succeeds_add_iff.mpr ⟨front, all⟩), afterFrames_add]
    rfl
  · rw [run_of_firstFailure first within, run_of_firstFailure (first.later front) (by omega),
      afterFrames_add]
    rfl

theorem run_untilIdle_eq_shorter_run (dt : Seconds) (s : Simulation) :
    (∀ a b report, (s.run dt false a).2 = .ok report →
      let later := (s.run dt false a).1.run dt false b
      s.run dt false (a + b) = (later.1, reportedAfter a later.2)) ∧
    (∀ n frame, frame ≤ n → s.FirstIdle dt frame →
      s.run dt true n = s.run dt false frame ∧ (s.run dt false frame).2 = .ok ⟨frame, true⟩) ∧
    ∀ n, (∀ frame ≤ n, ¬ s.FirstIdle dt frame) →
      s.run dt true n = s.run dt false n ∧
      ((∃ frame ≤ n, ∃ cause, s.FirstFailure dt frame cause ∧
          s.run dt false n = (s.afterFrames dt frame, .error (.frameFailed frame cause))) ∨
        ∃ idle, (s.run dt false n).2 = .ok ⟨n, idle⟩ ∧ (1 ≤ n → idle = false)) := by
  refine ⟨fun a b report ended => run_add ended, fun n frame within first => ?_,
    fun n none => ?_⟩
  · rw [run_of_succeeds first.succeeds, first.idle, run, runAfter_of_firstIdle first within,
      Nat.zero_add]
    exact ⟨rfl, rfl⟩
  · rcases succeeds_or_fails dt n s with all | ⟨frame, within, cause, first⟩
    · rcases busy_or_firstIdle all with busy | ⟨frame, within, first⟩
      · rw [run_of_succeeds all, run, runAfter_of_succeeds all fun _ => busy, Nat.zero_add]
        exact ⟨rfl, .inr ⟨_, rfl, fun pos => busy n pos (Nat.le_refl n)⟩⟩
      · exact absurd first (none frame within)
    · rcases busy_or_firstIdle first.before with busy | ⟨idle, before, early⟩
      · rw [run_of_firstFailure first within, run,
          runAfter_of_firstFailure first (fun _ => busy) within, Nat.zero_add]
        exact ⟨rfl, .inl ⟨frame, within, cause, first, rfl⟩⟩
      · exact absurd early (none idle (by omega))

end Runs

def nap : Simulation :=
  .new ⟨"test", [⟨⟨1⟩, "event1", none, [], [⟨"wait", ["0.1"], "act1"⟩,
    ⟨"set_variable", ["done:yes"], "act2"⟩]⟩], []⟩ .default Dictionary.empty

theorem nap_firstIdle : nap.FirstIdle (Binary.ofFraction false 3 100) 4 where
  pos := by decide
  succeeds := by
    have fine : ∀ k < 4, (nap.outcome (Binary.ofFraction false 3 100) k).toBool = true := by
      decide +kernel
    intro k before
    cases ended : nap.outcome (Binary.ofFraction false 3 100) k with
    | ok => rfl
    | error cause => simpa [ended, Except.toBool] using fine k before
  idle := by decide +kernel
  before := by
    intro k pos before
    have few : k = 1 ∨ k = 2 ∨ k = 3 := by omega
    rcases few with rfl | rfl | rfl <;> decide +kernel

theorem run_untilIdle_eq_shorter_run_nap :
    let dt := Binary.ofFraction false 3 100
    nap.run dt true 100 = nap.run dt false 4 ∧ (nap.run dt false 4).2 = .ok ⟨4, true⟩ ∧
      nap.run dt true 3 = nap.run dt false 3 ∧
      nap.run dt false (1 + 2) = (((nap.run dt false 1).1.run dt false 2).1,
        reportedAfter 1 ((nap.run dt false 1).1.run dt false 2).2) := by
  intro dt
  obtain ⟨cut, early, all⟩ := run_untilIdle_eq_shorter_run dt nap
  obtain ⟨same, ended⟩ := early 100 4 (by decide) nap_firstIdle
  have first := run_of_succeeds fun k (before : k < 1) => nap_firstIdle.succeeds k (by omega)
  refine ⟨same, ended, (all 3 fun frame within first => ?_).1, cut 1 2 _ (congrArg Prod.snd first)⟩
  have busy := nap_firstIdle.before frame first.pos (by omega)
  rw [first.idle] at busy
  cases busy

end MapScript.Simulation
