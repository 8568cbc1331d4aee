import Mathlib.Data.List.Induction
import MapScript.Proofs.Engine.Removing
import MapScript.Proofs.Engine.Scripted

set_option autoImplicit false

namespace MapScript

open Number Journal

def Mark.started? : Mark → Option Nat
  | .called slot .start .finished => some slot
  | _ => none

def Mark.left? : Mark → Option Nat
  | .called slot .cleanup .finished => some slot
  | .called slot .cancel _ => some slot
  | _ => none

namespace Journal

def started (id : EventId) (journal : Journal) : List Nat :=
  (marks id journal).filterMap Mark.started?

def left (id : EventId) (journal : Journal) : List Nat :=
  (marks id journal).filterMap Mark.left?

def passed (id : EventId) (journal : Journal) : Nat :=
  (marks id journal).countP Mark.passes

def SameLife (id : EventId) (journal : Journal) : Prop :=
  ∀ name slots, .eventStarted id name slots ∉ journal

end Journal

namespace Life

def starts (l : Life) : Nat :=
  l.cursor + if l.action = none then 0 else 1

def leaves (l : Life) : Nat :=
  l.cursor + if l.action = some .cancelled then 1 else 0

structure Adds (l : Life) (mark : Mark) : Prop where
  slots_eq : (l.follow mark).slots = l.slots
  started_eq : List.range (l.follow mark).starts = List.range l.starts ++ mark.started?.toList
  left_eq : List.range (l.follow mark).leaves = List.range l.leaves ++ mark.left?.toList
  passed_eq : (l.follow mark).cursor = l.cursor + if mark.passes then 1 else 0
  bound : l.starts ≤ l.slots → (l.follow mark).starts ≤ l.slots

theorem adds {l : Life} {mark : Mark} (allowed : l.Allows mark)
    (same : ∀ slots, mark ≠ .begun slots) : l.Adds mark := by
  obtain ⟨slots, cursor, action, cancelled⟩ := l
  cases mark with
  | begun slots => exact absurd rfl (same slots)
  | called slot hook reply =>
    cases hook with
    | start =>
      obtain ⟨rfl, within, rfl, _⟩ := allowed
      have next : slot + 1 ≤ slots := within
      cases reply <;> constructor <;>
        simp [follow, starts, leaves, Mark.started?, Mark.left?, Mark.passes, List.range_succ, next]
    | update =>
      obtain ⟨rfl, rfl | rfl, _⟩ := allowed <;> cases reply <;> constructor <;>
        simp [follow, starts, leaves, Mark.started?, Mark.left?, Mark.passes]
    | cleanup =>
      obtain ⟨rfl, rfl, _⟩ := allowed
      cases reply <;> constructor <;>
        simp [follow, starts, leaves, Mark.started?, Mark.left?, Mark.passes, List.range_succ]
    | cancel =>
      obtain ⟨rfl, rfl⟩ := allowed
      constructor <;>
        simp [follow, starts, leaves, Mark.started?, Mark.left?, Mark.passes, List.range_succ]
  | skipped =>
    obtain ⟨rfl, _⟩ := allowed
    constructor <;> simp [follow, starts, leaves, Mark.started?, Mark.left?, Mark.passes]
  | flagged | ended =>
    exact ⟨rfl, (List.append_nil _).symm, (List.append_nil _).symm, rfl, id⟩

end Life

structure Told (id : EventId) (slots : Nat) (life : Journal) (l : Life) : Prop where
  slots_eq : l.slots = slots
  started_eq : started id life = List.range l.starts
  left_eq : left id life = List.range l.leaves
  passed_eq : passed id life = l.cursor
  bound : l.starts ≤ slots

namespace Told

variable {id : EventId} {slots : Nat} {life rest : Journal} {l l' : Life} {notice : Notice}

theorem unmarked (told : Told id slots life l) (silent : notice.mark? id = none) :
    Told id slots (life ++ [notice]) l where
  slots_eq := told.slots_eq
  started_eq := by simpa [started, silent] using told.started_eq
  left_eq := by simpa [left, silent] using told.left_eq
  passed_eq := by simpa [passed, silent] using told.passed_eq
  bound := told.bound

theorem marked (told : Told id slots life l) {mark : Mark} (marked : notice.mark? id = some mark)
    (adds : l.Adds mark) : Told id slots (life ++ [notice]) (l.follow mark) where
  slots_eq := adds.slots_eq.trans told.slots_eq
  started_eq := by
    rw [adds.started_eq, ← told.started_eq]
    cases single : mark.started? <;> simp [started, marked, single]
  left_eq := by
    rw [adds.left_eq, ← told.left_eq]
    cases single : mark.left? <;> simp [left, marked, single]
  passed_eq := by
    rw [adds.passed_eq, ← told.passed_eq]
    cases single : mark.passes <;> simp [passed, marked, single]
  bound := told.slots_eq ▸ adds.bound (told.slots_eq ▸ told.bound)

end Told

theorem told_of_orderly {id : EventId} {slots : Nat} {life rest : Journal} {l' : Life}
    (orderly : Orderly id ⟨slots, 0, none, false⟩ (life ++ rest) l') (same : SameLife id life) :
    Told id slots life (replay id ⟨slots, 0, none, false⟩ life) := by
  -- The life is read from its start, so the induction takes the last notice off.
  induction life using List.reverseRecOn generalizing rest with
  | nil => exact ⟨rfl, rfl, rfl, rfl, Nat.zero_le slots⟩
  | append_singleton life notice ih =>
    rw [List.append_assoc] at orderly
    have told := ih orderly fun name slots member => same name slots (List.mem_append_left _ member)
    rw [replay_append]
    cases marked : notice.mark? id with
    | none =>
      rw [replay_of_unmarked (by simp [marked])]
      exact told.unmarked marked
    | some mark =>
      have fresh : ∀ slots, mark ≠ .begun slots := by
        rintro slots rfl
        obtain ⟨name, rfl⟩ := begun_of_mark marked
        exact same name slots (by simp)
      have allowed := ((orderly_cons_of_some marked).mp orderly.behind).1
      simpa [replay, marked] using told.marked marked (Life.adds allowed fresh)

theorem closes_of_last {id : EventId} {slots : Nat} {life rest : Journal} {l' : Life}
    {notice : Notice} {mark : Mark} (orderly : Orderly id ⟨slots, 0, none, false⟩ (life ++ rest) l')
    (ends : ∃ lived, life = lived ++ [notice]) (same : SameLife id life)
    (marked : notice.mark? id = some mark) (passes : mark.passes = true)
    (last : passed id life = slots) : Closes id rest := by
  obtain ⟨lived, rfl⟩ := ends
  rw [List.append_assoc] at orderly
  have lived := told_of_orderly orderly fun name slots member =>
    same name slots (List.mem_append_left _ member)
  obtain ⟨allowed, closes, _⟩ := (orderly_cons_of_some marked).mp orderly.behind
  have adds := Life.adds allowed (by rintro slots rfl; cases passes)
  have come := lived.marked marked adds
  exact closes passes (come.passed_eq.symm.trans (last.trans lived.slots_eq.symm))

theorem split_of_passes {id : EventId} {name : String} {slots : Nat}
    {past earlier pre life : Journal} {notice : Notice} {mark : Mark}
    (since : past ++ (earlier ++ [notice]) = pre ++ .eventStarted id name slots :: life)
    (marked : notice.mark? id = some mark) (passes : mark.passes = true) :
    ∃ lived, life = lived ++ [notice] := by
  rw [← List.append_assoc] at since
  -- Directly behind the start of the event the latest notice would be that start.
  rcases List.eq_nil_or_concat life with rfl | ⟨lived, latest, rfl⟩
  · obtain ⟨_, same⟩ := List.append_inj' since rfl
    obtain rfl : notice = .eventStarted id name slots := by simpa using same
    rw [mark_eventStarted] at marked
    obtain rfl := Option.some.inj marked
    cases passes
  · rw [List.concat_eq_append, ← List.cons_append, ← List.append_assoc] at since
    obtain ⟨_, final⟩ := List.append_inj' since rfl
    obtain rfl : notice = latest := by simpa using final
    exact ⟨lived, List.concat_eq_append⟩

theorem Life.starts_le {l : Life} : l.leaves ≤ l.starts ∧ l.starts ≤ l.leaves + 1 := by
  obtain ⟨slots, cursor, action, cancelled⟩ := l
  rcases action with _ | _ | _ | _ <;> simp [starts, leaves]

/-- At a moment of an operation that ends with `next`, an event with `slots` slots has come to
`life` since its start, and `rest` is still to come: its slots are started and left one by one, the
cursor counts those that it has passed, and it ends with the last of them. -/
structure InOrder {W A : Type} (engine next : Engine W A) (id : EventId) (slots : Nat)
    (first life rest : Journal) : Prop where
  oneByOne : ∃ m k, started id life = List.range m ∧ left id life = List.range k ∧
    k ≤ m ∧ m ≤ k + 1 ∧ m ≤ slots
  called : ∀ call later, rest = .called call :: later → call.owner = some id →
    call.slot = passed id life
  standing : rest = [] → ∀ e ∈ next.running, e.id = id →
    e.cursor = passed id life ∧ e.declaration.actions.length = slots
  complete : ∀ later, rest = .eventFinished id :: later →
    passed id life = slots ∧ id ∉ ids next.running
  closes : ∀ earlier notice mark, first = earlier ++ [notice] → notice.mark? id = some mark →
    mark.passes = true → passed id life = slots → next.state.token = engine.state.token →
    ∃ noted later, rest = noted ++ .eventFinished id :: later ∧
      ∀ notice ∈ noted, ∃ action, notice = .actionFinished id action

theorem Journal.Closes.finishes {id : EventId} {journal : Journal} (closes : Closes id journal)
    (steady : journal.Only Notice.steady) :
    ∃ noted later, journal = noted ++ .eventFinished id :: later ∧
      ∀ notice ∈ noted, ∃ action, notice = .actionFinished id action := by
  induction closes with
  | noted action _ ih =>
    obtain ⟨noted, later, rfl, own⟩ := ih ((only_cons _ _).mp steady).2
    refine ⟨.actionFinished id action :: noted, later, rfl, ?_⟩
    exact List.forall_mem_cons.mpr ⟨⟨action, rfl⟩, own⟩
  | finished rest => exact ⟨[], rest, rfl, by simp⟩
  | abandoned rest => simp at steady

namespace Engine

variable {W A : Type} [ActionHandler W A]

theorem script_in_order (actions : Dictionary (ActionFactory A))
    (conditions : Dictionary (ConditionTest W)) (settings : Settings)
    (before : List (Operation W A)) (operation : Operation W A) {engine : Engine W A}
    {past first rest pre life : Journal} {id : EventId} {name : String} {slots : Nat}
    (reached : (new actions conditions settings).run before = (engine, past))
    (moment : (engine.perform operation).journal = first ++ rest)
    (since : past ++ first = pre ++ .eventStarted id name slots :: life)
    (same : SameLife id life) :
    InOrder engine (engine.perform operation).engine id slots first life rest := by
  obtain ⟨m, earlier, between⟩ := reached_tells id reached
  obtain ⟨l', latest, agrees⟩ := perform_tells engine operation m between
  have orderly := earlier.append latest
  have split : past ++ (engine.perform operation).journal =
      pre ++ .eventStarted id name slots :: (life ++ rest) := by
    rw [moment, ← List.append_assoc, since]
    simp
  rw [split] at orderly
  have begun : Orderly id ⟨slots, 0, none, false⟩ (life ++ rest) l' :=
    ((orderly_cons_of_some (mark_eventStarted id name slots)).mp orderly.behind).2.2
  have told := told_of_orderly begun same
  have behind := begun.behind
  generalize replay id _ life = l at told behind
  obtain ⟨less, most⟩ := l.starts_le
  constructor
  case oneByOne => exact ⟨_, _, told.started_eq, told.left_eq, less, most, told.bound⟩
  case called =>
    rintro call later rfl owned
    have allowed := ((orderly_cons_of_some (mark_called owned)).mp behind).1
    rw [told.passed_eq]
    cases hook : call.hook <;> rw [hook] at allowed <;> exact allowed.1
  case standing =>
    rintro rfl e standing mine
    have life_eq : e.life = l := (agrees.life_eq e standing mine).trans (Eq.symm behind)
    rw [told.passed_eq, ← told.slots_eq, ← life_eq]
    exact ⟨rfl, rfl⟩
  case complete =>
    rintro later rfl
    have allowed := ((orderly_cons_of_some (mark_eventFinished id)).mp behind).1
    refine ⟨told.passed_eq.trans (allowed.1.trans told.slots_eq), ?_⟩
    apply perform_gone_of_removes
    simp [moment]
  case closes =>
    rintro earlier notice mark rfl marked passes last kept
    have steady := (perform_parted engine operation).steady kept
    rw [moment] at steady
    have ends := split_of_passes since marked passes
    have closes := closes_of_last begun ends same marked passes last
    exact closes.finishes ((only_append _ _).mp steady).2

def twoSlots : Engine Unit Scripted × Journal :=
  (Scripted.engine Scripted.idle .abort).run
    [.loadScope (Scripted.scope [⟨⟨1⟩, "", none, [], [⟨"act", [], ""⟩, ⟨"act", [], ""⟩]⟩])]

-- The moment is the one after the cleanup of the second slot.
theorem script_in_order_twoSlots :
    let updated := twoSlots.1.perform (.update () .zero)
    let life := (updated.journal.take 13).drop 1
    twoSlots.2 ++ updated.journal.take 13 = twoSlots.2 ++ .eventStarted ⟨1⟩ "" 2 :: life ∧
      updated.journal.drop 13 = [.actionFinished ⟨1⟩ ⟨"act", [], ""⟩, .eventFinished ⟨1⟩] ∧
      InOrder twoSlots.1 updated.engine ⟨1⟩ 2 (updated.journal.take 13) life
        (updated.journal.drop 13) := by
  intro updated life
  have since : twoSlots.2 ++ updated.journal.take 13 =
      twoSlots.2 ++ .eventStarted ⟨1⟩ "" 2 :: life := rfl
  have same : SameLife ⟨1⟩ life := by
    intro name slots member
    have undeclared : ∀ notice ∈ life.drop 1, notice.undeclared = true := by decide
    rcases List.mem_cons.mp member with retired | later
    · cases retired
    · cases undeclared _ later
  exact ⟨since, rfl, script_in_order _ _ _ _ _ rfl (List.take_append_drop 13 _).symm since same⟩

end Engine

end MapScript
