import Mathlib.Algebra.Group.Nat.Even
import MapScript.Proofs.Script.WrittenLines

set_option autoImplicit false

namespace MapScript.Script

open Text

def backslashes (front : List Char) : Nat :=
  (front.reverse.takeWhile (· == '\\')).length

/-- The arguments are cut at this place of a text. -/
def Separates (text : List Char) (place : Nat) : Prop :=
  text[place]? = some ',' ∧ Even (backslashes (text.take place))

instance (text : List Char) : DecidablePred (Separates text) :=
  fun _ => inferInstanceAs (Decidable (_ ∧ _))

def separators (text : List Char) : Nat :=
  (List.range text.length).countP fun place => Separates text place

def cutPieces (text : List Char) : List (List Char) :=
  (text.zipIdx.splitOnP fun mark => Separates text mark.2).map (List.map Prod.fst)

/-- A piece with a comma for every backslash that a comma follows. -/
def plainPiece : List Char → List Char
  | [] => []
  | '\\' :: ',' :: rest => ',' :: plainPiece rest
  | c :: rest => c :: plainPiece rest

section Parity

variable {front : List Char}

theorem backslashes_concat (front : List Char) (c : Char) :
    backslashes (front ++ [c]) = if c = '\\' then backslashes front + 1 else 0 := by
  by_cases same : c = '\\' <;> simp [backslashes, same]

theorem even_backslashes_concat {c : Char} (other : c ≠ '\\') :
    Even (backslashes (front ++ [c])) := by
  rw [backslashes_concat, if_neg other]
  exact Even.zero

theorem not_even_backslashes_concat (even : Even (backslashes front)) :
    ¬ Even (backslashes (front ++ ['\\'])) := by
  rw [backslashes_concat, if_pos rfl, Nat.even_add_one]
  exact not_not_intro even

theorem even_backslashes_pair (even : Even (backslashes front)) (c : Char) :
    Even (backslashes (front ++ ['\\'] ++ [c])) := by
  by_cases same : c = '\\'
  · rw [same, backslashes_concat, if_pos rfl, Nat.even_add_one]
    exact not_even_backslashes_concat even
  · exact even_backslashes_concat same

theorem separates_length (front : List Char) (c : Char) (rest : List Char) :
    Separates (front ++ c :: rest) front.length ↔ c = ',' ∧ Even (backslashes front) := by
  simp [Separates]

end Parity

def piecesFrom (front text : List Char) : List (List Char) :=
  ((text.zipIdx front.length).splitOnP fun mark => Separates (front ++ text) mark.2).map
    (List.map Prod.fst)

theorem piecesFrom_nil (text : List Char) : piecesFrom [] text = cutPieces text := rfl

@[simp] theorem piecesFrom_end (front : List Char) : piecesFrom front [] = [[]] := rfl

theorem piecesFrom_cons (front : List Char) (c : Char) (rest : List Char) :
    piecesFrom front (c :: rest) =
      if c = ',' ∧ Even (backslashes front) then [] :: piecesFrom (front ++ [c]) rest
      else (piecesFrom (front ++ [c]) rest).modifyHead (c :: ·) := by
  -- What stands before a place decides about it, so one character moves over to the front.
  have moved : front ++ c :: rest = front ++ [c] ++ rest := by simp
  have length_eq : front.length + 1 = (front ++ [c]).length := by simp
  have head (parts : List (List (Char × Nat))) (i : Nat) :
      (parts.modifyHead ((c, i) :: ·)).map (List.map Prod.fst) =
        (parts.map (List.map Prod.fst)).modifyHead (c :: ·) := by
    cases parts <;> rfl
  rw [piecesFrom, List.zipIdx_cons, List.splitOnP_cons_eq_if_modifyHead]
  simp only [decide_eq_true_eq, separates_length]
  split
  next => rw [List.map_cons, List.map_nil, moved, length_eq, piecesFrom]
  next => rw [head, moved, length_eq, piecesFrom]

theorem exists_piecesFrom (front text : List Char) :
    ∃ part parts, piecesFrom front text = part :: parts :=
  List.exists_cons_of_ne_nil (by simp [piecesFrom, List.splitOnP_ne_nil])

theorem plainPiece_cons {c : Char} {rest : List Char} (clear : c = '\\' → rest.head? ≠ some ',') :
    plainPiece (c :: rest) = c :: plainPiece rest := by
  rw [plainPiece.eq_def]
  split <;> simp_all

theorem head_piecesFrom {front text piece : List Char} {later : List (List Char)}
    (even : Even (backslashes front)) (first : piecesFrom front text = piece :: later) :
    piece.head? ≠ some ',' := by
  cases text with
  | nil =>
    obtain ⟨rfl, _⟩ := List.cons.inj first
    simp
  | cons c rest =>
    rw [piecesFrom_cons] at first
    split at first
    next =>
      obtain ⟨rfl, _⟩ := List.cons.inj first
      simp
    next kept =>
      obtain ⟨part, parts, behind⟩ := exists_piecesFrom (front ++ [c]) rest
      rw [behind] at first
      obtain ⟨rfl, _⟩ := List.cons.inj first
      simpa using fun comma => kept ⟨comma, even⟩

theorem argumentsAfter_eq {front : List Char} (even : Even (backslashes front))
    (piece text : List Char) : argumentsAfter piece text =
      ((piecesFrom front text).map plainPiece).modifyHead (piece.reverse ++ ·) := by
  -- The induction is over the scan: a backslash goes into `front` together with what follows it, so
  -- the backslashes of `front` pair off again before every step.
  fun_induction argumentsAfter piece text generalizing front with
  | case1 piece => simp [plainPiece]
  | case2 piece rest ih =>
    have odd := not_even_backslashes_concat even
    obtain ⟨part, parts, behind⟩ := exists_piecesFrom (front ++ ['\\'] ++ [',']) rest
    rw [ih (even_backslashes_pair even ','), piecesFrom_cons, piecesFrom_cons, behind]
    simp [odd, plainPiece]
  | case3 piece c rest comma ih =>
    have other : c ≠ ',' := comma
    have paired := even_backslashes_pair even c
    -- If `c` is a backslash too, it stays only because no comma follows it in its piece.
    obtain ⟨part, parts, behind⟩ := exists_piecesFrom (front ++ ['\\'] ++ [c]) rest
    have clear := head_piecesFrom paired behind
    have kept : plainPiece ('\\' :: c :: part) = '\\' :: c :: plainPiece part := by
      rw [plainPiece_cons (by simpa using other), plainPiece_cons fun _ => clear]
    rw [ih paired, piecesFrom_cons, piecesFrom_cons, behind]
    simp [other, kept]
  | case4 piece rest ih =>
    have other : ',' ≠ '\\' := by decide
    obtain ⟨part, parts, behind⟩ := exists_piecesFrom (front ++ [',']) rest
    rw [ih (even_backslashes_concat other), piecesFrom_cons, if_pos ⟨rfl, even⟩, behind]
    simp [plainPiece]
  | case5 piece c rest _ lone comma ih =>
    have other : c ≠ ',' := comma
    obtain ⟨part, parts, behind⟩ := exists_piecesFrom (front ++ [c]) rest
    by_cases same : c = '\\'
    · -- A backslash that nothing follows is the end of the text.
      cases rest with
      | nil =>
        rw [piecesFrom_cons]
        simp [same, argumentsAfter, plainPiece]
      | cons d rest => exact (lone d rest same rfl).elim
    · rw [ih (even_backslashes_concat same), piecesFrom_cons, behind]
      simp [other, plainPiece_cons fun backslash => absurd backslash same]

theorem splitArguments_eq (text : List Char) : splitArguments text =
    (cutPieces text).map fun piece => String.ofList (trim (plainPiece piece)) := by
  have fresh : Even (backslashes []) := Even.zero
  obtain ⟨part, parts, pieces⟩ := exists_piecesFrom [] text
  rw [splitArguments, argumentsAfter_eq fresh, pieces, ← piecesFrom_nil, pieces]
  simp

theorem length_splitOnP {A : Type} (p : A → Bool) (xs : List A) :
    (xs.splitOnP p).length = xs.countP p + 1 := by
  induction xs with
  | nil => rfl
  | cons x rest ih =>
    rw [List.splitOnP_cons_eq_if_modifyHead]
    by_cases cuts : p x <;> simp [cuts, ih]

theorem length_cutPieces (text : List Char) : (cutPieces text).length = separators text + 1 := by
  have places : text.zipIdx.map Prod.snd = List.range text.length := by
    rw [List.zipIdx_map_snd, List.range_eq_range']
  rw [cutPieces, List.length_map, length_splitOnP, separators, ← places, List.countP_map]
  rfl

theorem length_splitArguments (text : List Char) :
    (splitArguments text).length = separators text + 1 := by
  rw [splitArguments_eq, List.length_map, length_cutPieces]

section Ends

variable {text : List Char} {c : Char}

theorem splitOnP_last {A : Type} (p : A → Bool) (xs : List A) :
    ∃ earlier last, xs.splitOnP p = earlier ++ [last] ∧
      (earlier = [] ∧ xs = last ∨
        earlier ≠ [] ∧ ∃ front x, p x = true ∧ xs = front ++ x :: last) := by
  induction xs with
  | nil => exact ⟨[], [], rfl, .inl ⟨rfl, rfl⟩⟩
  | cons x rest ih =>
    obtain ⟨earlier, last, cut, place⟩ := ih
    rw [List.splitOnP_cons_eq_if_modifyHead, cut]
    by_cases cuts : p x = true
    · refine ⟨[] :: earlier, last, by simp [cuts], .inr ⟨by simp, ?_⟩⟩
      rcases place with ⟨_, rfl⟩ | ⟨_, front, y, separator, rfl⟩
      · exact ⟨[], x, cuts, rfl⟩
      · exact ⟨x :: front, y, separator, rfl⟩
    · rcases place with ⟨rfl, rfl⟩ | ⟨present, front, y, separator, rfl⟩
      · exact ⟨[], x :: rest, by simp [cuts], .inl ⟨rfl, rfl⟩⟩
      · obtain ⟨first, later, rfl⟩ := List.exists_cons_of_ne_nil present
        exact ⟨(x :: first) :: later, last, by simp [cuts],
          .inr ⟨by simp, x :: front, y, separator, rfl⟩⟩

theorem cutPieces_last (text : List Char) : ∃ earlier last, cutPieces text = earlier ++ [last] ∧
    (text = last ∨ ∃ front, text = front ++ ',' :: last) := by
  obtain ⟨earlier, last, cut, place⟩ :=
    splitOnP_last (fun mark : Char × Nat => decide (Separates text mark.2)) text.zipIdx
  have whole : text.zipIdx.map Prod.fst = text := List.zipIdx_map_fst 0 text
  refine ⟨earlier.map (List.map Prod.fst), last.map Prod.fst, by simp [cutPieces, cut], ?_⟩
  rcases place with ⟨_, alone⟩ | ⟨_, front, mark, separator, behind⟩
  · exact .inl (by rw [← alone, whole])
  · have here : text[mark.2]? = some mark.1 :=
      List.mem_zipIdx_iff_getElem?.mp (by simp [behind])
    have comma : text[mark.2]? = some ',' := (of_decide_eq_true separator).1
    have same : mark.1 = ',' := Option.some.inj (here.symm.trans comma)
    refine .inr ⟨front.map Prod.fst, ?_⟩
    rw [← whole, behind, List.map_append, List.map_cons, same]

theorem getLast?_plainPiece (piece : List Char) : (plainPiece piece).getLast? = piece.getLast? := by
  fun_induction plainPiece piece with
  | case1 => rfl
  | case2 rest ih => simp [List.getLast?_cons, ih]
  | case3 c rest _ ih => simp [List.getLast?_cons, ih]

theorem getLast?_trim (last : text.getLast? = some c) (seen : isBlank c = false) :
    (trim text).getLast? = some c := by
  obtain ⟨front, rfl⟩ := List.getLast?_eq_some_iff.mp last
  have solid : Solid [c] := by simpa [Solid] using seen
  have start : ∃ kept, trimStart (front ++ [c]) = kept ++ [c] := by
    rw [trimStart_append]
    split
    next => exact ⟨[], by simp [trimStart, seen]⟩
    next => exact ⟨_, rfl⟩
  obtain ⟨kept, start⟩ := start
  rw [trim, start, trimEnd_append_of_visible kept ⟨c, by simp, seen⟩, trimEnd_of_solid solid]
  simp

theorem splitArguments_last (lone : text.getLast? = some '\\') :
    ∃ earlier last, splitArguments text = earlier ++ [last] ∧
      last.toList.getLast? = some '\\' := by
  obtain ⟨earlier, last, cut, place⟩ := cutPieces_last text
  have ends : last.getLast? = some '\\' := by
    rcases place with rfl | ⟨front, rfl⟩
    · exact lone
    · cases last with
      | nil => simp at lone
      | cons c rest => simpa using lone
  refine ⟨_, _, by rw [splitArguments_eq, cut, List.map_append, List.map_singleton], ?_⟩
  rw [String.toList_ofList]
  exact getLast?_trim ((getLast?_plainPiece last).trans ends) (by decide)

end Ends

theorem splitArguments_cuts_at_separators (text : List Char) :
    splitArguments text =
        (cutPieces text).map (fun piece => String.ofList (trim (plainPiece piece))) ∧
      splitArguments text ≠ [] ∧ (splitArguments text).length = separators text + 1 ∧
      (text.getLast? = some '\\' → ∃ earlier last, splitArguments text = earlier ++ [last] ∧
        last.toList.getLast? = some '\\') := by
  refine ⟨splitArguments_eq text, ?_, length_splitArguments text, splitArguments_last⟩
  have length_eq := length_splitArguments text
  exact List.ne_nil_of_length_pos (by omega)

-- One, two and three backslashes before a comma, one before a letter, and one at the end.
theorem splitArguments_cuts_at_separators_runs :
    let text := "a\\,b,c\\\\, d\\\\\\,e ,\\x\\".toList
    separators text = 3 ∧ splitArguments text = ["a,b", "c\\\\", "d\\\\,e", "\\x\\"] ∧
      (cutPieces text).map (fun piece => String.ofList (trim (plainPiece piece))) =
        ["a,b", "c\\\\", "d\\\\,e", "\\x\\"] ∧
      ∃ earlier last, splitArguments text = earlier ++ [last] ∧
        last.toList.getLast? = some '\\' := by
  intro text
  have arguments : splitArguments text = ["a,b", "c\\\\", "d\\\\,e", "\\x\\"] := by decide +kernel
  obtain ⟨reference, _, _, ending⟩ := splitArguments_cuts_at_separators text
  exact ⟨by decide +kernel, arguments, reference ▸ arguments, ending (by decide +kernel)⟩

end MapScript.Script
