set_option autoImplicit false

namespace MapScript.Text

def significant (run : List Char) : List Char :=
  run.dropWhile (· == '0')

/-- The run with more significant digits is the greater number, and of equally many the first that
differs decides. Equal numbers compare by the length of their runs. -/
def compareRuns (a b : List Char) : Ordering :=
  (Ord.compare (significant a).length (significant b).length).then
    ((Ord.compare (significant a) (significant b)).then (Ord.compare a.length b.length))

def compareTexts : List Char → List Char → Ordering
  | [], [] => .eq
  | [], _ :: _ => .lt
  | _ :: _, [] => .gt
  | c :: a, d :: b =>
    -- Only where both texts have a digit are they compared by number.
    if c.isDigit && d.isDigit then
      (compareRuns (c :: a.takeWhile Char.isDigit) (d :: b.takeWhile Char.isDigit)).then
        (compareTexts (a.dropWhile Char.isDigit) (b.dropWhile Char.isDigit))
    else (Ord.compare c d).then (compareTexts a b)
termination_by a => a.length
decreasing_by
  · exact Nat.lt_succ_of_le (List.dropWhile_sublist _).length_le
  · exact Nat.lt_succ_self _

def naturalCompare (a b : String) : Ordering :=
  compareTexts a.toList b.toList

def naturalLE (a b : String) : Bool :=
  (naturalCompare a b).isLE

end MapScript.Text
