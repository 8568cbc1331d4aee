import MapScript.Number.Decimal
import MapScript.Text.Reader

set_option autoImplicit false

namespace MapScript.Toml

open Number Text

def skipBlanks (cs : List Char) : List Char :=
  cs.dropWhile fun c => c == ' ' || c == '\t'

def isPlain (c : Char) : Bool :=
  c == '\t' || (0x20 ≤ c.toNat && c.toNat ≠ 0x7F)

def dropNewline : List Char → Option (List Char)
  | '\n' :: rest => some rest
  | '\r' :: '\n' :: rest => some rest
  | _ => none

def isLineStop (c : Char) : Bool :=
  c == '\n' || c == '\r'

def skipComment (cs : List Char) : Option (List Char) :=
  match skipBlanks cs with
  | '#' :: rest =>
    let comment := rest.takeWhile fun c => !isLineStop c
    if comment.all isPlain then some (rest.drop comment.length) else none
  | rest => some rest

def skipLines : Nat → List Char → Option (List Char)
  | 0, _ => none
  | fuel + 1, cs => do
    let rest ← skipComment cs
    match dropNewline rest with
    | some rest => skipLines fuel rest
    | none => return rest

def readCodePoint (digits : Nat) : Reader Char := fun cs => do
  if cs.length < digits then none
  let value ← (cs.take digits).foldlM (fun n c => (hexValue? c).map (16 * n + ·)) 0
  if value.isValidChar then return (Char.ofNat value, cs.drop digits) else none

def readEscape : Reader Char
  | 'b' :: rest => some ('\x08', rest)
  | 'e' :: rest => some ('\x1b', rest)
  | 't' :: rest => some ('\t', rest)
  | 'n' :: rest => some ('\n', rest)
  | 'f' :: rest => some ('\x0c', rest)
  | 'r' :: rest => some ('\r', rest)
  | '"' :: rest => some ('"', rest)
  | '\\' :: rest => some ('\\', rest)
  | 'x' :: rest => readCodePoint 2 rest
  | 'u' :: rest => readCodePoint 4 rest
  | 'U' :: rest => readCodePoint 8 rest
  | _ => none

def readBasic : Nat → List Char → Reader String
  | 0, _, _ => none
  | _, _, [] => none
  | fuel + 1, read, c :: rest =>
    if c = '"' then some (String.ofList read.reverse, rest)
    else if c = '\\' then
      match readEscape rest with
      | some (escaped, rest) => readBasic fuel (escaped :: read) rest
      | none => none
    else if isPlain c then readBasic fuel (c :: read) rest
    else none

def readLiteral : Reader String := fun cs => do
  let text := cs.takeWhile (· != '\'')
  if !text.all isPlain then none
  match cs.drop text.length with
  | _ :: rest => return (String.ofList text, rest)
  | [] => none

/-- The quotes that end a string of several lines may follow up to two quotes of its text. -/
def closingQuotes (quote : Char) (cs : List Char) : Option (List Char × List Char) :=
  let run := min 5 (cs.takeWhile (· == quote)).length
  if 3 ≤ run then some (List.replicate (run - 3) quote, cs.drop run) else none

def skipContinuation (cs : List Char) : Option (List Char) :=
  (dropNewline (skipBlanks cs)).map fun rest =>
    rest.dropWhile fun c => c == ' ' || c == '\t' || isLineStop c

def readMultiline (quote : Char) : Nat → List Char → Reader String
  | 0, _, _ => none
  | _, _, [] => none
  | fuel + 1, read, c :: rest =>
    match closingQuotes quote (c :: rest) with
    | some (quotes, rest) => some (String.ofList (read.reverse ++ quotes), rest)
    | none =>
      if c = '\\' ∧ quote = '"' then
        match skipContinuation rest with
        | some rest => readMultiline quote fuel read rest
        | none =>
          match readEscape rest with
          | some (escaped, rest) => readMultiline quote fuel (escaped :: read) rest
          | none => none
      else
        match dropNewline (c :: rest) with
        | some rest => readMultiline quote fuel ('\n' :: read) rest
        | none => if isPlain c then readMultiline quote fuel (c :: read) rest else none

def readLong (quote : Char) (cs : List Char) : Option (String × List Char) :=
  readMultiline quote (cs.length + 1) [] ((dropNewline cs).getD cs)

def readString : Reader String
  | '"' :: '"' :: '"' :: rest => readLong '"' rest
  | '\'' :: '\'' :: '\'' :: rest => readLong '\'' rest
  | '"' :: rest => readBasic (rest.length + 1) [] rest
  | '\'' :: rest => readLiteral rest
  | _ => none

def isBareKeyChar (c : Char) : Bool :=
  c.isAlphanum || c == '_' || c == '-'

def readKeyPart : Reader String
  | '"' :: rest => readBasic (rest.length + 1) [] rest
  | '\'' :: rest => readLiteral rest
  | cs =>
    let key := cs.takeWhile isBareKeyChar
    if key.isEmpty then none else some (String.ofList key, cs.drop key.length)

def readKey : Nat → Reader (List String)
  | 0, _ => none
  | limit + 1, cs => do
    let (part, rest) ← readKeyPart (skipBlanks cs)
    match skipBlanks rest with
    | '.' :: rest =>
      let (parts, rest) ← readKey limit rest
      return (part :: parts, rest)
    | rest => return ([part], rest)

def digitGroups (isDigit : Char → Bool) : List Char → Option (List Char)
  | [] => none
  | [c] => if isDigit c then some [c] else none
  | c :: '_' :: rest => if isDigit c then (digitGroups isDigit rest).map (c :: ·) else none
  | c :: rest => if isDigit c then (digitGroups isDigit rest).map (c :: ·) else none

def wholeDigits (cs : List Char) : Option (List Char) :=
  (digitGroups Char.isDigit cs).bind fun digits =>
    if digits.head? = some '0' ∧ digits.length ≠ 1 then none else some digits

def splitSign (cs : List Char) : Bool × List Char :=
  match cs with
  | '-' :: rest => (true, rest)
  | '+' :: rest => (false, rest)
  | _ => (false, cs)

def isDecimalInteger (cs : List Char) : Bool :=
  let (negative, body) := splitSign cs
  match wholeDigits body with
  | some digits => naturalOf digits ≤ if negative then Nat.pow 2 127 else Nat.pow 2 128 - 1
  | none => false

def isBasedInteger (cs : List Char) : Bool :=
  let (base, body) := match cs with
    | '0' :: 'x' :: rest => (16, rest)
    | '0' :: 'o' :: rest => (8, rest)
    | '0' :: 'b' :: rest => (2, rest)
    | _ => (0, [])
  let isDigit (c : Char) : Bool := (hexValue? c).any fun d => d < base
  match digitGroups isDigit body with
  | some digits => digits.foldl (fun n c => base * n + (hexValue? c).getD 0) 0 < Nat.pow 2 128
  | none => false

def splitAtFirst (isMark : Char → Bool) (cs : List Char) : List Char × Option (List Char) :=
  match cs.dropWhile fun c => !isMark c with
  | [] => (cs, none)
  | _ :: rest => (cs.takeWhile fun c => !isMark c, some rest)

def isFloat (cs : List Char) : Bool :=
  let body := (splitSign cs).2
  if body == "inf".toList || body == "nan".toList then true
  else
    let (mantissa, exponent) := splitAtFirst (fun c => c == 'e' || c == 'E') body
    let (whole, fraction) := splitAtFirst (· == '.') mantissa
    let fits (part : Option (List Char)) : Bool :=
      part.all fun digits => (digitGroups Char.isDigit digits).isSome
    let value : Option Real64 := readBinary (body.filter (· != '_'))
    (wholeDigits whole).isSome && fits fraction && fits (exponent.map fun e => (splitSign e).2) &&
      (fraction.isSome || exponent.isSome) && value.any Binary.isFinite

def readTwo (low high : Nat) : Reader Nat
  | a :: b :: rest =>
    if a.isDigit ∧ b.isDigit then
      let n := naturalOf [a, b]
      if low ≤ n ∧ n ≤ high then some (n, rest) else none
    else none
  | _ => none

def daysIn (year month : Nat) : Nat :=
  if month = 2 then
    if year % 4 = 0 ∧ (year % 100 ≠ 0 ∨ year % 400 = 0) then 29 else 28
  else if month ∈ [4, 6, 9, 11] then 30 else 31

def readMark (isMark : Char → Bool) : Reader Unit
  | c :: rest => if isMark c then some ((), rest) else none
  | [] => none

def dropDate (cs : List Char) : Option (List Char) := do
  let year := cs.take 4
  if year.length ≠ 4 || !year.all Char.isDigit then none
  let (_, rest) ← readMark (· == '-') (cs.drop 4)
  let (month, rest) ← readTwo 1 12 rest
  let (_, rest) ← readMark (· == '-') rest
  let (_, rest) ← readTwo 1 (daysIn (naturalOf year) month) rest
  return rest

def dropFraction (cs : List Char) : Option (List Char) :=
  match cs with
  | '.' :: fraction =>
    if (fraction.takeWhile Char.isDigit).isEmpty then none
    else some (fraction.dropWhile Char.isDigit)
  | _ => some cs

def dropTime (cs : List Char) : Option (List Char) := do
  let (_, rest) ← readTwo 0 23 cs
  let (_, rest) ← readMark (· == ':') rest
  let (_, rest) ← readTwo 0 59 rest
  match rest with
  | ':' :: rest =>
    let (_, rest) ← readTwo 0 60 rest
    dropFraction rest
  | rest => return rest

def dropOffset (cs : List Char) : Option (List Char) :=
  match cs with
  | 'Z' :: rest => some rest
  | 'z' :: rest => some rest
  | _ => do
    let (_, rest) ← readMark (fun c => c == '+' || c == '-') cs
    let (_, rest) ← readTwo 0 23 rest
    let (_, rest) ← readMark (· == ':') rest
    let (_, rest) ← readTwo 0 59 rest
    return rest

def isMoment (cs : List Char) : Bool :=
  let ends (rest : Option (List Char)) : Bool := rest.any List.isEmpty
  match dropDate cs with
  | none => ends (dropTime cs)
  | some [] => true
  | some (c :: rest) =>
    (c == 'T' || c == 't' || c == ' ') &&
      match dropTime rest with
      | none => false
      | some [] => true
      | some rest => ends (dropOffset rest)

def isTokenChar (c : Char) : Bool :=
  c.isAlphanum || c == '+' || c == '-' || c == '.' || c == '_' || c == ':'

def readToken (cs : List Char) : List Char × List Char :=
  let token := cs.takeWhile isTokenChar
  match dropDate token, cs.drop token.length with
  | some [], ' ' :: c :: rest =>
    if c.isDigit then
      let time := (c :: rest).takeWhile isTokenChar
      (token ++ ' ' :: time, (c :: rest).drop time.length)
    else (token, ' ' :: c :: rest)
  | _, rest => (token, rest)

end MapScript.Toml
