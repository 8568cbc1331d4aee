import MapScript.Number.Decimal
import MapScript.Text.Identifier
import MapScript.Text.Reader

set_option autoImplicit false

namespace MapScript.Ron

open Number Text

def isSpace (c : Char) : Bool :=
  let n := c.toNat
  n == 0x20 || (0x9 ≤ n && n ≤ 0xD) || n == 0x85 || n == 0x200E || n == 0x200F ||
    n == 0x2028 || n == 0x2029

inductive SpaceMode where
  | plain
  | line
  | block (level : Nat)

def skipFrom : SpaceMode → List Char → Option (List Char)
  | .plain, [] => some []
  | .plain, '/' :: '/' :: rest => skipFrom .line rest
  | .plain, '/' :: '*' :: rest => skipFrom (.block 0) rest
  | .plain, c :: rest =>
    if isSpace c then skipFrom .plain rest else if c = '/' then none else some (c :: rest)
  | .line, [] => some []
  | .line, c :: rest => skipFrom (if c = '\n' then .plain else .line) rest
  | .block _, [] => none
  | .block level, '/' :: '*' :: rest => skipFrom (.block (level + 1)) rest
  | .block 0, '*' :: '/' :: rest => skipFrom .plain rest
  | .block (level + 1), '*' :: '/' :: rest => skipFrom (.block level) rest
  | .block level, _ :: rest => skipFrom (.block level) rest

def skipSpace (cs : List Char) : Option (List Char) :=
  skipFrom .plain cs

def dropWords : List String → List Char → Option (List Char)
  | [], cs => some cs
  | word :: rest, cs => do
    let cs ← skipSpace cs
    let cs ← dropWord word cs
    dropWords rest cs

def isRawPart (c : Char) : Bool :=
  isIdentifierPart c || c == '.' || c == '+' || c == '-'

def startsWithAny (words : List String) (cs : List Char) : Bool :=
  words.any fun word => word.toList.isPrefixOf cs

def isMarkedQuote (cs : List Char) : Bool :=
  startsWithAny ["b\"", "b'", "br\"", "br#", "r\"", "r#\"", "r##"] cs

def readIdentifier : Reader String
  | [] => none
  | c :: rest =>
    if isMarkedQuote (c :: rest) then none
    else if startsWithAny ["r#"] (c :: rest) then
      let name := (rest.drop 1).takeWhile isRawPart
      if name.isEmpty then none
      else some (String.ofList name, (rest.drop 1).dropWhile isRawPart)
    else if isIdentifierStart c then
      let name := (c :: rest).takeWhile isIdentifierPart
      let after := (c :: rest).dropWhile isIdentifierPart
      if after.head?.any isRawPart then none else some (String.ofList name, after)
    else none

def utf8Of (c : Char) : ByteArray :=
  (String.singleton c).toUTF8

def charOf? (n : Nat) : Option Char :=
  if n.isValidChar then some (Char.ofNat n) else none

def readCodePoint : Nat → Nat → Reader Char
  | _, _, [] => none
  | digits, value, c :: rest =>
    if c = '\x7d' then
      if digits = 0 then none else (charOf? value).map fun c => (c, rest)
    else if digits = 6 then none
    else
      match hexValue? c with
      | some d => readCodePoint (digits + 1) (16 * value + d) rest
      | none => none

inductive Escaped where
  | byte (b : UInt8)
  | codePoint (c : Char)

def Escaped.bytes : Escaped → ByteArray
  | .byte b => ByteArray.mk #[b]
  | .codePoint c => utf8Of c

def readEscape : Reader Escaped
  | '\'' :: rest => some (.byte 0x27, rest)
  | '"' :: rest => some (.byte 0x22, rest)
  | '\\' :: rest => some (.byte 0x5C, rest)
  | 'n' :: rest => some (.byte 0x0A, rest)
  | 'r' :: rest => some (.byte 0x0D, rest)
  | 't' :: rest => some (.byte 0x09, rest)
  | '0' :: rest => some (.byte 0, rest)
  | 'x' :: a :: b :: rest =>
    match hexValue? a, hexValue? b with
    | some a, some b => some (.byte (UInt8.ofNat (16 * a + b)), rest)
    | _, _ => none
  | 'u' :: '\x7b' :: rest => (readCodePoint 0 0 rest).map fun (c, rest) => (.codePoint c, rest)
  | _ => none

/-- The bytes up to the closing quote. The fuel bounds the number of characters. -/
def readEscaped : Nat → ByteArray → Reader ByteArray
  | 0, _, _ => none
  | _, _, [] => none
  | fuel + 1, bytes, c :: rest =>
    if c = '"' then some (bytes, rest)
    else if c = '\\' then
      match readEscape rest with
      | some (escaped, rest) => readEscaped fuel (bytes ++ escaped.bytes) rest
      | none => none
    else readEscaped fuel (bytes ++ utf8Of c) rest

def readRaw (hashes : Nat) : List Char → Reader String
  | _, [] => none
  | read, c :: rest =>
    if c = '"' ∧ rest.take hashes = List.replicate hashes '#' then
      some (String.ofList read.reverse, rest.drop hashes)
    else readRaw hashes (c :: read) rest

def readRawAfter (cs : List Char) : Option (String × List Char) :=
  let hashes := (cs.takeWhile (· == '#')).length
  match cs.drop hashes with
  | '"' :: rest => readRaw hashes [] rest
  | _ => none

def readText : Reader String
  | '"' :: rest => do
    let (bytes, rest) ← readEscaped (rest.length + 1) ByteArray.empty rest
    -- Escaped bytes may make up a character only together.
    let text ← String.fromUTF8? bytes
    return (text, rest)
  | 'r' :: rest => readRawAfter rest
  | _ => none

def readChar : Reader Unit
  | '\'' :: '\\' :: rest => do
    let (escaped, rest) ← readEscape rest
    let rest ← dropWord "'" rest
    match escaped with
    | .byte b => if b < 128 then return ((), rest) else none
    | .codePoint _ => return ((), rest)
  | '\'' :: _ :: '\'' :: rest => some ((), rest)
  | _ => none

def readBytes : Reader Unit
  | 'b' :: '"' :: rest =>
    (readEscaped (rest.length + 1) ByteArray.empty rest).map fun (_, rest) => ((), rest)
  | 'b' :: 'r' :: rest => (readRawAfter rest).map fun (_, rest) => ((), rest)
  | _ => none

structure Integer where
  value : Int
  suffix : Option String
  deriving DecidableEq, Repr

def isIntegerChar (c : Char) : Bool :=
  (hexValue? c).isSome || c == '_'

def isFloatChar (c : Char) : Bool :=
  c.isDigit || c == 'e' || c == 'E' || c == '.' || c == '+' || c == '-' || c == '_'

def dropWholeWord (word : String) (cs : List Char) : Option (List Char) :=
  (dropWord word cs).bind fun rest =>
    if rest.head?.any isIdentifierPart then none else some rest

def digitsIn (base : Nat) (digits : List Char) : Option Nat :=
  digits.foldlM (fun value c =>
    if c = '_' then some value
    else (hexValue? c).bind fun d => if d < base then some (base * value + d) else none) 0

def splitBase (cs : List Char) : Nat × List Char :=
  match cs with
  | '0' :: 'b' :: rest => (2, rest)
  | '0' :: 'o' :: rest => (8, rest)
  | '0' :: 'x' :: rest => (16, rest)
  | _ => (10, cs)

def signed (negative : Bool) (n : Nat) : Int :=
  if negative then -(n : Int) else n

def isWithin (range : Int × Int) (n : Int) : Bool :=
  range.1 ≤ n && n ≤ range.2

def readDigits : Reader Nat := fun cs => do
  let (base, body) := splitBase cs
  let digits := body.takeWhile isIntegerChar
  if digits.isEmpty || digits.head? == some '_' then none
  return (← digitsIn base digits, body.drop digits.length)

def integerTypes : List (String × (Int × Int)) :=
  [("i8", signedRange 8), ("i16", signedRange 16), ("i32", signedRange 32), ("i64", signedRange 64),
    ("u8", unsignedRange 8), ("u16", unsignedRange 16), ("u32", unsignedRange 32),
    ("u64", unsignedRange 64)]

def readUnsigned (negative : Bool) (cs : List Char) : Option (Integer × List Char) :=
  let run := cs.takeWhile isIntegerChar
  -- A type is seen only right after hexadecimal digits, which the marks of two bases are not.
  let typed := integerTypes.findSome? fun (name, range) =>
    (dropWholeWord name (cs.drop run.length)).map fun rest => (name, range, rest)
  match typed with
  | some (name, range, rest) => do
    let (n, _) ← readDigits run
    if isWithin range (signed negative n) then return (⟨signed negative n, some name⟩, rest)
    else none
  | none => do
    let (n, rest) ← readDigits cs
    let range := if negative then signedRange 64 else unsignedRange 64
    if isWithin range (signed negative n) then return (⟨signed negative n, none⟩, rest) else none

def readByte : Reader Integer
  | 'b' :: '\'' :: '\\' :: rest => do
    let (escaped, rest) ← readEscape rest
    let rest ← dropWord "'" rest
    match escaped with
    | .byte b => return (⟨b.toNat, some "u8"⟩, rest)
    | .codePoint _ => none
  | 'b' :: '\'' :: c :: '\'' :: rest =>
    if c.toNat < 128 then some (⟨c.toNat, some "u8"⟩, rest) else none
  | _ => none

def readInteger : Reader Integer
  | '+' :: rest => readUnsigned false rest
  | '-' :: rest => readUnsigned true rest
  | cs => (readByte cs).or (readUnsigned false cs)

def dropSign (cs : List Char) : List Char :=
  match cs with
  | '+' :: rest => rest
  | '-' :: rest => rest
  | _ => cs

/-- Takes out the underscores, which may stand only after a digit or the mark of an exponent; a
sign between changes nothing. -/
def withoutUnderscores : Bool → List Char → Option (List Char)
  | _, [] => some []
  | allowed, c :: rest =>
    if c = '_' then if allowed then withoutUnderscores true rest else none
    else
      let allowed := if c = '.' then false else allowed || (c ≠ '+' && c ≠ '-')
      (withoutUnderscores allowed rest).map (c :: ·)

def dropSpecialFloat (cs : List Char) : Option (List Char) :=
  ["inf", "inff32", "inff64", "NaN", "NaNf32", "NaNf64"].findSome? fun word => dropWholeWord word cs

def readFloat : Reader Unit := fun cs =>
  match dropSpecialFloat (dropSign cs) with
  | some rest => some ((), rest)
  | none => do
    let text := cs.takeWhile isFloatChar
    let rest := cs.drop text.length
    let _ ← readBinary (f := binary64) (← withoutUnderscores false text)
    return ((), (["f32", "f64"].findSome? fun word => dropWholeWord word rest).getD rest)

def readNumber (cs : List Char) : Option (Option Integer × List Char) :=
  let body := dropSign cs
  let asFloat := (readFloat cs).map fun (_, rest) => (none, rest)
  if (body.takeWhile isIntegerChar).length < (body.takeWhile isFloatChar).length then asFloat
  else ((readInteger cs).map fun (n, rest) => (some n, rest)).or asFloat

end MapScript.Ron
