import MapScript.Ron.Lexeme

set_option autoImplicit false

namespace MapScript.Ron

open Number Text

inductive Extension where
  | unwrapNewtypes
  | implicitSome
  | unwrapVariantNewtypes
  | explicitStructNames
  deriving DecidableEq, Repr

/-- How an optional value is set off from its content: by brackets, by brackets that are those of
the content too, or by the word alone. -/
inductive Enclosure where
  | brackets
  | shared
  | word
  deriving DecidableEq, Repr

inductive Tree where
  | atom
  | integer (n : Integer)
  | text (s : String)
  | none
  | some (enclosure : Enclosure) (content : Tree)
  | list (items : List Tree)
  | map (entries : List (Tree × Tree))
  | tuple (name : String) (items : List Tree)
  | record (name : String) (fields : List (String × Tree))

mutual

/-- How many levels of nesting a tree takes: one for each collection, one for each member of it
that is being read, and one for each optional value. -/
def Tree.levels : Tree → Nat
  | .atom | .integer _ | .text _ | .none => 0
  | .some _ content => 1 + content.levels
  | .list items | .tuple _ items => 1 + levelsOfItems items
  | .map entries => 1 + levelsOfEntries entries
  | .record _ fields => 1 + levelsOfFields fields

def levelsOfItems : List Tree → Nat
  | [] => 0
  | item :: rest => max (1 + item.levels) (levelsOfItems rest)

def levelsOfEntries : List (Tree × Tree) → Nat
  | [] => 0
  | (key, value) :: rest =>
    max (max (1 + key.levels) (1 + value.levels)) (levelsOfEntries rest)

def levelsOfFields : List (String × Tree) → Nat
  | [] => 0
  | (_, value) :: rest => max (1 + value.levels) (levelsOfFields rest)

end

def readSeparated {A : Type} (element : Reader A) (close : Char) :
    Nat → Reader (List A)
  | 0, _ => none
  | fuel + 1, cs => do
    match ← skipSpace cs with
    | [] => none
    | c :: rest =>
      if c = close then return ([], rest)
      let (item, after) ← element (c :: rest)
      match ← skipSpace after with
      | [] => none
      | c :: rest =>
        if c = close then return ([item], rest)
        if c ≠ ',' then none
        let (items, rest) ← readSeparated element close fuel rest
        return (item :: items, rest)

def readBinding {A : Type} (key : Reader A) (value : Reader Tree) : Reader (A × Tree) := fun cs => do
  let (key, rest) ← key cs
  let rest ← dropWords [":"] rest
  let (value, rest) ← value (← skipSpace rest)
  return ((key, value), rest)

def isRecord (cs : List Char) : Bool :=
  (do
    let (_, rest) ← readIdentifier (← skipSpace cs)
    dropWords [":"] rest).isSome

def readGroup (value : Reader Tree) (name : String) (cs : List Char) : Option (Tree × List Char) :=
  if isRecord cs then
    (readSeparated (readBinding readIdentifier value) ')' (cs.length + 1) cs).map
      fun (fields, rest) => (.record name fields, rest)
  else
    (readSeparated value ')' (cs.length + 1) cs).map fun (items, rest) => (.tuple name items, rest)

def dropQuoted (cs : List Char) : List Char :=
  let cs := ((readChar cs).map Prod.snd).getD cs
  let cs := ((readText cs).map Prod.snd).getD cs
  ((readBytes cs).map Prod.snd).getD cs

def hasSeveral : Nat → Nat → List Char → Option Bool
  | 0, _, _ => none
  | fuel + 1, opened, cs => do
    -- What follows a quoted item is not looked at as the start of a comment.
    match dropQuoted (← skipSpace cs) with
    | [] => none
    | c :: rest =>
      if c ∈ ['(', '[', '\x7b'] then hasSeveral fuel (opened + 1) rest
      else if c ∈ [')', ']', '\x7d'] then
        if opened = 1 then return false else hasSeveral fuel (opened - 1) rest
      else if c = ',' ∧ opened = 1 then return (← skipSpace rest).head? != some ')'
      else hasSeveral fuel opened rest

/-- Whether the brackets that have just been opened are those of a record or a tuple, and not of a
single value. Nothing is read yet. -/
def areShared (cs : List Char) : Option Bool := do
  let cs ← skipSpace cs
  if cs.head? == some ')' then return true
  match readIdentifier cs with
  | none => hasSeveral (cs.length + 1) 1 cs
  | some (_, rest) =>
    match ← skipSpace rest with
    | ':' :: _ => return true
    | ',' :: rest => return (← skipSpace rest).head? != some ')'
    | ')' :: _ => return false
    | rest => hasSeveral (rest.length + 1) 1 rest

def readSingle (value : Reader Tree) : Reader Tree := fun cs => do
  let (content, rest) ← value (← skipSpace cs)
  match ← skipSpace rest with
  | ',' :: rest => return (content, ← dropWords [")"] rest)
  | rest => return (content, ← dropWord ")" rest)

def readSome (extensions : List Extension) (value : Reader Tree) (cs : List Char) :
    Option (Tree × List Char) := do
  match ← skipSpace cs with
  | '(' :: rest =>
    let shared ← if .unwrapVariantNewtypes ∈ extensions then areShared rest else pure false
    if shared then
      (readGroup value "" rest).map fun (content, rest) => (.some .shared content, rest)
    else (readSingle value rest).map fun (content, rest) => (.some .brackets content, rest)
  | rest =>
    if .implicitSome ∈ extensions then
      (value rest).map fun (content, rest) => (.some .word content, rest)
    else none

def readNamed (value : Reader Tree) (name : String) (cs : List Char) :
    Option (Tree × List Char) := do
  match ← skipSpace cs with
  | '(' :: rest => readGroup value name rest
  | rest => return (.atom, rest)

def dropWordValue (cs : List Char) : Option (List Char) :=
  ((dropWholeWord "true" cs).or (dropWholeWord "false" cs)).or
    ((dropWord "()" cs).or (dropSpecialFloat cs))

def readPlain (value : Reader Tree) : Reader Tree
  | '[' :: rest =>
    (readSeparated value ']' (rest.length + 1) rest).map fun (items, rest) => (.list items, rest)
  | '\x7b' :: rest =>
    (readSeparated (readBinding value value) '\x7d' (rest.length + 1) rest).map
      fun (entries, rest) => (.map entries, rest)
  | '(' :: rest => readGroup value "" rest
  | '\'' :: rest => (readChar ('\'' :: rest)).map fun (_, rest) => (.atom, rest)
  | cs =>
    ((readText cs).map fun (s, rest) => (Tree.text s, rest)).or <|
    ((readBytes cs).map fun (_, rest) => (Tree.atom, rest)).or <|
    (readNumber cs).map fun (n, rest) => (match n with
      | some n => .integer n
      | none => .atom, rest)

def readTreeWith (extensions : List Extension) (value : Reader Tree) (cs : List Char) :
    Option (Tree × List Char) :=
  match dropWordValue cs, dropWholeWord "None" cs, dropWholeWord "Some" cs with
  | some rest, _, _ => some (.atom, rest)
  | none, some rest, _ => some (.none, rest)
  | none, none, some rest => readSome extensions value rest
  | none, none, none =>
    match readIdentifier cs with
    | some (name, rest) => readNamed value name rest
    | none => readPlain value cs

def readTree (extensions : List Extension) : Nat → Reader Tree
  | 0, _ => none
  | depth + 1, cs => readTreeWith extensions (readTree extensions depth) cs

def Extension.ofWord? (name : String) : Option Extension :=
  match name with
  | "unwrap_newtypes" => some .unwrapNewtypes
  | "implicit_some" => some .implicitSome
  | "unwrap_variant_newtypes" => some .unwrapVariantNewtypes
  | "explicit_struct_names" => some .explicitStructNames
  | _ => none

def readExtension : Reader Extension := fun cs => do
  let (name, rest) ← readIdentifier cs
  return (← Extension.ofWord? name, rest)

def readAttribute (cs : List Char) : Option (List Extension × List Char) := do
  let rest ← dropWords ["#", "!", "[", "enable", "("] cs
  let (extensions, rest) ← readSeparated readExtension ')' (rest.length + 1) rest
  if extensions.isEmpty then none
  return (extensions, ← dropWords ["]"] rest)

def readAttributes : Nat → Reader (List Extension)
  | 0, _ => none
  | fuel + 1, cs => do
    match ← skipSpace cs with
    | '#' :: rest =>
      let (extensions, rest) ← readAttribute ('#' :: rest)
      let (more, rest) ← readAttributes fuel rest
      return (extensions ++ more, rest)
    | rest => return ([], rest)

structure Document where
  extensions : List Extension
  tree : Tree

def nestingLimit : Nat := 128

def readDocument (text : String) : Option Document := do
  let cs := text.toList
  let (extensions, rest) ← readAttributes (cs.length + 1) cs
  -- A value in which others nest takes a level at least.
  let (tree, rest) ← readTree extensions (nestingLimit + 1) rest
  if nestingLimit < tree.levels then none
  if (← skipSpace rest).isEmpty then return ⟨extensions, tree⟩ else none

end MapScript.Ron
