import MapScript.Toml.Lexeme

set_option autoImplicit false

namespace MapScript.Toml

open Number Text

/-- How a table came to be: named by a header, on the way to a header, by a key with dots, or as an
inline table. -/
inductive TableKind where
  | named
  | passed
  | dotted
  | inline
  deriving DecidableEq, Repr

inductive Item where
  | bool (b : Bool)
  | text (s : String)
  | scalar
  | array (items : List Item)
  | table (kind : TableKind) (entries : List (String × Item))
  | tables (elements : List (List (String × Item)))

def nestingLimit : Nat := 80

abbrev Entries := List (String × Item)

def replace (key : String) (item : Item) (entries : Entries) : Entries :=
  entries.map fun entry => if entry.1 = key then (key, item) else entry

def changeAt (dotted : Bool) : List String → (Entries → Option Entries) → Entries → Option Entries
  | [], change, entries => change entries
  | key :: rest, change, entries =>
    match entries.lookup key with
    | none =>
      (changeAt dotted rest change []).map fun inner =>
        entries ++ [(key, .table (if dotted then .dotted else .passed) inner)]
    | some (.table kind inner) =>
      if kind = .inline ∨ (dotted ∧ kind = .named) then none
      else (changeAt dotted rest change inner).map fun inner =>
        replace key (.table kind inner) entries
    -- The newest element of an array of tables stands for the array.
    | some (.tables (last :: before)) =>
      (changeAt dotted rest change last).map fun last =>
        replace key (.tables (last :: before)) entries
    | some _ => none

/-- Whether a key with dots may set a member of the table at its path: there is no table yet, or one
that was made by such a key. -/
def isOpen : List String → Entries → Bool
  | [], _ => true
  | key :: rest, entries =>
    match entries.lookup key with
    | none => true
    | some (.table kind inner) => if rest.isEmpty then kind = .dotted else isOpen rest inner
    | some (.tables (last :: _)) => !rest.isEmpty && isOpen rest last
    | some _ => false

def assign (path : List String) (item : Item) (entries : Entries) : Option Entries :=
  if isOpen path.dropLast entries then
    changeAt true path.dropLast (fun inner =>
      let key := path.getLast?.getD ""
      if (inner.lookup key).isSome then none else some (inner ++ [(key, item)])) entries
  else none

def nameTable (path : List String) (entries : Entries) : Option Entries :=
  changeAt false path.dropLast (fun inner =>
    let key := path.getLast?.getD ""
    match inner.lookup key with
    | none => some (inner ++ [(key, .table .named [])])
    | some (.table .passed old) => some (replace key (.table .named old) inner)
    | some _ => none) entries

def addElement (path : List String) (entries : Entries) : Option Entries :=
  changeAt false path.dropLast (fun inner =>
    let key := path.getLast?.getD ""
    match inner.lookup key with
    | none => some (inner ++ [(key, .tables [[]])])
    | some (.tables elements) => some (replace key (.tables ([] :: elements)) inner)
    | some _ => none) entries

def readItems (value : Reader Item) : Nat → Reader (List Item)
  | 0, _ => none
  | fuel + 1, cs => do
    match ← skipLines (cs.length + 1) cs with
    | ']' :: rest => return ([], rest)
    | cs =>
      let (item, rest) ← value cs
      match ← skipLines (rest.length + 1) rest with
      | ']' :: rest => return ([item], rest)
      | ',' :: rest =>
        let (items, rest) ← readItems value fuel rest
        return (item :: items, rest)
      | _ => none

def readBinding (value : Reader Item) : Reader (List String × Item) := fun cs => do
  let (path, rest) ← readKey nestingLimit cs
  match rest with
  | '=' :: rest =>
    let (item, rest) ← value (skipBlanks rest)
    return ((path, item), rest)
  | _ => none

def readBindings (value : Reader Item) : Nat → Entries → Reader Entries
  | 0, _, _ => none
  | fuel + 1, entries, cs => do
    match ← skipLines (cs.length + 1) cs with
    | '\x7d' :: rest => return (entries, rest)
    | cs =>
      let ((path, item), rest) ← readBinding value cs
      let entries ← assign path item entries
      match ← skipLines (rest.length + 1) rest with
      | '\x7d' :: rest => return (entries, rest)
      | ',' :: rest => readBindings value fuel entries rest
      | _ => none

def readScalar (cs : List Char) : Option (Item × List Char) :=
  match readString cs with
  | some (s, rest) => some (.text s, rest)
  | none =>
    let (token, rest) := readToken cs
    if token == "true".toList then some (.bool true, rest)
    else if token == "false".toList then some (.bool false, rest)
    else if isDecimalInteger token || isBasedInteger token || isFloat token || isMoment token then
      some (.scalar, rest)
    else none

def readClosed (value : Reader Item) : Reader Item
  | '[' :: rest =>
    (readItems value (rest.length + 1) rest).map fun (items, rest) => (.array items, rest)
  | '\x7b' :: rest =>
    (readBindings value (rest.length + 1) [] rest).map fun (entries, rest) =>
      (.table .inline entries, rest)
  | _ => none

def readItem : Nat → Reader Item
  | 0, cs => readScalar cs
  | depth + 1, cs => (readClosed (readItem depth) cs).or (readScalar cs)

structure Progress where
  root : Entries
  current : List String

def readHeader : Reader (List String × Bool)
  | '[' :: '[' :: rest => do
    let (path, rest) ← readKey nestingLimit rest
    match rest with
    | ']' :: ']' :: rest => return ((path, true), rest)
    | _ => none
  | '[' :: rest => do
    let (path, rest) ← readKey nestingLimit rest
    match rest with
    | ']' :: rest => return ((path, false), rest)
    | _ => none
  | _ => none

def readExpression (p : Progress) (cs : List Char) : Option (Progress × List Char) :=
  match cs with
  | '[' :: _ => do
    let ((path, isElement), rest) ← readHeader cs
    let root ← if isElement then addElement path p.root else nameTable path p.root
    return (⟨root, path⟩, rest)
  | _ => do
    let ((path, item), rest) ← readBinding (readItem nestingLimit) cs
    let root ← changeAt false p.current (assign path item) p.root
    return (⟨root, p.current⟩, rest)

def readLines : Nat → Progress → List Char → Option Entries
  | 0, _, _ => none
  | fuel + 1, p, cs => do
    match ← skipLines (cs.length + 1) cs with
    | [] => return p.root
    | cs =>
      let (p, rest) ← readExpression p cs
      let rest ← skipComment rest
      match rest with
      | [] => return p.root
      | _ => readLines fuel p (← dropNewline rest)

def readDocument (text : String) : Option Entries :=
  let cs := match text.toList with
    | '\uFEFF' :: rest => rest
    | cs => cs
  readLines (cs.length + 1) ⟨[], []⟩ cs

end MapScript.Toml
