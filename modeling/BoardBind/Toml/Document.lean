import BoardBind.Toml.Scalar

/-! # TOML documents

A document is a list of statements, one on a line. A header opens a table or adds one to an array
of tables; a key with its value is added to the table that was opened last. Reading fails on
malformed text, on a key given twice, on a table extended where it is complete, and on keys and
values that are nested too deeply.
-/

namespace BoardBind.Toml

open Text

def isBareKeyChar (c : Char) : Bool :=
  c.isAlphanum || c = '_' || c = '-'

def simpleKey : List Char → Option (String × List Char)
  | '"' :: text => lineString '"' text
  | '\'' :: text => lineString '\'' text
  | text => do
    let (name, text) ← run isBareKeyChar text
    return (String.ofList name, text)

def keyParts : Nat → List Char → Option (List String × List Char)
  | 0, _ => none
  | fuel + 1, text => do
    let (first, text) ← simpleKey (skipSpaces text)
    match skipSpaces text with
    | '.' :: text => do
      let (rest, text) ← keyParts fuel text
      return (first :: rest, text)
    | text => return ([first], text)

/-- How deeply values may be nested, and how many parts a key may have. -/
def depthLimit : Nat := 127

def key (text : List Char) : Option (List String × List Char) := do
  let (parts, text) ← keyParts text.length text
  if parts.length ≤ depthLimit then some (parts, text) else none

/-- Drops blanks, line ends and comments. -/
def skipLines : Nat → List Char → List Char
  | 0, text => text
  | fuel + 1, text =>
    match skipSpaces text with
    | '#' :: text => skipLines fuel (text.dropWhile isAllowed)
    | text =>
      match newline text with
      | some text => skipLines fuel text
      | none => text

/-- Adds a value under a dotted key to the entries of a table. Dotted keys do not enter a table
that has a header, nor one between braces. -/
def addPair (entries : Entries) (path : List String) (value : Value) : Option Entries := do
  let name ← path.getLast?
  entries.updateAt .dotted (fun kind => kind = .dotted || kind = .implied) (fun kind inner =>
    if path.length ≠ 1 && kind ≠ .dotted then none else inner.insert? name value)
    path.dropLast .header

/-- Adds a value under a dotted key between braces, where dotted keys enter every table. -/
def addInlinePair (entries : Entries) (path : List String) (value : Value) : Option Entries := do
  let name ← path.getLast?
  entries.updateAt .inline (fun _ => true) (fun _ inner => inner.insert? name value)
    path.dropLast .inline

mutual

/-- A value inside of `depth` others. -/
def value : Nat → Nat → List Char → Option (Value × List Char)
  | 0, _, _ => none
  | fuel + 1, depth, text =>
    match text with
    | '"' :: '"' :: '"' :: text => (blockString '"' text).map fun (s, text) => (.text s, text)
    | '\'' :: '\'' :: '\'' :: text => (blockString '\'' text).map fun (s, text) => (.text s, text)
    | '"' :: text => (lineString '"' text).map fun (s, text) => (.text s, text)
    | '\'' :: text => (lineString '\'' text).map fun (s, text) => (.text s, text)
    | '[' :: text =>
      if depth < depthLimit then
        (items fuel (depth + 1) text).map fun (found, text) => (.array false found, text)
      else none
    | '\x7b' :: text =>
      if depth < depthLimit then
        match skipSpaces text with
        | '\x7d' :: text => some (.table .inline [], text)
        | text =>
          (pairs fuel (depth + 1) text []).map fun (found, text) => (.table .inline found, text)
      else none
    | text => scalar text

/-- The rest of an array; a comma may follow the last value. -/
def items : Nat → Nat → List Char → Option (List Value × List Char)
  | 0, _, _ => none
  | fuel + 1, depth, text =>
    match skipLines text.length text with
    | ']' :: text => some ([], text)
    | text => do
      let (first, text) ← value fuel depth text
      match skipLines text.length text with
      | ',' :: text => do
        let (rest, text) ← items fuel depth text
        return (first :: rest, text)
      | ']' :: text => return ([first], text)
      | _ => none

/-- The rest of an inline table, on one line, with at least one more key. -/
def pairs : Nat → Nat → List Char → Entries → Option (Entries × List Char)
  | 0, _, _, _ => none
  | fuel + 1, depth, text, entries => do
    let (path, text) ← key text
    let text ← literal ['='] text
    let (found, text) ← value fuel depth (skipSpaces text)
    let entries ← addInlinePair entries path found
    match skipSpaces text with
    | ',' :: text => pairs fuel depth text entries
    | '\x7d' :: text => some (entries, text)
    | _ => none

end

inductive Statement where
  | header (path : List String)
  | arrayHeader (path : List String)
  | pair (path : List String) (value : Value)

/-- What remains behind the end of a statement's line: blanks, a comment, and a line end unless
the text ends here. -/
def lineEnd (text : List Char) : Option (List Char) :=
  let text :=
    match skipSpaces text with
    | '#' :: text => text.dropWhile isAllowed
    | text => text
  if text = [] then some [] else newline text

def statement (text : List Char) : Option (Statement × List Char) :=
  match text with
  | '[' :: '[' :: text => do
    let (path, text) ← key text
    let text ← literal [']', ']'] text
    return (.arrayHeader path, text)
  | '[' :: text => do
    let (path, text) ← key text
    let text ← literal [']'] text
    return (.header path, text)
  | text => do
    let (path, text) ← key text
    let text ← literal ['='] text
    let (found, text) ← value text.length 0 (skipSpaces text)
    return (.pair path found, text)

def statements : Nat → List Char → Option (List Statement)
  | 0, _ => some []
  | fuel + 1, text =>
    match skipLines text.length text with
    | [] => some []
    | text => do
      let (first, text) ← statement text
      let text ← lineEnd text
      let rest ← statements fuel text
      return first :: rest

/-- A table opened by a header, with the keys that follow it. -/
structure Section where
  isArray : Bool
  path : List String
  pairs : List (List String × Value)

/-- The keys before the first header, and the tables opened by headers. -/
def sections : List Statement → List (List String × Value) × List Section
  | [] => ([], [])
  | .pair path value :: rest =>
    let (pairs, opened) := sections rest
    ((path, value) :: pairs, opened)
  | .header path :: rest =>
    let (pairs, opened) := sections rest
    ([], ⟨false, path, pairs⟩ :: opened)
  | .arrayHeader path :: rest =>
    let (pairs, opened) := sections rest
    ([], ⟨true, path, pairs⟩ :: opened)

def addPairs (entries : Entries) (pairs : List (List String × Value)) : Option Entries :=
  pairs.foldlM (fun entries (path, value) => addPair entries path value) entries

def addSection (root : Entries) (opened : Section) : Option Entries := do
  let name ← opened.path.getLast?
  root.updateAt .implied (· ≠ .inline) (fun _ entries =>
    match opened.isArray, entries.lookup name with
    | false, none => do
      return entries ++ [(name, .table .header (← addPairs [] opened.pairs))]
    | false, some (.table .implied inner) => do
      return entries.set name (.table .header (← addPairs inner opened.pairs))
    | true, none => do
      return entries ++ [(name, .array true [.table .header (← addPairs [] opened.pairs)])]
    | true, some (.array true elements) => do
      return entries.set name
        (.array true (elements ++ [.table .header (← addPairs [] opened.pairs)]))
    | _, _ => none) opened.path.dropLast .header

/-- The entries of a document. A byte order mark in front is skipped. -/
def parse (document : String) : Option Entries := do
  let text := (literal ['\ufeff'] document.toList).getD document.toList
  let (pairs, opened) := sections (← statements (text.length + 1) text)
  opened.foldlM addSection (← addPairs [] pairs)

end BoardBind.Toml
