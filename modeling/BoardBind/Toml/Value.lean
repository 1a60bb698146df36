/-! # Values of a TOML document

Besides plain values a document holds tables and arrays. How a table came about decides whether
later statements may extend it.
-/

namespace BoardBind

namespace Toml

/-- How a table came about. -/
inductive TableKind where
  /-- By a header of its own; its statements stand behind that header only. -/
  | header
  /-- As the parent of a table with a header; it may still get a header of its own. -/
  | implied
  /-- By a dotted key; further dotted keys may extend it. -/
  | dotted
  /-- Between braces; only dotted keys between the same braces may extend it. -/
  | inline
  deriving DecidableEq

inductive Value where
  | text (value : String)
  | integer (value : Int)
  | float (written : String)
  | boolean (value : Bool)
  /-- A date, a time or both, in the one way in which it is written out. -/
  | dateTime (written : String)
  /-- An array; `ofTables` tells arrays that double-bracket headers may extend. -/
  | array (ofTables : Bool) (items : List Value)
  | table (kind : TableKind) (entries : List (String × Value))

abbrev Entries := List (String × Value)

namespace Entries

def set (entries : Entries) (key : String) (value : Value) : Entries :=
  entries.map fun entry => if entry.1 = key then (key, value) else entry

def insert? (entries : Entries) (key : String) (value : Value) : Option Entries :=
  if (entries.lookup key).isSome then none else some (entries ++ [(key, value)])

/-- Follows keys from a table and changes the entries of the table they lead to. Missing tables
are made on the way, of the kind `made`; tables of the kinds that `enters` tells are entered; an
array of tables stands for its last one; other values lead nowhere. -/
def updateAt (made : TableKind) (enters : TableKind → Bool)
    (change : TableKind → Entries → Option Entries) :
    List String → TableKind → Entries → Option Entries
  | [], kind, entries => change kind entries
  | key :: rest, _, entries =>
    match entries.lookup key with
    | none => do
      let inner ← updateAt made enters change rest made []
      return entries ++ [(key, .table made inner)]
    | some (.array true items) =>
      match items.getLast? with
      | some (.table kind inner) => do
        let inner ← updateAt made enters change rest kind inner
        return set entries key (.array true (items.dropLast ++ [.table kind inner]))
      | _ => none
    | some (.table kind inner) =>
      if enters kind then do
        let inner ← updateAt made enters change rest kind inner
        return set entries key (.table kind inner)
      else none
    | some _ => none

end Entries

end Toml

end BoardBind
