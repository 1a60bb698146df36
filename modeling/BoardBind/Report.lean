/-! # JSON reports

Reports are written over several lines, indented by two blanks for each level.
-/

namespace BoardBind

inductive Report where
  | text (value : String)
  | number (value : Nat)
  | truth (value : Bool)
  | list (items : List Report)
  | record (fields : List (String × Report))

namespace Report

def quotedChar (c : Char) : List Char :=
  if c = '"' then ['\\', '"']
  else if c = '\\' then ['\\', '\\']
  else if c = '\n' then ['\\', 'n']
  else if c = '\r' then ['\\', 'r']
  else if c = '\t' then ['\\', 't']
  else if c = '\x08' then ['\\', 'b']
  else if c = '\x0c' then ['\\', 'f']
  else if c.toNat < 16 then "\\u000".toList ++ Nat.toDigits 16 c.toNat
  else if c.toNat < 32 then "\\u00".toList ++ Nat.toDigits 16 c.toNat
  else [c]

def quoted (text : String) : String :=
  String.ofList ('"' :: text.toList.flatMap quotedChar ++ ['"'])

/-- Writes entries on lines of their own between brackets. -/
def enclosed (opening closing indent : String) (entries : List String) : String :=
  if entries.isEmpty then opening ++ closing
  else opening ++ "\n" ++ ",\n".intercalate (entries.map fun e => indent ++ "  " ++ e) ++ "\n" ++
    indent ++ closing

mutual

/-- Writes a report whose lines are indented by `indent`. -/
def pretty (indent : String) : Report → String
  | .text value => quoted value
  | .number value => toString value
  | .truth value => if value then "true" else "false"
  | .list items => enclosed "[" "]" indent (prettyItems (indent ++ "  ") items)
  | .record fields => enclosed "\x7b" "\x7d" indent (prettyFields (indent ++ "  ") fields)

def prettyItems (indent : String) : List Report → List String
  | [] => []
  | item :: rest => pretty indent item :: prettyItems indent rest

def prettyFields (indent : String) : List (String × Report) → List String
  | [] => []
  | (name, value) :: rest =>
    (quoted name ++ ": " ++ pretty indent value) :: prettyFields indent rest

end

end Report

end BoardBind
