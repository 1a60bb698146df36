import BoardBind.Text.Quoted

/-! # Paths

A path is kept as it was written; it is neither shortened nor completed. Names between slashes
are its parts, where empty parts and single dots mean nothing.
-/

namespace BoardBind

/-- A path as it was written. -/
structure Path where
  text : String
  deriving DecidableEq

namespace Path

def segments (path : Path) : List String :=
  (path.text.toList.splitOn '/').map String.ofList

/-- The names that a path goes through. -/
def parts (path : Path) : List String :=
  path.segments.filter fun name => name ≠ "" && name ≠ "."

def isAbsolute (path : Path) : Bool :=
  path.text.toList.head? = some '/'

/-- Appends a path, which replaces the first one if it is absolute. -/
def join (path tail : Path) : Path :=
  if tail.isAbsolute || path.text = "" then tail
  else if path.text.toList.getLast? = some '/' then ⟨path.text ++ tail.text⟩
  else ⟨path.text ++ "/" ++ tail.text⟩

/-- Whether a stretch between slashes stays where it is. -/
def isIdle (name : String) : Bool :=
  name = "" || name = "."

/-- The path above a path: what stands before its last name. There is none above the root or
above the empty path. -/
def parent? (path : Path) : Option Path :=
  match path.segments with
  | [] => none
  | first :: inner =>
    match inner.reverse.dropWhile isIdle with
    | [] => if first = "" then none else some ⟨""⟩
    | _ :: above =>
      match (above.dropWhile isIdle).reverse with
      | [] => some ⟨if first = "" then "/" else first⟩
      | between => some ⟨"/".intercalate (first :: between)⟩

/-- A path and those above it, at most as many as given, up to the root or the empty path. -/
def ancestorsWithin : Nat → Path → List Path
  | 0, _ => []
  | n + 1, path =>
    match path.parent? with
    | none => []
    | some above => path :: ancestorsWithin n above

/-- A path and those above it, up to the root or the empty path. -/
def ancestors (path : Path) : List Path :=
  ancestorsWithin path.segments.length.succ path

/-- The last name of a path, unless it leads upwards or nowhere. -/
def fileName? (path : Path) : Option String :=
  path.parts.getLast?.filter (· ≠ "..")

/-- The last name of a path, or the whole path without one. -/
def fileName (path : Path) : String :=
  path.fileName?.getD path.text

def quoted (path : Path) : String :=
  Text.quoted path.text

end Path

end BoardBind
