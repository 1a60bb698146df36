/-! # Lines of a text

A text is cut at its newlines. A newline closes a line and takes one carriage return standing
right before it along; characters after the last newline form a line of their own, which keeps
its carriage return. Nothing else ends a line. Writing puts one newline behind every line.
-/

namespace BoardBind.Text

/-- The characters before the first newline, and the pieces between and after the newlines. -/
def splitNewlines : List Char → List Char × List (List Char)
  | [] => ([], [])
  | c :: rest =>
    let (piece, pieces) := splitNewlines rest
    if c = '\n' then ([], piece :: pieces) else (c :: piece, pieces)

/-- Drops one carriage return from the end of a line. -/
def chomp (line : List Char) : List Char :=
  if line.getLast? = some '\r' then line.dropLast else line

/-- Reads pieces as lines: every piece but the last was closed by a newline, and a last piece
without characters is no line. -/
def closeLines : List Char → List (List Char) → List (List Char)
  | piece, [] => if piece = [] then [] else [piece]
  | piece, next :: pieces => chomp piece :: closeLines next pieces

def lines (text : List Char) : List (List Char) :=
  closeLines (splitNewlines text).1 (splitNewlines text).2

def linesOf (text : String) : List String :=
  (lines text.toList).map String.ofList

/-- Writes every line with a newline behind it. -/
def unlines (lines : List String) : String :=
  String.ofList (lines.flatMap fun line => line.toList ++ ['\n'])

end BoardBind.Text
