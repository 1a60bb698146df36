import BoardBind.Text.Match
import BoardBind.Text.Substitute

/-! # The words of messages

A message that becomes the tail of another one starts in lower case, unless its first word is an
abbreviation. A misspelled word is told by its distance from the word that was meant. What a reader
is to notice is painted.
-/

namespace BoardBind.Text

/-- The first word between blanks, or nothing in a blank text. -/
def firstWord (text : String) : Option String :=
  match (trimStart text.toList).takeWhile (fun c => !isBlank c) with
  | [] => none
  | found => some (String.ofList found)

/-- An abbreviation takes more than one byte and holds no lower-case ASCII letter. -/
def isAbbreviation (word : String) : Bool :=
  1 < word.utf8ByteSize && word.toList.all (fun c => !c.isLower)

def lowerFirst (text : String) : String :=
  match text.toList with
  | [] => text
  | c :: rest => String.ofList (c.toLower :: rest)

/-- A message as the tail of another one. -/
def continued (text : String) : String :=
  match firstWord text with
  | none => text
  | some word => if isAbbreviation word then text else lowerFirst text

/-! ## How far two words are apart

The distance of two words is the least number of letters to insert, to drop or to exchange on the
way from one to the other. It is computed row by row: a row holds the distances of one beginning of
the first word from all beginnings of the second.
-/

/-- The rest of the next row, behind its entry `left`; the first word goes on with `letter`. -/
def nextDistances (letter : Char) : List Char → List Nat → Nat → List Nat
  | t :: target, diagonal :: above :: row, left =>
    let entry := min (min (above + 1) (left + 1)) (if letter = t then diagonal else diagonal + 1)
    entry :: nextDistances letter target (above :: row) entry
  | _, _, _ => []

/-- The row that follows when the first word goes on with `letter`. -/
def nextRow (target : List Char) (row : List Nat) (letter : Char) : List Nat :=
  let left := row.headD 0 + 1
  left :: nextDistances letter target row left

def distance (word target : List Char) : Nat :=
  (word.foldl (nextRow target) (List.range (target.length + 1))).getLastD 0

/-! ## Colours on a terminal

A painted text stands between an escape sequence that starts its style and one that resets it.
A reset inside the text starts the style again.
-/

/-- The styles of messages and listings. -/
inductive Style where
  | green
  | greenBold
  | yellow
  | blue
  deriving DecidableEq

def Style.start : Style → String
  | .green => "\x1b[32m"
  | .greenBold => "\x1b[1;32m"
  | .yellow => "\x1b[33m"
  | .blue => "\x1b[34m"

/-- The escape sequence that ends every style. -/
def resetStyle : String := "\x1b[0m"

def paint (colours : Bool) (style : Style) (text : String) : String :=
  if colours then
    style.start ++ substitute resetStyle (resetStyle ++ style.start) text ++ resetStyle
  else text

end BoardBind.Text
