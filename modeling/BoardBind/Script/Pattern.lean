/-! # Patterns

A pattern stands for all texts that it matches: a star for any text, a question mark for any
character, brackets for one of a set of characters, and any other character, or one in quotes, for
itself.
-/

namespace BoardBind.Script

/-- A part of a set of characters. -/
inductive Member where
  | range (low high : Char)
  | named (name : List Char)
  deriving DecidableEq

/-- A part of a pattern. -/
inductive Wild where
  | char (c : Char)
  | any
  | anyText
  | set (isNegated : Bool) (members : List Member)
  deriving DecidableEq

abbrev Pattern := List Wild

def inClass (name : List Char) (c : Char) : Bool :=
  match String.ofList name with
  | "alpha" => c.isAlpha
  | "digit" => c.isDigit
  | "alnum" => c.isAlphanum
  | "upper" => c.isUpper
  | "lower" => c.isLower
  | "space" => c = ' ' || ('\t' ≤ c && c ≤ '\r')
  | "blank" => c = ' ' || c = '\t'
  | "punct" => '!' ≤ c && c ≤ '~' && !c.isAlphanum
  | "print" => ' ' ≤ c && c ≤ '~'
  | "graph" => '!' ≤ c && c ≤ '~'
  | "cntrl" => c < ' ' || c = '\x7f'
  | "xdigit" => c.isDigit || ('a' ≤ c && c ≤ 'f') || ('A' ≤ c && c ≤ 'F')
  | _ => false

def Member.contains (c : Char) : Member → Bool
  | .range low high => low ≤ c && c ≤ high
  | .named name => inClass name c

/-- A character of a pattern that is still to be read, with whether it is in quotes. -/
abbrev Marked := Char × Bool

/-- Reads the members of a set up to its closing bracket, which may be the first member. -/
def readMembers : Nat → Bool → List Marked → Option (List Member × List Marked)
  | 0, _, _ => none
  | fuel + 1, isFirst, text =>
    match text with
    | [] => none
    | (c, isQuoted) :: rest =>
      if c = ']' && !isQuoted && !isFirst then some ([], rest)
      else if c = '[' && rest.head?.map (·.1) = some ':' then
        let name := (rest.tail.map (·.1)).takeWhile (· ≠ ':')
        if ((rest.drop (name.length + 2)).head?.map (·.1)) = some ']' then
          (readMembers fuel false (rest.drop (name.length + 3))).map fun (more, rest) =>
            (.named name :: more, rest)
        else (readMembers fuel false rest).map fun (more, rest) => (.range c c :: more, rest)
      else
        match rest with
        | ('-', false) :: (high, isQuoted) :: rest =>
          if high = ']' && !isQuoted then
            some ([.range c c, .range '-' '-'], rest)
          else (readMembers fuel false rest).map fun (more, rest) => (.range c high :: more, rest)
        | _ => (readMembers fuel false rest).map fun (more, rest) => (.range c c :: more, rest)

def readSet (text : List Marked) : Option (Wild × List Marked) :=
  match text with
  | ('!', false) :: rest =>
    (readMembers rest.length true rest).map fun (members, rest) => (.set true members, rest)
  | ('^', false) :: rest =>
    (readMembers rest.length true rest).map fun (members, rest) => (.set true members, rest)
  | _ => (readMembers text.length true text).map fun (members, rest) => (.set false members, rest)

/-- Reads a pattern. A bracket that is never closed stands for itself. -/
def Pattern.read : Nat → List Marked → Pattern
  | 0, _ => []
  | _, [] => []
  | fuel + 1, (c, isQuoted) :: rest =>
    if isQuoted then .char c :: read fuel rest
    else if c = '*' then .anyText :: read fuel rest
    else if c = '?' then .any :: read fuel rest
    else if c = '[' then
      match readSet rest with
      | some (set, rest) => set :: read fuel rest
      | none => .char c :: read fuel rest
    else .char c :: read fuel rest

def Pattern.ofMarked (text : List Marked) : Pattern :=
  Pattern.read text.length text

def Pattern.isWild (p : Pattern) : Bool :=
  p.any fun
    | .char _ => false
    | _ => true

/-- Whether a part of a pattern matches a single character. -/
def Wild.accepts (c : Char) : Wild → Bool
  | .char d => c = d
  | .any => true
  | .anyText => false
  | .set isNegated members => isNegated ≠ members.any fun m => m.contains c

/-- What is left of a text, beginning with all of it. -/
def suffixes : List Char → List (List Char)
  | [] => [[]]
  | c :: rest => (c :: rest) :: suffixes rest

def Pattern.accepts : Pattern → List Char → Bool
  | [], text => text.isEmpty
  | .anyText :: p, text => (suffixes text).any fun rest => Pattern.accepts p rest
  | w :: p, c :: rest => w.accepts c && Pattern.accepts p rest
  | _ :: _, [] => false

/-- The text without the shortest, or the longest, front that a pattern matches. -/
def Pattern.dropFront (p : Pattern) (longest : Bool) (text : List Char) : List Char :=
  let sizes := List.range (text.length + 1)
  match (if longest then sizes.reverse else sizes).find? fun n => p.accepts (text.take n) with
  | some n => text.drop n
  | none => text

/-- How much of a text stays in front of the shortest, or the longest, back that a pattern
matches. -/
def Pattern.backSize? (p : Pattern) (longest : Bool) (text : List Char) : Option Nat :=
  let sizes := List.range (text.length + 1)
  (if longest then sizes else sizes.reverse).find? fun n => p.accepts (text.drop n)

/-- The text without the shortest, or the longest, back that a pattern matches. -/
def Pattern.dropBack (p : Pattern) (longest : Bool) (text : List Char) : List Char :=
  match p.backSize? longest text with
  | some n => text.take n
  | none => text

/-- Texts that stay apart without the front that a pattern matches. The shortest front is within the
first text; the longest is everything if all of the first text matches. -/
def Pattern.dropFrontOfAll (p : Pattern) (longest : Bool) : List (List Char) → List (List Char)
  | [] => []
  | first :: rest =>
    if longest && p.accepts first then [[]] else p.dropFront longest first :: rest

/-- Texts that stay apart, cut at the last back of one of them that a pattern matches. -/
def Pattern.cutAtBack? (p : Pattern) : List (List Char) → Option (List (List Char))
  | [] => none
  | first :: rest =>
    match p.cutAtBack? rest with
    | some others => some (first :: others)
    | none => (p.backSize? false first).map fun n => [first.take n]

/-- Texts that stay apart without the back that a pattern matches. The longest back starts within
the first text, the shortest in the last text that has one; all behind it goes too. -/
def Pattern.dropBackOfAll (p : Pattern) (longest : Bool) (texts : List (List Char)) :
    List (List Char) :=
  match texts with
  | [] => []
  | first :: _ =>
    if longest then
      match p.backSize? true first with
      | some n => [first.take n]
      | none => texts
    else (p.cutAtBack? texts).getD texts

end BoardBind.Script
