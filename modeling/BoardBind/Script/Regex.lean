import BoardBind.Script.Pattern

/-! # Regular expressions

The expressions that line editors and searches look for. Of all matches the one that starts first
is meant, and of those that start there the longest one. A match is a way from one position of a
text to another; the ends of all such ways are found at once, the preferred way to each of them.

Expressions in which the order of what is tried counts: of all matches that start at a position the
one is meant that is found first. A match is looked for step by step, and what follows an expression
is handed on to it, so that another way is tried when that fails.
-/

namespace BoardBind.Script

/-! ## Regular expressions -/

/-- A regular expression. -/
inductive Regex where
  | one (w : Wild)
  | lineStart
  | lineEnd
  | textStart
  | textEnd
  | wordStart
  | wordEnd
  /-- The start or the end of a word, or neither of them. -/
  | wordEdge (isEdge : Bool)
  | sequence (parts : List Regex)
  | choice (options : List Regex)
  | many (body : Regex) (least : Nat) (most : Option Nat)
  | group (index : Nat) (body : Regex)
  /-- What a group has matched before. -/
  | again (index : Nat)

namespace Regex

/-- How an expression is applied. -/
structure Mode where
  /-- Whether capital and small letters are the same. -/
  anyCase : Bool := false
  /-- Whether lines inside of the text have starts and ends of their own. -/
  hasLines : Bool := false
  deriving DecidableEq

/-- A position in a text: the characters before it, the last first, those after it, their number,
and what the groups have matched. -/
structure Position where
  before : List Char := []
  after : List Char
  left : Nat
  groups : List (Nat × List Char) := []

def Position.ofText (text : List Char) : Position :=
  { after := text, left := text.length }

def Position.upTo (p q : Position) : List Char :=
  p.after.take (p.left - q.left)

def isWordChar (c : Char) : Bool :=
  c.isAlphanum || c = '_'

def Mode.accepts (mode : Mode) (w : Wild) (c : Char) : Bool :=
  if mode.anyCase then
    match w with
    | .set isNegated members =>
      isNegated ≠ members.any fun m =>
        m.contains c || m.contains c.toLower || m.contains c.toUpper
    | _ => w.accepts c || w.accepts c.toLower || w.accepts c.toUpper
  else w.accepts c

def Mode.same (mode : Mode) (a b : List Char) : Bool :=
  if mode.anyCase then a.map Char.toLower = b.map Char.toLower else a = b

/-- Whether positions are in order, the farthest first, without repetitions. -/
def isFarthestFirst : List Position → Bool
  | p :: q :: rest => p.left < q.left && isFarthestFirst (q :: rest)
  | _ => true

/-- Positions without those at a place where another one is before them. -/
def distinct (positions : List Position) : List Position :=
  if isFarthestFirst positions then positions
  else
    (positions.foldl (fun kept p =>
      if kept.any fun q => q.left = p.left then kept else p :: kept) []).reverse

def farthest? (positions : List Position) : Option Position :=
  positions.foldl (fun best p =>
    match best with
    | some q => if p.left < q.left then some p else some q
    | none => some p) none

/-- The positions after each number of accepted characters, as far as they are accepted. -/
def run (accepts : Char → Bool) : Nat → Position → List Position → List Position
  | 0, _, passed => passed
  | limit + 1, p, passed =>
    match p.after with
    | c :: rest =>
      if accepts c then
        let next := { p with before := c :: p.before, after := rest, left := p.left - 1 }
        run accepts limit next (next :: passed)
      else passed
    | [] => passed

def afterRounds (round : Position → List Position) : Nat → List Position → List Position
  | 0, positions => positions
  | n + 1, positions => afterRounds round n (distinct (positions.flatMap round))

/-- The positions after some more rounds, at most as many as given; a round that leads nowhere new
is not taken. -/
def afterMoreRounds (round : Position → List Position) :
    Nat → List Position → List Position → List Position
  | 0, _, passed => passed
  | n + 1, positions, passed =>
    match (positions.flatMap round).filter fun p => !passed.any fun q => q.left = p.left with
    | [] => passed
    | found =>
      let found := distinct found
      afterMoreRounds round n found (found ++ passed)

mutual

/-- The ends of all matches that start at a position, the preferred one first. -/
def ends (mode : Mode) : Regex → Position → List Position
  | .one w, p =>
    match p.after with
    | c :: rest =>
      if mode.accepts w c then
        [{ p with before := c :: p.before, after := rest, left := p.left - 1 }]
      else []
    | [] => []
  | .lineStart, p =>
    if p.before = [] || (mode.hasLines && p.before.head? = some '\n') then [p] else []
  | .lineEnd, p =>
    if p.after = [] || (mode.hasLines && p.after.head? = some '\n') then [p] else []
  | .textStart, p => if p.before = [] then [p] else []
  | .textEnd, p => if p.after = [] then [p] else []
  | .wordStart, p =>
    if p.after.head?.any isWordChar && !p.before.head?.any isWordChar then [p] else []
  | .wordEnd, p =>
    if !p.after.head?.any isWordChar && p.before.head?.any isWordChar then [p] else []
  | .wordEdge isEdge, p =>
    if (p.after.head?.any isWordChar ≠ p.before.head?.any isWordChar) = isEdge then [p] else []
  | .sequence parts, p => endsInOrder mode parts p
  | .choice options, p => distinct (endsOfAny mode options p)
  | .many body least most, p =>
    match body with
    | .one w =>
      let limit := most.getD p.left
      (run (mode.accepts w) limit p [p]).filter fun q => least ≤ p.left - q.left
    | body =>
      let start := afterRounds (ends mode body) least [p]
      let limit := (most.map (· - least)).getD (p.left + 1)
      afterMoreRounds (ends mode body) limit start start
  | .group index body, p =>
    (ends mode body p).map fun q => { q with groups := (index, p.upTo q) :: q.groups }
  | .again index, p =>
    match p.groups.lookup index with
    | none => []
    | some text =>
      let n := text.length
      if n ≤ p.left && mode.same text (p.after.take n) then
        [{ p with
          before := (p.after.take n).reverse ++ p.before
          after := p.after.drop n
          left := p.left - n }]
      else []

/-- The ends of matches of several expressions after each other. -/
def endsInOrder (mode : Mode) : List Regex → Position → List Position
  | [], p => [p]
  | first :: rest, p => distinct ((ends mode first p).flatMap (endsInOrder mode rest))

/-- The ends of matches of any of several expressions. -/
def endsOfAny (mode : Mode) : List Regex → Position → List Position
  | [], _ => []
  | first :: rest, p => ends mode first p ++ endsOfAny mode rest p

end

def matchAt (r : Regex) (mode : Mode) (p : Position) : Option Position :=
  farthest? (r.ends mode p)

/-- The first match at or after a position, with the position where it starts. -/
def searchFrom (r : Regex) (mode : Mode) :
    Nat → List Char → List Char → Option (Position × Position)
  | left, before, after =>
    let p : Position := { before, after, left }
    match r.matchAt mode p with
    | some q => some (p, q)
    | none =>
      match after with
      | [] => none
      | c :: rest => searchFrom r mode (left - 1) (c :: before) rest

/-- The first match in a text, with the position where it starts. -/
def search (r : Regex) (mode : Mode) (text : List Char) : Option (Position × Position) :=
  searchFrom r mode text.length [] text

/-- Whether an expression matches somewhere in a text. -/
def isIn (r : Regex) (mode : Mode) (text : List Char) : Bool :=
  (r.search mode text).isSome

/-- The expression that matches a text and nothing else. -/
def ofPlain (text : List Char) : Regex :=
  .sequence (text.map fun c => .one (.char c))

end Regex

/-! ## Regular expressions that are tried in order -/

/-- Which numbers of repetitions are tried first. -/
inductive Greed where
  | most
  | fewest
  /-- As many as possible, and no other number. -/
  | all
  deriving DecidableEq

/-- A part of a set of characters. -/
inductive Trait where
  | range (low high : Char)
  | named (name : List Char) (isMeant : Bool)
  deriving DecidableEq

/-- An expression that is tried in order. -/
inductive Ordered where
  | one (isNegated anyCase : Bool) (traits : List Trait)
  /-- The start of the text, or of each line. -/
  | lineStart (isEach : Bool)
  /-- The end of the text, with or without a last line end, or the end of each line. -/
  | lineEnd (isEach : Bool)
  | textStart
  | textEnd
  /-- The start or the end of a word, or neither of them. -/
  | wordEdge (isEdge : Bool)
  | sequence (parts : List Ordered)
  | choice (options : List Ordered)
  | many (body : Ordered) (least : Nat) (most : Option Nat) (greed : Greed)
  | group (index : Nat) (body : Ordered)
  /-- What is found first and never tried in another way. -/
  | alone (body : Ordered)
  /-- What follows, or does not follow. -/
  | ahead (isWanted : Bool) (body : Ordered)
  /-- What stands before, or does not stand before. -/
  | behind (isWanted : Bool) (body : Ordered)
  /-- What a group has matched before. -/
  | again (anyCase : Bool) (index : Nat)
  /-- The match starts here. -/
  | restart

namespace Ordered

def holds (c : Char) : Trait → Bool
  | .range low high => low ≤ c && c ≤ high
  | .named name isMeant => (if name = ['w'] then Regex.isWordChar c else inClass name c) = isMeant

def accepts (isNegated anyCase : Bool) (traits : List Trait) (c : Char) : Bool :=
  isNegated ≠ traits.any fun t =>
    holds c t || (anyCase && (holds c.toLower t || holds c.toUpper t))

/-- How far a match has come. -/
structure Attempt where
  place : Regex.Position
  /-- The number of characters behind the start of the match. -/
  start : Nat

/-- What follows an expression: it makes a match whole, or fails. -/
abbrev Sequel := Attempt → Option Attempt

def backBy (n : Nat) (p : Regex.Position) : Regex.Position :=
  { p with
    before := p.before.drop n
    after := (p.before.take n).reverse ++ p.after
    left := p.left + n }

/-- Whether a position is the end of the text, or only the last line end follows. -/
def isAtEnd (p : Regex.Position) : Bool :=
  p.after = [] || p.after = ['\n']

mutual

def attempt : Nat → Ordered → Attempt → Sequel → Option Attempt
  | 0, _, _, _ => none
  | fuel + 1, e, t, sequel =>
    let p := t.place
    let only := fun truth : Bool => if truth then sequel t else none
    match e with
    | .one isNegated anyCase traits =>
      match p.after with
      | c :: rest =>
        if accepts isNegated anyCase traits c then
          sequel { t with
            place := { p with before := c :: p.before, after := rest, left := p.left - 1 } }
        else none
      | [] => none
    | .lineStart isEach => only (p.before = [] || (isEach && p.before.head? = some '\n'))
    | .lineEnd isEach => only (isAtEnd p || (isEach && p.after.head? = some '\n'))
    | .textStart => only p.before.isEmpty
    | .textEnd => only p.after.isEmpty
    | .wordEdge isEdge =>
      only ((p.after.head?.any Regex.isWordChar ≠ p.before.head?.any Regex.isWordChar) = isEdge)
    | .sequence parts => attemptAll fuel parts t sequel
    | .choice options => attemptAny fuel options t sequel
    | .many body least most greed =>
      match greed with
      | .all => (attemptMany fuel body least most .most t some).bind sequel
      | greed => attemptMany fuel body least most greed t sequel
    | .group index body =>
      attempt fuel body t fun q =>
        sequel { q with
          place := { q.place with groups := (index, p.upTo q.place) :: q.place.groups } }
    | .alone body => (attempt fuel body t some).bind sequel
    | .ahead isWanted body =>
      match isWanted, attempt fuel body t some with
      | true, some q => sequel { t with place := { p with groups := q.place.groups } }
      | false, none => sequel t
      | _, _ => none
    | .behind isWanted body =>
      let found := (List.range (p.before.length + 1)).findSome? fun n =>
        attempt fuel body { t with place := backBy n p } fun q =>
          if q.place.left = p.left then some q else none
      match isWanted, found with
      | true, some q => sequel { t with place := { p with groups := q.place.groups } }
      | false, none => sequel t
      | _, _ => none
    | .again anyCase index =>
      match p.groups.lookup index with
      | none => none
      | some text =>
        let n := text.length
        if n ≤ p.left && Regex.Mode.same { anyCase } text (p.after.take n) then
          sequel { t with
            place := { p with
              before := (p.after.take n).reverse ++ p.before
              after := p.after.drop n
              left := p.left - n } }
        else none
    | .restart => sequel { t with start := p.left }

/-- Tries several expressions after each other. -/
def attemptAll : Nat → List Ordered → Attempt → Sequel → Option Attempt
  | 0, _, _, _ => none
  | _ + 1, [], t, sequel => sequel t
  | fuel + 1, first :: rest, t, sequel =>
    attempt fuel first t fun q => attemptAll fuel rest q sequel

def attemptAny : Nat → List Ordered → Attempt → Sequel → Option Attempt
  | 0, _, _, _ => none
  | _ + 1, [], _, _ => none
  | fuel + 1, first :: rest, t, sequel =>
    (attempt fuel first t sequel).or (attemptAny fuel rest t sequel)

/-- Tries an expression a number of times. A round that leads nowhere is the last one. -/
def attemptMany :
    Nat → Ordered → Nat → Option Nat → Greed → Attempt → Sequel → Option Attempt
  | 0, _, _, _, _, _, _ => none
  | fuel + 1, body, least, most, greed, t, sequel =>
    match body with
    | .one isNegated anyCase traits =>
      let limit := most.getD t.place.left
      let passed := (Regex.run (accepts isNegated anyCase traits) limit t.place [t.place]).filter
        fun q => least ≤ t.place.left - q.left
      (if greed = .fewest then passed.reverse else passed).findSome? fun place =>
        sequel { t with place }
    | body =>
      let again := fun _ : Unit =>
        if most = some 0 then none
        else
          attempt fuel body t fun q =>
            if q.place.left = t.place.left && least = 0 then none
            else attemptMany fuel body (least - 1) (most.map (· - 1)) greed q sequel
      if 0 < least then again ()
      else if greed = .fewest then (sequel t).or (again ())
      else (again ()).or (sequel t)

end

def size : Ordered → Nat
  | .sequence parts => parts.attach.foldl (fun n ⟨e, _⟩ => n + 1 + size e) 2
  | .choice options => options.attach.foldl (fun n ⟨e, _⟩ => n + 1 + size e) 2
  | .many body least _ _ => (size body + 2) * (least + 1)
  | .group _ body => size body + 1
  | .alone body => size body + 1
  | .ahead _ body => size body + 1
  | .behind _ body => size body + 1
  | _ => 1

def matchAt (e : Ordered) (size : Nat) (p : Regex.Position) : Option Attempt :=
  attempt ((size + 2) * (p.before.length + p.left + 2)) e { place := p, start := p.left } some

/-- The first match at or after a position, with the position where it starts. -/
def searchFrom (e : Ordered) (size : Nat) :
    Nat → List Char → List Char → Option (Regex.Position × Regex.Position)
  | left, before, after =>
    match e.matchAt size { before, after, left } with
    | some t => some (backBy (t.start - t.place.left) t.place, t.place)
    | none =>
      match after with
      | [] => none
      | c :: rest => searchFrom e size (left - 1) (c :: before) rest

/-- The number of characters that an expression matches, if that is always the same. -/
def width? : Ordered → Option Nat
  | .one _ _ _ => some 1
  | .sequence parts => parts.attach.foldl
      (fun total ⟨e, _⟩ => total.bind fun n => (width? e).map (n + ·)) (some 0)
  | .choice options =>
    match options.attach.map fun ⟨e, _⟩ => width? e with
    | first :: rest => if rest.all (· = first) then first else none
    | [] => some 0
  | .many body least most _ =>
    if most = some least then (width? body).map (· * least) else none
  | .group _ body => width? body
  | .alone body => width? body
  | .again _ _ => none
  | _ => some 0

/-- Whether an expression can stand behind a position: each of its options has a fixed width. -/
def canStandBehind : Ordered → Bool
  | .choice options => options.all fun e => e.width?.isSome
  | e => e.width?.isSome

end Ordered

end BoardBind.Script
