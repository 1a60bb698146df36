import BoardBind.Script.Arithmetic
import BoardBind.Script.Regex

/-! # Reading regular expressions

Expressions have a basic and an extended writing. They differ in which signs mean something by
themselves and which do so after a backslash. What cannot be read is no expression, and it is said
why.
-/

namespace BoardBind.Script.Regex

/-- How expressions are written. -/
structure Writing where
  isExtended : Bool
  /-- Whether a sign in a wrong place stands for itself or for nothing. -/
  isForgiving : Bool := false
  /-- Whether something that is repeated several times is never repeated more often. -/
  isSparing : Bool := false
  /-- Whether a set that looks like the name of a class is refused. -/
  isWary : Bool := false
  /-- Whether in an extended expression something about a position can be repeated. -/
  repeatsPlaces : Bool := false

/-- What is wrong with an expression. -/
inductive Fault where
  | invalid
  | className
  | collation
  | backslash
  | reference
  | bracket
  | group
  | groupEnd
  | brace
  | bounds
  | range
  | repetition
  | tooBig
  /-- A set looks like the name of a class. -/
  | bareClass
  deriving DecidableEq

def Fault.message : Fault → List Char
  | .invalid => "Invalid regular expression".toList
  | .className => "Invalid character class name".toList
  | .collation => "Invalid collation character".toList
  | .backslash => "Trailing backslash".toList
  | .reference => "Invalid back reference".toList
  | .bracket => "Unmatched [, [^, [:, [., or [=".toList
  | .group => "Unmatched ( or \\(".toList
  | .groupEnd => "Unmatched ) or \\)".toList
  | .brace => "Unmatched \\\x7b".toList
  | .bounds => "Invalid content of \\\x7b\\\x7d".toList
  | .range => "Invalid range end".toList
  | .repetition => "Invalid preceding regular expression".toList
  | .tooBig => "Regular expression too big".toList
  | .bareClass => "character class syntax is [[:space:]], not [:space:]".toList

/-- What is being read: the rest of the text, the groups that have been opened and closed, and the
repetitions that have nothing to repeat. -/
structure Reading where
  text : List Char
  opened : Nat := 0
  closed : List Nat := []
  idle : List (List Char) := []

/-- A sign of a writing: alone in the extended one, after a backslash in the basic one. -/
def Writing.sign (w : Writing) (c : Char) : List Char :=
  if w.isExtended then [c] else ['\\', c]

def Writing.taken? (w : Writing) (c : Char) (text : List Char) : Option (List Char) :=
  let sign := w.sign c
  if sign.isPrefixOf text then some (text.drop sign.length) else none

def classNames : List String :=
  ["alpha", "digit", "alnum", "upper", "lower", "space", "blank", "punct", "print", "graph",
    "cntrl", "xdigit"]

/-- A part of a set that is written between brackets of its own, up to a sign and a bracket. -/
def bracketed (sign : Char) : List Char → Except Fault (List Char × List Char)
  | [] => .error .bracket
  | c :: rest =>
    if c = sign && rest.head? = some ']' then .ok ([], rest.tail)
    else (bracketed sign rest).map fun (inner, rest) => (c :: inner, rest)

/-- A part of a set. -/
inductive SetElement where
  | char (c : Char)
  | named (name : List Char)
  /-- A character that stands for all that count as the same. -/
  | same (c : Char)

def setElement : List Char → Except Fault (SetElement × List Char)
  | [] => .error .bracket
  | '[' :: '.' :: rest => do
    match ← bracketed '.' rest with
    | ([c], rest) => return (.char c, rest)
    | _ => throw .collation
  | '[' :: '=' :: rest => do
    match ← bracketed '=' rest with
    | ([c], rest) => return (.same c, rest)
    | _ => throw .collation
  | '[' :: ':' :: rest => do
    let (name, rest) ← bracketed ':' rest
    if String.ofList name ∈ classNames then return (.named name, rest) else throw .className
  | c :: rest => .ok (.char c, rest)

/-- Reads the members of a set up to its closing bracket, which may be the first member. -/
def setMembers : Nat → Bool → List Char → Except Fault (List Member × List Char)
  | 0, _, _ => .error .bracket
  | fuel + 1, isFirst, text => do
    if text.isEmpty && isFirst then throw .invalid
    if text.head? = some ']' && !isFirst then return ([], text.tail)
    if text.head? = some '-' && !isFirst && text.tail.head? ≠ some ']' then throw .range
    let (element, rest) ← setElement text
    let goOn := fun (m : Member) (rest : List Char) =>
      (setMembers fuel false rest).map fun (more, rest) => (m :: more, rest)
    match element, rest with
    | .named name, rest => goOn (.named name) rest
    | .same c, rest => goOn (.range c c) rest
    | .char _, ['-'] => throw .bracket
    | .char low, '-' :: ']' :: _ => goOn (.range low low) rest
    | .char low, '-' :: high =>
      match ← setElement high with
      | (.char high, rest) => if high < low then throw .range else goOn (.range low high) rest
      | _ => throw .range
    | .char c, rest => goOn (.range c c) rest

/-- Whether the inside of a set looks like the name of a class without brackets of its own. -/
def isBareClass (inside : List Char) : Bool :=
  inside.head? = some ':' && inside.getLast? = some ':' && inside.any (· ≠ ':') &&
    !inside.contains '['

def readSetOf (w : Writing) (text : List Char) : Except Fault (Wild × List Char) := do
  let isNegated := text.head? = some '^'
  let inside := if isNegated then text.tail else text
  let (members, rest) ← setMembers (inside.length + 1) true inside
  if w.isWary && isBareClass (inside.take (inside.length - rest.length - 1)) then throw .bareClass
  return (.set isNegated members, rest)

def repetitionLimit : Nat := 32767

/-- How a part of the bounds of a repetition ends. -/
inductive BoundEnd where
  | comma
  | brace
  | nothing
  deriving DecidableEq

/-- A part of the bounds of a repetition, how it ends, and what follows it. -/
def boundPart (w : Writing) : List Char → List Char × BoundEnd × List Char
  | [] => ([], .nothing, [])
  | c :: rest =>
    if c = ',' then ([], .comma, rest)
    else
      match w.taken? '\x7d' (c :: rest) with
      | some after => ([], .brace, after)
      | none =>
        let (part, bound, rest) := boundPart w rest
        (c :: part, bound, rest)

/-- The bounds of a repetition in braces, after the opening one, and what follows them. Bounds that
are not well formed may stand for themselves. -/
def bounds (w : Writing) (text : List Char) :
    Except Fault (Option (Nat × Option Nat × List Char)) :=
  let isWrong := fun part : List Char => part.any fun c => !c.isDigit
  let ordinary := fun fault : Fault =>
    if w.isExtended && w.isForgiving then Except.ok none else .error fault
  let finish := fun (least : Nat) (most : Option Nat) (rest : List Char) =>
    if most.any (· < least) then Except.error Fault.bounds
    else if repetitionLimit < most.getD least then .error .tooBig
    else
      .ok (some (least, if w.isSparing && 2 ≤ least then some least else most, rest))
  match boundPart w text with
  | (_, .nothing, _) => ordinary .brace
  | ([], .brace, _) => .error .bounds
  | (low, .brace, rest) =>
    let n := Arithmetic.ofDigits 10 low
    if isWrong low then ordinary .bounds else finish n (some n) rest
  | (low, .comma, rest) =>
    match boundPart w rest with
    | (_, .nothing, _) => ordinary .brace
    | (high, bound, rest) =>
      if isWrong low || isWrong high then ordinary .bounds
      else if bound = .comma then .error .bounds
      else
        finish (Arithmetic.ofDigits 10 low)
          (if high = [] then none else some (Arithmetic.ofDigits 10 high)) rest

/-- A repetition: how it is shown, its bounds, and what follows it. -/
structure Repetition where
  shown : List Char
  least : Nat
  most : Option Nat
  rest : List Char

def startsBraces (w : Writing) (text : List Char) : Bool :=
  (w.taken? '\x7b' text).isSome

def repetition? (w : Writing) (text : List Char) : Except Fault (Option Repetition) :=
  match text, w.taken? '+' text, w.taken? '?' text, w.taken? '\x7b' text with
  | '*' :: rest, _, _, _ => .ok (some ⟨['*'], 0, none, rest⟩)
  | _, some rest, _, _ => .ok (some ⟨['+'], 1, none, rest⟩)
  | _, _, some rest, _ => .ok (some ⟨['?'], 0, some 1, rest⟩)
  | _, _, _, some rest =>
    (bounds w rest).map fun found =>
      found.map fun (least, most, rest) => ⟨"\x7b...\x7d".toList, least, most, rest⟩
  | _, none, none, none => .ok none

/-- The repetitions that follow an expression. In the basic writing a repetition is not repeated,
unless that is forgiven. -/
def repetitions (w : Writing) : Nat → Bool → Regex → List Char → Except Fault (Regex × List Char)
  | 0, _, r, text => .ok (r, text)
  | fuel + 1, isRepeated, r, text => do
    let isStrict := !w.isExtended && !w.isForgiving
    if isRepeated && isStrict && (text.head? = some '*' || startsBraces w text) then
      throw .repetition
    match ← repetition? w text with
    | none => return (r, text)
    | some found => repetitions w fuel true (.many r found.least found.most) found.rest

/-- The expression of a letter after a backslash. -/
def escaped (c : Char) : Regex :=
  let word := [Member.named "alnum".toList, .range '_' '_']
  match c with
  | 'w' => .one (.set false word)
  | 'W' => .one (.set true word)
  | 's' => .one (.set false [.named "space".toList])
  | 'S' => .one (.set true [.named "space".toList])
  | 'b' => .wordEdge true
  | 'B' => .wordEdge false
  | '<' => .wordStart
  | '>' => .wordEnd
  | '\x60' => .textStart
  | '\'' => .textEnd
  | _ => .one (.char c)

def endsSequence (w : Writing) (isInner : Bool) (text : List Char) : Bool :=
  text.isEmpty || (w.taken? '|' text).isSome ||
    ((w.taken? ')' text).isSome && (isInner || !(w.isExtended && w.isForgiving)))

/-- Whether a dollar sign before a text means the end of a line. -/
def isEndSign (w : Writing) (rest : List Char) : Bool :=
  w.isExtended || rest.isEmpty || (w.taken? ')' rest).isSome || (w.taken? '|' rest).isSome

/-- Whether an expression is about a position and not about characters. -/
def isAnchor : Regex → Bool
  | .lineStart => true
  | .lineEnd => true
  | .textStart => true
  | .textEnd => true
  | .wordStart => true
  | .wordEnd => true
  | .wordEdge _ => true
  | _ => false

mutual

def readChoice : Nat → Writing → Bool → Reading → Except Fault (List Regex × Reading)
  | 0, _, _, _ => .error .invalid
  | fuel + 1, w, isInner, input => do
    let (parts, input) ← readSequence fuel w isInner true true input
    match w.taken? '|' input.text with
    | none => return ([.sequence parts], input)
    | some rest =>
      let (more, input) ← readChoice fuel w isInner { input with text := rest }
      return (.sequence parts :: more, input)

/-- Reads expressions that follow each other. At the start of a sequence, and behind what is about a
position, a repetition has nothing to repeat. A basic expression means the start of a line only
at the front of a sequence. -/
def readSequence :
    Nat → Writing → Bool → Bool → Bool → Reading → Except Fault (List Regex × Reading)
  | 0, _, _, _, _, _ => .error .invalid
  | fuel + 1, w, isInner, isFront, isStart, input => do
    if endsSequence w isInner input.text then return ([], input)
    let first := input.text.head?
    if first = some '^' && w.isExtended && w.repeatsPlaces then
      let rest := input.text.tail
      let idle ← (repetition? w rest).map fun found =>
        if isStart then found.toList.map (·.shown) else []
      readRepeated fuel w isInner .lineStart { input with text := rest, idle := idle ++ input.idle }
    else if first = some '^' && (w.isExtended || isFront) then
      let (more, input) ←
        readSequence fuel w isInner false true { input with text := input.text.tail }
      return (.lineStart :: more, input)
    else if isStart && startsBraces w input.text && !w.isForgiving then throw .repetition
    else
      let found ← if isStart then
          (if startsBraces w input.text && !w.isExtended then .ok none else
            repetition? w input.text)
        else .ok none
      match found with
      | some found =>
        if w.isExtended then
          if w.isForgiving then
            readSequence fuel w isInner true true
              { input with text := found.rest, idle := found.shown :: input.idle }
          else throw .repetition
        else
          let size := if first = some '*' then 1 else 2
          let c := ((input.text.take size).getLast?).getD '*'
          readRepeated fuel w isInner (.one (.char c)) { input with text := input.text.drop size }
      | none =>
        let (e, input) ← readOne fuel w input
        if isAnchor e && !(w.isExtended && w.repeatsPlaces) then
          let (more, input) ← readSequence fuel w isInner false true input
          return (e :: more, input)
        else readRepeated fuel w isInner e input

/-- Reads what follows an expression, beginning with its repetitions. -/
def readRepeated : Nat → Writing → Bool → Regex → Reading → Except Fault (List Regex × Reading)
  | 0, _, _, _, _ => .error .invalid
  | fuel + 1, w, isInner, first, input => do
    let (first, rest) ← repetitions w input.text.length false first input.text
    let (more, input) ← readSequence fuel w isInner false false { input with text := rest }
    return (first :: more, input)

def readOne : Nat → Writing → Reading → Except Fault (Regex × Reading)
  | 0, _, _ => .error .invalid
  | fuel + 1, w, input =>
    match w.taken? '(' input.text with
    | some rest => do
      let index := input.opened + 1
      let (options, after) ←
        readChoice fuel w true { input with text := rest, opened := index }
      match w.taken? ')' after.text with
      | some rest =>
        return (.group index (.choice options),
          { after with text := rest, closed := index :: after.closed })
      | none => throw .group
    | none =>
      match input.text with
      | [] => .error .invalid
      | '\\' :: c :: rest =>
        if c.isDigit && c ≠ '0' then
          let index := c.toNat - '0'.toNat
          if index ∈ input.closed then .ok (.again index, { input with text := rest })
          else .error .reference
        else .ok (escaped c, { input with text := rest })
      | '\\' :: [] => .error .backslash
      | '.' :: rest => .ok (.one .any, { input with text := rest })
      | '[' :: rest =>
        (readSetOf w rest).map fun (set, rest) => (.one set, { input with text := rest })
      | '$' :: rest =>
        .ok (if isEndSign w rest then .lineEnd else .one (.char '$'), { input with text := rest })
      | c :: rest => .ok (.one (.char c), { input with text := rest })

end

/-- An expression that has been read. -/
structure Read where
  regex : Regex
  /-- The number of its groups. -/
  groups : Nat
  /-- The repetitions that have nothing to repeat. -/
  idle : List (List Char) := []

def read (w : Writing) (text : List Char) : Except Fault Read := do
  let (options, input) ← readChoice (6 * text.length + 12) w false { text }
  if input.text ≠ [] then throw .groupEnd
  let regex := match options with
    | [single] => single
    | _ => .choice options
  return { regex, groups := input.opened, idle := input.idle.reverse }

/-- The expression that a text is, with the number of its groups. -/
def ofText? (w : Writing) (text : List Char) : Option (Regex × Nat) :=
  (read w text).toOption.map fun r => (r.regex, r.groups)

/-- A regular expression where signs that repeat stand alone and all others have a backslash, as a
basic one. -/
def basicWriting : List Char → List Char
  | '\\' :: '+' :: rest => '+' :: basicWriting rest
  | '\\' :: '?' :: rest => '?' :: basicWriting rest
  | '\\' :: c :: rest => '\\' :: c :: basicWriting rest
  | '+' :: rest => '\\' :: '+' :: basicWriting rest
  | '?' :: rest => '\\' :: '?' :: basicWriting rest
  | c :: rest => c :: basicWriting rest
  | [] => []

end BoardBind.Script.Regex
