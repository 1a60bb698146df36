import BoardBind.Script.Arithmetic
import BoardBind.Script.Regex

/-! # Reading regular expressions that are tried in order

A letter behind a backslash has a meaning of its own, and any other character there stands for
itself. A question mark behind an opening parenthesis says that it does not stand for a group.
-/

namespace BoardBind.Script.Ordered

/-- How the next part of an expression is read. -/
structure Manner where
  anyCase : Bool := false
  /-- Whether each line has a start and an end. -/
  isEach : Bool := false
  /-- Whether a dot stands for the end of a line too. -/
  isFull : Bool := false
  /-- Whether blanks mean nothing. -/
  isSpaced : Bool := false

/-- What is left of an expression, and what is known about the groups. -/
structure Reading where
  text : List Char
  manner : Manner := {}
  opened : Nat := 0
  names : List (List Char × Nat) := []
  /-- The greatest number of a group that was referred to. -/
  referred : Nat := 0

/-- The set that a letter behind a backslash stands for. -/
def traitsOf? (letter : Char) : Option (Bool × List Trait) :=
  let named := fun (name : String) (isMeant : Bool) =>
    some (false, [Trait.named name.toList isMeant])
  let flat := [Trait.range '\t' '\t', .range ' ' ' ', .range '\u00a0' '\u00a0']
  let upright := [Trait.range '\n' '\r', .range '\u0085' '\u0085']
  match letter with
  | 'd' => named "digit" true
  | 'D' => named "digit" false
  | 'w' => named "w" true
  | 'W' => named "w" false
  | 's' => named "space" true
  | 'S' => named "space" false
  | 'h' => some (false, flat)
  | 'H' => some (true, flat)
  | 'v' => some (false, upright)
  | 'V' => some (true, upright)
  | 'N' => some (true, [.range '\n' '\n'])
  | _ => none

/-- The number that some digits to a base mean, and what follows them. -/
def digitsAt (base most : Nat) (text : List Char) : Nat × List Char :=
  let isDigit := fun c : Char =>
    if base = 16 then inClass "xdigit".toList c else '0' ≤ c && c.toNat < '0'.toNat + base
  let digits := (text.take most).takeWhile isDigit
  (Arithmetic.ofDigits base digits, text.drop digits.length)

/-- The character that is written by letters or digits behind a backslash. -/
def writtenChar? : List Char → Option (Char × List Char)
  | 'a' :: rest => some ('\x07', rest)
  | 'e' :: rest => some ('\x1b', rest)
  | 'f' :: rest => some ('\x0c', rest)
  | 'n' :: rest => some ('\n', rest)
  | 'r' :: rest => some ('\x0d', rest)
  | 't' :: rest => some ('\t', rest)
  | 'c' :: c :: rest => some (Char.ofNat (c.toUpper.toNat ^^^ 64), rest)
  | 'x' :: '\x7b' :: rest =>
    let (n, rest) := digitsAt 16 8 rest
    some (Char.ofNat n, rest.drop 1)
  | 'x' :: rest =>
    let (n, rest) := digitsAt 16 2 rest
    some (Char.ofNat n, rest)
  | 'o' :: '\x7b' :: rest =>
    let (n, rest) := digitsAt 8 8 rest
    some (Char.ofNat n, rest.drop 1)
  | '0' :: rest =>
    let (n, rest) := digitsAt 8 2 rest
    some (Char.ofNat n, rest)
  | _ => none

/-- An element of a set: one character, or a part with a name. -/
inductive Element where
  | char (c : Char)
  | traits (isNegated : Bool) (members : List Trait)

def element : List Char → Except String (Element × List Char)
  | '[' :: ':' :: rest =>
    let name := rest.takeWhile fun c => c.isAlpha || c = '^'
    let (isMeant, plain) := match name with
      | '^' :: name => (false, name)
      | name => (true, name)
    match rest.drop name.length with
    | ':' :: ']' :: after =>
      let known := ["alpha", "digit", "alnum", "upper", "lower", "space", "blank", "punct",
        "print", "graph", "cntrl", "xdigit"]
      if plain = "word".toList then .ok (.traits false [.named ['w'] isMeant], after)
      else if String.ofList plain ∈ known then .ok (.traits false [.named plain isMeant], after)
      else .error "unknown POSIX class name"
    | _ => .ok (.char '[', ':' :: rest)
  | '\\' :: 'b' :: rest => .ok (.char '\x08', rest)
  | '\\' :: c :: rest =>
    match traitsOf? c, writtenChar? (c :: rest) with
    | some (isNegated, members), _ => .ok (.traits isNegated members, rest)
    | none, some (c, rest) => .ok (.char c, rest)
    | none, none =>
      if c.isDigit then
        let (n, rest) := digitsAt 8 3 (c :: rest)
        .ok (.char (Char.ofNat n), rest)
      else if c.isAlpha then .error "unrecognized character follows \\"
      else .ok (.char c, rest)
  | c :: rest => .ok (.char c, rest)
  | [] => .error "missing terminating ] for character class"

/-- The parts of a set that mean everything but some others; only single characters and ranges can
be left out so. -/
def withoutTraits (members : List Trait) : List Trait :=
  let bounds := members.filterMap fun
    | .range low high => some (low.toNat, high.toNat)
    | .named _ _ => none
  let (start, gaps) := bounds.foldl (fun (start, gaps) (low, high) =>
    (high + 1, if start < low then (start, low - 1) :: gaps else gaps)) (0, [])
  ((start, 255) :: gaps).map fun (low, high) => .range (Char.ofNat low) (Char.ofNat high)

/-- Reads the members of a set up to its closing bracket, which may be the first member. -/
def members : Nat → Bool → List Char → Except String (List Trait × List Char)
  | 0, _, _ => .error "missing terminating ] for character class"
  | _ + 1, _, [] => .error "missing terminating ] for character class"
  | fuel + 1, isFirst, text => do
    match isFirst, text with
    | false, ']' :: rest => return ([], rest)
    | _, _ =>
      let (first, rest) ← element text
      let on := fun (found : List Trait) (rest : List Char) => do
        let (more, rest) ← members fuel false rest
        return (found ++ more, rest)
      match first, rest with
      | .traits false found, rest => on found rest
      | .traits true found, rest => on (withoutTraits found) rest
      | .char low, '-' :: next :: more =>
        if next = ']' then on [.range low low] rest
        else
          match ← element (next :: more) with
          | (.char high, after) =>
            if high < low then throw "range out of order in character class"
            else on [.range low high] after
          | (.traits _ _, _) => on [.range low low] rest
      | .char c, rest => on [.range c c] rest

/-- How often something is repeated: at least, at most, and what is tried first. -/
abbrev Times := Nat × Option Nat × Greed

def times? (text : List Char) : Except String (Option (Times × List Char)) :=
  let greedy := fun (least : Nat) (most : Option Nat) (rest : List Char) =>
    match rest with
    | '?' :: rest => some ((least, most, Greed.fewest), rest)
    | '+' :: rest => some ((least, most, .all), rest)
    | rest => some ((least, most, .most), rest)
  match text with
  | '*' :: rest => .ok (greedy 0 none rest)
  | '+' :: rest => .ok (greedy 1 none rest)
  | '?' :: rest => .ok (greedy 0 (some 1) rest)
  | '\x7b' :: rest =>
    let low := rest.takeWhile Char.isDigit
    let least := Arithmetic.ofDigits 10 low
    if low = [] then .ok none
    else
      match rest.drop low.length with
      | '\x7d' :: rest => .ok (greedy least (some least) rest)
      | ',' :: '\x7d' :: rest => .ok (greedy least none rest)
      | ',' :: rest =>
        let high := rest.takeWhile Char.isDigit
        let most := Arithmetic.ofDigits 10 high
        match high, rest.drop high.length with
        | _ :: _, '\x7d' :: rest =>
          if most < least then .error "numbers out of order in \x7b\x7d quantifier"
          else .ok (greedy least (some most) rest)
        | _, _ => .ok none
      | _ => .ok none
  | _ => .ok none

def nameUpTo (sign : Char) (text : List Char) : Except String (List Char × List Char) :=
  let name := text.takeWhile (· ≠ sign)
  match text.drop name.length with
  | _ :: rest => .ok (name, rest)
  | [] => .error "syntax error in subpattern name (missing terminator?)"

/-- Reads the letters that change the manner of reading. -/
def mannerLetters : Bool → List Char → Manner → Except String (Manner × List Char)
  | _, [], _ => .error "missing closing parenthesis"
  | isSet, c :: rest, m =>
    match c with
    | '-' => mannerLetters false rest m
    | '^' => mannerLetters true rest {}
    | 'i' => mannerLetters isSet rest { m with anyCase := isSet }
    | 'm' => mannerLetters isSet rest { m with isEach := isSet }
    | 's' => mannerLetters isSet rest { m with isFull := isSet }
    | 'x' => mannerLetters isSet rest { m with isSpaced := isSet }
    | 'n' => mannerLetters isSet rest m
    | 'U' => mannerLetters isSet rest m
    | ')' => .ok (m, c :: rest)
    | ':' => .ok (m, c :: rest)
    | _ => .error "unrecognized character after (? or (?-"

/-- What an opening parenthesis starts. -/
inductive Opening where
  | group (name : Option (List Char))
  | plain
  | alone
  | ahead (isWanted : Bool)
  | behind (isWanted : Bool)
  /-- Nothing but a change of the manner. -/
  | nothing
  /-- A reference to a group with a name. -/
  | again (name : List Char)

def opening (input : Reading) : Except String (Opening × Reading) :=
  let on := fun (what : Opening) (text : List Char) =>
    (.ok (what, { input with text }) : Except String (Opening × Reading))
  let named := fun (sign : Char) (text : List Char) => do
    let (name, text) ← nameUpTo sign text
    on (.group (some name)) text
  match input.text with
  | '?' :: ':' :: rest => on .plain rest
  | '?' :: '>' :: rest => on .alone rest
  | '?' :: '|' :: rest => on .plain rest
  | '?' :: '=' :: rest => on (.ahead true) rest
  | '?' :: '!' :: rest => on (.ahead false) rest
  | '?' :: '<' :: '=' :: rest => on (.behind true) rest
  | '?' :: '<' :: '!' :: rest => on (.behind false) rest
  | '?' :: '<' :: rest => named '>' rest
  | '?' :: '\'' :: rest => named '\'' rest
  | '?' :: 'P' :: '<' :: rest => named '>' rest
  | '?' :: 'P' :: '=' :: rest => do
    let (name, rest) ← nameUpTo ')' rest
    on (.again name) rest
  | '?' :: '#' :: rest => on .nothing ((rest.dropWhile (· ≠ ')')).drop 1)
  | '?' :: rest => do
    let (manner, rest) ← mannerLetters true rest input.manner
    match rest with
    | ')' :: rest => .ok (.nothing, { input with text := rest, manner })
    | rest => .ok (.plain, { input with text := rest.drop 1, manner })
  | rest => on (.group none) rest

/-- The group that is referred to behind a letter `g` or `k`. -/
def reference (input : Reading) (text : List Char) : Except String (Ordered × Reading) := do
  let (name, rest) ← match text with
    | '\x7b' :: rest => nameUpTo '\x7d' rest
    | '<' :: rest => nameUpTo '>' rest
    | '\'' :: rest => nameUpTo '\'' rest
    | rest =>
      let shown := rest.takeWhile fun c => c.isDigit || c = '-'
      pure (shown, rest.drop shown.length)
  let index ← match name with
    | '-' :: digits => pure (input.opened + 1 - Arithmetic.ofDigits 10 digits)
    | name =>
      if name ≠ [] && name.all Char.isDigit then pure (Arithmetic.ofDigits 10 name)
      else
        match input.names.lookup name with
        | some index => pure index
        | none => throw "reference to non-existent subpattern"
  return (.again input.manner.anyCase index,
    { input with text := rest, referred := max input.referred index })

def escape (input : Reading) : List Char → Except String (Ordered × Reading)
  | [] => .error "\\ at end of pattern"
  | c :: rest =>
    let on := fun (e : Ordered) (text : List Char) =>
      (.ok (e, { input with text }) : Except String (Ordered × Reading))
    let anyCase := input.manner.anyCase
    let literal := fun c : Char => Ordered.one false anyCase [.range c c]
    match c with
    | 'b' => on (.wordEdge true) rest
    | 'B' => on (.wordEdge false) rest
    | 'A' => on .textStart rest
    | 'G' => on .textStart rest
    | 'z' => on .textEnd rest
    | 'Z' => on (.lineEnd false) rest
    | 'K' => on .restart rest
    | 'k' => reference input rest
    | 'g' => reference input rest
    | 'R' =>
      on (.alone (.choice [.sequence [literal '\x0d', literal '\n'],
        .one false false [.range '\n' '\r', .range '\u0085' '\u0085']])) rest
    | 'Q' => on (.sequence []) rest
    | 'E' => on (.sequence []) rest
    | c =>
      match traitsOf? c, writtenChar? (c :: rest) with
      | some (isNegated, traits), _ => on (.one isNegated false traits) rest
      | none, some (c, rest) => on (literal c) rest
      | none, none =>
        if c.isDigit then
          let digits := (c :: rest).takeWhile Char.isDigit
          let index := Arithmetic.ofDigits 10 digits
          if index < 10 || index ≤ input.opened then
            .ok (.again anyCase index, { input with
              text := (c :: rest).drop digits.length, referred := max input.referred index })
          else
            let (n, rest) := digitsAt 8 3 (c :: rest)
            on (literal (Char.ofNat n)) rest
        else if c.isAlpha then .error "unrecognized character follows \\"
        else on (literal c) rest

/-- The text up to the end of what is quoted as a whole, and what follows that. -/
def quotedRun : List Char → List Char × List Char
  | '\\' :: 'E' :: rest => ([], rest)
  | c :: rest =>
    let (quoted, rest) := quotedRun rest
    (c :: quoted, rest)
  | [] => ([], [])

def repeated (e : Ordered) (text : List Char) : Except String (Ordered × List Char) := do
  match ← times? text with
  | some ((least, most, greed), rest) => return (.many e least most greed, rest)
  | none => return (e, text)

mutual

def readChoice : Nat → Reading → Except String (List Ordered × Reading)
  | 0, _ => .error "regular expression is too large"
  | fuel + 1, input => do
    let (parts, input) ← readSequence fuel input
    match input.text with
    | '|' :: rest =>
      let (more, input) ← readChoice fuel { input with text := rest }
      return (.sequence parts :: more, input)
    | _ => return ([.sequence parts], input)

def readSequence : Nat → Reading → Except String (List Ordered × Reading)
  | 0, _ => .error "regular expression is too large"
  | fuel + 1, input => do
    let literal := fun c : Char => Ordered.one false input.manner.anyCase [.range c c]
    match input.text with
    | [] => return ([], input)
    | ')' :: _ => return ([], input)
    | '|' :: _ => return ([], input)
    | '\\' :: 'Q' :: rest =>
      let (quoted, rest) := quotedRun rest
      let (last, rest) ← match quoted.getLast? with
        | some c => (repeated (literal c) rest).map fun (e, rest) => ([e], rest)
        | none => pure ([], rest)
      let (more, input) ← readSequence fuel { input with text := rest }
      return (quoted.dropLast.map literal ++ last ++ more, input)
    | c :: rest =>
      if input.manner.isSpaced && inClass "space".toList c then
        readSequence fuel { input with text := rest }
      else if input.manner.isSpaced && c = '#' then
        readSequence fuel { input with text := rest.dropWhile (· ≠ '\n') }
      else
        match ← times? input.text with
        | some _ => throw "quantifier does not follow a repeatable item"
        | none =>
          let (e, input) ← readOne fuel input
          let (e, rest) ← repeated e input.text
          let (more, input) ← readSequence fuel { input with text := rest }
          return (e :: more, input)

def readOne : Nat → Reading → Except String (Ordered × Reading)
  | 0, _ => .error "regular expression is too large"
  | fuel + 1, input =>
    let m := input.manner
    let on := fun (e : Ordered) (text : List Char) =>
      (.ok (e, { input with text }) : Except String (Ordered × Reading))
    match input.text with
    | [] => on (.sequence []) []
    | '.' :: rest => on (.one true false (if m.isFull then [] else [.range '\n' '\n'])) rest
    | '^' :: rest => on (.lineStart m.isEach) rest
    | '$' :: rest => on (.lineEnd m.isEach) rest
    | '[' :: '^' :: rest => do
      let (traits, rest) ← members (rest.length + 1) true rest
      on (.one true m.anyCase traits) rest
    | '[' :: rest => do
      let (traits, rest) ← members (rest.length + 1) true rest
      on (.one false m.anyCase traits) rest
    | '\\' :: rest => escape input rest
    | '(' :: rest => do
      let (what, inner) ← opening { input with text := rest }
      match what with
      | .nothing => return (.sequence [], inner)
      | .again name => reference inner ('<' :: name ++ '>' :: inner.text)
      | what =>
        let index := input.opened + 1
        let inner := match what with
          | .group name =>
            { inner with
              opened := index, names := name.toList.map (·, index) ++ inner.names }
          | _ => inner
        let (options, after) ← readChoice fuel inner
        match after.text with
        | ')' :: rest =>
          let body := match options with
            | [single] => single
            | options => .choice options
          let e ← match what with
            | .group _ => pure (.group index body)
            | .alone => pure (.alone body)
            | .ahead isWanted => pure (.ahead isWanted body)
            | .behind isWanted =>
              if body.canStandBehind then pure (.behind isWanted body)
              else throw "lookbehind assertion is not fixed length"
            | _ => pure body
          return (e, { after with text := rest, manner := m })
        | _ => throw "missing closing parenthesis"
    | c :: rest => on (.one false m.anyCase [.range c c]) rest

end

def read (anyCase : Bool) (text : List Char) : Except String Ordered := do
  let (options, input) ← readChoice (6 * text.length + 12) { text, manner := { anyCase } }
  if input.text ≠ [] then throw "unmatched closing parenthesis"
  if input.opened < input.referred then throw "reference to non-existent subpattern"
  return match options with
    | [single] => single
    | options => .choice options

end BoardBind.Script.Ordered
