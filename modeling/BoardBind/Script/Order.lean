import BoardBind.Script.Filter
import BoardBind.Script.Regex.Reader

/-! # Lines in order

Lines are put in order by the parts of them that keys name, as texts or as numbers, months or
versions. Lines whose keys are equal are compared as a whole. The parts of a text are also printed from
the last one to the first one.
-/

namespace BoardBind.Script

def compareTexts (a b : List Char) : Ordering :=
  if a < b then .lt else if b < a then .gt else .eq

/-- A decimal number as its sign, the digits before the point without leading zeros, and those
after it without zeros at the end. -/
structure PlainNumber where
  isNegative : Bool := false
  whole : List Char := []
  decimals : List Char := []

namespace PlainNumber

/-- The number at the start of a text after blanks; without one it is zero. -/
def ofText (text : List Char) : PlainNumber :=
  let text := text.dropWhile fun c => c = ' ' || c = '\t' || c = '\n'
  let (isNegative, rest) := match text with
    | '-' :: rest => (true, rest)
    | rest => (false, rest)
  let whole := rest.takeWhile Char.isDigit
  let decimals := match rest.drop whole.length with
    | '.' :: rest => rest.takeWhile Char.isDigit
    | _ => []
  let whole := whole.dropWhile (· = '0')
  let decimals := (decimals.reverse.dropWhile (· = '0')).reverse
  { isNegative := isNegative && !(whole.isEmpty && decimals.isEmpty), whole, decimals }

def compareSizes (a b : PlainNumber) : Ordering :=
  (Ord.compare a.whole.length b.whole.length).then
    ((compareTexts a.whole b.whole).then (compareTexts a.decimals b.decimals))

def compare (a b : PlainNumber) : Ordering :=
  match a.isNegative, b.isNegative with
  | false, false => compareSizes a b
  | true, true => compareSizes b a
  | true, false => .lt
  | false, true => .gt

end PlainNumber

/-- What a part of lines is compared by. -/
structure SortKey where
  /-- The field and the character in it where the part starts, counted from one. -/
  firstField : Nat := 1
  firstChar : Nat := 1
  /-- The field where the part ends, and the character in it; zero is the end of the field. -/
  lastField : Option Nat := none
  lastChar : Nat := 0
  /-- The letters of the ways to compare. -/
  flags : List Char := []
  /-- Whether blanks before the start and before the end do not count. -/
  skipsAtStart : Bool := false
  skipsAtEnd : Bool := false

def sortLetters : List Char := ['b', 'd', 'f', 'g', 'h', 'i', 'M', 'n', 'R', 'r', 'V']

/-- Why a key cannot be read. -/
inductive SortKeyError where
  /-- No number stands at the start of the text, which follows something. -/
  | notNumber (place : String) (text : List Char)
  | fieldZero
  | characterZero
  /-- Something follows the key. -/
  | stray

def SortKeyError.message (key : List Char) : SortKeyError → List Char
  | .notNumber place text =>
    ("invalid number " ++ place ++ ": invalid count at start of ").toList ++ inMarks text
  | .fieldZero => "field number is zero: invalid field specification ".toList ++ inMarks key
  | .characterZero => "character offset is zero: invalid field specification ".toList ++ inMarks key
  | .stray => "stray character in field spec: invalid field specification ".toList ++ inMarks key

/-- Reads a number of a key and hands back what follows it. -/
def sortNumber? (place : String) (text : List Char) :
    Except SortKeyError (Nat × List Char) :=
  let digits := text.takeWhile Char.isDigit
  if digits = [] then .error (.notNumber place text)
  else .ok (Arithmetic.ofDigits 10 digits, text.drop digits.length)

/-- Reads a position of a key: a field, perhaps a character in it, and letters. -/
def sortPosition? (place : String) (text : List Char) :
    Except SortKeyError (Nat × Option Nat × List Char × List Char) := do
  let (field, rest) ← sortNumber? place text
  if field = 0 then .error .fieldZero
  let (char, rest) ← match rest with
    | '.' :: rest => (sortNumber? "after '.'" rest).map fun (n, rest) => (some n, rest)
    | rest => .ok (none, rest)
  let letters := rest.takeWhile (· ∈ sortLetters)
  .ok (field, char, letters, rest.drop letters.length)

def sortKey? (text : List Char) : Except SortKeyError SortKey := do
  let (firstField, firstChar, letters, rest) ← sortPosition? "at field start" text
  if firstChar = some 0 then .error .characterZero
  let start : SortKey := {
    firstField, firstChar := firstChar.getD 1, flags := letters
    skipsAtStart := letters.contains 'b' }
  match rest with
  | [] => .ok start
  | ',' :: rest =>
    let (lastField, lastChar, more, rest) ← sortPosition? "after ','" rest
    if rest ≠ [] then .error .stray
    .ok { start with
      lastField := some lastField, lastChar := lastChar.getD 0
      flags := letters ++ more, skipsAtEnd := more.contains 'b' }
  | _ => .error .stray

def isFieldBlank (c : Char) : Bool :=
  c = ' ' || c = '\t' || c = '\n'

/-- The rest of a line behind a number of fields. Without a sign between them, the blanks before a
field belong to it. -/
def behindFields (sign : Option Char) : Nat → List Char → List Char
  | 0, line => line
  | n + 1, line =>
    match sign with
    | some c => behindFields sign n ((line.dropWhile (· ≠ c)).drop 1)
    | none =>
      behindFields sign n ((line.dropWhile isFieldBlank).dropWhile fun c => !isFieldBlank c)

/-- The rest of a line behind a field, where a sign between fields is not passed. -/
def behindField (sign : Option Char) (n : Nat) (line : List Char) : List Char :=
  match sign with
  | some c => (behindFields sign (n - 1) line).dropWhile (· ≠ c)
  | none => behindFields sign n line

def SortKey.part (k : SortKey) (sign : Option Char) (line : List Char) : List Char :=
  let start := behindFields sign (k.firstField - 1) line
  let start := if k.skipsAtStart then start.dropWhile isFieldBlank else start
  let start := start.drop (k.firstChar - 1)
  let rest := match k.lastField with
    | none => []
    | some n =>
      if k.lastChar = 0 then behindField sign n line
      else
        let field := behindFields sign (n - 1) line
        let field := if k.skipsAtEnd then field.dropWhile isFieldBlank else field
        field.drop k.lastChar
  start.take (start.length - rest.length)

def monthNumber (text : List Char) : Nat :=
  let name := ((text.dropWhile isFieldBlank).take 3).map Char.toUpper
  (["JAN", "FEB", "MAR", "APR", "MAY", "JUN", "JUL", "AUG", "SEP", "OCT", "NOV",
    "DEC"].idxOf? (String.ofList name)).elim 0 (· + 1)

/-- The size of a unit letter behind a number, which is negative if the number is. A number that is
zero has no unit. -/
def unitRank (text : List Char) : Int :=
  let text := text.dropWhile isFieldBlank
  let isNegative := text.head? = some '-'
  let rest := if isNegative then text.tail else text
  let whole := rest.takeWhile Char.isDigit
  let rest := rest.drop whole.length
  let decimals := if rest.head? = some '.' then rest.tail.takeWhile Char.isDigit else []
  let rest := if rest.head? = some '.' then rest.drop (decimals.length + 1) else rest
  let rank := match rest.head? with
    | some c => (unitLetters.idxOf? (if c = 'k' then 'K' else c)).elim 0 (· + 1)
    | none => 0
  if (whole ++ decimals).all (· = '0') then 0 else if isNegative then -(rank : Int) else rank

/-- Compares the numbers at the start of texts in any writing. What is no number comes first. -/
def compareGenerally (a b : List Char) : Ordering :=
  let numberOf := fun text : List Char =>
    (Decimal.number? (text.dropWhile Arithmetic.isBlankChar)).map (·.1)
  match numberOf a, numberOf b with
  | none, none => .eq
  | none, some _ => .lt
  | some _, none => .gt
  | some x, some y =>
    match x.isNaN, y.isNaN with
    | true, true => .eq
    | true, false => .lt
    | false, true => .gt
    | false, false => if x < y then .lt else if y < x then .gt else .eq

/-- A piece of a text that is compared by the numbers in it: a number, or a character by its rank
among the others. -/
inductive VersionPiece where
  | number (n : Nat)
  | sign (rank : Int)

/-- The rank of a character in a version: a tilde comes before the end of a text, letters come
before all others. -/
def versionRank (c : Char) : Int :=
  if c.isAlpha then c.toNat else if c = '~' then -2 else c.toNat + 256

/-- The pieces of a text; digits that stand before the text are handed in. -/
def versionPieces : List Char → List Char → List VersionPiece
  | digits, [] => if digits = [] then [] else [.number (Arithmetic.ofDigits 10 digits)]
  | digits, c :: rest =>
    if c.isDigit then versionPieces (digits ++ [c]) rest
    else
      (if digits = [] then [] else [.number (Arithmetic.ofDigits 10 digits)]) ++
        .sign (versionRank c) :: versionPieces [] rest

/-- Compares the pieces of two texts. The end of a text comes before all but a tilde. -/
def comparePieces : List VersionPiece → List VersionPiece → Ordering
  | [], [] => .eq
  | [], .number n :: rest => (Ord.compare 0 n).then (comparePieces [] rest)
  | [], .sign rank :: _ => Ord.compare (-1) rank
  | .number n :: rest, [] => (Ord.compare n 0).then (comparePieces rest [])
  | .sign rank :: _, [] => Ord.compare rank (-1)
  | .number a :: rest, .number b :: rest' => (Ord.compare a b).then (comparePieces rest rest')
  | .sign a :: rest, .sign b :: rest' => (Ord.compare a b).then (comparePieces rest rest')
  | .number _ :: _, .sign rank :: _ => Ord.compare 0 rank
  | .sign rank :: _, .number _ :: _ => Ord.compare rank 0

/-- Whether a text is a letter or a tilde with letters, digits and tildes behind it. -/
def isVersionEnding (text : List Char) : Bool :=
  (text.head?.any fun c => c.isAlpha || c = '~') && text.all fun c => c.isAlphanum || c = '~'

/-- A name without the endings that start with a dot and a letter. -/
def versionStem (name : List Char) : List Char :=
  let parts := name.splitOn '.'
  let kept := (parts.tail.reverse.dropWhile isVersionEnding).reverse
  ['.'].intercalate (parts.headD [] :: kept)

/-- The rank of a name among those that are special: the empty one, the names of this directory and
of the one above, and hidden names. -/
def specialRank (name : List Char) : Nat :=
  if name = [] then 0 else if name = ['.'] then 1 else if name = ['.', '.'] then 2
  else if name.head? = some '.' then 3 else 4

/-- Compares names with numbers inside of them by the numbers, first without their endings. -/
def compareVersions (a b : List Char) : Ordering :=
  (Ord.compare (specialRank a) (specialRank b)).then
    ((comparePieces (versionPieces [] (versionStem a)) (versionPieces [] (versionStem b))).then
      (comparePieces (versionPieces [] a) (versionPieces [] b)))

/-- Compares two texts as the letters say. -/
def compareBy (flags : List Char) (a b : List Char) : Ordering :=
  let order :=
    if flags.contains 'n' then (PlainNumber.ofText a).compare (PlainNumber.ofText b)
    else if flags.contains 'g' then compareGenerally a b
    else if flags.contains 'h' then
      (compare (unitRank a) (unitRank b)).then
        ((PlainNumber.ofText a).compare (PlainNumber.ofText b))
    else if flags.contains 'M' then compare (monthNumber a) (monthNumber b)
    else if flags.contains 'V' then compareVersions a b
    else
      let view := fun text : List Char =>
        let text := if flags.contains 'd' then
            text.filter fun c => c.isAlphanum || c = ' ' || c = '\t' else text
        let text := if flags.contains 'i' then text.filter fun c => ' ' ≤ c && c ≤ '~' else text
        if flags.contains 'f' then text.map Char.toUpper else text
      compareTexts (view a) (view b)
  if flags.contains 'r' then order.swap else order

/-- How lines are put in order. -/
structure SortRule where
  keys : List SortKey
  sign : Option Char
  isReversed : Bool
  isStable : Bool

def SortRule.compareKeys (rule : SortRule) (a b : List Char) : Ordering :=
  rule.keys.foldl (fun order k =>
    order.then (compareBy k.flags (k.part rule.sign a) (k.part rule.sign b))) .eq

/-- Compares two lines; those whose keys are equal are compared as a whole. -/
def SortRule.compare (rule : SortRule) (a b : List Char) : Ordering :=
  let byKeys := rule.compareKeys a b
  if rule.isStable then byKeys
  else
    let whole := compareTexts a b
    byKeys.then (if rule.isReversed then whole.swap else whole)

/-- The options of `sort`. -/
def sortFlags : Flags where
  plain := "bdfghiMnRrVcCmsuz!"
  valued := "koStT0~#%^="
  optional := "?"
  words := [("ignore-leading-blanks", 'b'), ("dictionary-order", 'd'), ("ignore-case", 'f'),
    ("general-numeric-sort", 'g'), ("human-numeric-sort", 'h'), ("ignore-nonprinting", 'i'),
    ("month-sort", 'M'), ("numeric-sort", 'n'), ("random-sort", 'R'), ("random-source", '~'),
    ("reverse", 'r'), ("sort", '='), ("version-sort", 'V'), ("batch-size", '#'), ("check", '?'),
    ("compress-program", '%'), ("debug", '!'), ("files0-from", '0'), ("key", 'k'), ("merge", 'm'),
    ("output", 'o'), ("stable", 's'), ("buffer-size", 'S'), ("field-separator", 't'),
    ("temporary-directory", 'T'), ("parallel", '^'), ("unique", 'u'), ("zero-terminated", 'z')]

/-- Options with the letters in place of the words that choose a way to compare or to check. -/
def sortChoices (o : Options) : Except (List Char) Options := do
  let flags ← o.flags.mapM fun (flag, value) =>
    if flag = '=' then
      (choiceOf "sort" [(["general-numeric"], 'g'), (["human-numeric"], 'h'), (["month"], 'M'),
        (["numeric"], 'n'), (["random"], 'R'), (["version"], 'V')] value).map (·, [])
    else if flag = '?' then
      if value = [] then .ok ('c', [])
      else (choiceOf "check" [(["quiet", "silent"], 'C'), (["diagnose-first"], 'c')] value).map
        (·, [])
    else .ok (flag, value)
  return { o with flags }

/-- The letters of ways to compare that do not go together, if there are some. -/
def conflict? (flags : List Char) : Option (List Char) :=
  let has := fun c : Char => flags.contains c
  let single := ['n', 'g', 'h', 'M'].countP has
  let others := if ['V', 'R', 'd', 'i'].any has then 1 else 0
  if 1 < single + others then
    some (['d', 'f', 'g', 'h', 'i', 'M', 'n', 'R', 'V'].filter fun c =>
      has c && !(c = 'd' && has 'i'))
  else none

def sortRule (o : Options) (keys : List SortKey) (sign : Option Char) : SortRule :=
  let shared := (o.flags.map fun f => f.1).filter (· ∈ sortLetters)
  let own := fun k : SortKey =>
    if k.flags = [] then
      { k with flags := shared, skipsAtStart := shared.contains 'b'
               skipsAtEnd := shared.contains 'b' }
    else k
  let whole : SortKey := {
    flags := shared, skipsAtStart := shared.contains 'b', skipsAtEnd := shared.contains 'b' }
  let isPlain := keys.isEmpty && shared.all (· = 'r')
  { keys := if keys.isEmpty then (if isPlain then [] else [whole]) else keys.map own
    sign
    isReversed := shared.contains 'r'
    isStable := (o.has 's' || o.has 'u') && !isPlain }

/-- The number of the first line that is out of order. -/
def disorder? (isAfter : List Char → List Char → Bool) :
    List (List Char) → Nat → Option (Nat × List Char)
  | a :: b :: rest, n =>
    if isAfter a b then some (n, b) else disorder? isAfter (b :: rest) (n + 1)
  | _, _ => none

/-- Drops what equals its neighbour before it. -/
def withoutRepeats (same : List Char → List Char → Bool) (lines : List (List Char)) :
    List (List Char) :=
  (lines.foldl (fun kept line =>
    match kept with
    | last :: _ => if same last line then kept else line :: kept
    | [] => [line]) []).reverse

def sortSign (o : Options) : Except (List Char) (Option Char) :=
  match (o.values 't').eraseDups with
  | [] => .ok none
  | [[]] => .error "empty tab".toList
  | [[c]] => .ok (some c)
  | [['\\', '0']] => .ok (some '\x00')
  | [several] => .error ("multi-character tab ".toList ++ inMarks several)
  | _ => .error "incompatible tabs".toList

def checkOrder (s : Setting) (o : Options) (rule : SortRule) (names : List (List Char))
    (lines : List (List Char)) : Effect :=
  match names with
  | _ :: extra :: _ =>
    let flag := if o.has 'C' then 'C' else 'c'
    s.failing 2 ("extra operand ".toList ++ inMarks extra ++ " not allowed with -".toList ++ [flag])
  | _ =>
    let isAfter := fun a b =>
      let order := rule.compare a b
      order = .gt || (o.has 'u' && order = .eq)
    match disorder? isAfter lines 2 with
    | none => { left := leftAfter names }
    | some (n, line) =>
      let name := (orInput names).headD []
      let complaint := s.complaint (name ++ ':' :: decimal n ++ ": disorder: ".toList ++ line)
      { said := if o.has 'C' then [] else [complaint], status := 1, left := leftAfter names }

def sortFiles (s : Setting) (o : Options) (rule : SortRule) (names : List (List Char)) : Effect :=
  let texts := s.readAll names
  match texts.find? fun (_, text) => !text.isOk with
  | some (name, .error reason) =>
    let start := if reason = .isDirectory then "read failed: " else "cannot read: "
    s.failing 2 (start.toList ++ name ++ ": ".toList ++ reason.reason.toList)
  | _ =>
    let files := texts.map fun (_, text) => plainPieces o.ending (text.toOption.getD [])
    let lines := files.flatten
    if o.has 'c' || o.has 'C' then checkOrder s o rule names lines
    else
      let inOrder : List Char → List Char → Bool := fun a b => rule.compare a b ≠ .gt
      let sorted :=
        if o.has 'm' then files.foldl (fun merged file => merged.merge file inOrder) []
        else lines.mergeSort inOrder
      let same : List Char → List Char → Bool := fun a b =>
        if rule.keys.isEmpty then a = b else rule.compareKeys a b = .eq
      let kept := if o.has 'u' then withoutRepeats same sorted else sorted
      let text := joinPieces o.ending kept
      match o.value? 'o' with
      | none => { printing text with left := leftAfter names }
      | some name =>
        match openedPlace s.disk (s.path name) with
        | .ok place =>
          { disk := some (writeAt s.making s.disk place false (toBytes text))
            left := leftAfter names }
        | .error reason =>
          s.failing 2 ("open failed: ".toList ++ name ++ ": ".toList ++ reason.reason.toList)

/-- The complaint about options that cannot be together. -/
def incompatible (letters : List Char) : List Char :=
  "options '-".toList ++ letters ++ "' are incompatible".toList

/-- Prints the lines of all files in order. -/
def sort : Utility := withOptions sortFlags 2 fun s o =>
  match sortChoices o with
  | .error complaint => s.misused 1 complaint
  | .ok o =>
    let keys := (o.values 'k').mapM fun text =>
      (sortKey? text).mapError fun reason => reason.message text
    match keys, sortSign o, listedNames s o '0' with
    | .error complaint, _, _ => s.failing 2 complaint
    | _, .error complaint, _ => s.failing 2 complaint
    | _, _, .error complaint =>
      if complaint.head? = some 'e' then s.misused 2 complaint
      else s.failing 2 ("open failed: ".toList ++ ((o.value? '0').getD []) ++
        ": No such file or directory".toList)
    | .ok keys, .ok sign, .ok listed =>
      let rule := sortRule o keys sign
      match rule.keys.findSome? fun k => conflict? k.flags with
      | some letters => s.failing 2 (incompatible letters)
      | none =>
        if o.has 'c' && o.has 'C' then s.failing 2 (incompatible ['c', 'C'])
        else if (o.has 'c' || o.has 'C') && o.has 'o' then
          s.failing 2 (incompatible [if o.has 'C' then 'C' else 'c', 'o'])
        else sortFiles s o rule (listed.getD o.operands)

/-! ## Reverse order

A text is cut where something separates its parts, which is looked for from the end on.
-/

/-- What stands before the last place where something is found, what is found there, and what
follows it. -/
abbrev LastFinder := List Char → Option (List Char × List Char × List Char)

/-- Finds a text for the last time. What comes behind is handed through; the text is given back to
front. -/
def lastPlainFrom (part : List Char) : List Char → List Char → Option (List Char × List Char)
  | [], _ => none
  | c :: before, after =>
    if part.isPrefixOf (c :: before) then some ((c :: before).drop part.length, after)
    else lastPlainFrom part before (c :: after)

/-- Finds a text that is not empty for the last time. -/
def lastPlain (part : List Char) : LastFinder := fun text =>
  (lastPlainFrom part.reverse text.reverse []).map fun (before, after) =>
    (before.reverse, part, after)

/-- Finds what fits an expression for the last time. -/
def lastFittingFrom (r : Regex) : List Char → List Char → Option (List Char × List Char × List Char)
  | [], _ => none
  | c :: before, after =>
    let here : Regex.Position := { before, after := c :: after, left := after.length + 1 }
    match r.matchAt {} here with
    | some q => some (before.reverse, here.upTo q, q.after)
    | none => lastFittingFrom r before (c :: after)

/-- The parts of a text, the last one first. What separates parts belongs to the one before it, or
to the one behind it. -/
def partsReversed (find : LastFinder) (isBefore : Bool) :
    Nat → Bool → List Char → List Char → List (List Char)
  | 0, _, text, behind => [text ++ behind]
  | fuel + 1, isFirst, text, behind =>
    match find text with
    | none => [text ++ behind]
    | some (before, found, after) =>
      if isBefore then
        (found ++ after ++ behind) :: partsReversed find isBefore fuel false before []
      else
        let part := after ++ behind
        let parts := partsReversed find isBefore fuel false before found
        if isFirst && part = [] then parts else part :: parts

/-- The options of `tac`. -/
def tacFlags : Flags where
  plain := "br"
  valued := "s"
  words := [("before", 'b'), ("regex", 'r'), ("separator", 's')]

/-- How `tac` finds what separates the parts of texts. -/
def tacFinder? (o : Options) : Option LastFinder :=
  let separator := (o.value? 's').getD ['\n']
  if o.has 'r' then
    let r? := Regex.ofText? { isExtended := false, isForgiving := true }
      (Regex.basicWriting separator)
    r?.map fun (r, _) => fun text => lastFittingFrom r text.reverse []
  else some (lastPlain (if separator = [] then ['\x00'] else separator))

/-- Prints the parts of files, lines unless something else separates them, in reverse order. -/
def tac : Utility := withOptions tacFlags 1 fun s o =>
  match tacFinder? o with
  | none => s.failing 1 "Invalid regular expression".toList
  | some find =>
    if o.has 'r' && o.value? 's' = some [] then s.failing 1 "separator cannot be empty".toList
    else
      let results := (s.readAll o.operands).map fun (name, text) =>
        match text with
        | .ok text =>
          let parts := partsReversed find (o.has 'b') (text.length + 1) true text []
          (({ text := parts.flatten } : Saying), true)
        | .error reason =>
          let words := match reason with
            | OsError.isDirectory => name ++ ": read error: Invalid argument".toList
            | reason => "failed to open ".toList ++ inMarks name ++ " for reading: ".toList ++
              reason.reason.toList
          (s.complaint words, false)
      { said := results.map (·.1)
        status := if results.all (·.2) then 0 else 1
        left := leftAfter o.operands }

end BoardBind.Script
