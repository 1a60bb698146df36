import BoardBind.Script.Filter

/-! # Tabs

The places where tabs end are multiples of a size, or they are listed. Tabs are replaced by blanks
up to the next such place, and blanks by tabs.
-/

namespace BoardBind.Script

/-- How tabs go on behind the places that are listed. -/
inductive TabRest where
  /-- Each tab is a blank. -/
  | blanks
  /-- Tabs end at the multiples of a size. -/
  | multiples (size : Nat)
  /-- Tabs end at steps of a size behind the last place. -/
  | steps (size : Nat)

/-- Where tabs end. -/
structure TabStops where
  listed : List Nat := []
  rest : TabRest := .multiples 8

namespace TabStops

/-- The next place behind a column where a tab ends, if there is one. -/
def next? (stops : TabStops) (column : Nat) : Option Nat :=
  match stops.listed.find? (column < ·) with
  | some place => some place
  | none =>
    match stops.rest with
    | .blanks => none
    | .multiples size => some ((column / size + 1) * size)
    | .steps size =>
      let last := stops.listed.getLastD 0
      some (column + (size - (column - last) % size))

end TabStops

/-- What has been read of lists of places. -/
structure TabReading where
  listed : List Nat := []
  multiples : Option Nat := none
  steps : Option Nat := none

/-- How the next number of a list of places is meant. -/
inductive TabMeaning where
  | place
  | multiple
  | step

namespace TabReading

def add (r : TabReading) (meaning : TabMeaning) (n : Nat) : Except (List Char) TabReading :=
  match meaning with
  | .place => .ok { r with listed := r.listed ++ [n] }
  | .multiple =>
    if r.multiples.any (· ≠ 0) then
      .error "'/' specifier only allowed with the last value".toList
    else .ok { r with multiples := some n }
  | .step =>
    if r.steps.any (· ≠ 0) then
      .error "'+' specifier only allowed with the last value".toList
    else .ok { r with steps := some n }

def read : Nat → TabMeaning → TabReading → List Char → Except (List Char) TabReading
  | 0, _, r, _ => .ok r
  | _ + 1, _, r, [] => .ok r
  | fuel + 1, meaning, r, c :: rest =>
    if c = ',' || c = ' ' || c = '\t' then read fuel meaning r rest
    else if c = '/' then read fuel .multiple r rest
    else if c = '+' then read fuel .step r rest
    else if c.isDigit then do
      let digits := (c :: rest).takeWhile Char.isDigit
      let after := (c :: rest).drop digits.length
      let n := Arithmetic.ofDigits 10 digits
      if 18446744073709551615 < n then
        throw ("tab stop is too large ".toList ++ inMarks digits)
      match after with
      | '/' :: _ =>
        throw ("'/' specifier not at start of number: ".toList ++ inMarks after)
      | '+' :: _ =>
        throw ("'+' specifier not at start of number: ".toList ++ inMarks after)
      | _ => read fuel meaning (← r.add meaning n) after
    else .error ("tab size contains invalid character(s): ".toList ++ inMarks (c :: rest))

def isAscending : List Nat → Bool
  | a :: b :: rest => a < b && isAscending (b :: rest)
  | _ => true

/-- The places that have been read, if they make sense together. -/
def stops (r : TabReading) : Except (List Char) TabStops :=
  let size := fun n : Option Nat => n.filter (· ≠ 0)
  if r.listed.contains 0 then .error "tab size cannot be 0".toList
  else if !isAscending r.listed then .error "tab sizes must be ascending".toList
  else
    match size r.multiples, size r.steps, r.listed with
    | some _, some _, _ => .error "'/' specifier is mutually exclusive with '+'".toList
    | some n, none, listed => .ok { listed, rest := .multiples n }
    | none, some n, [] => .ok { rest := .multiples n }
    | none, some n, listed => .ok { listed, rest := .steps n }
    | none, none, [] => .ok {}
    | none, none, [n] => .ok { rest := .multiples n }
    | none, none, listed => .ok { listed, rest := .blanks }

end TabReading

def tabStops (lists : List (List Char)) : Except (List Char) TabStops := do
  let read ← lists.foldlM (fun r list => TabReading.read (list.length + 1) .place r list) {}
  read.stops

/-- Puts an option in front of a list of places that stands alone behind a dash. -/
def modernTabs (option : List Char) : List (List Char) → List (List Char)
  | ('-' :: c :: list) :: rest =>
    if c.isDigit then option :: (c :: list) :: modernTabs option rest
    else ('-' :: c :: list) :: modernTabs option rest
  | argument :: rest => argument :: modernTabs option rest
  | [] => []

/-- A line with its tabs replaced by blanks. The column and whether tabs are still replaced are
handed through. -/
def expandLine (stops : TabStops) (isWhole : Bool) : Nat → Bool → List Char → List Char
  | _, _, [] => []
  | column, false, c :: rest => c :: expandLine stops isWhole column false rest
  | column, true, c :: rest =>
    if c = '\t' then
      let next := (stops.next? column).getD (column + 1)
      List.replicate (next - column) ' ' ++ expandLine stops isWhole next true rest
    else
      let column := if c = '\x08' then column - 1 else column + 1
      c :: expandLine stops isWhole column (isWhole || c = ' ') rest

/-- Puts blanks in place of tabs. -/
def expand : Utility := fun s arguments =>
  withOptions { plain := "i", valued := "t", words := [("initial", 'i'), ("tabs", 't')] } 1
    (fun s o =>
      match tabStops (o.values 't') with
      | .error complaint => s.failing 1 complaint
      | .ok stops =>
        printJoined s o.operands 1 fun text =>
          (fullLines text).flatMap (expandLine stops (!o.has 'i') 0 true))
    s (modernTabs ['-', 't'] arguments)

/-- What is known about a line whose blanks are replaced by tabs. -/
structure TabPacking where
  /-- What has been written, the last character first. -/
  done : List Char := []
  isOn : Bool := true
  column : Nat := 0
  /-- Blanks that may yet become a tab, the last one first. -/
  pending : List Char := []
  /-- Whether the first of them stands right before the end of a tab. -/
  isTight : Bool := false
  isAfterBlank : Bool := true

namespace TabPacking

/-- Writes the blanks that were held back. -/
def release (p : TabPacking) : TabPacking :=
  match p.pending.reverse with
  | [] => p
  | first :: more =>
    let first := if more ≠ [] && p.isTight then '\t' else first
    { p with done := more.reverse ++ first :: p.done, pending := [], isTight := false }

/-- Writes a character behind those that were held back. -/
def put (p : TabPacking) (isWhole : Bool) (c : Char) : TabPacking :=
  let p := p.release
  let isBlank := c = ' ' || c = '\t'
  { p with done := c :: p.done, isAfterBlank := isBlank, isOn := p.isOn && (isWhole || isBlank) }

/-- Drops what was held back but a single blank right before the end of a tab, which becomes a
tab if it must. -/
def shrink (p : TabPacking) (isTab : Bool) : TabPacking :=
  if p.isTight then
    { p with pending := (if isTab then ['\t'] else p.pending.reverse.take 1) }
  else { p with pending := [] }

def step (stops : TabStops) (isWhole : Bool) (p : TabPacking) (c : Char) : TabPacking :=
  if !p.isOn then { p with done := c :: p.done }
  else if c = ' ' || c = '\t' then
    match stops.next? p.column with
    | none =>
      let p := p.release
      { p with done := c :: p.done, isOn := false, isAfterBlank := true }
    | some next =>
      if c = '\t' then
        (({ p with column := next }).shrink (p.pending ≠ [])).put isWhole '\t'
      else
        let column := p.column + 1
        if p.isAfterBlank && column = next then
          (({ p with column }).shrink true).put isWhole '\t'
        else
          { p with
            column, pending := c :: p.pending, isAfterBlank := true
            isTight := p.isTight || column = next }
  else
    let column := if c = '\x08' then p.column - 1 else p.column + 1
    ({ p with column }).put isWhole c

end TabPacking

def unexpandLine (stops : TabStops) (isWhole : Bool) (line : List Char) : List Char :=
  (line.foldl (TabPacking.step stops isWhole) {}).release.done.reverse

/-- Puts tabs in place of blanks. -/
def unexpand : Utility := fun s arguments =>
  withOptions
    { plain := "a1", valued := "t#"
      words := [("tabs", 't'), ("all", 'a'), ("first-only", '1')] } 1
    (fun s o =>
      let lists := (o.flags.filter fun f => f.1 = 't' || f.1 = '#').map (·.2)
      match tabStops lists with
      | .error complaint => s.failing 1 complaint
      | .ok stops =>
        let isWhole := (o.has 'a' || o.has 't') && !o.has '1'
        printJoined s o.operands 1 fun text =>
          (fullLines text).flatMap (unexpandLine stops isWhole))
    s (modernTabs ['-', '#'] arguments)

end BoardBind.Script
