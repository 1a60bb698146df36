import BoardBind.Script.Filter
import BoardBind.Script.Lookup

/-! # Programs on names and numbers

The programs of the system that print something made of their arguments alone: parts of paths,
rows of numbers, and what is known about the system.
-/

namespace BoardBind.Script

def baseName (ending path : List Char) : List Char :=
  let name := if path ≠ [] ∧ withoutSlashes path = [] then ['/']
    else ((withoutSlashes path).reverse.takeWhile (· ≠ '/')).reverse
  if name ≠ ending ∧ ending.isSuffixOf name then name.take (name.length - ending.length)
  else name

/-- Prints the last name of a path, perhaps without an ending. -/
def basename : Utility := withOptions
    { plain := "az", valued := "s", words := [("multiple", 'a'), ("suffix", 's'), ("zero", 'z')]
      isOrdered := true } 1 fun s o =>
  let lineEnd := if o.has 'z' then '\x00' else '\n'
  match o.operands, o.has 'a' || o.has 's' with
  | [], _ => s.misused 1 "missing operand".toList
  | paths, true =>
    printing (paths.flatMap fun path => baseName ((o.value? 's').getD []) path ++ [lineEnd])
  | [path], false => printing (baseName [] path ++ [lineEnd])
  | [path, ending], false => printing (baseName ending path ++ [lineEnd])
  | _ :: _ :: extra :: _, false => s.misused 1 ("extra operand ".toList ++ inMarks extra)

/-- What stands before the last name of a path. -/
def pathAbove (path : List Char) : List Char :=
  let shorter := withoutSlashes path
  if shorter = [] then (if path = [] then ['.'] else ['/'])
  else if !shorter.contains '/' then ['.']
  else
    let front := withoutSlashes ((shorter.reverse.dropWhile (· ≠ '/')).reverse)
    if front = [] then ['/'] else front

/-- Prints what stands before the last name of a path. -/
def dirname : Utility := withOptions { plain := "z", words := [("zero", 'z')] } 1 fun s o =>
  let lineEnd := if o.has 'z' then '\x00' else '\n'
  if o.operands = [] then s.misused 1 "missing operand".toList
  else printing (o.operands.flatMap fun path => pathAbove path ++ [lineEnd])

def tenTo (n : Nat) : Nat :=
  (List.range n).foldl (fun power _ => 10 * power) 1

/-- A number with decimals: all of its digits as an integer, and how many of them are decimals. -/
structure Fixed where
  digits : Int
  decimals : Nat

namespace Fixed

def ofText? (text : List Char) : Option Fixed :=
  let (isNegative, rest) := match text with
    | '-' :: rest => (true, rest)
    | '+' :: rest => (false, rest)
    | rest => (false, rest)
  let whole := rest.takeWhile Char.isDigit
  let (decimals, rest) := match rest.drop whole.length with
    | '.' :: rest => (rest.takeWhile Char.isDigit, rest.dropWhile Char.isDigit)
    | rest => ([], rest)
  let power? : Option Nat := match rest with
    | [] => some 0
    | e :: digits => if e = 'e' || e = 'E' then natural? digits else none
  if whole = [] && decimals = [] then none
  else
    power?.map fun power =>
      let n : Int := Arithmetic.ofDigits 10 (whole ++ decimals) * tenTo (power - decimals.length)
      { digits := if isNegative then -n else n, decimals := decimals.length - power }

/-- The number with at least as many decimals as given. -/
def widened (f : Fixed) (decimals : Nat) : Int :=
  f.digits * tenTo (decimals - f.decimals)

def text (f : Fixed) : List Char :=
  let sign := if f.digits < 0 then ['-'] else []
  let size := tenTo f.decimals
  let whole := decimal (f.digits.natAbs / size)
  if f.decimals = 0 then sign ++ whole
  else sign ++ whole ++ '.' :: filled '0' f.decimals (decimal (f.digits.natAbs % size))

/-- The text of a number without zeros at the end of its decimals. -/
def shortText (f : Fixed) : List Char :=
  if f.decimals = 0 then f.text
  else ((f.text.reverse.dropWhile (· = '0')).dropWhile (· = '.')).reverse

end Fixed

def countFrom (step last : Int) : Nat → Int → List Int
  | 0, _ => []
  | fuel + 1, n =>
    if (0 < step ∧ last < n) ∨ (step < 0 ∧ n < last) then []
    else n :: countFrom step last fuel (n + step)

/-- A number laid out by a format with a single directive. -/
def formattedNumber? (format : List Char) (f : Fixed) : Option (List Char) :=
  let before := format.takeWhile (· ≠ '%')
  match format.drop before.length with
  | '%' :: rest =>
    let flags := rest.takeWhile (· ∈ ['0', '-', '+', ' ', '#'])
    let rest := rest.drop flags.length
    let width := rest.takeWhile Char.isDigit
    let (precision, rest) : Option (List Char) × List Char := match rest.drop width.length with
      | '.' :: rest => (some (rest.takeWhile Char.isDigit), rest.dropWhile Char.isDigit)
      | rest => (none, rest)
    let layout : Layout := { flags, width := Arithmetic.ofDigits 10 width }
    let places := (precision.map (Arithmetic.ofDigits 10)).getD 6
    let plain? : Option (List Char × List Char) := match rest with
      | 'g' :: after => some (f.shortText, after)
      | 'f' :: after =>
        let value := if f.decimals ≤ places then f.widened places
          else
            let size : Int := tenTo (f.decimals - places)
            (2 * f.digits + size) / (2 * size)
        some (Fixed.text ⟨value, places⟩, after)
      | _ => none
    plain?.map fun (plain, after) =>
      let (sign, digits) := match plain with
        | '-' :: digits => (['-'], digits)
        | digits => (if flags.contains '+' then ['+'] else [], digits)
      before ++ layout.number sign digits ++ after
  | _ => none

/-- The options of `seq`. -/
def seqFlags : Flags where
  plain := "w"
  valued := "fs"
  words := [("equal-width", 'w'), ("format", 'f'), ("separator", 's')]
  isOrdered := true

/-- The options of `seq`, which end at the first number, even one with a sign. -/
def seqArguments : List (List Char) → List (List Char)
  | [] => []
  | argument :: more =>
    match argument, more with
    | ['-', '-'], more => argument :: more
    | ['-', 's'], value :: more => argument :: value :: seqArguments more
    | ['-', 'f'], value :: more => argument :: value :: seqArguments more
    | '-' :: c :: _, more =>
      if c.isDigit || c = '.' then ['-', '-'] :: argument :: more
      else argument :: seqArguments more
    | _, more => argument :: more

def seq : Utility := fun s arguments =>
  withOptions seqFlags 1 (fun s o =>
    match o.operands.find? fun text => (Fixed.ofText? text).isNone with
    | some bad => s.misused 1 ("invalid floating point argument: ".toList ++ inMarks bad)
    | none =>
      let one : Fixed := ⟨1, 0⟩
      let numbers := o.operands.filterMap Fixed.ofText?
      match numbers with
      | [] => s.misused 1 "missing operand".toList
      | _ :: _ :: _ :: _ :: _ =>
        s.misused 1 ("extra operand ".toList ++ inMarks ((o.operands.drop 3).headD []))
      | numbers =>
        let first := if numbers.length = 1 then one else numbers.headD one
        let step := if numbers.length = 3 then numbers.tail.headD one else one
        let last := numbers.getLastD one
        if step.digits = 0 then
          s.misused 1 ("invalid Zero increment value: ".toList ++
            inMarks (o.operands.tail.headD []))
        else
          let places := max first.decimals step.decimals
          let fine := max places last.decimals
          let a := first.widened fine
          let d := step.widened fine
          let z := last.widened fine
          let found := countFrom d z ((z - a).natAbs / d.natAbs + 1) a
          let scale : Int := tenTo (fine - places)
          let shown := found.map fun n => Fixed.mk (n / scale) places
          let texts := match o.value? 'f' with
            | some format => shown.filterMap (formattedNumber? format)
            | none =>
              let plain := shown.map Fixed.text
              let lastText := (Fixed.mk (z / scale) places).text
              let width := (lastText :: plain.take 1).foldl (fun n t => max n t.length) 0
              if !o.has 'w' then plain
              else
                plain.map fun text =>
                  match text with
                  | '-' :: digits => '-' :: filled '0' (width - 1) digits
                  | digits => filled '0' width digits
          if texts = [] then {}
          else printing (((o.value? 's').getD ['\n']).intercalate texts ++ ['\n']))
    s (seqArguments arguments)

/-- The microseconds of a number of seconds, which may have decimals and a unit. -/
def duration? (text : List Char) : Option Nat :=
  let whole := text.takeWhile Char.isDigit
  let rest := text.drop whole.length
  let (decimals, rest) :=
    match rest with
    | '.' :: rest => (rest.takeWhile Char.isDigit, rest.dropWhile Char.isDigit)
    | _ => ([], rest)
  let unit? : Option Nat :=
    match rest with
    | [] => some 1
    | ['s'] => some 1
    | ['m'] => some 60
    | ['h'] => some 3600
    | ['d'] => some 86400
    | _ => none
  if text = "inf".toList || text = "infinity".toList then some endlessTime
  else if whole = [] && decimals = [] then none
  else
    unit?.map fun unit =>
      let micro := (decimals ++ List.replicate 6 '0').take 6
      unit * (1000000 * Arithmetic.ofDigits 10 whole + Arithmetic.ofDigits 10 micro)

def sleep : Utility := fun s arguments =>
  match arguments.filter fun text => (duration? text).isNone with
  | bad :: _ =>
    s.misused 1 (match bad with
      | '-' :: c :: _ => "invalid option -- ".toList ++ inMarks [c]
      | _ => "invalid time interval ".toList ++ inMarks bad)
  | [] =>
    if arguments = [] then s.misused 1 "missing operand".toList
    else { microseconds := (arguments.filterMap duration?).foldl (· + ·) 0 }

/-- Prints the values of variables, or all of them with their names. -/
def printenv : Utility := withOptions { plain := "0", words := [("null", '0')] } 2 fun s o =>
  let lineEnd := if o.has '0' then '\x00' else '\n'
  if o.operands = [] then
    printing (s.environment.flatMap fun (name, value) => name ++ '=' :: value ++ [lineEnd])
  else
    let values := o.operands.filterMap fun name => s.environment.lookup name
    { printing (values.flatMap fun value => value ++ [lineEnd]) with
      status := if values.length = o.operands.length then 0 else 1 }

def which : Utility := withOptions { plain := "as" } 2 fun s o =>
  let path := (s.environment.lookup "PATH".toList).getD []
  let found := o.operands.map fun name =>
    let files := if name.contains '/' then [name] else candidates path name
    let runnable := files.filter fun file =>
      match s.disk.find (s.path file) with
      | .ok (_, .file _ runs) => runs
      | _ => false
    if o.has 'a' then runnable else runnable.take 1
  { printing (if o.has 's' then [] else joinLines found.flatten) with
    status := if found.all (· ≠ []) && found ≠ [] then 0 else 1 }

end BoardBind.Script
