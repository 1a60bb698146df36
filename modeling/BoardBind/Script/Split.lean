import BoardBind.Script.FileTool
import BoardBind.Script.Filter

/-! # Files cut into pieces

A text is cut into pieces by lines, by bytes or into a number of parts, and each piece becomes a
file. The names of the files count upwards with letters or digits.
-/

namespace BoardBind.Script

/-- How a text is cut. -/
inductive SplitWay where
  | lines (count : Nat)
  | bytes (count : Nat)
  /-- Whole lines up to a number of bytes. -/
  | lineBytes (count : Nat)
  /-- Parts of equal size. -/
  | parts (count : Nat)
  /-- Parts of nearly equal size that hold whole lines. -/
  | lineParts (count : Nat)
  /-- Parts that are given a line each in turn. -/
  | turns (count : Nat)

def SplitWay.parts? : SplitWay → Option Nat
  | .parts n => some n
  | .lineParts n => some n
  | .turns n => some n
  | _ => none

def groupsOf {α : Type} (size : Nat) : Nat → List α → List (List α)
  | 0, _ => []
  | _, [] => []
  | fuel + 1, list => list.take size :: groupsOf size fuel (list.drop size)

/-- Puts lines into pieces of at most a size. A line that is longer is cut, and what is left of it
shares a piece with the lines behind it. -/
def packLines (size : Nat) : Nat → List Char → List (List Char) → List (List Char)
  | 0, _, _ => []
  | _, [], [] => []
  | _, piece, [] => [piece]
  | fuel + 1, piece, line :: rest =>
    if piece.length + line.length ≤ size then packLines size fuel (piece ++ line) rest
    else if piece ≠ [] then piece :: packLines size fuel [] (line :: rest)
    else line.take size :: packLines size fuel [] (line.drop size :: rest)

/-- Where a part starts, if the first parts take what is left over by equal sizes. -/
def partStart (size count n : Nat) : Nat :=
  n * (size / count) + min n (size % count)

def placedLines : Nat → List (List Char) → List (Nat × List Char)
  | _, [] => []
  | place, line :: rest => (place, line) :: placedLines (place + line.length) rest

def SplitWay.pieces (way : SplitWay) (ending : Char) (text : List Char) : List (List Char) :=
  let lines := fullPieces ending text
  match way with
  | .lines n => (groupsOf n lines.length lines).map List.flatten
  | .bytes n => groupsOf n text.length text
  | .lineBytes n => packLines n (text.length + 2 * lines.length + 1) [] lines
  | .parts n =>
    (List.range n).map fun k =>
      let start := partStart text.length n k
      (text.drop start).take (partStart text.length n (k + 1) - start)
  | .lineParts n =>
    let placed := placedLines 0 lines
    (List.range n).map fun k =>
      let start := partStart text.length n k
      let stop := partStart text.length n (k + 1)
      (placed.filter fun (place, _) => start ≤ place && place < stop).flatMap (·.2)
  | .turns n =>
    let numbered := lines.zipIdx
    (List.range n).map fun k => (numbered.filter fun (_, i) => i % n = k).flatMap (·.1)

structure PieceNames where
  start : List Char := ['x']
  signs : List Char := "abcdefghijklmnopqrstuvwxyz".toList
  /-- The numbers of the signs at the end. -/
  digits : List Nat := [0, 0]
  /-- Whether names get longer when there are no more. -/
  grows : Bool := true
  ending : List Char := []

namespace PieceNames

def shown (n : PieceNames) : List Char :=
  n.start ++ n.digits.map (fun d => n.signs.getD d 'a') ++ n.ending

/-- Counts one further, the last digit first; nothing is left behind the last number. -/
def counted (base : Nat) : List Nat → Option (List Nat)
  | [] => none
  | d :: rest =>
    if d + 1 < base then some ((d + 1) :: rest) else (counted base rest).map (0 :: ·)

/-- The names from the next piece on. Names that grow keep the last sign for longer ones. -/
def next? (n : PieceNames) : Option PieceNames :=
  match counted n.signs.length n.digits.reverse with
  | none => none
  | some digits =>
    let digits := digits.reverse
    match digits with
    | d :: rest =>
      if n.grows && d + 1 = n.signs.length then
        some { n with
          start := n.start ++ [n.signs.getD d 'z']
          digits := List.replicate (rest.length + 2) 0 }
      else some { n with digits }
    | [] => none

end PieceNames

/-- The number of digits that are needed to count to a number. -/
def digitsNeeded (base : Nat) : Nat → Nat → Nat
  | 0, _ => 1
  | fuel + 1, n => if n < base then 1 else digitsNeeded base fuel (n / base) + 1

/-- How a text is cut, and which part of it alone is printed, if one is. -/
structure SplitPlan where
  way : Option SplitWay := none
  isCounted : Bool := false
  only : Option Nat := none

/-- The number of parts that a text means, and perhaps one of them. -/
def splitParts (text : List Char) : Except (List Char) (Option Nat × Nat) :=
  let digits := text.takeWhile Char.isDigit
  let complaint := fun text : List Char => "invalid number of chunks: ".toList ++ inMarks text
  match digits, text.drop digits.length with
  | _ :: _, '/' :: rest =>
    let part := Arithmetic.ofDigits 10 digits
    match natural? rest with
    | some n =>
      if n = 0 then .error (complaint rest)
      else if 0 < part && part ≤ n then .ok (some part, n)
      else .error ("invalid chunk number: ".toList ++ inMarks digits)
    | none => .error (complaint rest)
  | _, _ =>
    match natural? text with
    | some n => if n = 0 then .error (complaint text) else .ok (none, n)
    | none => .error (complaint text)

/-- Adds an option to a plan, or complains; a complaint about how options go together is marked. -/
def SplitPlan.add (p : SplitPlan) (flag : Char) (value : List Char) :
    Except (Bool × List Char) SplitPlan :=
  let unique := fun (way : Except (List Char) (SplitWay × Option Nat)) =>
    if p.way.isSome then .error (true, "cannot split in more than one way".toList)
    else
      match way with
      | .ok (way, only) => .ok { p with way := some way, only }
      | .error complaint => .error (false, complaint)
  let counted := fun (what : String) (n : Option Nat) (make : Nat → SplitWay) =>
    match n with
    | some n =>
      if n = 0 then .error (what.toList ++ inMarks value) else .ok (make n, none)
    | none => .error (what.toList ++ inMarks value)
  let parted := fun (text : List Char) (make : Nat → SplitWay) =>
    (splitParts text).map fun (only, n) => (make n, only)
  match flag with
  | 'l' => unique (counted "invalid number of lines: " (natural? value) .lines)
  | 'b' => unique (counted "invalid number of bytes: " (sizeNumber? value) .bytes)
  | 'C' => unique (counted "invalid number of lines: " (sizeNumber? value) .lineBytes)
  | 'n' =>
    unique (match value with
      | 'l' :: '/' :: rest => parted rest .lineParts
      | 'r' :: '/' :: rest => parted rest .turns
      | text => parted text .parts)
  | c =>
    if !c.isDigit then .ok p
    else
      match p.way, p.isCounted with
      | some (.lines n), true =>
        .ok { p with way := some (.lines (10 * n + (c.toNat - '0'.toNat))) }
      | some _, _ => .error (true, "cannot split in more than one way".toList)
      | none, _ => .ok { p with way := some (.lines (c.toNat - '0'.toNat)), isCounted := true }

def pieceNames (o : Options) (start : List Char) (parts : Option Nat) :
    Except (Bool × List Char) PieceNames :=
  let counting := o.last? ['d', 'x', 'D', 'X']
  let signs := match counting with
    | some c => (if c = 'd' || c = 'D' then "0123456789" else "0123456789abcdef").toList
    | none => "abcdefghijklmnopqrstuvwxyz".toList
  let ending := (o.value? '+').getD []
  let first := ((o.flags.filter fun f => f.1 = 'D' || f.1 = 'X').getLast?.map (·.2)).filter (· ≠ [])
  let last := parts.map fun n =>
    match first.bind natural? with
    | some k => if k < n then n - 1 + k else n - 1
    | none => n - 1
  let needed := (last.map fun n => digitsNeeded signs.length (n + 1) n).getD 0
  let told := (o.value? 'a').map natural?
  if ending.contains '/' then
    .error (true, "invalid suffix ".toList ++ inMarks ending ++
      ", contains directory separator".toList)
  else if first.any fun text => (natural? text).isNone then
    .error (true, inMarks (first.getD []) ++ ": invalid start value for numerical suffix".toList)
  else
    match told with
    | some none => .error (false, "invalid suffix length: ".toList ++ inMarks ((o.value? 'a').getD []))
    | told =>
      let told := told.join.getD 0
      if told ≠ 0 && told < needed then
        .error (false, "the suffix length needs to be at least ".toList ++ decimal needed)
      else
        let size := if told ≠ 0 then told else max 2 needed
        let shown := first.getD []
        if size < shown.length then
          .error (true,
            "numerical suffix start value is too large for the suffix length".toList)
        else
          .ok {
            start, signs, ending
            digits := List.replicate (size - shown.length) 0 ++
              shown.map fun c => c.toNat - '0'.toNat
            grows := told = 0 && parts.isNone && first.isNone }

def writePieces (s : Setting) (isLoud : Bool) (source : Option Place) :
    List (List Char) → Option PieceNames → Progress → Progress
  | [], _, p => p
  | _ :: _, none, p => p.complain s "output file suffixes exhausted".toList
  | piece :: rest, some names, p =>
    let name := names.shown
    let p := p.report isLoud ("creating file ".toList ++ inMarks name)
    match openedPlace p.disk (s.path name) with
    | .error reason => p.complain s (name ++ ": ".toList ++ reason.reason.toList)
    | .ok place =>
      if source = some place then
        p.complain s (inMarks name ++ " would overwrite input; aborting".toList)
      else
        writePieces s isLoud source rest names.next?
          { p with disk := writeAt s.making p.disk place false (toBytes piece) }

/-- The options of `split`. -/
def splitFlags : Flags where
  plain := "dxeu!0123456789"
  valued := "abClnt+"
  optional := "DX"
  words := [("suffix-length", 'a'), ("additional-suffix", '+'), ("bytes", 'b'),
    ("line-bytes", 'C'), ("numeric-suffixes", 'D'), ("hex-suffixes", 'X'),
    ("elide-empty-files", 'e'), ("lines", 'l'), ("number", 'n'), ("separator", 't'),
    ("unbuffered", 'u'), ("verbose", '!')]

/-- The character that ends lines, if an option tells another one. -/
def splitEnding (o : Options) : Except (List Char) Char :=
  match o.value? 't' with
  | none => .ok '\n'
  | some [] => .error "empty record separator".toList
  | some ['\\', '0'] => .ok '\x00'
  | some [c] => .ok c
  | some text => .error ("multi-character separator ".toList ++ inMarks text)

def split : Utility := withOptions splitFlags 1 fun s o =>
  let failed := fun (fault : Bool × List Char) =>
    if fault.1 then s.misused 1 fault.2 else s.failing 1 fault.2
  match o.flags.foldlM (fun (p : SplitPlan) f => p.add f.1 f.2) {}, splitEnding o with
  | .error fault, _ => failed fault
  | _, .error complaint => s.failing 1 complaint
  | .ok plan, .ok ending =>
    let way := plan.way.getD (.lines 1000)
    let name := o.operands.headD ['-']
    match o.operands.drop 2, way with
    | extra :: _, _ => s.misused 1 ("extra operand ".toList ++ inMarks extra)
    | [], .lines 0 => s.misused 1 "invalid number of lines: '0'".toList
    | [], way =>
      match pieceNames o (o.operands.getD 1 ['x']) way.parts?, s.read name with
      | .error fault, _ => failed fault
      | _, .error .isDirectory =>
        let what := if way.parts?.isSome then ": cannot determine file size" else ""
        s.failing 1 (name ++ what.toList ++ ": Is a directory".toList)
      | _, .error reason =>
        s.failing 1 ("cannot open ".toList ++ inMarks name ++ " for reading: ".toList ++
          reason.reason.toList)
      | .ok names, .ok text =>
        let left := leftAfter [name]
        let pieces := way.pieces ending text
        match plan.only with
        | some part => { printing (pieces.getD (part - 1) []) with left }
        | none =>
          let pieces := if o.has 'e' then pieces.filter (· ≠ []) else pieces
          let source := (s.disk.find (s.path name)).toOption.map (·.1)
          { (writePieces s (o.has '!') source pieces (some names) s.progress).effect with left }

end BoardBind.Script
