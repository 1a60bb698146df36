/-! # Where two sequences differ

Two sequences are compared line by line, where a number stands for a line. The shortest way from one
to the other is found from both ends at once. Lines that occur in one sequence only, or too often in
the other, are set aside first. At last every stretch of changes is moved as far down as it goes, or
to where the other sequence changes as well.
-/

namespace BoardBind.Script.Diff

/-- A change: where it is in both sequences, and how many lines it takes out and puts in. -/
structure Change where
  first : Nat
  removed : Nat
  second : Nat
  added : Nat
  deriving DecidableEq

/-- A pair of stretches that are still to be compared. -/
structure Region where
  left : Nat
  leftEnd : Nat
  right : Nat
  rightEnd : Nat

/-- The diagonals from the highest down to the lowest, every second one. -/
def diagonals (highest lowest : Int) : List Int :=
  (List.range ((highest - lowest) / 2 + 1).toNat).map fun n : Nat => highest - 2 * (n : Int)

/-- How far a search from one end has come, by diagonals. -/
structure Front where
  reached : Array Int
  lowest : Int
  highest : Int

/-- The diagonal at which the array of a region starts. -/
def Region.base (r : Region) : Int := (r.left : Int) - r.rightEnd - 1

namespace Front

/-- How far a search has come on a diagonal. -/
def on (f : Front) (r : Region) (d : Int) : Int :=
  f.reached.getD (d - r.base).toNat 0

/-- Sets how far a search has come on a diagonal. -/
def put (f : Front) (r : Region) (d x : Int) : Front :=
  { f with reached := f.reached.setIfInBounds (d - r.base).toNat x }

/-- Makes the range of diagonals wider, or narrower at the borders of the region. -/
def widen (f : Front) (r : Region) (outside : Int) : Front :=
  let lowest := (r.left : Int) - r.rightEnd
  let highest := (r.leftEnd : Int) - r.right
  let f := if lowest < f.lowest then
      { f with lowest := f.lowest - 1 }.put r (f.lowest - 2) outside
    else { f with lowest := f.lowest + 1 }
  if f.highest < highest then { f with highest := f.highest + 1 }.put r (f.highest + 2) outside
  else { f with highest := f.highest - 1 }

end Front

/-- How many lines are equal from two places on. -/
def slideDown (a b : Array Nat) (r : Region) : Nat → Nat → Nat → Nat
  | 0, _, _ => 0
  | fuel + 1, x, y =>
    if x < r.leftEnd && y < r.rightEnd && a.getD x 0 = b.getD y 0 then
      slideDown a b r fuel (x + 1) (y + 1) + 1
    else 0

/-- How many lines are equal before two places. -/
def slideUp (a b : Array Nat) (r : Region) : Nat → Nat → Nat → Nat
  | 0, _, _ => 0
  | fuel + 1, x, y =>
    if r.left < x && r.right < y && a.getD (x - 1) 0 = b.getD (y - 1) 0 then
      slideUp a b r fuel (x - 1) (y - 1) + 1
    else 0

/-- A step of the search from the start on some diagonals, until it meets the other search. -/
def searchDown (a b : Array Nat) (r : Region) (isOdd : Bool) (back : Front) :
    Front → List Int → Front × Option (Nat × Nat)
  | f, [] => (f, none)
  | f, d :: rest =>
    let low := f.on r (d - 1)
    let high := f.on r (d + 1)
    let start := if low < high then high else low + 1
    let slid := slideDown a b r (r.leftEnd + 1) start.toNat (start - d).toNat
    let x := start + slid
    let f := f.put r d x
    if isOdd && back.lowest ≤ d && d ≤ back.highest && back.on r d ≤ x then
      (f, some (x.toNat, (x - d).toNat))
    else searchDown a b r isOdd back f rest

/-- A step of the search from the end on some diagonals, until it meets the other search. -/
def searchUp (a b : Array Nat) (r : Region) (isOdd : Bool) (front : Front) :
    Front → List Int → Front × Option (Nat × Nat)
  | f, [] => (f, none)
  | f, d :: rest =>
    let low := f.on r (d - 1)
    let high := f.on r (d + 1)
    let start := if low < high then low else high - 1
    let slid := slideUp a b r (r.leftEnd + 1) start.toNat (start - d).toNat
    let x := start - slid
    let f := f.put r d x
    if !isOdd && front.lowest ≤ d && d ≤ front.highest && x ≤ front.on r d then
      (f, some (x.toNat, (x - d).toNat))
    else searchUp a b r isOdd front f rest

/-- Searches from both ends until the searches meet. -/
def meeting (a b : Array Nat) (r : Region) (isOdd : Bool) : Nat → Front → Front → Nat × Nat
  | 0, _, _ => (r.left, r.right)
  | fuel + 1, front, back =>
    let front := front.widen r (-1)
    match searchDown a b r isOdd back front (diagonals front.highest front.lowest) with
    | (_, some found) => found
    | (front, none) =>
      let back := back.widen r (r.leftEnd + r.rightEnd + 1)
      match searchUp a b r isOdd front back (diagonals back.highest back.lowest) with
      | (_, some found) => found
      | (back, none) => meeting a b r isOdd fuel front back

/-- A place in the middle of a shortest way through a region. -/
def middle (a b : Array Nat) (r : Region) : Nat × Nat :=
  let size := r.leftEnd - r.left + (r.rightEnd - r.right) + 3
  let start : Int := (r.left : Int) - r.right
  let stop : Int := (r.leftEnd : Int) - r.rightEnd
  let front : Front := ⟨Array.replicate size 0, start, start⟩
  let back : Front := ⟨Array.replicate size 0, stop, stop⟩
  meeting a b r ((start - stop) % 2 ≠ 0) size (front.put r start r.left)
    (back.put r stop r.leftEnd)

/-- The lines that are taken out and put in on a shortest way through a region. -/
def compareRegion (a b : Array Nat) : Nat → Region → List Nat × List Nat
  | 0, _ => ([], [])
  | fuel + 1, r =>
    let down := slideDown a b r (r.leftEnd + 1) r.left r.right
    let r := { r with left := r.left + down, right := r.right + down }
    let up := slideUp a b r (r.leftEnd + 1) r.leftEnd r.rightEnd
    let r := { r with leftEnd := r.leftEnd - up, rightEnd := r.rightEnd - up }
    let stretch := fun (start stop : Nat) => (List.range (stop - start)).map (· + start)
    if r.left = r.leftEnd then ([], stretch r.right r.rightEnd)
    else if r.right = r.rightEnd then (stretch r.left r.leftEnd, [])
    else
      let (x, y) := middle a b r
      let before := compareRegion a b fuel { r with leftEnd := x, rightEnd := y }
      let after := compareRegion a b fuel { r with left := x, right := y }
      (before.1 ++ after.1, before.2 ++ after.2)

inductive Mark where
  | kept
  | aside
  /-- A line that is set aside only among others that are. -/
  | doubtful
  deriving DecidableEq

/-- Doubles a number as often as another one can be divided by four. -/
def doubled : Nat → Nat → Nat → Nat
  | 0, _, n => n
  | fuel + 1, size, n => if size / 4 = 0 then n else doubled fuel (size / 4) (n * 2)

/-- Marks each line by how often it occurs in the other sequence. -/
def firstMarks (lines other : Array Nat) : List Mark :=
  let many := doubled 64 (lines.size / 64) 5
  lines.toList.map fun line =>
    let count := other.count line
    if count = 0 then .aside else if many < count then .doubtful else .kept

/-- Keeps the doubtful lines at the start of a run, until some lines in a row are set aside for
certain. -/
def keepEdge : Nat → Nat → List Mark → List Mark
  | _, _, [] => []
  | place, row, mark :: rest =>
    if 8 ≤ place && mark = .aside then mark :: rest
    else
      match mark with
      | .aside => if row + 1 = 3 then mark :: rest else mark :: keepEdge (place + 1) (row + 1) rest
      | _ => .kept :: keepEdge (place + 1) 0 rest

/-- Keeps the rows of at least so many doubtful lines. -/
def keepRows (least : Nat) : Nat → List Mark → List Mark
  | 0, marks => marks
  | _ + 1, [] => []
  | fuel + 1, mark :: rest =>
    let row := ((mark :: rest).takeWhile (· = .doubtful)).length
    if row = 0 then mark :: keepRows least fuel rest
    else
      List.replicate row (if least ≤ row then .kept else .doubtful) ++
        keepRows least fuel ((mark :: rest).drop row)

/-- Decides about the doubtful lines in a run that starts and ends with lines that are set aside. -/
def settleRun (run : List Mark) : List Mark :=
  let doubts := run.count .doubtful
  if run.length < doubts * 4 then run.map fun mark => if mark = .doubtful then .kept else mark
  else
    let least := doubled 64 (run.length / 4) 1 + 1
    let rows := keepRows least run.length run
    (keepEdge 0 0 (keepEdge 0 0 rows).reverse).reverse

/-- Decides about all doubtful lines: outside of a run of lines that are set aside they are kept. -/
def settle : Nat → List Mark → List Mark
  | 0, marks => marks
  | _ + 1, [] => []
  | fuel + 1, .aside :: rest =>
    let whole := .aside :: rest.takeWhile (· ≠ .kept)
    let run := (whole.reverse.dropWhile (· = .doubtful)).reverse
    let tail := List.replicate (whole.length - run.length) .kept
    settleRun run ++ tail ++ settle fuel (rest.drop (whole.length - 1))
  | fuel + 1, _ :: rest => .kept :: settle fuel rest

def marksOf (lines other : Array Nat) : List Mark :=
  settle lines.size (firstMarks lines other)

/-- Which lines of two sequences are changed. -/
structure Flagged where
  first : Array Bool
  second : Array Bool

def flagged (size : Nat) (places : List Nat) : Array Bool :=
  places.foldl (fun flags n => flags.setIfInBounds n true) (Array.replicate size false)

/-- Finds the lines that are changed between two sequences. -/
def changedLines (isMinimal : Bool) (a b : Array Nat) : Flagged :=
  let marks := fun (lines other : Array Nat) =>
    if isMinimal then List.replicate lines.size .kept else marksOf lines other
  let split := fun (lines other : Array Nat) =>
    let indexed := (marks lines other).zipIdx
    ((indexed.filter fun (mark, _) => mark = .kept).map fun (_, n) => n,
      (indexed.filter fun (mark, _) => mark ≠ .kept).map fun (_, n) => n)
  let (keptA, asideA) := split a b
  let (keptB, asideB) := split b a
  let restA := (keptA.map fun n => a.getD n 0).toArray
  let restB := (keptB.map fun n => b.getD n 0).toArray
  let (removed, added) := compareRegion restA restB (restA.size + restB.size + 2)
    ⟨0, restA.size, 0, restB.size⟩
  let real := fun (kept : List Nat) (places : List Nat) =>
    let kept := kept.toArray
    places.map fun n => kept.getD n 0
  { first := flagged a.size (asideA ++ real keptA removed)
    second := flagged b.size (asideB ++ real keptB added) }

def isSet (flags : Array Bool) (n : Nat) : Bool :=
  flags.getD n false

def isSetBefore (flags : Array Bool) (n : Nat) : Bool :=
  0 < n && flags.getD (n - 1) false

/-- The first place from some place on where no flag is set. -/
def runEnd (flags : Array Bool) : Nat → Nat → Nat
  | 0, n => n
  | fuel + 1, n => if isSet flags n then runEnd flags fuel (n + 1) else n

def runStart (flags : Array Bool) : Nat → Nat → Nat
  | 0, n => n
  | fuel + 1, n => if isSetBefore flags n then runStart flags fuel (n - 1) else n

/-- The last place before some place where no flag is set. -/
def stepBack (flags : Array Bool) : Nat → Nat → Nat
  | 0, n => n
  | fuel + 1, n => if isSet flags (n - 1) then stepBack flags fuel (n - 1) else n - 1

/-- A run of changed lines while it is moved. -/
structure Sliding where
  flags : Array Bool
  start : Nat
  stop : Nat
  /-- The place in the other sequence. -/
  other : Nat
  /-- Where the run ended when it last met a run of the other sequence. -/
  met : Nat

def slideRunUp (lines : Array Nat) (others : Array Bool) : Nat → Sliding → Sliding
  | 0, s => s
  | fuel + 1, s =>
    if 0 < s.start && lines.getD (s.start - 1) 0 = lines.getD (s.stop - 1) 0 then
      let flags := (s.flags.setIfInBounds (s.start - 1) true).setIfInBounds (s.stop - 1) false
      slideRunUp lines others fuel
        { s with
          flags, start := runStart flags flags.size (s.start - 1), stop := s.stop - 1
          other := stepBack others (others.size + 1) s.other }
    else s

def slideRunDown (lines : Array Nat) (others : Array Bool) : Nat → Sliding → Sliding
  | 0, s => s
  | fuel + 1, s =>
    if s.stop ≠ lines.size && lines.getD s.start 0 = lines.getD s.stop 0 then
      let flags := (s.flags.setIfInBounds s.start false).setIfInBounds s.stop true
      let stop := runEnd flags flags.size (s.stop + 1)
      let other := runEnd others others.size (s.other + 1)
      slideRunDown lines others fuel
        { flags, start := s.start + 1, stop, other
          met := if isSet others (s.other + 1) then stop else s.met }
    else s

/-- Moves a run up and down until it no longer grows. -/
def slideRun (lines : Array Nat) (others : Array Bool) : Nat → Sliding → Sliding
  | 0, s => s
  | fuel + 1, s =>
    let up := slideRunUp lines others lines.size s
    let down := slideRunDown lines others lines.size
      { up with met := if isSetBefore others up.other then up.stop else lines.size }
    if down.stop - down.start = s.stop - s.start then down
    else slideRun lines others fuel down

/-- Moves a run back to where it met a run of the other sequence. -/
def returnRun (others : Array Bool) : Nat → Sliding → Sliding
  | 0, s => s
  | fuel + 1, s =>
    if s.met < s.stop then
      returnRun others fuel
        { s with
          flags := (s.flags.setIfInBounds (s.start - 1) true).setIfInBounds (s.stop - 1) false
          start := s.start - 1, stop := s.stop - 1
          other := stepBack others (others.size + 1) s.other }
    else s

def slideRuns (lines : Array Nat) (others : Array Bool) : Nat → Array Bool → Nat → Nat → Array Bool
  | 0, flags, _, _ => flags
  | fuel + 1, flags, n, other =>
    if lines.size ≤ n then flags
    else if !isSet flags n then
      slideRuns lines others fuel flags (n + 1) (runEnd others others.size other + 1)
    else
      let s := slideRun lines others (lines.size + 1)
        { flags, start := n, stop := runEnd flags flags.size n
          other := runEnd others others.size other, met := lines.size }
      let s := returnRun others lines.size s
      slideRuns lines others fuel s.flags s.stop s.other

/-- Moves the runs of changed lines of both sequences. -/
def Flagged.shifted (a b : Array Nat) (f : Flagged) : Flagged :=
  let first := slideRuns a f.second (2 * a.size + 2) f.first 0 0
  let second := slideRuns b first (2 * b.size + 2) f.second 0 0
  { first, second }

def changesFrom (f : Flagged) : Nat → Nat → Nat → List Change
  | 0, _, _ => []
  | fuel + 1, n, m =>
    if f.first.size ≤ n && f.second.size ≤ m then []
    else
      let stopN := runEnd f.first f.first.size n
      let stopM := runEnd f.second f.second.size m
      let later := changesFrom f fuel (stopN + 1) (stopM + 1)
      if stopN = n && stopM = m then later else ⟨n, stopN - n, m, stopM - m⟩ :: later

/-- The number of lines that two lists have in common at their starts. -/
def commonStart : List Nat → List Nat → Nat
  | a :: as, b :: bs => if a = b then commonStart as bs + 1 else 0
  | _, _ => 0

/-- The changes between two sequences. What both have in common at their ends is left out, but for
so many lines next to the changes. -/
def changes (isMinimal : Bool) (horizon : Nat) (a b : List Nat) : List Change :=
  let start := commonStart a b
  let ending := commonStart (a.drop start).reverse (b.drop start).reverse
  let skipped := start - horizon
  let cut := ending - horizon
  let inner := fun lines : List Nat => ((lines.take (lines.length - cut)).drop skipped).toArray
  let (x, y) := (inner a, inner b)
  let found := (changedLines isMinimal x y).shifted x y
  (changesFrom found (x.size + y.size + 2) 0 0).map fun c =>
    { c with first := c.first + skipped, second := c.second + skipped }

end BoardBind.Script.Diff
