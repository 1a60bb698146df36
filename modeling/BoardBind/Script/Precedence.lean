import BoardBind.Script.Filter

/-! # What comes before what

Pairs of words say that the first one comes before the second. All words are printed in an order
that keeps to the pairs. Where the pairs lead around in a circle, it is complained about, and one
of its pairs no longer counts.
-/

namespace BoardBind.Script

/-- Words and the pairs of them that still count. -/
structure Precedence where
  /-- All words in order. -/
  words : Array (List Char) := #[]
  /-- The number of pairs that keep a word waiting. -/
  waits : Array Nat := #[]
  /-- The words behind each word; the pair that was read last comes first. -/
  behind : Array (List Nat) := #[]
  isPrinted : Array Bool := #[]
  /-- The way back around a circle, as far as it has been found. -/
  links : Array (Option Nat) := #[]
  /-- Where that way starts. -/
  loop : Option Nat := none
  said : List Saying := []
  failed : Bool := false

namespace Precedence

def word (p : Precedence) (n : Nat) : List Char := p.words.getD n []

/-- Adds a pair. A word is not before itself. -/
def add (p : Precedence) (before after : Nat) : Precedence :=
  if before = after then p
  else
    { p with
      waits := p.waits.modify after (· + 1)
      behind := p.behind.modify before (after :: ·) }

def pairs : List (List Char) → List (List Char × List Char)
  | a :: b :: rest => (a, b) :: pairs rest
  | _ => []

def ofWords (list : List (List Char)) : Precedence :=
  let sorted := list.mergeSort fun a b => !decide (b < a)
  let words := (sorted.foldl (fun kept w => if kept.head? = some w then kept else w :: kept) [])
  let words := words.reverse.toArray
  let number := fun w : List Char => (words.findIdx? (· = w)).getD 0
  let empty : Precedence := {
    words, waits := words.map fun _ => 0, behind := words.map fun _ => []
    isPrinted := words.map fun _ => false, links := words.map fun _ => none }
  (pairs list).foldl (fun p (a, b) => p.add (number a) (number b)) empty

/-- Prints words that wait for nothing, and then those that waited for them only. -/
def printFree : Nat → List Nat → Precedence → Precedence
  | 0, _, p => p
  | _, [], p => p
  | fuel + 1, n :: queue, p =>
    let p := { p with
      said := { text := p.word n ++ ['\n'] } :: p.said, isPrinted := p.isPrinted.setIfInBounds n true }
    let step := fun (state : Array Nat × List Nat) (next : Nat) =>
      let left := state.1.getD next 0 - 1
      (state.1.setIfInBounds next left, if left = 0 then next :: state.2 else state.2)
    let (waits, freed) := (p.behind.getD n []).foldl step (p.waits, [])
    printFree fuel (queue ++ freed.reverse) { p with waits }

/-- Names the words of a circle from its start on, until a word whose pair is taken away. -/
def nameCircle (last start : Nat) : Nat → Option Nat → Precedence → Precedence
  | 0, _, p => p
  | _, none, p => p
  | fuel + 1, some n, p =>
    let said : Saying := { isComplaint := true, text := "tsort: ".toList ++ p.word n ++ ['\n'] }
    let p := { p with said := said :: p.said }
    if n = last then
      { p with
        waits := p.waits.modify start (· - 1)
        behind := p.behind.modify last fun list => list.eraseP (· = start)
        links := p.links.map fun _ => none
        loop := none }
    else nameCircle last start fuel ((p.links.getD n none)) p

/-- Looks at a word on the search for a circle. The search ends with the first one. -/
def lookAt (p : Precedence) (n : Nat) : Precedence × Bool :=
  if p.waits.getD n 0 = 0 then (p, false)
  else
    match p.loop with
    | none => ({ p with loop := some n }, false)
    | some start =>
      if !(p.behind.getD n []).contains start then (p, false)
      else if (p.links.getD n none).isSome then
        (nameCircle n start (2 * p.words.size + 2) (some start) p, true)
      else ({ p with links := p.links.setIfInBounds n (some start), loop := some n }, false)

/-- Looks at all words until a circle is found. -/
def lookAtAll : List Nat → Precedence → Precedence
  | [], p => p
  | n :: rest, p =>
    match p.lookAt n with
    | (p, true) => p
    | (p, false) => lookAtAll rest p

/-- Looks at all words again and again until a circle is found. -/
def breakCircle : Nat → Precedence → Precedence
  | 0, p => p
  | fuel + 1, p =>
    let p := lookAtAll (List.range p.words.size) p
    if p.loop.isSome then breakCircle fuel p else p

def printAll (s : Setting) (name : List Char) : Nat → Precedence → Precedence
  | 0, p => p
  | fuel + 1, p =>
    let size := p.words.size
    let free := (List.range size).filter fun n =>
      p.waits.getD n 0 = 0 && !p.isPrinted.getD n true
    let p := printFree (size + 1) free p
    if p.isPrinted.all id then p
    else
      let said := s.complaint (name ++ ": input contains a loop:".toList)
      printAll s name fuel
        (breakCircle (size + 2) { p with said := said :: p.said, failed := true })

end Precedence

/-- The words of a text between blanks, tabs and line ends. -/
def spacedWords (text : List Char) : List (List Char) :=
  (text.splitOnP fun c => c = ' ' || c = '\t' || c = '\n').filter (· ≠ [])

/-- Prints words in an order that keeps to given pairs. -/
def tsort : Utility := withOptions {} 1 fun s o =>
  match o.operands with
  | _ :: extra :: _ => s.misused 1 ("extra operand ".toList ++ inMarks extra)
  | names =>
    let name := names.headD ['-']
    match s.read name with
    | .error .isDirectory => s.failing 1 (name ++ ": read error: Is a directory".toList)
    | .error reason => s.failing 1 (name ++ ": ".toList ++ reason.reason.toList)
    | .ok text =>
      let left := leftAfter names
      let words := spacedWords text
      if words.length % 2 = 1 then
        { s.failing 1 (name ++ ": input contains an odd number of tokens".toList) with left }
      else
        let p := Precedence.printAll s name (words.length + 2) (.ofWords words)
        { said := p.said.reverse, status := if p.failed then 1 else 0, left }

end BoardBind.Script
