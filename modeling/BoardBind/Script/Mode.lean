import BoardBind.Script.Options

/-! # Modes of files

A mode says who may do what with a file. It is given as an octal number, or by clauses that change
the mode that is there: whose rights, whether they are given, taken or set, and which ones.
-/

namespace BoardBind.Script

/-- What a clause does with rights. -/
inductive ModeSign where
  | set
  | give
  | take
  deriving DecidableEq

/-- Which rights a clause means. -/
inductive ModeRights where
  | fixed (bits : Nat)
  /-- Those that a part of the mode has now. -/
  | copied (bits : Nat)
  /-- Fixed ones, and the right to run what can be run already, or is a directory. -/
  | running (bits : Nat)
  deriving DecidableEq

/-- A clause that changes a mode. -/
structure ModeChange where
  sign : ModeSign
  rights : ModeRights
  /-- Whose rights are changed; none means everybody's that new files are given. -/
  affected : Option Nat := none
  /-- The rights that are named, which are changed for directories too. -/
  mentioned : Nat

def modeBits : Nat := 0o7777

/-- The bits of a mode that are not among the given ones. -/
def withoutBits (mode bits : Nat) : Nat :=
  mode &&& (modeBits ^^^ (bits &&& modeBits))

def modeSign? : Char → Option ModeSign
  | '=' => some .set
  | '+' => some .give
  | '-' => some .take
  | _ => none

def userBits? : Char → Option Nat
  | 'u' => some 0o4700
  | 'g' => some 0o2070
  | 'o' => some 0o1007
  | 'a' => some modeBits
  | _ => none

def rightBits? : Char → Option Nat
  | 'r' => some 0o444
  | 'w' => some 0o222
  | 'x' => some 0o111
  | 's' => some 0o6000
  | 't' => some 0o1000
  | 'X' => some 0
  | _ => none

def isModeDigit (c : Char) : Bool :=
  '0' ≤ c && c ≤ '7'

/-- The mode that octal digits mean, unless it is too great. -/
def octalMode? (digits : List Char) : Option Nat :=
  let n := Arithmetic.ofDigits 8 digits
  if digits ≠ [] && digits.all isModeDigit && n ≤ modeBits then some n else none

/-- The changes behind the users of a clause: signs, each with rights. -/
def modeActions (affected : Option Nat) : Nat → List Char → Option (List ModeChange)
  | 0, _ => none
  | _, [] => some []
  | fuel + 1, c :: rest => do
    let sign ← modeSign? c
    match rest with
    | d :: more =>
      if isModeDigit d then
        let mode ← octalMode? rest
        return [{ sign, rights := .fixed mode, affected := some modeBits, mentioned := modeBits }]
      else if d ∈ ['u', 'g', 'o'] then
        let bits := if d = 'u' then 0o700 else if d = 'g' then 0o070 else 0o007
        let mentioned := affected.elim bits (· &&& bits)
        return { sign, rights := .copied bits, affected, mentioned } ::
          (← modeActions affected fuel more)
      else
        let letters := rest.takeWhile fun c => (rightBits? c).isSome
        let bits := letters.foldl (fun bits c => bits ||| (rightBits? c).getD 0) 0
        let rights := if letters.contains 'X' then .running bits else .fixed bits
        let mentioned := affected.elim bits (· &&& bits)
        return { sign, rights, affected, mentioned } ::
          (← modeActions affected fuel (rest.drop letters.length))
    | [] => return [{ sign, rights := .fixed 0, affected, mentioned := 0 }]

def modeClause (clause : List Char) : Option (List ModeChange) :=
  let users := clause.takeWhile fun c => (userBits? c).isSome
  let affected := users.foldl (fun bits c => bits ||| (userBits? c).getD 0) 0
  let actions := clause.drop users.length
  if actions = [] then none
  else modeActions (if users = [] then none else some affected) actions.length.succ actions

def modeChanges? (text : List Char) : Option (List ModeChange) :=
  if text.head?.any isModeDigit then
    (octalMode? text).map fun mode =>
      let mentioned := if text.length < 5 then (mode &&& 0o6000) ||| 0o1777 else modeBits
      [{ sign := .set, rights := .fixed mode, affected := some modeBits, mentioned }]
  else ((text.splitOn ',').mapM modeClause).map List.flatten

/-- All rights that some of the bits of a mode stand for, for everybody. -/
def spreadRights (bits : Nat) : Nat :=
  (if bits &&& 0o444 = 0 then 0 else 0o444) ||| (if bits &&& 0o222 = 0 then 0 else 0o222) |||
    (if bits &&& 0o111 = 0 then 0 else 0o111)

def ModeChange.apply (change : ModeChange) (mask : Nat) (isDirectory : Bool) (mode : Nat) : Nat :=
  let omitted := if isDirectory then withoutBits 0o6000 change.mentioned else 0
  let value := match change.rights with
    | .fixed bits => bits
    | .copied bits => spreadRights (mode &&& bits)
    | .running bits => if isDirectory || mode &&& 0o111 ≠ 0 then bits ||| 0o111 else bits
  let allowed := withoutBits (change.affected.getD (withoutBits modeBits mask)) omitted
  let value := value &&& allowed
  match change.sign with
  | .give => mode ||| value
  | .take => withoutBits mode value
  | .set =>
    let kept := (change.affected.elim 0 (withoutBits modeBits)) ||| omitted
    (mode &&& kept) ||| value

def applyChanges (changes : List ModeChange) (mask : Nat) (isDirectory : Bool) (mode : Nat) : Nat :=
  changes.foldl (fun mode change => change.apply mask isDirectory mode) mode

def octalText (width mode : Nat) : List Char :=
  let digits := Nat.toDigits 8 mode
  List.replicate (width - digits.length) '0' ++ digits

/-- The letters of three bits of a mode; a special bit changes the last one. -/
def rightLetters (bits : Nat) (isSpecial : Bool) (special : Char) : List Char :=
  let runs := bits &&& 1 ≠ 0
  [if bits &&& 4 ≠ 0 then 'r' else '-', if bits &&& 2 ≠ 0 then 'w' else '-',
    if isSpecial then (if runs then special else special.toUpper) else if runs then 'x' else '-']

def modeLetters (mode : Nat) : List Char :=
  rightLetters (mode >>> 6 &&& 7) (mode &&& 0o4000 ≠ 0) 's' ++
    rightLetters (mode >>> 3 &&& 7) (mode &&& 0o2000 ≠ 0) 's' ++
    rightLetters (mode &&& 7) (mode &&& 0o1000 ≠ 0) 't'

def kindLetter (machine : Machine) (place : Place) : Node → Char
  | .directory => 'd'
  | .link _ => 'l'
  | .file .. => if machine.isDevice place then 'c' else '-'

end BoardBind.Script
