import BoardBind.Script.Builtin
import BoardBind.Script.Mode

/-! # What a process is given

The bits of modes that new files do not get, the limits of a process, and the time it has used.
-/

namespace BoardBind.Script

def maskUsers (letters : List Char) : Nat :=
  let bits := letters.foldl (fun bits c =>
    bits ||| (if c = 'a' then 0o111 else if c = 'u' then 0o100 else if c = 'g' then 0o010
      else 0o001)) 0
  if bits = 0 then 0o111 else bits

/-- The rights that letters mean, seen from those that are given now. -/
def maskRights (given : Nat) (letters : List Char) : Nat :=
  (letters.foldl (fun bits c =>
    bits ||| (match c with
      | 'r' => 4
      | 'w' => 2
      | 'x' => 1
      | 'u' => given >>> 6
      | 'g' => given >>> 3
      | 'o' => given
      | 'X' => if given &&& 0o111 ≠ 0 then 1 else 0
      | _ => 0)) 0) &&& 7

/-- The rights that clauses leave, given those that are there at the start and now. -/
def maskClauses (start : Nat) : Nat → Nat → Nat → List Char → Option Nat
  | 0, _, _, _ => none
  | _, _, given, [] => some given
  | fuel + 1, users, given, text =>
    let letters := text.takeWhile (· ∈ ['a', 'u', 'g', 'o'])
    let users := if letters = [] && users ≠ 0 then users else maskUsers letters
    match text.drop letters.length with
    | [] => some given
    | sign :: rest =>
      if sign ∉ ['=', '+', '-'] then none
      else
        let rights := rest.takeWhile (· ∈ ['r', 'w', 'x', 'u', 'g', 'o', 'X', 's'])
        let value := maskRights start rights * users
        let given := if sign = '+' then given ||| value
          else if sign = '-' then given &&& (0o777 ^^^ (value &&& 0o777))
          else value ||| (given &&& (0o777 ^^^ (users * 7)))
        match rest.drop rights.length with
        | [] => some given
        | ',' :: more => maskClauses start fuel 0 given more
        | more => maskClauses start fuel users given more

def shortRights (bits : Nat) : List Char :=
  (if bits &&& 4 ≠ 0 then ['r'] else []) ++ (if bits &&& 2 ≠ 0 then ['w'] else []) ++
    (if bits &&& 1 ≠ 0 then ['x'] else [])

def standardLimits : List (Char × String × String) :=
  [('t', "time(seconds)", "unlimited"), ('f', "file(blocks)", "unlimited"),
    ('d', "data(kbytes)", "unlimited"), ('s', "stack(kbytes)", "8192"),
    ('c', "coredump(blocks)", "0"), ('m', "memory(kbytes)", "unlimited"),
    ('l', "locked memory(kbytes)", "8192"), ('p', "process", "unlimited"),
    ('n', "nofiles", "1024"), ('v', "vmemory(kbytes)", "unlimited"), ('w', "locks", "unlimited"),
    ('r', "rtprio", "0")]

namespace State

/-- Sets the bits of modes that new files are not given. -/
def setMask (s : State) (text : List Char) : State :=
  let set := fun mask : Nat => { s with shell := { s.shell with mask, status := 0 } }
  if text.head?.any Char.isDigit then
    if text.all isModeDigit then set (Arithmetic.ofDigits 8 text &&& 0o777)
    else s.refuse ("Illegal number: ".toList ++ text)
  else
    let given := 0o777 ^^^ s.shell.mask
    match maskClauses given (text.length + 1) 0 given text with
    | some given => set (0o777 ^^^ (given &&& 0o777))
    | none => s.refuse ("Illegal mode: ".toList ++ text)

/-- Prints or sets the bits of modes that new files are not given. -/
def umask (s : State) (arguments : List (List Char)) : State :=
  let mask := s.shell.mask
  match arguments with
  | [] => s.printOrFail "umask" (octalText 4 mask ++ ['\n']) 0
  | ('-' :: c :: more) :: rest =>
    if (c :: more).all (· = 'S') then
      match rest with
      | [] =>
        let given := 0o777 ^^^ mask
        let text := "u=".toList ++ shortRights (given >>> 6) ++ ",g=".toList ++
          shortRights (given >>> 3) ++ ",o=".toList ++ shortRights given ++ ['\n']
        s.printOrFail "umask" text 0
      | text :: _ => s.setMask text
    else if c = '-' && more = [] then
      match rest with
      | [] => s.printOrFail "umask" (octalText 4 mask ++ ['\n']) 0
      | text :: _ => s.setMask text
    else s.refuse (unknownOption [((c :: more).find? (· ≠ 'S')).getD c])
  | text :: _ => s.setMask text

def limitValue (s : State) (letter : Char) : List Char :=
  (s.shell.limits.lookup letter).getD
    ((standardLimits.find? fun limit => limit.1 = letter).elim [] fun limit => limit.2.2.toList)

def setLimit (s : State) (letter : Char) (text : List Char) : State :=
  let put := fun value : List Char =>
    { s with shell := { s.shell with
        limits := (letter, value) :: s.shell.limits.filter fun l => l.1 ≠ letter, status := 0 } }
  let refused := s.refuse "error setting limit (Operation not permitted)".toList
  let old := natural? (s.limitValue letter)
  if text = "unlimited".toList then (if old.isNone then put text else refused)
  else
    match natural? text with
    | none => s.refuse "bad number".toList
    | some n => if old.any (· < n) then refused else put text

def ulimit (s : State) (arguments : List (List Char)) : State :=
  let options := arguments.takeWhile fun a => a.head? = some '-' && 1 < a.length
  let letters := options.flatMap List.tail
  let known := 'a' :: 'H' :: 'S' :: standardLimits.map (·.1)
  let letter := (letters.filter fun c => c ∉ ['H', 'S', 'a']).getLastD 'f'
  match letters.find? (· ∉ known), arguments.drop options.length with
  | some bad, _ => s.refuse (unknownOption [bad])
  | none, [] =>
    if letters.contains 'a' then
      s.printOrFail "ulimit" (standardLimits.flatMap fun (letter, name, _) =>
        name.toList ++ List.replicate (20 - name.length) ' ' ++ ' ' :: s.limitValue letter ++
          ['\n']) 0
    else s.printOrFail "ulimit" (s.limitValue letter ++ ['\n']) 0
  | none, [text] =>
    if letters.contains 'a' then s.refuse "too many arguments".toList else s.setLimit letter text
  | none, _ => s.refuse "too many arguments".toList

/-- Prints the time that the shell and its programs have used, which is next to none. -/
def times (s : State) : State :=
  let line := "0m0.000000s 0m0.000000s\n".toList
  s.printOrFail "times" (line ++ line) 0

end State

end BoardBind.Script
