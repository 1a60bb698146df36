import BoardBind.Script.Precedence

/-! # Prime factors

The prime factors of a number. Small ones are found by division. For what is left after that it is
tested whether it is prime, and else a sequence of remainders that must come back to itself shows
one of its divisors.
-/

namespace BoardBind.Script

/-- A power of a number, less the multiples of another one. The first number bounds the digits of
the exponent. -/
def powerRemainder (modulus : Nat) : Nat → Nat → Nat → Nat
  | 0, _, _ => 1 % modulus
  | fuel + 1, base, exponent =>
    if exponent = 0 then 1 % modulus
    else
      let half := powerRemainder modulus fuel (base * base % modulus) (exponent / 2)
      if exponent % 2 = 1 then half * base % modulus else half

/-- How often a number can be halved, and what is left then. -/
def halvings : Nat → Nat → Nat × Nat
  | 0, n => (0, n)
  | fuel + 1, n =>
    if n % 2 = 1 || n = 0 then (0, n)
    else
      let (count, odd) := halvings fuel (n / 2)
      (count + 1, odd)

/-- Whether one of some squares after each other is one less than a number. -/
def reachesMinusOne (n : Nat) : Nat → Nat → Bool
  | 0, _ => false
  | count + 1, x => x = n - 1 || reachesMinusOne n count (x * x % n)

/-- Whether a base shows nothing against it that an odd number is prime. -/
def passesBase (n base : Nat) : Bool :=
  let (count, odd) := halvings n.log2.succ (n - 1)
  let x := powerRemainder n n.log2.succ (base % n) odd
  base % n = 0 || x = 1 || reachesMinusOne n count x

/-- The bases that tell primes from other numbers of any usual size. -/
def testBases : List Nat := [2, 3, 5, 7, 11, 13, 17, 19, 23, 29, 31, 37, 41]

def seemsPrime (n : Nat) : Bool :=
  n % 2 = 1 && testBases.all (passesBase n)

/-- A divisor that a sequence of remainders shows where it meets itself at half the speed. -/
def meetingDivisor? (n step : Nat) : Nat → Nat → Nat → Option Nat
  | 0, _, _ => none
  | fuel + 1, slow, fast =>
    let next := fun x : Nat => (x * x + step) % n
    let slow := next slow
    let fast := next (next fast)
    let d := Nat.gcd (if slow < fast then fast - slow else slow - fast) n
    if d = n then none else if d = 1 then meetingDivisor? n step fuel slow fast else some d

/-- The prime factors of a number without small ones. -/
def largeFactors : Nat → Nat → List Nat
  | 0, n => [n]
  | fuel + 1, n =>
    if n ≤ 1 then []
    else if seemsPrime n then [n]
    else
      match (List.range 4).findSome? fun k => meetingDivisor? n (k + 1) 200000 2 2 with
      | some d => largeFactors fuel d ++ largeFactors fuel (n / d)
      | none => [n]

/-- Takes small factors out of a number, and hands back what is left. -/
def smallFactors : Nat → Nat → Nat → List Nat × Nat
  | 0, _, n => ([], n)
  | fuel + 1, d, n =>
    if n < d * d then ([], n)
    else if n % d = 0 then
      let (more, rest) := smallFactors fuel d (n / d)
      (d :: more, rest)
    else smallFactors fuel (if d = 2 then 3 else d + 2) n

def primeFactors (n : Nat) : List Nat :=
  let (small, rest) := smallFactors (1024 + n.log2) 2 n
  small ++ (largeFactors n.log2.succ rest).mergeSort (· ≤ ·)

/-- Equal neighbours in a list, each with how often it comes. -/
def runLengths (list : List Nat) : List (Nat × Nat) :=
  (list.foldl (fun (runs : List (Nat × Nat)) n =>
    match runs with
    | (last, count) :: more =>
      if last = n then (last, count + 1) :: more else (n, 1) :: runs
    | [] => [(n, 1)]) []).reverse

def factorLine (asPowers : Bool) (n : Nat) : List Char :=
  let factors := if n = 0 then [] else primeFactors n
  let shown := if asPowers then
      (runLengths factors).map fun (factor, count) =>
        decimal factor ++ if count = 1 then [] else '^' :: decimal count
    else factors.map decimal
  decimal n ++ ':' :: (shown.flatMap fun text => ' ' :: text) ++ ['\n']

/-- What is said about a text that should be a number. -/
def factorSaying (s : Setting) (asPowers : Bool) (text : List Char) : Saying :=
  let digits := text.dropWhile (· = ' ')
  let digits := if digits.head? = some '+' then digits.tail else digits
  match natural? digits with
  | some n => { text := factorLine asPowers n }
  | none => s.complaint (inMarks text ++ " is not a valid positive integer".toList)

/-- Prints the prime factors of numbers. Complaints come first, as lines are held back. -/
def factor : Utility := withOptions
    { plain := "h!", words := [("exponents", 'h'), ("debug", '!')] } 1 fun s o =>
  let texts := if o.operands = [] then spacedWords s.input.text else o.operands
  let said := texts.map (factorSaying s (o.has 'h'))
  let (complaints, lines) := said.partition (·.isComplaint)
  { said := complaints ++ lines, status := if said.any (·.isComplaint) then 1 else 0, left := leftAfter o.operands }

end BoardBind.Script
