/-! # Numbers written with decimals

A size is a fraction of natural numbers. It is written with a given number of decimals, or with a
given number of digits and a power of ten, each time as the nearest such number; of two that are
equally near the one with an even last digit counts.
-/

namespace BoardBind.Script.Decimal

/-- A fraction of natural numbers. -/
structure Size where
  numerator : Nat
  denominator : Nat

def tenTo : Nat → Nat
  | 0 => 1
  | n + 1 => 10 * tenTo n

/-- The natural number nearest to a quotient; a half goes to the even neighbour. -/
def roundDiv (a b : Nat) : Nat :=
  let quotient := a / b
  let twice := 2 * (a % b)
  if b < twice || (b = twice && quotient % 2 = 1) then quotient + 1 else quotient

def digits (n : Nat) : List Char := Nat.toDigits 10 n

namespace Size

def scaled (s : Size) : Int → Size
  | .ofNat n => { s with numerator := s.numerator * tenTo n }
  | .negSucc n => { s with denominator := s.denominator * tenTo (n + 1) }

def rounded (s : Size) : Nat :=
  roundDiv s.numerator s.denominator

/-- The digits with the given number of decimals behind a point, which is left out without
decimals unless it is asked for. -/
def fixed (s : Size) (places : Nat) (hasPoint : Bool) : List Char :=
  let all := digits (s.scaled places).rounded
  let all := List.replicate (places + 1 - all.length) '0' ++ all
  let whole := all.take (all.length - places)
  let decimals := all.drop (all.length - places)
  whole ++ (if places = 0 && !hasPoint then [] else ['.']) ++ decimals

/-- The power of ten of the first digit. -/
def magnitude (s : Size) : Int :=
  if s.numerator = 0 then 0
  else
    let guess : Int := (digits s.numerator).length - (digits s.denominator).length
    let atGuess := s.scaled (-guess)
    if atGuess.denominator ≤ atGuess.numerator then guess else guess - 1

/-- The nearest number with one digit and the given number of digits behind it: all digits as one
number, and the power of ten of the first. -/
def leading (s : Size) (places : Nat) : Nat × Int :=
  let power := s.magnitude
  let all := (s.scaled (places - power)).rounded
  if all < tenTo (places + 1) then (all, power) else (all / 10, power + 1)

/-- A power of ten with its sign and at least two digits. -/
def exponentText (mark : Char) (power : Int) : List Char :=
  let written := digits power.natAbs
  mark :: (if power < 0 then '-' else '+') :: List.replicate (2 - written.length) '0' ++ written

/-- One digit, the given number of decimals, and a power of ten. -/
def scientific (s : Size) (mark : Char) (places : Nat) (hasPoint : Bool) : List Char :=
  let (all, power) := s.leading places
  let all := digits all
  let all := List.replicate (places + 1 - all.length) '0' ++ all
  all.take 1 ++ (if places = 0 && !hasPoint then [] else ['.']) ++ all.drop 1 ++
    exponentText mark power

/-- A text without zeros at the end of its decimals, and without a point that is last then. -/
def withoutLastZeros (text : List Char) : List Char :=
  if !text.contains '.' then text
  else
    match text.reverse.dropWhile (· = '0') with
    | '.' :: rest => rest.reverse
    | rest => rest.reverse

/-- At most the given number of digits, with a power of ten if the first digit is far from the
point. Zeros at the end are left out unless they are asked for. -/
def general (s : Size) (mark : Char) (precision : Nat) (keepsZeros : Bool) : List Char :=
  let precision := max 1 precision
  let power := (s.leading (precision - 1)).2
  if power < -4 || (precision : Int) ≤ power then
    let all := s.scientific mark (precision - 1) keepsZeros
    if keepsZeros then all
    else
      withoutLastZeros (all.takeWhile (· ≠ mark)) ++ all.dropWhile (· ≠ mark)
  else
    let all := s.fixed (precision - 1 - power).toNat keepsZeros
    if keepsZeros then all else withoutLastZeros all

end Size

/-- What a floating-point number is: a size with a sign, or one of the values without a size. -/
inductive Exact where
  | finite (isNegative : Bool) (size : Size)
  | infinite (isNegative : Bool)
  | undefined (isNegative : Bool)

def Exact.ofFloat (x : Float) : Exact :=
  let bits := x.toBits.toNat
  let isNegative := bits / 9223372036854775808 = 1
  let exponent := bits / 4503599627370496 % 2048
  let fraction := bits % 4503599627370496
  if exponent = 2047 then (if fraction = 0 then .infinite isNegative else .undefined isNegative)
  else
    let significand := if exponent = 0 then fraction else 4503599627370496 + fraction
    let power := max exponent 1
    .finite isNegative
      (if 1075 ≤ power then ⟨significand <<< (power - 1075), 1⟩
        else ⟨significand, 1 <<< (1075 - power)⟩)

/-- Drops the start of a text if it is the given word, in whatever case. -/
def caseless? (word : String) (text : List Char) : Option (List Char) :=
  if (text.take word.length).map Char.toLower = word.toList then some (text.drop word.length)
  else none

/-- The digits at the start of a text with those behind a point, and how many these are. -/
def mantissa? (text : List Char) : Option (Nat × Nat × List Char) :=
  let value := fun digits : List Char =>
    digits.foldl (fun n c => 10 * n + (c.toNat - '0'.toNat)) 0
  let whole := text.takeWhile Char.isDigit
  let rest := text.drop whole.length
  match rest with
  | '.' :: more =>
    let decimals := more.takeWhile Char.isDigit
    if whole = [] && decimals = [] then none
    else some (value (whole ++ decimals), decimals.length, more.drop decimals.length)
  | _ => if whole = [] then none else some (value whole, 0, rest)

def exponent (text : List Char) : Int × List Char :=
  let read := fun (isNegative : Bool) (more : List Char) =>
    let written := more.takeWhile Char.isDigit
    if written = [] then (0, text)
    else
      let n := min 99999 ((written.dropWhile (· = '0')).take 6 |>.foldl
        (fun n c => 10 * n + (c.toNat - '0'.toNat)) 0)
      ((if isNegative then -(n : Int) else n), more.drop written.length)
  match text with
  | c :: '-' :: more => if c = 'e' || c = 'E' then read true more else (0, text)
  | c :: '+' :: more => if c = 'e' || c = 'E' then read false more else (0, text)
  | c :: more => if c = 'e' || c = 'E' then read false more else (0, text)
  | [] => (0, [])

/-- The floating-point number nearest to a natural number times a power of ten. -/
def nearest (m : Nat) (power : Int) : Float :=
  if m = 0 then 0
  else
    let first : Int := (digits m).length + power
    if 400 < first then 1.0 / 0.0
    else if first < -400 then 0
    else Float.ofScientific m (power < 0) power.natAbs

/-- The number at the start of a text without a sign, and what follows it. -/
def unsigned? (text : List Char) : Option (Float × List Char) :=
  match mantissa? text with
  | some (m, places, rest) =>
    let (power, rest) := exponent rest
    some (nearest m (power - places), rest)
  | none =>
    match caseless? "infinity" text, caseless? "inf" text, caseless? "nan" text with
    | some rest, _, _ => some (1.0 / 0.0, rest)
    | none, some rest, _ => some (1.0 / 0.0, rest)
    | none, none, some rest => some (0.0 / 0.0, rest)
    | none, none, none => none

def number? : List Char → Option (Float × List Char)
  | '-' :: rest => (unsigned? rest).map fun (x, rest) => (-x, rest)
  | '+' :: rest => unsigned? rest
  | text => unsigned? text

end BoardBind.Script.Decimal
