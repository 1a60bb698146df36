/-! # Matching at the front of a text

Design sources are read with two classes: blanks, which are the characters with the White_Space
property, and word characters, which make up identifiers. Keywords and identifiers are compared
without regard to case, where the long s and the Kelvin sign count as variants of `s` and `k`.

Each matcher consumes something at the front of a text and returns what remains, or fails.
`search` tries a matcher at every position and takes the leftmost one where it succeeds.
-/

namespace BoardBind.Text

/-! ## Classes of characters -/

/-- The characters with the White_Space property. -/
def isBlank (c : Char) : Bool :=
  ('\t' ≤ c && c ≤ '\r') || c = ' ' || c = '\u0085' || c = '\u00a0' || c = '\u1680' ||
    ('\u2000' ≤ c && c ≤ '\u200a') || c = '\u2028' || c = '\u2029' || c = '\u202f' ||
    c = '\u205f' || c = '\u3000'

/-- The representative of a character among its case variants. -/
def caseKey (c : Char) : Char :=
  if c = '\u017f' then 's' else if c = '\u212a' then 'k' else c.toLower

/-- The characters of a word: letters in any case variant, digits and the underscore. -/
def isWordChar (c : Char) : Bool :=
  (caseKey c).isLower || c.isDigit || c = '_'

def trimStart (text : List Char) : List Char :=
  text.dropWhile isBlank

/-- Equality up to the case of ASCII letters. -/
def sameIgnoringCase (a b : String) : Bool :=
  a.toLower = b.toLower

/-! ## Matchers -/

/-- What remains behind the exact characters of `expected`. -/
def literal : List Char → List Char → Option (List Char)
  | [], text => some text
  | e :: expected, c :: text => if e = c then literal expected text else none
  | _ :: _, [] => none

/-- What remains behind the characters of `expected`, each in any case variant. -/
def caseless : List Char → List Char → Option (List Char)
  | [], text => some text
  | e :: expected, c :: text => if caseKey e = caseKey c then caseless expected text else none
  | _ :: _, [] => none

/-- What remains behind a run of at least one blank. -/
def blanks : List Char → Option (List Char)
  | c :: text => if isBlank c then some (trimStart text) else none
  | [] => none

/-- The longest run of characters of a class at the front, which must not be empty, and what
remains behind it. -/
def run (inClass : Char → Bool) (text : List Char) : Option (List Char × List Char) :=
  match text.takeWhile inClass with
  | [] => none
  | c :: found => some (c :: found, text.dropWhile inClass)

def word (text : List Char) : Option (List Char × List Char) :=
  run isWordChar text

/-- The result of `matcher` at the leftmost position where it succeeds. -/
def search {α : Type} (matcher : List Char → Option α) : List Char → Option α
  | [] => matcher []
  | c :: text => (matcher (c :: text)).or (search matcher text)

/-- The characters before the first occurrence of `mark`, or the whole text without one. -/
def before (mark : List Char) : List Char → List Char
  | [] => []
  | c :: text => if (literal mark (c :: text)).isSome then [] else c :: before mark text

/-! ## Numbers written in decimal

Bounds and widths are 64-bit words. A written number is a run of ASCII digits, with any leading
zeros, whose value fits the word.
-/

/-- The value of a run of digits, behind digits of value `upper`. -/
def digitsValue (digits : List Char) (upper : Nat) : Nat :=
  digits.foldl (fun value c => 10 * value + (c.toNat - '0'.toNat)) upper

def word64? (digits : List Char) : Option UInt64 :=
  if digits ≠ [] ∧ digits.all Char.isDigit ∧ digitsValue digits 0 < UInt64.size then
    some (UInt64.ofNat (digitsValue digits 0))
  else none

/-- Reads a word that may carry a plus sign. -/
def signedWord64? : List Char → Option UInt64
  | '+' :: digits => word64? digits
  | digits => word64? digits

end BoardBind.Text
