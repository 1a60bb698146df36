import BoardBind.Script.Format
import Std.Data.HashMap

/-! # Values and arrays of programs for records

A value is a number or a text. What comes from the input is a text that counts as a number if it
looks like one; a variable that was never set is both zero and empty.

An array has values by their keys. A loop over an array meets the keys in the order of a table: a
key is kept in the list of a bucket that a number computed from its characters chooses, and one that
was used last is the first of its list. Whole numbers are kept in lists of their own until their
texts are needed.
-/

namespace BoardBind.Script.Awk

/-! ## Values of programs for records -/

inductive Value where
  | unset
  | number (x : Float)
  | text (t : List Char)
  /-- A text from the input. -/
  | input (t : List Char)

/-- The number at the start of a text in base sixteen. -/
def hexNumber? (text : List Char) : Option Float :=
  let (isNegative, rest) := match text with
    | '-' :: rest => (true, rest)
    | '+' :: rest => (false, rest)
    | rest => (false, rest)
  match rest with
  | '0' :: x :: digits =>
    let digits := digits.takeWhile isHexDigit
    if (x = 'x' || x = 'X') && digits ≠ [] then
      let size := Float.ofNat (hexValue digits)
      some (if isNegative then -size else size)
    else none
  | _ => none

def leadingNumber (text : List Char) : Float :=
  let text := text.dropWhile Arithmetic.isBlankChar
  match hexNumber? text, Decimal.number? text with
  | some x, _ => x
  | none, some (x, _) => x
  | none, none => 0

def wholeNumber? (text : List Char) : Option Float :=
  let inner := text.dropWhile Arithmetic.isBlankChar
  let startsNumber := (inner.dropWhile fun c => c = '+' || c = '-').head?.any fun c =>
    c.isDigit || c = '.'
  if !startsNumber then none
  else
    match Decimal.number? inner with
    | some (x, rest) => if rest.all Arithmetic.isBlankChar then some x else none
    | none => none

/-- The number of nearly 2 to the power of 63, as a size. -/
def longSize : Float := 9223372036854775808.0

/-- The whole number that is left when the decimals of a number are cut off. -/
def truncated (x : Float) : Int :=
  match Decimal.Exact.ofFloat x with
  | .finite isNegative size =>
    let n : Nat := size.numerator / size.denominator
    if isNegative then -(n : Int) else n
  | .infinite isNegative => if isNegative then -9223372036854775807 else 18446744073709551615
  | .undefined _ => -9223372036854775808

def isWhole (x : Float) : Bool :=
  match Decimal.Exact.ofFloat x with
  | .finite _ size => size.numerator % size.denominator = 0
  | _ => false

/-- The text of a whole number, if it is not too large. -/
def wholeText? (x : Float) : Option (List Char) :=
  if isWhole x && -longSize ≤ x && x ≤ 2 * longSize then
    let n := truncated x
    some (toString (min n 18446744073709551615)).toList
  else none

/-- A number as a directive for numbers with decimals shows it. What is no number is negative. -/
def shownReal (layout : Layout) (c : Char) (x : Float) : List Char :=
  if x.isNaN then layout.pad (if c.isUpper then "-NAN".toList else "-nan".toList)
  else layout.real c x

/-- A number laid out by a format for a single number. -/
def formatted (format : List Char) (x : Float) : List Char :=
  match format.dropWhile (· ≠ '%') with
  | [] => format
  | _ :: rest =>
    let before := format.takeWhile (· ≠ '%')
    let flags := rest.takeWhile (· ∈ ['#', '-', '+', ' ', '0'])
    let sized := rest.drop flags.length
    let width := sized.takeWhile Char.isDigit
    let after := sized.drop width.length
    let places := (after.drop 1).takeWhile Char.isDigit
    let isPrecise := after.head? = some '.'
    let last := if isPrecise then after.drop (places.length + 1) else after
    let layout : Layout := {
      flags, width := Arithmetic.ofDigits 10 width
      precision := if isPrecise then some (Arithmetic.ofDigits 10 places) else none }
    match last with
    | c :: behind =>
      let shown := if c = 'd' || c = 'i' then layout.signed (truncated x)
        else shownReal layout c x
      before ++ shown ++ behind
    | [] => format

/-- The text of a number; a format is used for those that are not whole. -/
def numberText (format : List Char) (x : Float) : List Char :=
  (wholeText? x).getD (formatted format x)

namespace Value

def toNumber : Value → Float
  | .unset => 0
  | .number x => x
  | .text t => leadingNumber t
  | .input t => leadingNumber t

def toText (format : List Char) : Value → List Char
  | .unset => []
  | .number x => numberText format x
  | .text t => t
  | .input t => t

def numeric? : Value → Option Float
  | .unset => some 0
  | .number x => some x
  | .text _ => none
  | .input t => wholeNumber? t

def holds : Value → Bool
  | .unset => false
  | .number x => x != 0
  | .text t => t ≠ []
  | .input t =>
    match wholeNumber? t with
    | some x => x != 0
    | none => t ≠ []

def ofBool (b : Bool) : Value :=
  .number (if b then 1 else 0)

end Value

/-! ## Arrays of programs for records -/

/-- A key: a whole number or a text. -/
inductive Key where
  | whole (n : Int)
  | text (t : List Char)

def Key.toText : Key → List Char
  | .whole n => (toString n).toList
  | .text t => t

def Key.name (key : Key) : String := String.ofList key.toText

/-- An array. -/
structure Table where
  values : Std.HashMap String Value := {}
  /-- The number of buckets is one more. -/
  mask : Nat := 63
  /-- The texts in each bucket. -/
  texts : Array (List (List Char)) := Array.replicate 64 []
  /-- The whole numbers in each bucket. -/
  wholes : Array (List Int) := Array.replicate 64 []
  /-- Whether all keys are kept by their texts. -/
  hasTexts : Bool := false
  /-- The number of values that were put in one after the other, if only these are there. -/
  series : Option Nat := none

def bucketNumber (text : List Char) : Nat :=
  text.foldl (fun h c => (h ^^^ c.toNat) * 16777619 % 4294967296) 2166136261

/-- The greatest average number of keys in a bucket. -/
def averageLimit : Nat := 12

namespace Table

def size (t : Table) : Nat := t.values.size

def textBucket (t : Table) (text : List Char) : Nat :=
  bucketNumber text % (t.mask + 1)

def wholeBucket (t : Table) (n : Int) : Nat :=
  (n % (t.mask + 1)).toNat

def frontText (t : Table) (text : List Char) : Table :=
  { t with
    texts := t.texts.modify (t.textBucket text) fun list =>
      text :: list.filter (· ≠ text) }

def frontWhole (t : Table) (n : Int) : Table :=
  { t with
    wholes := t.wholes.modify (t.wholeBucket n) fun list => n :: list.filter (· ≠ n) }

/-- The number of buckets less one that some values need. -/
def maskFor : Nat → Nat → Nat → Nat
  | 0, mask, _ => mask
  | fuel + 1, mask, size =>
    if (mask + 1) * averageLimit < size then maskFor fuel (2 * mask + 1) size else mask

/-- An array whose values were put in one after the other, as one with buckets. -/
def spread (t : Table) : Table :=
  match t.series with
  | none => t
  | some count =>
    let mask := maskFor 32 63 count
    let empty : Table := {
      values := t.values, mask
      texts := Array.replicate (mask + 1) [], wholes := Array.replicate (mask + 1) [] }
    (List.range count).foldl (fun t n => t.frontWhole (n + 1 : Nat)) empty

/-- An array that keeps all keys by their texts. -/
def named (t : Table) : Table :=
  if t.hasTexts then t
  else
    let t := t.spread
    let added := t.wholes.toList.flatten.foldl (fun t n => t.frontText (Key.whole n).toText) t
    { added with hasTexts := true }

/-- An array with twice as many buckets. -/
def doubled (t : Table) : Table :=
  let mask := 2 * t.mask + 1
  let half := t.mask + 1
  let split := fun {α : Type} (lists : Array (List α)) (number : α → Nat) =>
    let kept := lists.map fun list => list.filter fun x => number x % (mask + 1) < half
    let moved := lists.map fun list => list.filter fun x => half ≤ number x % (mask + 1)
    kept ++ moved
  { t with
    mask
    texts := split t.texts bucketNumber
    wholes := split t.wholes fun n => (n % ((mask : Int) + 1)).toNat }

def grown (t : Table) : Table :=
  if (t.mask + 1) * averageLimit < t.size + 1 then t.doubled else t

def has (t : Table) (key : Key) : Bool :=
  t.values.contains key.name

/-- Uses a key that is there, or that is about to be put in. -/
def touched (t : Table) (key : Key) : Table :=
  let isNew := !t.has key
  match key with
  | .whole n =>
    match t.series with
    | some count =>
      if 1 ≤ n && n ≤ count then t
      else
        let t := t.spread
        (if isNew then t.grown else t).frontWhole n
    | none =>
      if (t.wholes.getD (t.wholeBucket n) []).contains n then t.frontWhole n
      else
        let t := if isNew then t.grown else t
        let t := if t.hasTexts then t.frontText key.toText else t
        t.frontWhole n
  | .text text =>
    let t := t.named
    (if isNew then t.grown else t).frontText text

def get (t : Table) (key : Key) : Value × Table :=
  match t.values[key.name]? with
  | some value => (value, t.touched key)
  | none =>
    let touched := t.touched key
    (.unset, { touched with values := touched.values.insert key.name .unset })

def put (t : Table) (key : Key) (value : Value) : Table :=
  let touched := t.touched key
  { touched with values := touched.values.insert key.name value }

def find (t : Table) (key : Key) : Bool × Table :=
  if t.has key then (true, t.touched key)
  else
    match key with
    | .text _ => (false, t.named)
    | .whole _ => (false, t)

def erase (t : Table) (key : Key) : Table :=
  if !t.has key then t
  else
    let text := key.toText
    let t := t.touched key
    let t := t.spread
    { t with
      values := t.values.erase key.name
      texts := t.texts.modify (t.textBucket text) fun list => list.filter (· ≠ text)
      wholes := t.wholes.map fun list => list.filter fun n => (Key.whole n).toText ≠ text }

/-- The keys in the order in which a loop meets them. -/
def keys (t : Table) : List (List Char) × Table :=
  let t := t.named
  (t.texts.toList.flatten, t)

/-- An array of values one after the other, counted from one. -/
def ofList (items : List Value) : Table where
  values := .ofList (items.zipIdx.map fun (value, n) => (toString (n + 1), value))
  series := some items.length

end Table

end BoardBind.Script.Awk
