/-! # Reading bytes as text

Source files are read with one character for each byte. What a tool prints is read as UTF-8,
where every ill-formed stretch becomes one replacement character.
-/

namespace BoardBind.Text

/-- Reads every byte as the character of that number. -/
def ofBytes (bytes : List UInt8) : List Char :=
  bytes.map fun b => Char.ofNat b.toNat

/-- Replaces every character outside ASCII by a question mark. -/
def toAscii (text : List Char) : List Char :=
  text.map fun c => if c.toNat < 128 then c else '?'

/-- The number of continuation bytes that the first byte of a character asks for, and the range
of the first of them. Bytes that start no character ask for nothing. -/
def continuation (b : Nat) : Option (Nat × Nat × Nat) :=
  if 0xc2 ≤ b ∧ b ≤ 0xdf then some (1, 0x80, 0xbf)
  else if b = 0xe0 then some (2, 0xa0, 0xbf)
  else if b = 0xed then some (2, 0x80, 0x9f)
  else if 0xe1 ≤ b ∧ b ≤ 0xef then some (2, 0x80, 0xbf)
  else if b = 0xf0 then some (3, 0x90, 0xbf)
  else if 0xf1 ≤ b ∧ b ≤ 0xf3 then some (3, 0x80, 0xbf)
  else if b = 0xf4 then some (3, 0x80, 0x8f)
  else none

/-- The character that replaces an ill-formed stretch. -/
def replacement : Char := '\ufffd'

/-- Takes up to `count` continuation bytes, the first of them between `low` and `high`. Returns
how many are still missing and the value together with the bits of those taken. -/
def takeContinuation : Nat → Nat → Nat → Nat → List UInt8 → Nat × Nat × List UInt8
  | 0, _, _, value, bytes => (0, value, bytes)
  | count + 1, _, _, value, [] => (count + 1, value, [])
  | count + 1, low, high, value, b :: bytes =>
    if low ≤ b.toNat ∧ b.toNat ≤ high then
      takeContinuation count 0x80 0xbf (64 * value + (b.toNat - 0x80)) bytes
    else (count + 1, value, b :: bytes)

/-- Taking continuation bytes never lengthens the input. -/
theorem length_takeContinuation_le (count low high value : Nat) (bytes : List UInt8) :
    (takeContinuation count low high value bytes).2.2.length ≤ bytes.length := by
  induction bytes generalizing count low high value with
  | nil => cases count <;> simp [takeContinuation]
  | cons b bytes ih =>
    cases count with
    | zero => simp [takeContinuation]
    | succ count =>
      simp only [takeContinuation]
      split
      · exact Nat.le_succ_of_le (ih ..)
      · exact Nat.le_refl _

/-- The payload bits of the first byte of a character of `count + 1` bytes. -/
def leadBits (count b : Nat) : Nat :=
  b % (64 >>> count)

/-- Reads UTF-8, replacing every longest ill-formed start of a character. -/
def ofUtf8Lossy : List UInt8 → List Char
  | [] => []
  | b :: bytes =>
    if b.toNat < 0x80 then Char.ofNat b.toNat :: ofUtf8Lossy bytes
    else
      match continuation b.toNat with
      | none => replacement :: ofUtf8Lossy bytes
      | some (count, low, high) =>
        let taken := takeContinuation count low high (leadBits count b.toNat) bytes
        (if taken.1 = 0 then Char.ofNat taken.2.1 else replacement) :: ofUtf8Lossy taken.2.2
termination_by bytes => bytes.length
decreasing_by
  · exact Nat.lt_succ_self _
  · exact Nat.lt_succ_self _
  · exact Nat.lt_succ_of_le (length_takeContinuation_le ..)

end BoardBind.Text
