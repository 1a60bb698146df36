import BoardBind.Text.Encoding
import Mathlib.Data.List.Basic
import Mathlib.Tactic.Common

/-! # Characters and bytes

A text of ASCII characters is written with one byte for each character, and reading these bytes
one by one gives it back. Replacing the other characters leaves the ASCII characters of a text
where they are.
-/

namespace BoardBind.Text

/-- Every character has a number below 128. -/
def IsAscii (text : List Char) : Prop :=
  ∀ c ∈ text, c.toNat < 128

instance (text : List Char) : Decidable (IsAscii text) :=
  List.decidableBAll (fun c : Char => c.toNat < 128) text

variable {text expected : List Char} {c : Char}

theorem ofNat_toNat_injective : Function.Injective fun b : UInt8 => Char.ofNat b.toNat := by
  intro a b same
  have number (b : UInt8) : (Char.ofNat b.toNat).toNat = b.toNat := by
    have valid : b.toNat.isValidChar := .inl (Nat.lt_trans b.toNat_lt (by decide))
    rw [Char.ofNat, dif_pos valid]
    rfl
  rw [← UInt8.toNat_inj, ← number a, ← number b]
  exact congrArg Char.toNat same

/-- What holds of the first characters by number holds of each of them. -/
theorem forall_of_toNat_lt {bound : Nat} (holds : Char → Prop)
    (numbers : ∀ number < bound, holds (Char.ofNat number)) (small : c.toNat < bound) : holds c := by
  have atNumber := numbers c.toNat small
  rwa [Char.ofNat_toNat] at atNumber

theorem byteArray_toList_loop (b : ByteArray) (i : Nat) (read : List UInt8) :
    ByteArray.toList.loop b i read = read.reverse ++ b.data.toList.drop i := by
  induction i, read using ByteArray.toList.loop.induct b with
  | case1 i read inside ih =>
    have bound : i < b.data.toList.length := by simpa using inside
    have entry : b.get! i = b.data.toList[i] := getElem!_pos b.data i inside
    rw [ByteArray.toList.loop, if_pos inside, ih, List.drop_eq_getElem_cons bound, entry,
      List.reverse_cons, List.append_assoc, List.singleton_append]
  | case2 i read outside =>
    have bound : b.data.toList.length ≤ i := by simpa using outside
    rw [ByteArray.toList.loop, if_neg outside, List.drop_eq_nil_of_le bound, List.append_nil]

/-- The bytes that a string is written with. -/
theorem toUTF8_toList (s : String) : s.toUTF8.toList = s.toList.flatMap String.utf8EncodeChar := by
  have written := String.toByteArray_ofList (l := s.toList)
  rw [String.ofList_toList] at written
  rw [String.toUTF8_eq_toByteArray, written, List.utf8Encode, ByteArray.toList,
    byteArray_toList_loop, List.toList_data_toByteArray]
  rfl

theorem ofBytes_utf8EncodeChar (ascii : c.toNat < 128) : ofBytes (String.utf8EncodeChar c) = [c] := by
  have small : c.utf8Size = 1 := Char.utf8Size_eq_one_iff.mpr (UInt32.le_iff_toNat_le.mpr
    (Nat.le_of_lt_succ ascii))
  have byte : c.val.toUInt8.toNat = c.toNat := by
    rw [UInt32.toNat_toUInt8]
    exact Nat.mod_eq_of_lt (Nat.lt_trans ascii (by decide))
  rw [String.utf8EncodeChar_eq_singleton small, ofBytes, List.map_singleton, byte,
    Char.ofNat_toNat]

/-- A written text of ASCII characters is read back. -/
theorem ofBytes_toUTF8 {s : String} (ascii : IsAscii s.toList) :
    ofBytes s.toUTF8.toList = s.toList := by
  rw [toUTF8_toList]
  generalize s.toList = text at ascii
  induction text with
  | nil => rfl
  | cons c rest ih =>
    obtain ⟨first, later⟩ := List.forall_mem_cons.mp ascii
    have split : ofBytes (String.utf8EncodeChar c ++ rest.flatMap String.utf8EncodeChar) =
        ofBytes (String.utf8EncodeChar c) ++ ofBytes (rest.flatMap String.utf8EncodeChar) :=
      List.map_append
    rw [List.flatMap_cons, split, ofBytes_utf8EncodeChar first, ih later, List.singleton_append]

theorem isAscii_toAscii (text : List Char) : IsAscii (toAscii text) := by
  intro c member
  obtain ⟨original, -, rfl⟩ := List.mem_map.mp member
  split
  · assumption
  · decide

theorem toAscii_eq_self (ascii : IsAscii text) : toAscii text = text := by
  have fixed : ∀ c ∈ text, (if c.toNat < 128 then c else '?') = id c := fun c member =>
    if_pos (ascii c member)
  rw [toAscii, List.map_congr_left fixed, List.map_id]

/-- Characters other than the question mark were there before the replacement. -/
theorem eq_of_replaced_eq {expected : Char} (kept : expected ≠ '?')
    (same : (if c.toNat < 128 then c else '?') = expected) : c = expected := by
  split at same
  · exact same
  · exact absurd same.symm kept

/-- What a text starts with after the replacement, it started with before. -/
theorem prefix_of_prefix_toAscii (kept : '?' ∉ expected) (start : expected <+: toAscii text) :
    expected <+: text := by
  induction expected generalizing text with
  | nil => exact List.nil_prefix
  | cons e expected ih =>
    rw [List.mem_cons, not_or] at kept
    cases text with
    | nil => simp [toAscii] at start
    | cons c text =>
      rw [toAscii, List.map_cons, List.cons_prefix_cons] at start
      obtain rfl := eq_of_replaced_eq (Ne.symm kept.1) start.1.symm
      exact List.cons_prefix_cons.mpr ⟨rfl, ih kept.2 start.2⟩

theorem getLast?_toAscii_ne (settled : text.getLast? ≠ some '\r') :
    (toAscii text).getLast? ≠ some '\r' := by
  rw [toAscii, List.getLast?_map]
  intro returned
  obtain ⟨c, last, replaced⟩ := Option.map_eq_some_iff.mp returned
  exact settled (eq_of_replaced_eq (by decide) replaced ▸ last)

theorem newline_notMem_toAscii (plain : '\n' ∉ text) : '\n' ∉ toAscii text := by
  intro newline
  obtain ⟨c, member, replaced⟩ := List.mem_map.mp newline
  exact plain (eq_of_replaced_eq (by decide) replaced ▸ member)

end BoardBind.Text
