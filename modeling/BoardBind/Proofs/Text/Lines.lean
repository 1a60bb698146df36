import BoardBind.Proofs.Text.Encoding
import BoardBind.Text.Lines
import Mathlib.Data.List.Basic

/-! # Reading lines back

Lines written with a newline behind each are read back as they were, but for a carriage return
at their end. Which lines end in one depends on where carriage returns stand in the text.

A line that a newline closes stands in its file with all of its characters, a carriage return before
the newline included. A text is written as UTF-8 and read byte by byte: a character outside ASCII is
read as several, none of which is a newline. So what is read from a text that was written line by line
is told line by line.
-/

namespace BoardBind.Text

variable {text piece line : List Char}

theorem chomp_eq_self (open_ : line.getLast? ≠ some '\r') : chomp line = line :=
  if_neg open_

theorem chomp_concat_return : chomp (line ++ ['\r']) = line := by
  rw [chomp, List.getLast?_concat, if_pos rfl, List.dropLast_concat]

theorem chomp_prefix_self : chomp line <+: line := by
  unfold chomp
  split
  · exact List.dropLast_prefix line
  · exact List.prefix_rfl

/-- Only a line that ends in two carriage returns is left with one. -/
theorem eq_append_of_getLast?_chomp (returned : (chomp line).getLast? = some '\r') :
    ∃ rest, line = rest ++ ['\r', '\r'] := by
  by_cases ends : line.getLast? = some '\r'
  · obtain ⟨init, rfl⟩ := List.getLast?_eq_some_iff.mp ends
    rw [chomp_concat_return] at returned
    obtain ⟨rest, rfl⟩ := List.getLast?_eq_some_iff.mp returned
    exact ⟨rest, by simp⟩
  · rw [chomp_eq_self ends] at returned
    exact absurd returned ends

/-- A text has no characters, or is one line without a newline, or starts with a closed line. -/
@[elab_as_elim]
theorem lineInduction {motive : List Char → Prop} (empty : motive [])
    (unclosed : ∀ piece, piece ≠ [] → '\n' ∉ piece → motive piece)
    (closed : ∀ piece rest, '\n' ∉ piece → motive rest → motive (piece ++ '\n' :: rest))
    (text : List Char) : motive text := by
  induction size : text.length using Nat.strongRecOn generalizing text with
  | ind n ih =>
    by_cases newline : '\n' ∈ text
    · obtain ⟨piece, rest, rfl, plain⟩ := List.eq_append_cons_of_mem newline
      refine closed piece rest plain (ih rest.length ?_ rest rfl)
      rw [← size, List.length_append, List.length_cons]
      omega
    · by_cases nonempty : text = []
      · exact nonempty ▸ empty
      · exact unclosed text nonempty newline

theorem splitNewlines_of_not_mem (plain : '\n' ∉ piece) : splitNewlines piece = (piece, []) := by
  induction piece with
  | nil => rfl
  | cons c rest ih =>
    rw [List.mem_cons, not_or] at plain
    rw [splitNewlines, ih plain.2]
    exact if_neg (Ne.symm plain.1)

theorem splitNewlines_append_newline (plain : '\n' ∉ piece) (rest : List Char) :
    splitNewlines (piece ++ '\n' :: rest) =
      (piece, (splitNewlines rest).1 :: (splitNewlines rest).2) := by
  induction piece with
  | nil => rfl
  | cons c piece ih =>
    rw [List.mem_cons, not_or] at plain
    rw [List.cons_append, splitNewlines, ih plain.2]
    exact if_neg (Ne.symm plain.1)

theorem lines_nil : lines [] = [] := rfl

theorem lines_of_not_mem (nonempty : piece ≠ []) (plain : '\n' ∉ piece) :
    lines piece = [piece] := by
  rw [lines, splitNewlines_of_not_mem plain]
  exact if_neg nonempty

theorem lines_append_newline (plain : '\n' ∉ piece) (rest : List Char) :
    lines (piece ++ '\n' :: rest) = chomp piece :: lines rest := by
  rw [lines, splitNewlines_append_newline plain]
  rfl

theorem lines_append_closed (text rest : List Char) :
    lines (text ++ '\n' :: rest) = lines (text ++ ['\n']) ++ lines rest := by
  induction text using lineInduction with
  | empty => exact lines_append_newline List.not_mem_nil rest
  | unclosed piece nonempty plain =>
    rw [lines_append_newline plain, lines_append_newline plain]
    rfl
  | closed piece behind plain ih =>
    rw [List.append_assoc, List.cons_append, lines_append_newline plain, ih, List.append_assoc,
      List.cons_append, lines_append_newline plain, List.cons_append]

/-- What follows a text without an open line is cut into lines on its own. -/
theorem lines_append_of_closed {text : List Char} (closed : text = [] ∨ text.getLast? = some '\n')
    (rest : List Char) : lines (text ++ rest) = lines text ++ lines rest := by
  rcases closed with rfl | closed
  · rfl
  · obtain ⟨front, rfl⟩ := List.getLast?_eq_some_iff.mp closed
    rw [List.append_assoc, List.singleton_append]
    exact lines_append_closed front rest

theorem lines_eq_nil_iff : lines text = [] ↔ text = [] := by
  induction text using lineInduction with
  | empty => exact iff_of_true lines_nil rfl
  | unclosed piece nonempty plain => simp [lines_of_not_mem nonempty plain, nonempty]
  | closed piece rest plain => simp [lines_append_newline plain]

/-- A line was closed by a newline or stands at the end of the text. -/
theorem of_mem_lines (member : line ∈ lines text) :
    '\n' ∉ line ∧
      ((∃ piece, line = chomp piece ∧ piece ++ ['\n'] <:+: text) ∨ line <:+ text) := by
  induction text using lineInduction with
  | empty => simp [lines_nil] at member
  | unclosed piece nonempty plain =>
    rw [lines_of_not_mem nonempty plain, List.mem_singleton] at member
    subst member
    exact ⟨plain, .inr List.suffix_rfl⟩
  | closed piece rest plain ih =>
    rw [lines_append_newline plain, List.mem_cons] at member
    rcases member with rfl | later
    · exact ⟨fun newline => plain (chomp_prefix_self.subset newline),
        .inl ⟨piece, rfl, [], rest, by simp⟩⟩
    · obtain ⟨newlineFree, ⟨closing, same, inside⟩ | atEnd⟩ := ih later
      · refine ⟨newlineFree, .inl ⟨closing, same, inside.trans ?_⟩⟩
        exact (List.suffix_cons _ _).isInfix.trans (List.suffix_append _ _).isInfix
      · exact ⟨newlineFree, .inr (atEnd.trans ((List.suffix_cons _ _).trans
          (List.suffix_append _ _)))⟩

theorem newline_notMem_of_mem_lines (member : line ∈ lines text) : '\n' ∉ line :=
  (of_mem_lines member).1

theorem infix_of_mem_lines (member : line ∈ lines text) : line <:+: text := by
  obtain ⟨-, ⟨piece, rfl, inside⟩ | atEnd⟩ := of_mem_lines member
  · exact chomp_prefix_self.isInfix.trans ((List.prefix_append _ _).isInfix.trans inside)
  · exact atEnd.isInfix

/-- Without adjacent carriage returns, dropping one from the end of a line leaves none there. -/
theorem getLast?_chomp_ne (single : ¬ ['\r', '\r'] <:+: text) (member : line ∈ lines text) :
    (chomp line).getLast? ≠ some '\r' := by
  intro returned
  obtain ⟨rest, rfl⟩ := eq_append_of_getLast?_chomp returned
  exact single ((List.suffix_append rest _).isInfix.trans (infix_of_mem_lines member))

/-- If every carriage return stands before a newline, none is left in a line end. -/
theorem getLast?_ne_of_mem_lines (paired : ∀ i, text[i]? = some '\r' → text[i + 1]? = some '\n')
    (member : line ∈ lines text) : line.getLast? ≠ some '\r' := by
  intro returned
  have follows {before after : List Char} (same : text = before ++ '\r' :: after) :
      after.head? = some '\n' := by
    have next := paired before.length
    rw [same, List.getElem?_append_right (Nat.le_refl _),
      List.getElem?_append_right (Nat.le_succ _)] at next
    simpa [List.head?_eq_getElem?] using next
  obtain ⟨-, ⟨piece, rfl, before, after, same⟩ | ⟨before, same⟩⟩ := of_mem_lines member
  · obtain ⟨rest, rfl⟩ := eq_append_of_getLast?_chomp returned
    have next := @follows (before ++ rest) ('\r' :: '\n' :: after) (by simp [← same])
    exact absurd (Option.some.inj next) (by decide)
  · obtain ⟨rest, rfl⟩ := List.getLast?_eq_some_iff.mp returned
    have next := @follows (before ++ rest) [] (by simp [← same])
    exact absurd next (by decide)

@[simp] theorem toList_unlines (ls : List String) :
    (unlines ls).toList = ls.flatMap fun line => line.toList ++ ['\n'] :=
  String.toList_ofList

theorem unlines_eq_empty_iff {ls : List String} : unlines ls = "" ↔ ls = [] := by
  rw [← String.toList_inj, toList_unlines]
  cases ls <;> simp

/-- Written lines are read back. -/
theorem lines_unlines {ls : List String} (plain : ∀ line ∈ ls, '\n' ∉ line.toList) :
    lines (unlines ls).toList = ls.map fun line => chomp line.toList := by
  rw [toList_unlines]
  induction ls with
  | nil => rfl
  | cons line rest ih =>
    rw [List.forall_mem_cons] at plain
    rw [List.flatMap_cons, List.append_assoc, List.singleton_append, lines_append_newline plain.1,
      ih plain.2, List.map_cons]

/-- A line that is read as it was written. -/
def IsWhole (line : String) : Prop :=
  '\n' ∉ line.toList ∧ line.toList.getLast? ≠ some '\r'

instance (line : String) : Decidable (IsWhole line) :=
  inferInstanceAs (Decidable ('\n' ∉ line.toList ∧ line.toList.getLast? ≠ some '\r'))

theorem lines_unlines_of_whole {ls : List String} (whole : ∀ line ∈ ls, IsWhole line) :
    lines (unlines ls).toList = ls.map String.toList := by
  rw [lines_unlines fun line member => (whole line member).1]
  exact List.map_congr_left fun line member => chomp_eq_self (whole line member).2

variable {c : Char}

/-! ## Closed lines -/

/-- The lines of a text that a newline closes, with their carriage returns. -/
def closedLines (text : List Char) : List (List Char) :=
  ((splitNewlines text).1 :: (splitNewlines text).2).dropLast

theorem closedLines_of_notMem (plain : '\n' ∉ piece) : closedLines piece = [] := by
  rw [closedLines, splitNewlines_of_not_mem plain]
  rfl

theorem closedLines_append_newline (plain : '\n' ∉ piece) (rest : List Char) :
    closedLines (piece ++ '\n' :: rest) = piece :: closedLines rest := by
  rw [closedLines, splitNewlines_append_newline plain]
  rfl

/-- What follows a newline is cut on its own. -/
theorem closedLines_append_closed (text rest : List Char) :
    closedLines (text ++ '\n' :: rest) = closedLines (text ++ ['\n']) ++ closedLines rest := by
  induction text using lineInduction with
  | empty => exact closedLines_append_newline List.not_mem_nil rest
  | unclosed piece nonempty plain =>
    rw [closedLines_append_newline plain, closedLines_append_newline plain]
    rfl
  | closed piece behind plain ih =>
    rw [List.append_assoc, List.cons_append, closedLines_append_newline plain, ih, List.append_assoc,
      List.cons_append, closedLines_append_newline plain, List.cons_append]

/-- The lines of a closed text are its closed lines, without their carriage returns. -/
theorem lines_append_newline_eq (text : List Char) :
    lines (text ++ ['\n']) = (closedLines (text ++ ['\n'])).map chomp := by
  have closes {piece : List Char} (plain : '\n' ∉ piece) :
      lines (piece ++ ['\n']) = (closedLines (piece ++ ['\n'])).map chomp := by
    rw [lines_append_newline plain, closedLines_append_newline plain]
    rfl
  induction text using lineInduction with
  | empty => exact closes List.not_mem_nil
  | unclosed piece nonempty plain => exact closes plain
  | closed piece rest plain ih =>
    rw [List.append_assoc, List.cons_append, lines_append_newline plain, ih,
      closedLines_append_newline plain, List.map_cons]

/-! ## Written characters -/

/-- The text that is read, byte by byte, from a text that was written. -/
def transcribed (text : List Char) : List Char :=
  ofBytes (text.flatMap String.utf8EncodeChar)

@[simp] theorem transcribed_append (first second : List Char) :
    transcribed (first ++ second) = transcribed first ++ transcribed second := by
  rw [transcribed, List.flatMap_append, ofBytes, List.map_append]
  rfl

theorem ofBytes_toUTF8_eq (s : String) : ofBytes s.toUTF8.toList = transcribed s.toList := by
  rw [toUTF8_toList, transcribed]

theorem transcribed_of_ascii (ascii : IsAscii text) : transcribed text = text := by
  rw [← String.toList_ofList (l := text), ← ofBytes_toUTF8_eq]
  rw [← String.toList_ofList (l := text)] at ascii
  exact ofBytes_toUTF8 ascii

/-- The bytes of a character outside ASCII are outside ASCII. -/
theorem le_of_mem_utf8EncodeChar (wide : 128 ≤ c.toNat) :
    ∀ b ∈ String.utf8EncodeChar c, 128 ≤ b.toNat := by
  have number : c.toNat = c.val.toNat := rfl
  intro b member
  simp only [String.utf8EncodeChar] at member
  split at member
  · omega
  · split_ifs at member <;>
      simp only [List.mem_cons, List.not_mem_nil, or_false] at member <;>
      rcases member with rfl | rfl | rfl | rfl <;>
      simp only [UInt8.toNat_ofNat'] <;> omega

/-- A newline is read only where one was written. -/
theorem newline_notMem_transcribed (plain : '\n' ∉ text) : '\n' ∉ transcribed text := by
  intro newline
  obtain ⟨b, written, same⟩ := List.mem_map.mp newline
  obtain ⟨c, member, encoded⟩ := List.mem_flatMap.mp written
  obtain rfl : b = 10 := ofNat_toNat_injective same
  by_cases ascii : c.toNat < 128
  · have read : ofBytes (String.utf8EncodeChar c) = [c] := ofBytes_utf8EncodeChar ascii
    have inRead : '\n' ∈ ofBytes (String.utf8EncodeChar c) := List.mem_map.mpr ⟨10, encoded, rfl⟩
    rw [read, List.mem_singleton] at inRead
    exact plain (inRead ▸ member)
  · exact absurd (le_of_mem_utf8EncodeChar (Nat.le_of_not_lt ascii) 10 encoded) (by decide)

/-! ## Written lines -/

/-- The lines that are read where a line was written: several, if newlines are among its characters. -/
def rereadLines (line : List Char) : List (List Char) :=
  closedLines (transcribed line ++ ['\n'])

theorem rereadLines_of_notMem (plain : '\n' ∉ line) : rereadLines line = [transcribed line] := by
  rw [rereadLines, closedLines_append_newline (newline_notMem_transcribed plain)]
  rfl

theorem rereadLines_of_ascii (ascii : IsAscii line) (plain : '\n' ∉ line) :
    rereadLines line = [line] := by
  rw [rereadLines_of_notMem plain, transcribed_of_ascii ascii]

/-- A text that was written line by line is read line by line. -/
theorem closedLines_unlines (ls : List String) :
    closedLines (ofBytes (unlines ls).toUTF8.toList) =
      ls.flatMap fun line => rereadLines line.toList := by
  have newline : transcribed ['\n'] = ['\n'] := transcribed_of_ascii (by decide)
  rw [ofBytes_toUTF8_eq, toList_unlines]
  induction ls with
  | nil => exact closedLines_of_notMem List.not_mem_nil
  | cons line rest ih =>
    rw [List.flatMap_cons, transcribed_append, transcribed_append, newline, List.append_assoc,
      List.singleton_append, closedLines_append_closed, ih, List.flatMap_cons, rereadLines]

/-- The lines of a written text are its closed lines, without their carriage returns. -/
theorem lines_unlines_eq (ls : List String) :
    lines (ofBytes (unlines ls).toUTF8.toList) =
      (closedLines (ofBytes (unlines ls).toUTF8.toList)).map chomp := by
  have newline : transcribed ['\n'] = ['\n'] := transcribed_of_ascii (by decide)
  obtain rfl | ⟨before, last, rfl⟩ := List.eq_nil_or_concat' ls
  · rw [ofBytes_toUTF8_eq, toList_unlines]
    rfl
  · rw [ofBytes_toUTF8_eq, toList_unlines, List.flatMap_append, List.flatMap_singleton,
      ← List.append_assoc, transcribed_append, newline]
    exact lines_append_newline_eq _

end BoardBind.Text
