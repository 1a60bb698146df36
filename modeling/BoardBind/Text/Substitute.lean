import BoardBind.Text.Match

/-! # Replacing a name in a text -/

namespace BoardBind.Text

/-- A literal takes exactly its own length from the text. -/
theorem length_of_literal {expected text rest : List Char}
    (found : literal expected text = some rest) : rest.length + expected.length = text.length := by
  induction expected generalizing text with
  | nil => simp [literal] at found; simp [found]
  | cons e expected ih =>
    cases text with
    | nil => simp [literal] at found
    | cons c text =>
      simp only [literal] at found
      split at found
      · have := ih found
        simp only [List.length_cons]
        omega
      · simp at found

/-- What remains behind a character is shorter than the text. -/
theorem length_lt_of_literal {mark : Char} {marks text rest : List Char}
    (found : literal (mark :: marks) text = some rest) : rest.length < text.length := by
  have := length_of_literal found
  simp only [List.length_cons] at this
  omega

/-- Replaces every occurrence of the text `mark :: marks`, from left to right. -/
def substituteChars (mark : Char) (marks value : List Char) : List Char → List Char
  | [] => []
  | c :: text =>
    match found : literal (mark :: marks) (c :: text) with
    | some rest =>
      have : rest.length < (c :: text).length := length_lt_of_literal found
      value ++ substituteChars mark marks value rest
    | none => c :: substituteChars mark marks value text
termination_by text => text.length
decreasing_by
  · assumption
  · exact Nat.lt_succ_self _

/-- Replaces every occurrence of `mark` by `value`; an empty mark occurs nowhere. -/
def substitute (mark value text : String) : String :=
  match mark.toList with
  | [] => text
  | m :: marks => String.ofList (substituteChars m marks value.toList text.toList)

end BoardBind.Text
