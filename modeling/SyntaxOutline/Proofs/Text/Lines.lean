import SyntaxOutline.Text.Lines

/-!
# Cutting a text into lines

A text is a line without line feeds, or such a line, a line feed and a text; `line_induction` goes
along that. The lines of a text (`Text.charLines`) are found the same way, one at a time.
-/

namespace SyntaxOutline

/-- Induction along the lines of a text. -/
theorem line_induction {motive : List Char → Prop}
    (last : ∀ line, '\n' ∉ line → motive line)
    (more : ∀ line rest, '\n' ∉ line → motive rest → motive (line ++ '\n' :: rest))
    (text : List Char) : motive text := by
  by_cases h : '\n' ∈ text
  · obtain ⟨line, rest, htext, hline⟩ := List.eq_append_cons_of_mem h
    have hlt : rest.length < text.length := by
      rw [htext, List.length_append, List.length_cons]
      omega
    rw [htext]
    exact more line rest hline (line_induction last more rest)
  · exact last text h
termination_by text.length

/-- A text is cut at its first line feed. -/
theorem splitFeed_line {line : List Char} (h : '\n' ∉ line) (rest : List Char) :
    Text.splitFeed (line ++ '\n' :: rest) = (line, some rest) := by
  induction line with
  | nil => rfl
  | cons c cs ih =>
    rw [List.mem_cons, not_or] at h
    rw [List.cons_append, Text.splitFeed, if_neg (Ne.symm h.1), ih h.2]

/-- A text without a line feed is not cut. -/
theorem splitFeed_last {line : List Char} (h : '\n' ∉ line) :
    Text.splitFeed line = (line, none) := by
  induction line with
  | nil => rfl
  | cons c cs ih =>
    rw [List.mem_cons, not_or] at h
    rw [Text.splitFeed, if_neg (Ne.symm h.1), ih h.2]

/-- The lines of a text are its first one and those behind the line feed. -/
theorem charLines_line {line : List Char} (h : '\n' ∉ line) (rest : List Char) :
    Text.charLines (line ++ '\n' :: rest) = Text.dropReturn line :: Text.charLines rest := by
  have hsplit := splitFeed_line h rest
  cases hcs : line ++ '\n' :: rest with
  | nil => simp at hcs
  | cons c cs =>
    rw [hcs] at hsplit
    rw [Text.charLines]
    split
    all_goals
      rename_i hsplit'
      rw [hsplit] at hsplit'
      cases hsplit'
    rfl

/-- What stands behind the last line feed is a line if it is not empty. -/
theorem charLines_last {line : List Char} (h : '\n' ∉ line) (hne : line ≠ []) :
    Text.charLines line = [line] := by
  have hsplit := splitFeed_last h
  cases line with
  | nil => exact absurd rfl hne
  | cons c cs =>
    rw [Text.charLines]
    split
    all_goals
      rename_i hsplit'
      rw [hsplit] at hsplit'
      cases hsplit'
    rfl

end SyntaxOutline
