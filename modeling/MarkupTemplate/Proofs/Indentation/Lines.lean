import MarkupTemplate.Proofs.Layout.Margins

/-!
# Indentation line by line

Cutting a text at its newlines and putting the lines together again undo each other. Indenting and
outdenting a text work on each of its lines by itself, so what they do to a text is what they do to one
line: `removeIndent_indentLines` shows that an indentation which was added can be removed again.
-/

namespace MarkupTemplate.Text

variable {indent line text : List Char} {lines : List (List Char)}

/-! ### Lines of a text -/

theorem splitLines_eq_splitOn (text : List Char) : splitLines text = text.splitOn '\n' := by
  induction text with
  | nil => rfl
  | cons c cs ih =>
    rw [splitLines, List.splitOn_cons_eq_if_modifyHead, ih]
    cases split : cs.splitOn '\n' with
    | nil => exact absurd split (List.splitOn_ne_nil _ _)
    | cons line lines => simp [consFirst]

theorem joinLines_eq_intercalate (lines : List (List Char)) :
    joinLines lines = ['\n'].intercalate lines := by
  induction lines with
  | nil => rfl
  | cons line lines ih =>
    cases lines with
    | nil => simp [joinLines]
    | cons next lines => rw [joinLines, ih, List.intercalate_cons_cons, List.append_assoc]; rfl

theorem splitLines_append_newline (text more : List Char) :
    splitLines (text ++ '\n' :: more) = splitLines text ++ splitLines more := by
  simp only [splitLines_eq_splitOn, List.splitOn_append_cons_self]

theorem splitLines_of_oneLine (oneLine : '\n' ∉ line) : splitLines line = [line] := by
  rw [splitLines_eq_splitOn, List.splitOn_eq_singleton oneLine]

theorem splitLines_joinLines (nonempty : lines ≠ []) (oneLine : ∀ line ∈ lines, '\n' ∉ line) :
    splitLines (joinLines lines) = lines := by
  rw [splitLines_eq_splitOn, joinLines_eq_intercalate, List.splitOn_intercalate _ oneLine nonempty]

/-- What holds of a list without separators, and of such a list in front of a separator and a list that
it holds of, holds of every list. -/
theorem separated_induction {β : Type} (separates : β → Bool) {motive : List β → Prop}
    (last : ∀ xs, (∀ x ∈ xs, separates x = false) → motive xs)
    (next : ∀ xs x rest, (∀ y ∈ xs, separates y = false) → separates x = true → motive rest →
      motive (xs ++ x :: rest))
    (xs : List β) : motive xs := by
  -- The list before the next separator is collected on the way to it.
  have after : ∀ lead, (∀ x ∈ lead, separates x = false) → motive (lead ++ xs) := by
    induction xs with
    | nil =>
      intro lead free
      rw [List.append_nil]
      exact last lead free
    | cons x xs ih =>
      intro lead free
      cases here : separates x with
      | true => exact next lead x xs free here (ih [] nofun)
      | false =>
        rw [List.append_cons]
        refine ih _ (List.forall_mem_append.mpr ⟨free, ?_⟩)
        exact List.forall_mem_singleton.mpr here
  exact after [] nofun

theorem line_induction {motive : List Char → Prop} (last : ∀ line, '\n' ∉ line → motive line)
    (next : ∀ line more, '\n' ∉ line → motive more → motive (line ++ '\n' :: more))
    (text : List Char) : motive text := by
  have oneLine : ∀ {line : List Char}, (∀ c ∈ line, (c == '\n') = false) → '\n' ∉ line := by
    intro line free member
    exact absurd (free _ member) (by decide)
  induction text using separated_induction (· == '\n') with
  | last line free => exact last line (oneLine free)
  | next line c more free here ih =>
    obtain rfl : c = '\n' := eq_of_beq here
    exact next line more (oneLine free) ih

theorem newline_not_mem_of_mem_splitLines (member : line ∈ splitLines text) : '\n' ∉ line := by
  induction text using line_induction with
  | last only here =>
    rw [splitLines_of_oneLine here, List.mem_singleton] at member
    rwa [member]
  | next first more here ih =>
    rw [splitLines_append_newline, splitLines_of_oneLine here, List.singleton_append,
      List.mem_cons] at member
    rcases member with rfl | member
    · exact here
    · exact ih member

/-! ### Functions on each line -/

/-- A function on texts that does something to each line by itself. -/
structure LineByLine (onLine f : List Char → List Char) : Prop where
  last : ∀ line, '\n' ∉ line → f line = onLine line
  next : ∀ line more, '\n' ∉ line → f (line ++ '\n' :: more) = onLine line ++ '\n' :: f more
  oneLine : ∀ line, '\n' ∉ line → '\n' ∉ onLine line

namespace LineByLine

variable {onLine f : List Char → List Char}

theorem splitLines_eq (h : LineByLine onLine f) (text : List Char) :
    splitLines (f text) = (splitLines text).map onLine := by
  induction text using line_induction with
  | last line here =>
    rw [h.last line here, splitLines_of_oneLine here, splitLines_of_oneLine (h.oneLine line here)]
    rfl
  | next line more here ih =>
    rw [h.next line more here, splitLines_append_newline, splitLines_append_newline, ih,
      splitLines_of_oneLine here, splitLines_of_oneLine (h.oneLine line here)]
    rfl

theorem eq (h : LineByLine onLine f) (text : List Char) :
    f text = joinLines ((splitLines text).map onLine) := by
  rw [← h.splitLines_eq, joinLines_splitLines]

end LineByLine

/-! ### Indenting -/

/-- The line with an indentation in front of it, unless it is empty. -/
def indentLine (indent line : List Char) : List Char := if line = [] then [] else indent ++ line

theorem indentLine_nil (indent : List Char) : indentLine indent [] = [] := rfl

theorem indentLine_of_ne_nil (visible : line ≠ []) : indentLine indent line = indent ++ line :=
  if_neg visible

/-- From the start of a line on, the line is indented and then the rest. -/
theorem indentFrom_line (indent : List Char) (oneLine : '\n' ∉ line) (rest : List Char) :
    indentFrom indent true (line ++ rest) =
      indentLine indent line ++ indentFrom indent (line = []) rest := by
  cases line with
  | nil => simp [indentLine_nil]
  | cons c cs =>
    rw [List.mem_cons, not_or] at oneLine
    rw [indentLine_of_ne_nil (List.cons_ne_nil _ _)]
    have started := indentFrom_start indent List.not_mem_nil (Ne.symm oneLine.1) (cs ++ rest)
    rw [indentFrom_noNewline indent oneLine.2] at started
    simpa using started

theorem lineByLine_indentLines (oneLine : '\n' ∉ indent) :
    LineByLine (indentLine indent) (indentLines indent) where
  last line here := by
    have started := indentFrom_line indent here []
    rwa [List.append_nil, indentFrom, List.append_nil] at started
  next line more here := by
    rw [indentLines, indentFrom_line indent here, indentFrom, if_pos rfl, indentLines]
  oneLine line here := by
    unfold indentLine
    split
    · exact List.not_mem_nil
    · rw [List.mem_append, not_or]
      exact ⟨oneLine, here⟩

/-! ### Outdenting -/

/-- The line without an indentation in front of it, if it starts with that. -/
def outdentLine (indent line : List Char) : List Char := (stripLead? indent line).getD line

theorem outdentLine_append (indent rest : List Char) : outdentLine indent (indent ++ rest) = rest := by
  rw [outdentLine, stripLead?_eq_some_iff.mpr rfl, Option.getD_some]

theorem outdentLine_eq_self (other : ¬ indent <+: line) : outdentLine indent line = line := by
  rw [outdentLine, stripLead?, if_neg, Option.getD_none]
  rwa [List.isPrefixOf_iff_prefix]

theorem outdentLine_nil (indent : List Char) : outdentLine indent [] = [] := by
  cases indent with
  | nil => rfl
  | cons c cs => exact outdentLine_eq_self (by simp)

/-- A newline at the end of a line does not matter to an indentation. -/
theorem outdentLine_newline (oneLine : '\n' ∉ indent) (line : List Char) :
    outdentLine indent (line ++ ['\n']) = outdentLine indent line ++ ['\n'] := by
  by_cases leads : indent <+: line
  · obtain ⟨rest, rfl⟩ := leads
    rw [List.append_assoc, outdentLine_append, outdentLine_append]
  · have outside : ¬ indent <+: line ++ ['\n'] := by
      rw [List.prefix_concat_iff, not_or]
      refine ⟨?_, leads⟩
      rintro rfl
      exact oneLine (List.mem_append_right _ List.mem_cons_self)
    rw [outdentLine_eq_self leads, outdentLine_eq_self outside]

theorem splitKeepingNewlines_append (oneLine : '\n' ∉ line) (rest : List Char) :
    splitKeepingNewlines (line ++ '\n' :: rest) = (line ++ ['\n']) :: splitKeepingNewlines rest := by
  induction line with
  | nil => rw [List.nil_append, splitKeepingNewlines, if_pos rfl]; rfl
  | cons c cs ih =>
    rw [List.mem_cons, not_or] at oneLine
    rw [List.cons_append, splitKeepingNewlines, if_neg (Ne.symm oneLine.1), ih oneLine.2]
    rfl

theorem splitKeepingNewlines_of_oneLine (oneLine : '\n' ∉ line) :
    splitKeepingNewlines line = if line = [] then [] else [line] := by
  induction line with
  | nil => rfl
  | cons c cs ih =>
    rw [List.mem_cons, not_or] at oneLine
    rw [splitKeepingNewlines, if_neg (Ne.symm oneLine.1), ih oneLine.2]
    cases cs <;> rfl

theorem lineByLine_removeIndent (oneLine : '\n' ∉ indent) :
    LineByLine (outdentLine indent) (removeIndent indent) where
  last line here := by
    rw [removeIndent, splitKeepingNewlines_of_oneLine here]
    cases line with
    | nil => exact (outdentLine_nil indent).symm
    | cons c cs => exact List.flatMap_singleton _ _
  next line more here := by
    rw [removeIndent, splitKeepingNewlines_append here, List.flatMap_cons]
    change outdentLine indent (line ++ ['\n']) ++ removeIndent indent more = _
    rw [outdentLine_newline oneLine, List.append_assoc]
    rfl
  oneLine line here := by
    by_cases leads : indent <+: line
    · obtain ⟨rest, rfl⟩ := leads
      rw [List.mem_append, not_or] at here
      rw [outdentLine_append]
      exact here.2
    · rwa [outdentLine_eq_self leads]

/-! ### There and back -/

theorem outdentLine_indentLine (indent line : List Char) :
    outdentLine indent (indentLine indent line) = line := by
  by_cases empty : line = []
  · rw [empty, indentLine_nil, outdentLine_nil]
  · rw [indentLine_of_ne_nil empty, outdentLine_append]

/-- Removing an indentation that was added gives the text back, whatever its lines start with. -/
theorem removeIndent_indentLines (oneLine : '\n' ∉ indent) (text : List Char) :
    removeIndent indent (indentLines indent text) = text :=
  calc removeIndent indent (indentLines indent text)
    _ = joinLines ((splitLines (indentLines indent text)).map (outdentLine indent)) :=
      (lineByLine_removeIndent oneLine).eq _
    _ = joinLines ((splitLines text).map (outdentLine indent ∘ indentLine indent)) := by
      rw [(lineByLine_indentLines oneLine).splitLines_eq, List.map_map]
    _ = joinLines (splitLines text) := by
      have back : outdentLine indent ∘ indentLine indent = id :=
        funext (outdentLine_indentLine indent)
      rw [back, List.map_id]
    _ = text := joinLines_splitLines text

/-- A text with an empty line, one of blanks, one that is the indentation itself and lines that start
with it. -/
theorem removeIndent_indentLines_indented :
    let indent := " \t".toList
    let text := " \ta\n\n \t\n  \n \t \tb\u0085\r\n".toList
    '\n' ∉ indent ∧
      indentLines indent text = " \t \ta\n\n \t \t\n \t  \n \t \t \tb\u0085\r\n".toList ∧
      removeIndent indent (indentLines indent text) = text := by
  intro indent text
  have oneLine : '\n' ∉ indent := by decide
  exact ⟨oneLine, by decide, removeIndent_indentLines oneLine text⟩

end MarkupTemplate.Text
