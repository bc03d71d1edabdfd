import MarkupTemplate.Proofs.Indentation.Lines

/-!
# Indenting twice and in parts

A text that is indented inside a text that is indented carries both indentations, the outer one in front:
`indentLines_indentLines`. Texts can be indented one by one wherever they meet at a newline, and nowhere
else: `indentLines_append_iff`. Neither the ends of a text nor its empty lines change.
-/

namespace MarkupTemplate.Text

variable {indent outer line text more : List Char}

/-! ### Twice -/

theorem indentLine_indentLine (outer indent line : List Char) :
    indentLine outer (indentLine indent line) = indentLine (outer ++ indent) line := by
  by_cases empty : line = []
  · simp only [empty, indentLine_nil]
  · have visible : indent ++ line ≠ [] := List.append_ne_nil_of_right_ne_nil indent empty
    rw [indentLine_of_ne_nil empty, indentLine_of_ne_nil visible, indentLine_of_ne_nil empty,
      List.append_assoc]

theorem indentLines_indentLines (outerOneLine : '\n' ∉ outer) (oneLine : '\n' ∉ indent)
    (text : List Char) :
    indentLines outer (indentLines indent text) = indentLines (outer ++ indent) text := by
  have bothOneLine : '\n' ∉ outer ++ indent := by
    rw [List.mem_append, not_or]
    exact ⟨outerOneLine, oneLine⟩
  calc indentLines outer (indentLines indent text)
    _ = joinLines ((splitLines (indentLines indent text)).map (indentLine outer)) :=
      (lineByLine_indentLines outerOneLine).eq _
    _ = joinLines ((splitLines text).map (indentLine outer ∘ indentLine indent)) := by
      rw [(lineByLine_indentLines oneLine).splitLines_eq, List.map_map]
    _ = joinLines ((splitLines text).map (indentLine (outer ++ indent))) := by
      have once : indentLine outer ∘ indentLine indent = indentLine (outer ++ indent) :=
        funext (indentLine_indentLine outer indent)
      rw [once]
    _ = indentLines (outer ++ indent) text := ((lineByLine_indentLines bothOneLine).eq text).symm

/-! ### In parts -/

/-- A line starts behind the text, if one has just started in front of it or not. -/
def startsAfter (atStart : Bool) : List Char → Bool
  | [] => atStart
  | c :: cs => startsAfter (c = '\n') cs

theorem startsAfter_concat (atStart : Bool) (text : List Char) (c : Char) :
    startsAfter atStart (text ++ [c]) = decide (c = '\n') := by
  induction text generalizing atStart with
  | nil => rfl
  | cons d ds ih => exact ih _

theorem startsAfter_iff : startsAfter true text = true ↔ text = [] ∨ text.getLast? = some '\n' := by
  rcases List.eq_nil_or_concat text with rfl | ⟨init, c, rfl⟩
  · simp [startsAfter]
  · simp [startsAfter_concat]

theorem indentFrom_append (indent : List Char) (atStart : Bool) (text more : List Char) :
    indentFrom indent atStart (text ++ more) =
      indentFrom indent atStart text ++ indentFrom indent (startsAfter atStart text) more := by
  induction text generalizing atStart with
  | nil => rfl
  | cons c cs ih =>
    rw [List.cons_append, indentFrom, indentFrom, startsAfter]
    by_cases newline : c = '\n'
    · simp [newline, ih]
    · cases atStart <;> simp [newline, ih]

/-- Inside of a line a text is indented like at its start only if it leaves that line at once. -/
theorem indentFrom_eq_indentLines_iff :
    indentFrom indent false text = indentLines indent text ↔
      indent = [] ∨ text = [] ∨ text.head? = some '\n' := by
  cases text with
  | nil => simp [indentLines, indentFrom]
  | cons c cs => by_cases newline : c = '\n' <;> simp [indentLines, indentFrom, newline]

theorem indentLines_append_iff :
    indentLines indent (text ++ more) = indentLines indent text ++ indentLines indent more ↔
      indent = [] ∨ text = [] ∨ text.getLast? = some '\n' ∨ more = [] ∨ more.head? = some '\n' := by
  have parts : indentLines indent (text ++ more) =
      indentLines indent text ++ indentFrom indent (startsAfter true text) more :=
    indentFrom_append indent true text more
  rw [parts, List.append_cancel_left_eq]
  cases starts : startsAfter true text with
  | true =>
    refine iff_of_true rfl (.inr ?_)
    rcases startsAfter_iff.mp starts with empty | ended
    · exact .inl empty
    · exact .inr (.inl ended)
  | false =>
    have goesOn : ¬ (text = [] ∨ text.getLast? = some '\n') := by
      rw [← startsAfter_iff, starts]
      exact Bool.false_ne_true
    rw [not_or] at goesOn
    rw [indentFrom_eq_indentLines_iff]
    simp only [goesOn, false_or]

/-! ### What stays -/

theorem head?_indentLines (oneLine : '\n' ∉ indent) :
    (indentLines indent text).head? = some '\n' ↔ text.head? = some '\n' := by
  cases text with
  | nil => rfl
  | cons c cs =>
    by_cases newline : c = '\n'
    · simp [indentLines, indentFrom, newline]
    · cases indent with
      | nil => rw [indentLines_nil]
      | cons d ds =>
        rw [List.mem_cons, not_or] at oneLine
        simp [indentLines, indentFrom, newline, Ne.symm oneLine.1]

theorem getLast?_indentLines (indent text : List Char) :
    (indentLines indent text).getLast? = text.getLast? := by
  rcases List.eq_nil_or_concat text with rfl | ⟨init, c, rfl⟩
  · rfl
  · rw [List.concat_eq_append, indentLines, indentFrom_append, List.getLast?_concat]
    have last : ∀ atStart, (indentFrom indent atStart [c]).getLast? = some c := by
      intro atStart
      by_cases newline : c = '\n'
      · simp [indentFrom, newline]
      · cases atStart <;> simp [indentFrom, newline]
    rw [List.getLast?_append, last, Option.some_or]

theorem indentLines_eq_nil_iff : indentLines indent text = [] ↔ text = [] := by
  rw [← List.getLast?_eq_none_iff, getLast?_indentLines, List.getLast?_eq_none_iff]

theorem indentLine_eq_nil_iff : indentLine indent line = [] ↔ line = [] := by
  by_cases empty : line = []
  · simp [empty, indentLine_nil]
  · simp [indentLine_of_ne_nil empty, empty]

theorem getElem?_splitLines_indentLines (oneLine : '\n' ∉ indent) (i : Nat) :
    (splitLines (indentLines indent text))[i]? = some [] ↔ (splitLines text)[i]? = some [] := by
  rw [(lineByLine_indentLines oneLine).splitLines_eq, List.getElem?_map, Option.map_eq_some_iff]
  simp [indentLine_eq_nil_iff]

/-- Indenting twice is indenting once with the later indentation in front. Texts can be indented one by one
if and only if nothing is added or they meet at a newline or at an end. A text that is indented starts and
ends with a newline if the text does, and has as many lines, of which the same are empty. -/
theorem indentLines_algebra (oneLine : '\n' ∉ indent) (outerOneLine : '\n' ∉ outer)
    (text more : List Char) :
    indentLines outer (indentLines indent text) = indentLines (outer ++ indent) text ∧
    (indentLines indent (text ++ more) = indentLines indent text ++ indentLines indent more ↔
      indent = [] ∨ text = [] ∨ text.getLast? = some '\n' ∨ more = [] ∨ more.head? = some '\n') ∧
    (indentLines indent text = [] ↔ text = []) ∧
    ((indentLines indent text).head? = some '\n' ↔ text.head? = some '\n') ∧
    ((indentLines indent text).getLast? = some '\n' ↔ text.getLast? = some '\n') ∧
    (splitLines (indentLines indent text)).length = (splitLines text).length ∧
    ∀ i : Nat,
      (splitLines (indentLines indent text))[i]? = some [] ↔ (splitLines text)[i]? = some [] := by
  refine ⟨indentLines_indentLines outerOneLine oneLine text, indentLines_append_iff,
    indentLines_eq_nil_iff, head?_indentLines oneLine, ?_, ?_, getElem?_splitLines_indentLines oneLine⟩
  · rw [getLast?_indentLines]
  · rw [(lineByLine_indentLines oneLine).splitLines_eq, List.length_map]

/-- A text with a line of blanks and empty lines, and one that goes on behind its final newline. -/
theorem indentLines_algebra_emptyLines :
    let indent := " ".toList
    let outer := "\t".toList
    let text := "\na\n\n  \nb\n".toList
    let more := "c\n".toList
    '\n' ∉ indent ∧ '\n' ∉ outer ∧
      indentLines outer (indentLines indent text) = "\n\t a\n\n\t   \n\t b\n".toList ∧
      indentLines outer (indentLines indent text) = indentLines (outer ++ indent) text ∧
      indentLines indent (text ++ more) = indentLines indent text ++ indentLines indent more := by
  intro indent outer text more
  have oneLine : '\n' ∉ indent := by decide
  have outerOneLine : '\n' ∉ outer := by decide
  obtain ⟨twice, parts, -⟩ := indentLines_algebra oneLine outerOneLine text more
  have ended : text.getLast? = some '\n' := by decide
  exact ⟨oneLine, outerOneLine, by decide, twice, parts.mpr (.inr (.inr (.inl ended)))⟩

end MarkupTemplate.Text
