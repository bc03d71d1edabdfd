import MarkupTemplate.Error.Excerpt
import MarkupTemplate.Proofs.Indentation.Filling

/-!
# What excerpts show

An excerpt is made from byte positions. `ofSpan_pointsAt_iff` says it in lines: the number and the code are
those of the line that the span starts in, the carets stand below the span, and the one place where this
fails is behind the newline that ends the source.
-/

namespace MarkupTemplate

namespace Text

variable {line : List Char} {lines : List (List Char)}

theorem byteLength_joinLines_cons (others : lines ≠ []) :
    byteLength (joinLines (line :: lines)) = byteLength line + 1 + byteLength (joinLines lines) := by
  have newline : '\n'.utf8Size = 1 := rfl
  rw [joinLines_cons others, byteLength_append, byteLength_cons, newline, Nat.add_assoc]

theorem firstLine_append_newline (text more : List Char) : firstLine (text ++ '\n' :: more) = firstLine text := by
  induction text with
  | nil => rfl
  | cons c cs ih => by_cases newline : c = '\n' <;> simp_all [firstLine]

theorem splitLines_fourth {first second lead : List Char} (firstOneLine : '\n' ∉ first)
    (secondOneLine : '\n' ∉ second) (leadOneLine : '\n' ∉ lead) (text : List Char) :
    splitLines ('\n' :: (first ++ '\n' :: (second ++ '\n' :: (lead ++ text)))) =
      [] :: first :: second :: (lead ++ firstLine text) :: (splitLines text).tail := by
  rw [splitLines, if_pos rfl, splitLines_append_newline, splitLines_append_newline,
    splitLines_of_oneLine firstOneLine, splitLines_of_oneLine secondOneLine,
    splitLines_append leadOneLine]
  rfl

theorem terminatedLines_of_ended {text : List Char} (split : splitLines text = lines ++ [[]]) :
    terminatedLines text = lines := by
  simp [terminatedLines, split]

theorem terminatedLines_of_open {text : List Char} (split : splitLines text = lines ++ [line])
    (visible : line ≠ []) : terminatedLines text = lines ++ [line] := by
  cases line with
  | nil => exact absurd rfl visible
  | cons c cs => simp [terminatedLines, split]

theorem terminatedLines_subset (text : List Char) : terminatedLines text ⊆ splitLines text := by
  rcases List.eq_nil_or_concat (splitLines text) with empty | ⟨lines, last, split⟩
  · exact absurd empty (splitLines_ne_nil text)
  · rw [List.concat_eq_append] at split
    by_cases ended : last = []
    · rw [terminatedLines_of_ended (ended ▸ split), split]
      exact List.subset_append_left _ _
    · rw [terminatedLines_of_open split ended, split]
      exact List.Subset.refl _

end Text

namespace Excerpt

open Text

variable {width : List Char → Nat} {source before spanned after line lead rest : List Char}
  {earlier later lines : List (List Char)} {span : Span}

/-! ### Lines of the source -/

/-- A prefix of the source ends behind `lead` in a line of it. -/
structure EndsIn (source before : List Char) (earlier : List (List Char)) (lead rest : List Char)
    (later : List (List Char)) : Prop where
  lines : splitLines source = earlier ++ (lead ++ rest) :: later
  before : joinLines (earlier ++ [lead]) = before

/-- Number and code are those of a line that contains the end of a prefix of the source, and the carets
start where that is. -/
def PointsAt (width : List Char → Nat) (source before : List Char) (e : Excerpt) : Prop :=
  ∃ earlier lead rest later, EndsIn source before earlier lead rest later ∧
    e.number = earlier.length + 1 ∧ e.code = lead ++ rest ∧ e.column = width lead

/-- The prefix is all of the source, and the source ends with a line and its newline. -/
def PastLastLine (source before : List Char) : Prop :=
  before = source ∧ ∃ earlier line, splitLines source = earlier ++ [line, []] ∧ line ≠ []

theorem exists_endsIn (before after : List Char) :
    ∃ earlier lead rest later, EndsIn (before ++ after) before earlier lead rest later := by
  induction before using line_induction with
  | last line oneLine =>
    exact ⟨[], line, firstLine after, (splitLines after).tail, splitLines_append oneLine after, rfl⟩
  | next line more oneLine ih =>
    obtain ⟨earlier, lead, rest, later, inside⟩ := ih
    refine ⟨line :: earlier, lead, rest, later, ?_, ?_⟩
    · rw [List.append_assoc, List.cons_append, splitLines_append_newline, splitLines_of_oneLine oneLine,
        inside.lines]
      rfl
    · rw [List.cons_append, joinLines_cons (List.concat_ne_nil _ _), inside.before]

/-! ### Finding the line -/

theorem locate_next (others : lines ≠ []) (number offset : Nat) :
    locate width (line :: lines) number (byteLength line + 1 + offset) =
      locate width lines (number + 1) offset := by
  have other : ¬ lines.isEmpty = true := by rwa [List.isEmpty_iff]
  rw [locate, if_neg (by omega), if_neg other, Nat.add_sub_cancel_left]

theorem locate_inside (width : List Char → Nat) (earlier later : List (List Char)) (lead rest : List Char)
    (number : Nat) :
    locate width (earlier ++ (lead ++ rest) :: later) number
      (byteLength (joinLines (earlier ++ [lead]))) = (number + earlier.length, width lead) := by
  induction earlier generalizing number with
  | nil =>
    have here : byteLength lead < byteLength (lead ++ rest) + 1 := by
      rw [byteLength_append]
      omega
    rw [List.nil_append, List.nil_append, joinLines, locate, if_pos here, splitAtByte?_append]
    rfl
  | cons line earlier ih =>
    rw [List.cons_append, List.cons_append, byteLength_joinLines_cons (List.concat_ne_nil _ _),
      locate_next (List.append_ne_nil_of_right_ne_nil _ (List.cons_ne_nil _ _)), ih, List.length_cons,
      Nat.add_assoc, Nat.add_comm 1]

/-- Behind the newline that ends the last line, the next number and the end of that line are found. -/
theorem locate_past (width : List Char → Nat) (earlier : List (List Char)) (line : List Char) (number : Nat) :
    locate width (earlier ++ [line]) number (byteLength (joinLines (earlier ++ [line, []]))) =
      (number + earlier.length + 1, width line) := by
  induction earlier generalizing number with
  | nil =>
    rw [List.nil_append, List.nil_append, byteLength_joinLines_cons (List.cons_ne_nil _ _), locate,
      if_neg (by omega)]
    rfl
  | cons first earlier ih =>
    rw [List.cons_append, List.cons_append,
      byteLength_joinLines_cons (List.append_ne_nil_of_right_ne_nil _ (List.cons_ne_nil _ _)),
      locate_next (List.concat_ne_nil _ _), ih, List.length_cons, Nat.add_assoc number, Nat.add_comm 1]

/-! ### What is shown -/

theorem ofSpan_of_locate {number column : Nat}
    (located : locate width (terminatedLines source) 0 span.m = (number, column)) :
    ofSpan width source span =
      ⟨number + 1, ((terminatedLines source)[number]? <|> (terminatedLines source).getLast?).getD [],
        column, max 1 (width ((slice? source span.m span.n).getD []))⟩ := by
  simp only [ofSpan, located]

theorem carets_ofSpan (whole : source = before ++ (spanned ++ after)) (starts : span.m = byteLength before)
    (ends : span.n = byteLength (before ++ spanned)) :
    (ofSpan width source span).carets = max 1 (width spanned) := by
  rw [ofSpan, starts, ends, whole, slice?_append]
  rfl

theorem ofSpan_past (width : List Char → Nat) (split : splitLines source = earlier ++ [line, []])
    (starts : span.m = byteLength source) :
    (ofSpan width source span).number = earlier.length + 2 ∧ (ofSpan width source span).code = line ∧
      (ofSpan width source span).column = width line := by
  have terminated : terminatedLines source = earlier ++ [line] :=
    terminatedLines_of_ended (by rw [split, List.append_assoc]; rfl)
  have located := locate_past width earlier line 0
  rw [← split, joinLines_splitLines, ← starts, ← terminated, Nat.zero_add] at located
  rw [ofSpan_of_locate located, terminated]
  exact ⟨rfl, by simp, rfl⟩

namespace EndsIn

theorem splitLines_before (inside : EndsIn source before earlier lead rest later) :
    splitLines before = earlier ++ [lead] := by
  have oneLine : ∀ line ∈ earlier ++ (lead ++ rest) :: later, '\n' ∉ line := by
    rw [← inside.lines]
    exact fun line => newline_not_mem_of_mem_splitLines
  rw [List.forall_mem_append, List.forall_mem_cons, List.mem_append, not_or] at oneLine
  obtain ⟨first, ⟨here, -⟩, -⟩ := oneLine
  rw [← inside.before]
  exact splitLines_joinLines (List.concat_ne_nil _ _)
    (List.forall_mem_append.mpr ⟨first, List.forall_mem_singleton.mpr here⟩)

/-- The line counts unless it is empty and the last one. -/
theorem terminated (inside : EndsIn source before earlier lead rest later)
    (counts : lead ++ rest ≠ [] ∨ later ≠ []) :
    ∃ lines, terminatedLines source = earlier ++ (lead ++ rest) :: lines := by
  rcases List.eq_nil_or_concat later with rfl | ⟨lines, last, rfl⟩
  · have visible : lead ++ rest ≠ [] := counts.resolve_right fun other => other rfl
    exact ⟨[], terminatedLines_of_open inside.lines visible⟩
  · have split : splitLines source = (earlier ++ (lead ++ rest) :: lines) ++ [last] := by
      rw [inside.lines]
      simp
    by_cases ended : last = []
    · exact ⟨lines, terminatedLines_of_ended (ended ▸ split)⟩
    · exact ⟨lines ++ [last], by rw [terminatedLines_of_open split ended]; simp⟩

theorem pointsAt (inside : EndsIn source before earlier lead rest later)
    (terminated : terminatedLines source = earlier ++ (lead ++ rest) :: lines)
    (starts : span.m = byteLength before) : PointsAt width source before (ofSpan width source span) := by
  have located := locate_inside width earlier lines lead rest 0
  rw [inside.before, ← starts, ← terminated, Nat.zero_add] at located
  rw [ofSpan_of_locate located, terminated]
  exact ⟨earlier, lead, rest, later, inside, rfl, by simp, rfl⟩

end EndsIn

theorem not_pointsAt_of_pastLastLine (past : PastLastLine source before)
    (starts : span.m = byteLength before) :
    ¬ PointsAt width source before (ofSpan width source span) := by
  rintro ⟨earlier, lead, rest, later, inside, -, code, -⟩
  obtain ⟨rfl, others, line, split, visible⟩ := past
  obtain ⟨-, shown, -⟩ := ofSpan_past width split starts
  have here := inside.splitLines_before
  -- All lines stand in front of the end, so it is behind the last of them, which is empty.
  have whole : [lead] = (lead ++ rest) :: later := List.append_cancel_left (here.symm.trans inside.lines)
  have last : lead = [] := by
    have ends := congrArg List.getLast? (here.symm.trans split)
    simpa using ends
  exact visible (shown.symm.trans (code.trans ((List.cons.inj whole).1.symm.trans last)))

theorem pointsAt_iff (nonempty : source ≠ []) (whole : source = before ++ after)
    (starts : span.m = byteLength before) :
    PointsAt width source before (ofSpan width source span) ↔ ¬ PastLastLine source before := by
  refine ⟨fun points past => not_pointsAt_of_pastLastLine past starts points, fun notPast => ?_⟩
  obtain ⟨earlier, lead, rest, later, inside⟩ := exists_endsIn before after
  rw [← whole] at inside
  by_cases counts : lead ++ rest ≠ [] ∨ later ≠ []
  · obtain ⟨lines, terminated⟩ := inside.terminated counts
    exact inside.pointsAt terminated starts
  · rw [not_or, not_not, not_not] at counts
    obtain ⟨empty, rfl⟩ := counts
    obtain ⟨rfl, rfl⟩ := List.append_eq_nil_iff.mp empty
    have all : splitLines source = earlier ++ [[]] := inside.lines
    have same : before = source := by rw [← inside.before, ← all, joinLines_splitLines]
    rcases List.eq_nil_or_concat earlier with rfl | ⟨others, line, rfl⟩
    · refine absurd ?_ nonempty
      rw [← joinLines_splitLines source, all]
      rfl
    · have split : splitLines source = others ++ [line, []] := by
        rw [all]
        simp
      obtain rfl : line = [] := by
        by_contra visible
        exact notPast ⟨same, others, line, split, visible⟩
      obtain ⟨number, code, column⟩ := ofSpan_past width split (same ▸ starts)
      exact ⟨others.concat [], [], [], [], inside, by simpa using number, code, column⟩

/-! ### What is printed -/

theorem newline_not_mem_toString (n : Nat) : '\n' ∉ (toString n).toList := by
  intro member
  rw [Nat.toString_eq_repr, Nat.toList_repr] at member
  exact absurd (Nat.isDigit_of_mem_toDigits (by decide) (by decide) member) (by decide)

def digits (e : Excerpt) : List Char := (toString e.number).toList

def margin (e : Excerpt) : List Char := List.replicate (digits e).length ' '

/-- The number in front of the code. -/
def codeLine (e : Excerpt) : List Char := ' ' :: (digits e ++ " | ".toList ++ e.code)

/-- The carets below the code. -/
def caretLine (e : Excerpt) : List Char :=
  ' ' :: (margin e ++ " | ".toList ++ List.replicate e.column ' ' ++ List.replicate e.carets '^')

theorem toList_render (e : Excerpt) (message : String) :
    (e.render message).toList =
      '\n' :: (' ' :: (margin e ++ " |".toList) ++ '\n' :: (codeLine e ++ '\n' :: (caretLine e ++
        ' ' :: (message.toList ++ ['\n'])))) := by
  have length : (toString e.number).length = (digits e).length := String.length_toList.symm
  unfold render
  dsimp only
  rw [length]
  simp [codeLine, caretLine, margin, digits]

/-- An excerpt is a margin, the number and the code, the carets with the message, and what follows that. -/
theorem splitLines_render {e : Excerpt} (oneLine : '\n' ∉ e.code) (message : String) :
    ∃ more, splitLines (e.render message).toList =
      [] :: (' ' :: (margin e ++ " |".toList)) :: codeLine e ::
        (caretLine e ++ ' ' :: firstLine message.toList) :: more := by
  have number := newline_not_mem_toString e.number
  have headed : firstLine (' ' :: (message.toList ++ ['\n'])) = ' ' :: firstLine message.toList :=
    firstLine_append_newline (' ' :: message.toList) []
  refine ⟨(splitLines (' ' :: (message.toList ++ ['\n']))).tail, ?_⟩
  rw [toList_render, splitLines_fourth, headed]
  · simp [margin]
  · rw [codeLine, digits]
    simp only [List.mem_cons, List.mem_append, not_or]
    exact ⟨by decide, ⟨number, by decide⟩, oneLine⟩
  · simp [caretLine, margin]

theorem newline_not_mem_code (width : List Char → Nat) (source : List Char) (span : Span) :
    '\n' ∉ (ofSpan width source span).code := by
  have lines : ∀ line ∈ terminatedLines source, '\n' ∉ line := fun line member =>
    newline_not_mem_of_mem_splitLines (terminatedLines_subset source member)
  unfold ofSpan
  dsimp only
  cases here : (terminatedLines source)[(locate width (terminatedLines source) 0 span.m).1]? with
  | some line => exact lines line (List.mem_of_getElem? here)
  | none =>
    cases last : (terminatedLines source).getLast? with
    | some line => exact lines line (List.mem_of_getLast? last)
    | none => exact List.not_mem_nil

/-- Number, code and column of an excerpt are those of the line that holds the start of the span or ends there,
and the carets are as many as the span is wide, at least one. Only behind the newline that ends the source
they are not: there the number is that of the empty line, and the line before it is shown. -/
theorem ofSpan_pointsAt_iff (width : List Char → Nat) (nonempty : source ≠ [])
    (whole : source = before ++ (spanned ++ after)) (starts : span.m = byteLength before)
    (ends : span.n = byteLength (before ++ spanned)) (message : String) :
    (PointsAt width source before (ofSpan width source span) ↔ ¬ PastLastLine source before) ∧
    (∀ earlier line, before = source → splitLines source = earlier ++ [line, []] →
      (ofSpan width source span).number = earlier.length + 2 ∧
      (ofSpan width source span).code = line ∧ (ofSpan width source span).column = width line) ∧
    (ofSpan width source span).carets = max 1 (width spanned) ∧
    ∃ more, splitLines ((ofSpan width source span).render message).toList =
      [] :: (' ' :: (margin (ofSpan width source span) ++ " |".toList)) ::
        codeLine (ofSpan width source span) ::
        (caretLine (ofSpan width source span) ++ ' ' :: firstLine message.toList) :: more := by
  refine ⟨pointsAt_iff nonempty whole starts, ?_, carets_ofSpan whole starts ends,
    splitLines_render (newline_not_mem_code width source span) message⟩
  rintro earlier line rfl split
  exact ofSpan_past width split starts

/-- The second of two wide characters, in the second line. -/
theorem ofSpan_pointsAt_wide :
    let source := "x\n日本\n".toList
    let before := "x\n日".toList
    let excerpt := ofSpan Text.width source ⟨5, 8⟩
    source ≠ [] ∧ source = before ++ ("本".toList ++ "\n".toList) ∧ 5 = byteLength before ∧
      8 = byteLength (before ++ "本".toList) ∧ PointsAt Text.width source before excerpt ∧
      excerpt.carets = max 1 (Text.width "本".toList) ∧
      excerpt.render "no" = "\n   |\n 2 | 日本\n   |   ^^ no\n" := by
  intro source before excerpt
  have nonempty : source ≠ [] := by decide
  have whole : source = before ++ ("本".toList ++ "\n".toList) := by decide
  have starts : (⟨5, 8⟩ : Span).m = byteLength before := by decide
  have ends : (⟨5, 8⟩ : Span).n = byteLength (before ++ "本".toList) := by decide
  obtain ⟨points, -, carets, -⟩ := ofSpan_pointsAt_iff Text.width nonempty whole starts ends "no"
  have inside : ¬ PastLastLine source before := fun past => absurd past.1 (by decide)
  have wide : Text.width ['日'] = 2 ∧ Text.width ['本'] = 2 := by
    simp only [width_singleton, charWidth, inRanges_eq_any]
    decide +kernel
  have located : locate Text.width (terminatedLines source) 0 5 = (1, Text.width ['日']) :=
    locate_inside Text.width [['x']] [] ['日'] ['本'] 0
  have terminated : terminatedLines source = [['x'], ['日', '本']] := by decide
  have sliced : slice? source 5 8 = some ['本'] := by decide
  have shown : excerpt = ⟨2, ['日', '本'], 2, 2⟩ := by
    refine (ofSpan_of_locate located).trans ?_
    simp [terminated, sliced, wide]
  refine ⟨nonempty, whole, starts, ends, points.mpr inside, carets, ?_⟩
  rw [shown]
  decide +kernel

/-- Behind a final newline the number of the empty line stands beside the line before it. -/
theorem ofSpan_finalNewline :
    let source := "a\n".toList
    let excerpt := ofSpan Text.width source ⟨2, 2⟩
    splitLines source = [['a'], []] ∧ byteLength source = 2 ∧ excerpt.number = 2 ∧ excerpt.code = ['a'] ∧
      ¬ PointsAt Text.width source source excerpt ∧
      excerpt.render "no" = "\n   |\n 2 | a\n   |  ^ no\n" := by
  intro source excerpt
  have split : splitLines source = [] ++ [['a'], []] := by decide
  have size : (⟨2, 2⟩ : Span).m = byteLength source := by decide
  have past : PastLastLine source source := ⟨rfl, [], ['a'], split, by decide⟩
  obtain ⟨number, code, column⟩ := ofSpan_past Text.width split size
  have narrow : Text.width ['a'] = 1 := by
    simp only [width_singleton, charWidth, inRanges_eq_any]
    decide +kernel
  have shown : excerpt = ⟨2, ['a'], 1, 1⟩ := by
    change (⟨excerpt.number, excerpt.code, excerpt.column, 1⟩ : Excerpt) = _
    rw [number, code, column, narrow]
    rfl
  refine ⟨split, size.symm, number, code, not_pointsAt_of_pastLastLine past size, ?_⟩
  rw [shown]
  decide +kernel

end Excerpt

end MarkupTemplate
