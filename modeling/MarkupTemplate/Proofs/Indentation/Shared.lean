import Mathlib.Data.List.Forall2
import Mathlib.Data.List.TakeWhile
import MarkupTemplate.Proofs.Indentation.Lines

/-!
# Shared indentation

The indentation that is measured on a text is the longest one that its lines share, and taking it away
shortens every line that is not empty by just that. `removeIndent_commonIndent` says so, and when adding
it again gives the text back.
-/

namespace MarkupTemplate.Text

variable {lead other line text : List Char} {lines : List (List Char)}

/-- The longest run of blanks that some lines start with, empty lines apart. -/
structure SharedIndent (lead : List Char) (lines : List (List Char)) : Prop where
  blank : ∀ c ∈ lead, isIndentChar c = true
  leads : ∀ line ∈ lines, line ≠ [] → lead <+: line
  longest : ∀ other, (∀ c ∈ other, isIndentChar c = true) →
    (∀ line ∈ lines, line ≠ [] → other <+: line) → (∃ line ∈ lines, line ≠ []) → other <+: lead
  none : (∀ line ∈ lines, line = []) → lead = []

namespace SharedIndent

theorem unique (h : SharedIndent lead lines) (h' : SharedIndent other lines) : lead = other := by
  by_cases visible : ∃ line ∈ lines, line ≠ []
  · have here := h'.longest lead h.blank h.leads visible
    have there := h.longest other h'.blank h'.leads visible
    exact here.eq_of_length_le there.length_le
  · have empty : ∀ line ∈ lines, line = [] := by simpa using visible
    rw [h.none empty, h'.none empty]

theorem oneLine (h : SharedIndent lead lines) : '\n' ∉ lead := by
  intro member
  have blank := h.blank '\n' member
  revert blank
  decide

end SharedIndent

/-! ### Measuring -/

theorem prefix_sharedLead_iff {as bs : List Char} :
    lead <+: sharedLead as bs ↔ lead <+: as ∧ lead <+: bs := by
  induction lead generalizing as bs with
  | nil => simp
  | cons c cs ih =>
    cases as with
    | nil => simp [sharedLead]
    | cons a as =>
      cases bs with
      | nil => simp [sharedLead]
      | cons b bs =>
        by_cases same : a = b
        · subst same
          simp only [sharedLead, if_true, List.cons_prefix_cons, ih]
          exact and_and_left
        · simp only [sharedLead, same, if_false, List.prefix_nil, List.cons_prefix_cons,
            List.cons_ne_nil, false_iff]
          rintro ⟨⟨rfl, -⟩, rfl, -⟩
          exact same rfl

theorem prefix_foldl_sharedLead_iff {start : List Char} :
    lead <+: lines.foldl sharedLead start ↔ lead <+: start ∧ ∀ line ∈ lines, lead <+: line := by
  induction lines generalizing start with
  | nil => simp
  | cons line lines ih =>
    rw [List.foldl_cons, ih, prefix_sharedLead_iff, List.forall_mem_cons, and_assoc]

theorem prefix_takeWhile_iff {p : Char → Bool} :
    lead <+: line.takeWhile p ↔ (∀ c ∈ lead, p c = true) ∧ lead <+: line := by
  constructor
  · intro starts
    refine ⟨fun c member => ?_, starts.trans (List.takeWhile_prefix p)⟩
    exact List.mem_takeWhile_imp (starts.subset member)
  · rintro ⟨all, rest, rfl⟩
    rw [List.takeWhile_append_of_pos all]
    exact List.prefix_append _ _

/-- The lines that a measured indentation leads. -/
theorem prefix_commonIndent_iff (visible : ∃ line ∈ splitLines text, line ≠ []) :
    lead <+: commonIndent text ↔ (∀ c ∈ lead, isIndentChar c = true) ∧
      ∀ line ∈ splitLines text, line ≠ [] → lead <+: line := by
  have shown : ∀ line : List Char, (!line.isEmpty) = true ↔ line ≠ [] := by
    intro line
    cases line <;> simp
  have others : (∀ line ∈ splitLines text, line ≠ [] → lead <+: line) ↔
      ∀ line ∈ (splitLines text).filter (!·.isEmpty), lead <+: line := by
    simp only [List.mem_filter, shown, and_imp]
  unfold commonIndent
  split
  · next empty =>
    obtain ⟨line, member, nonempty⟩ := visible
    have kept : line ∈ (splitLines text).filter (!·.isEmpty) :=
      List.mem_filter.mpr ⟨member, (shown line).mpr nonempty⟩
    rw [empty] at kept
    exact absurd kept List.not_mem_nil
  · next first rest found =>
    rw [others, found, List.forall_mem_cons, prefix_foldl_sharedLead_iff, prefix_takeWhile_iff,
      and_assoc]

theorem commonIndent_eq_nil (empty : ∀ line ∈ splitLines text, line = []) :
    commonIndent text = [] := by
  have dropped : (splitLines text).filter (!·.isEmpty) = [] := by
    rw [List.filter_eq_nil_iff]
    intro line member
    rw [empty line member]
    decide
  rw [commonIndent, dropped]

/-- What is measured is the longest run of blanks that all lines share. -/
theorem sharedIndent_commonIndent (text : List Char) :
    SharedIndent (commonIndent text) (splitLines text) := by
  by_cases visible : ∃ line ∈ splitLines text, line ≠ []
  · obtain ⟨blank, leads⟩ := (prefix_commonIndent_iff visible).mp List.prefix_rfl
    refine ⟨blank, leads, fun other blank leads _ => ?_, fun empty => commonIndent_eq_nil empty⟩
    exact (prefix_commonIndent_iff visible).mpr ⟨blank, leads⟩
  · have empty : ∀ line ∈ splitLines text, line = [] := by simpa using visible
    rw [commonIndent_eq_nil empty]
    exact ⟨nofun, fun _ _ _ => List.nil_prefix, fun _ _ _ some => absurd some visible, fun _ => rfl⟩

/-- The same for any lines, also for none at all. -/
theorem sharedIndent_joinLines (oneLine : ∀ line ∈ lines, '\n' ∉ line) :
    SharedIndent (commonIndent (joinLines lines)) lines := by
  by_cases nothing : lines = []
  · subst nothing
    exact ⟨nofun, nofun, fun _ _ _ ⟨_, member, _⟩ => absurd member List.not_mem_nil, fun _ => rfl⟩
  · have shared := sharedIndent_commonIndent (joinLines lines)
    rwa [splitLines_joinLines nothing oneLine] at shared

/-! ### Taking away -/

/-- An empty line stays, any other line loses an indentation that it starts with. -/
inductive Outdented (lead : List Char) : List Char → List Char → Prop
  | empty : Outdented lead [] []
  | line (rest : List Char) : Outdented lead (lead ++ rest) rest

theorem outdented_outdentLine (leads : line ≠ [] → lead <+: line) :
    Outdented lead line (outdentLine lead line) := by
  by_cases empty : line = []
  · rw [empty, outdentLine_nil]
    exact .empty
  · obtain ⟨rest, rfl⟩ := leads empty
    rw [outdentLine_append]
    exact .line rest

theorem forall₂_outdented (leads : ∀ line ∈ lines, line ≠ [] → lead <+: line) :
    List.Forall₂ (Outdented lead) lines (lines.map (outdentLine lead)) := by
  rw [List.forall₂_map_right_iff, List.forall₂_same]
  exact fun line member => outdented_outdentLine (leads line member)

/-- A line gets back what it lost unless nothing else stood on it. -/
theorem indentLine_outdentLine_iff (leads : line ≠ [] → lead <+: line) :
    indentLine lead (outdentLine lead line) = line ↔ (line = lead → lead = []) := by
  by_cases empty : line = []
  · rw [empty, outdentLine_nil, indentLine_nil]
    exact iff_of_true rfl Eq.symm
  · obtain ⟨rest, rfl⟩ := leads empty
    rw [outdentLine_append, List.append_right_eq_self]
    cases rest with
    | nil =>
      rw [List.append_nil] at empty ⊢
      exact iff_of_false (fun back => empty back.symm) fun nothing => empty (nothing rfl)
    | cons c cs =>
      rw [indentLine_of_ne_nil (List.cons_ne_nil _ _)]
      exact iff_of_true rfl fun other => absurd other (List.cons_ne_nil _ _)

theorem splitLines_injective : Function.Injective splitLines := by
  intro text more same
  rw [← joinLines_splitLines text, same, joinLines_splitLines]

/-- Adding an indentation that was taken away gives the text back unless it was a line by itself. -/
theorem indentLines_removeIndent_iff (oneLine : '\n' ∉ lead)
    (leads : ∀ line ∈ splitLines text, line ≠ [] → lead <+: line) :
    indentLines lead (removeIndent lead text) = text ↔ lead = [] ∨ lead ∉ splitLines text := by
  rw [← splitLines_injective.eq_iff, (lineByLine_indentLines oneLine).splitLines_eq,
    (lineByLine_removeIndent oneLine).splitLines_eq, List.map_map]
  conv => lhs; rhs; rw [← List.map_id (splitLines text)]
  rw [List.map_inj_left]
  constructor
  · intro back
    by_cases member : lead ∈ splitLines text
    · exact .inl ((indentLine_outdentLine_iff (leads lead member)).mp (back lead member) rfl)
    · exact .inr member
  · intro kept line member
    refine (indentLine_outdentLine_iff (leads line member)).mpr ?_
    rintro rfl
    exact kept.resolve_right (not_not_intro member)

/-! ### The lines after the first -/

theorem splitLines_eq_firstLine (text : List Char) :
    splitLines text = firstLine text :: ((afterFirstLine? text).map splitLines).getD [] := by
  have passes : ∀ {line : List Char}, '\n' ∉ line → ∀ c ∈ line, decide (c ≠ '\n') = true := by
    intro line oneLine c member
    rw [decide_eq_true_iff]
    rintro rfl
    exact oneLine member
  induction text using line_induction with
  | last line here =>
    rw [splitLines_of_oneLine here, firstLine, afterFirstLine?,
      List.takeWhile_eq_self_iff.mpr (passes here), List.dropWhile_eq_nil_iff.mpr (passes here)]
    rfl
  | next line more here _ =>
    rw [splitLines_append_newline, splitLines_of_oneLine here, firstLine, afterFirstLine?,
      List.takeWhile_append_of_pos (passes here), List.dropWhile_append_of_pos (passes here)]
    simp

theorem splitLines_eq_cons (text : List Char) :
    splitLines text = firstLine text :: (splitLines text).tail := by
  rw [splitLines_eq_firstLine, List.tail_cons]

/-- The indentation that the lines after the first share. -/
def tailIndent (text : List Char) : List Char := commonIndent (joinLines (splitLines text).tail)

theorem sharedIndent_tailIndent (text : List Char) :
    SharedIndent (tailIndent text) (splitLines text).tail :=
  sharedIndent_joinLines fun _ member =>
    newline_not_mem_of_mem_splitLines (List.mem_of_mem_tail member)

theorem splitLines_outdentTail (text : List Char) :
    splitLines (outdentTail text) =
      firstLine text :: (splitLines text).tail.map (outdentLine (tailIndent text)) := by
  have whole := splitLines_eq_firstLine text
  have oneLine := (sharedIndent_tailIndent text).oneLine
  unfold outdentTail
  cases after : afterFirstLine? text with
  | none =>
    rw [after] at whole
    rw [whole]
    rfl
  | some rest =>
    rw [after, Option.map_some, Option.getD_some] at whole
    have measured : tailIndent text = commonIndent rest := by
      rw [tailIndent, whole, List.tail_cons, joinLines_splitLines]
    have first : '\n' ∉ firstLine text :=
      newline_not_mem_of_mem_splitLines (whole ▸ List.mem_cons_self)
    rw [measured] at oneLine ⊢
    change splitLines (firstLine text ++ '\n' :: removeIndent (commonIndent rest) rest) = _
    rw [splitLines_append_newline, splitLines_of_oneLine first,
      (lineByLine_removeIndent oneLine).splitLines_eq, whole]
    rfl

/-! ### What is kept -/

theorem filter_outdentLine {p : Char → Bool} (blank : ∀ c ∈ lead, p c = false) (line : List Char) :
    (outdentLine lead line).filter p = line.filter p := by
  by_cases leads : lead <+: line
  · obtain ⟨rest, rfl⟩ := leads
    have dropped : lead.filter p = [] := List.filter_eq_nil_iff.mpr (by simpa using blank)
    rw [outdentLine_append, List.filter_append, dropped, List.nil_append]
  · rw [outdentLine_eq_self leads]

theorem filter_removeIndent {p : Char → Bool} (blank : ∀ c ∈ lead, p c = false) (text : List Char) :
    (removeIndent lead text).filter p = text.filter p :=
  calc (removeIndent lead text).filter p
    _ = (splitKeepingNewlines text).flatMap fun line => (outdentLine lead line).filter p :=
      List.filter_flatMap ..
    _ = (splitKeepingNewlines text).flatMap fun line => line.filter p := by
      simp only [filter_outdentLine blank]
    _ = (splitKeepingNewlines text).flatten.filter p := by
      rw [List.filter_flatten, List.flatMap_def]
    _ = text.filter p := by rw [flatten_splitKeepingNewlines]

theorem firstLine_append_afterFirstLine {rest : List Char} (after : afterFirstLine? text = some rest) :
    firstLine text ++ '\n' :: rest = text := by
  unfold afterFirstLine? at after
  cases dropped : text.dropWhile (· ≠ '\n') with
  | nil =>
    rw [dropped] at after
    cases after
  | cons c more =>
    have stopped := List.head?_dropWhile_not (· ≠ '\n') text
    rw [dropped] at after stopped
    obtain rfl := Option.some.inj after
    obtain rfl : c = '\n' := by simpa using stopped
    rw [firstLine, ← dropped, List.takeWhile_append_dropWhile]

/-- Outdenting takes only blanks away. -/
theorem filter_outdentTail {p : Char → Bool} (blank : ∀ c, isIndentChar c = true → p c = false)
    (text : List Char) :
    (outdentTail text).filter p = text.filter p := by
  unfold outdentTail
  split
  · rfl
  · next rest after =>
    have shared := sharedIndent_commonIndent rest
    have kept := filter_removeIndent (fun c member => blank c (shared.blank c member)) rest
    conv_rhs => rw [← firstLine_append_afterFirstLine after]
    rw [List.filter_append, List.filter_append, List.filter_cons, List.filter_cons, kept]

/-! ### Outdented texts -/

/-- The measured indentation is the longest run of blanks that all lines share, empty ones apart.
Taking it away shortens every other line by just that, and adding it again gives the text back if and
only if it is empty or not a line by itself. Outdenting the lines after the first shortens these by what
they share. -/
theorem removeIndent_commonIndent (text : List Char) :
    SharedIndent (commonIndent text) (splitLines text) ∧
    List.Forall₂ (Outdented (commonIndent text)) (splitLines text)
      (splitLines (removeIndent (commonIndent text) text)) ∧
    (indentLines (commonIndent text) (removeIndent (commonIndent text) text) = text ↔
      commonIndent text = [] ∨ commonIndent text ∉ splitLines text) ∧
    ∃ lead, SharedIndent lead (splitLines text).tail ∧
      (splitLines (outdentTail text)).head? = (splitLines text).head? ∧
      List.Forall₂ (Outdented lead) (splitLines text).tail (splitLines (outdentTail text)).tail := by
  have shared := sharedIndent_commonIndent text
  have later := sharedIndent_tailIndent text
  refine ⟨shared, ?_, indentLines_removeIndent_iff shared.oneLine shared.leads,
    tailIndent text, later, ?_, ?_⟩
  · rw [(lineByLine_removeIndent shared.oneLine).splitLines_eq]
    exact forall₂_outdented shared.leads
  · rw [splitLines_outdentTail, splitLines_eq_firstLine text]
    rfl
  · rw [splitLines_outdentTail, List.tail_cons]
    exact forall₂_outdented later.leads

end MarkupTemplate.Text
