import MarkupTemplate.Proofs.Indentation.Holes

/-!
# Filling and outdenting

A filled text has the lines of the text with holes, and those that start inside strings. Both ways to
outdent it cut something from each line after the first, so they agree if and only if they cut the same
from every one: `outdentTail_fill_iff`.
-/

namespace MarkupTemplate.Text

variable {α : Type} {strings : α → List Char} {lead : List Char} {line text : List (Glyph α)}

/-! ### Lines of a filled text -/

theorem splitLines_append (oneLine : '\n' ∉ lead) (text : List Char) :
    splitLines (lead ++ text) = (lead ++ firstLine text) :: (splitLines text).tail := by
  induction lead with
  | nil => exact splitLines_eq_cons text
  | cons c cs ih =>
    rw [List.mem_cons, not_or] at oneLine
    rw [List.cons_append, splitLines, if_neg (Ne.symm oneLine.1), ih oneLine.2]
    rfl

theorem firstLine_append (oneLine : '\n' ∉ lead) (text : List Char) :
    firstLine (lead ++ text) = lead ++ firstLine text := by
  have whole := splitLines_append oneLine text
  rw [splitLines_eq_cons] at whole
  exact (List.cons.inj whole).1

theorem map_snd_filledLine (strings : α → List Char) (line : List (Glyph α)) :
    (filledLine strings line).map (·.2) = splitLines (fill strings line) := by
  rw [splitLines_eq_cons, filledLine, List.map_cons, List.map_map]
  exact congrArg _ (List.map_id _)

theorem splitLines_fill_intercalate (strings : α → List Char) {lines : List (List (Glyph α))}
    (nonempty : lines ≠ []) :
    splitLines (fill strings ([.char '\n'].intercalate lines)) =
      lines.flatMap fun line => splitLines (fill strings line) := by
  induction lines with
  | nil => exact absurd rfl nonempty
  | cons line lines ih =>
    cases lines with
    | nil => rw [List.intercalate_singleton, List.flatMap_singleton]
    | cons next lines =>
      rw [List.intercalate_cons_cons, List.append_assoc, fill_append, List.singleton_append, fill_char,
        splitLines_append_newline, ih (List.cons_ne_nil _ _)]
      rfl

theorem splitLines_fill_eq_flatMap (strings : α → List Char) (text : List (Glyph α)) :
    splitLines (fill strings text) =
      (holedLines text).flatMap fun line => splitLines (fill strings line) := by
  rw [← splitLines_fill_intercalate strings (holedLines_ne_nil text), intercalate_holedLines]

/-- The lines of a filled text: its first one, and those after that. -/
theorem splitLines_fill (strings : α → List Char) (text : List (Glyph α)) :
    splitLines (fill strings text) =
      firstLine (fill strings text) :: (laterLines strings text).map (·.2) := by
  have same : ((holedLines text).flatMap (filledLine strings)).map (·.2) =
      splitLines (fill strings text) := by
    rw [splitLines_fill_eq_flatMap, List.map_flatMap]
    simp only [map_snd_filledLine]
  rw [laterLines, List.map_tail, same]
  exact splitLines_eq_cons _

theorem laterLines_of_cons {rest : List (List (Glyph α))} (lines : holedLines text = line :: rest) :
    laterLines strings text =
      (splitLines (fill strings line)).tail.map (true, ·) ++ rest.flatMap (filledLine strings) := by
  rw [laterLines, lines, List.flatMap_cons, filledLine, List.cons_append, List.tail_cons]

/-- The lines that start outside of strings. -/
theorem mem_laterLines_outside {line : List Char} :
    (false, line) ∈ laterLines strings text ↔
      ∃ holed ∈ (holedLines text).tail, firstLine (fill strings holed) = line := by
  cases lines : holedLines text with
  | nil => exact absurd lines (holedLines_ne_nil text)
  | cons first rest =>
    have inside : ∀ lines : List (List Char), (false, line) ∉ lines.map (true, ·) := by simp
    rw [laterLines_of_cons lines, List.tail_cons, List.mem_append, or_iff_right (inside _),
      List.mem_flatMap]
    refine exists_congr fun holed => and_congr_right fun _ => ?_
    rw [filledLine, List.mem_cons, or_iff_left (inside _), Prod.mk.injEq, and_iff_right rfl, eq_comm]

/-- What is left of a line of a filled text if only lines that start outside of strings are cut. -/
def cutOutside (n : Nat) (entry : Bool × List Char) : List Char :=
  if entry.1 then entry.2 else entry.2.drop n

theorem map_cutOutside_inside (n : Nat) (lines : List (List Char)) :
    (lines.map (true, ·)).map (cutOutside n) = lines := by
  rw [List.map_map]
  exact List.map_id lines

/-- Cutting a line before it is filled. -/
theorem splitLines_fill_drop (oneLine : '\n' ∉ lead)
    (starts : line ≠ [] → lead.map .char <+: line) :
    splitLines (fill strings (line.drop lead.length)) =
      (filledLine strings line).map (cutOutside lead.length) := by
  rw [filledLine, List.map_cons, map_cutOutside_inside]
  by_cases empty : line = []
  · subst empty
    rw [List.drop_nil, fill_nil, cutOutside, firstLine, List.takeWhile_nil]
    simp [splitLines]
  · obtain ⟨rest, rfl⟩ := starts empty
    have cut : (lead.map Glyph.char ++ rest).drop lead.length = rest :=
      List.drop_left' (List.length_map _)
    rw [cut, fill_append, fill_chars, splitLines_append oneLine, firstLine_append oneLine, List.tail_cons,
      splitLines_eq_cons, cutOutside]
    simp

theorem holedIndent_leads (member : line ∈ (holedLines text).tail) (nonempty : line ≠ []) :
    (holedIndent text).map .char <+: line := by
  have shared := sharedIndent_holedIndent text
  refine (prefix_fill_iff (solid_visible line) shared.blank).mp ?_
  refine shared.leads _ (List.mem_map_of_mem member) ?_
  exact fun nothing => nonempty ((fill_eq_nil_iff (solid_visible line)).mp nothing)

/-- Outdenting before filling cuts the lines after the first that start outside of strings. -/
theorem splitLines_fill_outdentHoles (strings : α → List Char) (text : List (Glyph α)) :
    splitLines (fill strings (outdentHoles text)) =
      firstLine (fill strings text) ::
        (laterLines strings text).map (cutOutside (holedIndent text).length) := by
  have oneLine := (sharedIndent_holedIndent text).oneLine
  have starts : ∀ line ∈ (holedLines text).tail, line ≠ [] → (holedIndent text).map .char <+: line :=
    fun _ => holedIndent_leads
  have split := splitLines_fill_eq_flatMap strings text
  cases lines : holedLines text with
  | nil => exact absurd lines (holedLines_ne_nil text)
  | cons line rest =>
    rw [lines, List.tail_cons] at starts
    have first : firstLine (fill strings text) = firstLine (fill strings line) := by
      rw [lines, List.flatMap_cons, splitLines_eq_cons, splitLines_eq_cons (fill strings line)] at split
      exact (List.cons.inj split).1
    calc splitLines (fill strings (outdentHoles text))
      _ = (line :: rest.map (·.drop (holedIndent text).length)).flatMap
          fun line => splitLines (fill strings line) := by
        rw [outdentHoles, lines, List.tail_cons]
        exact splitLines_fill_intercalate strings (List.cons_ne_nil _ _)
      _ = splitLines (fill strings line) ++
          rest.flatMap fun line => (filledLine strings line).map (cutOutside (holedIndent text).length) := by
        rw [List.flatMap_cons, List.flatMap_map]
        refine congrArg _ (List.flatMap_congr fun line member => ?_)
        exact splitLines_fill_drop oneLine (starts line member)
      _ = firstLine (fill strings text) ::
          (laterLines strings text).map (cutOutside (holedIndent text).length) := by
        rw [laterLines_of_cons lines, List.map_append, map_cutOutside_inside, List.map_flatMap, first,
          splitLines_eq_cons (fill strings line)]
        rfl

/-! ### Two ways to outdent -/

theorem outdentLine_eq_drop {line : List Char} (leads : line ≠ [] → lead <+: line) :
    outdentLine lead line = line.drop lead.length := by
  by_cases empty : line = []
  · rw [empty, outdentLine_nil, List.drop_nil]
  · obtain ⟨rest, rfl⟩ := leads empty
    rw [outdentLine_append, List.drop_left]

/-- Outdenting a filled text gives the same as outdenting it before it is filled if and only if every
line after the first loses the same. -/
theorem outdentTail_fill_iff_lines (strings : α → List Char) (text : List (Glyph α)) :
    outdentTail (fill strings text) = fill strings (outdentHoles text) ↔
      ∀ entry ∈ laterLines strings text,
        outdentLine (tailIndent (fill strings text)) entry.2 =
          cutOutside (holedIndent text).length entry := by
  rw [← splitLines_injective.eq_iff, splitLines_outdentTail, splitLines_fill_outdentHoles,
    splitLines_fill, List.tail_cons, List.map_map, List.cons.injEq, and_iff_right rfl]
  exact List.map_inj_left

theorem tailIndent_leads {entry : Bool × List Char} (member : entry ∈ laterLines strings text)
    (nonempty : entry.2 ≠ []) : tailIndent (fill strings text) <+: entry.2 := by
  refine (sharedIndent_tailIndent _).leads _ ?_ nonempty
  rw [splitLines_fill, List.tail_cons]
  exact List.mem_map_of_mem member

theorem tailIndent_eq_nil (empty : ∀ entry ∈ laterLines strings text, entry.2 = []) :
    tailIndent (fill strings text) = [] := by
  refine (sharedIndent_tailIndent _).none ?_
  rw [splitLines_fill, List.tail_cons, List.forall_mem_map]
  exact empty

theorem holedIndent_leads_firstLine (strings : α → List Char) (member : line ∈ (holedLines text).tail)
    (nonempty : line ≠ []) : holedIndent text <+: firstLine (fill strings line) := by
  obtain ⟨rest, rfl⟩ := holedIndent_leads member nonempty
  rw [fill_append, fill_chars, firstLine_append (sharedIndent_holedIndent text).oneLine]
  exact List.prefix_append _ _

theorem holedIndent_leads_outside {line : List Char} (member : (false, line) ∈ laterLines strings text)
    (nonempty : line ≠ []) : holedIndent text <+: line := by
  obtain ⟨holed, inside, rfl⟩ := mem_laterLines_outside.mp member
  refine holedIndent_leads_firstLine strings inside ?_
  rintro rfl
  exact nonempty rfl

theorem holedIndent_eq_nil (empty : ∀ line, (false, line) ∈ laterLines strings text → line = []) :
    holedIndent text = [] := by
  by_cases written : ∃ holed ∈ (holedLines text).tail, holed ≠ []
  · obtain ⟨holed, inside, nonempty⟩ := written
    have leads := holedIndent_leads_firstLine strings inside nonempty
    rw [empty _ (mem_laterLines_outside.mpr ⟨holed, inside, rfl⟩)] at leads
    exact List.prefix_nil.mp leads
  · refine (sharedIndent_holedIndent text).none ?_
    rw [List.forall_mem_map]
    intro holed inside
    have nothing : holed = [] := by
      by_contra nonempty
      exact written ⟨holed, inside, nonempty⟩
    rw [nothing]
    rfl

theorem eq_of_drop_eq {lead other line : List Char} (leads : lead <+: line) (leads' : other <+: line)
    (same : line.drop lead.length = line.drop other.length) : lead = other := by
  obtain ⟨rest, rfl⟩ := leads
  obtain ⟨rest', split⟩ := leads'
  rw [List.drop_left, ← split, List.drop_left] at same
  subst same
  exact (List.append_cancel_right split).symm

theorem outdentLine_tailIndent {entry : Bool × List Char} (member : entry ∈ laterLines strings text) :
    outdentLine (tailIndent (fill strings text)) entry.2 =
      entry.2.drop (tailIndent (fill strings text)).length :=
  outdentLine_eq_drop (tailIndent_leads member)

section Cut

variable (same : ∀ entry ∈ laterLines strings text,
  outdentLine (tailIndent (fill strings text)) entry.2 = cutOutside (holedIndent text).length entry)

include same

/-- A line that starts inside a string has nothing to lose. -/
theorem tailIndent_eq_nil_of_inside {line : List Char} (member : (true, line) ∈ laterLines strings text)
    (nonempty : line ≠ []) : tailIndent (fill strings text) = [] := by
  refine eq_of_drop_eq (tailIndent_leads member nonempty) List.nil_prefix ?_
  rw [← outdentLine_tailIndent member, same _ member]
  rfl

/-- A line that starts outside of strings loses the same either way. -/
theorem tailIndent_eq_of_outside {line : List Char} (member : (false, line) ∈ laterLines strings text)
    (nonempty : line ≠ []) : tailIndent (fill strings text) = holedIndent text := by
  refine eq_of_drop_eq (tailIndent_leads member nonempty)
    (holedIndent_leads_outside member nonempty) ?_
  rw [← outdentLine_tailIndent member, same _ member]
  rfl

theorem tailIndent_eq_holedIndent : tailIndent (fill strings text) = holedIndent text := by
  by_cases shown : ∃ line, (false, line) ∈ laterLines strings text ∧ line ≠ []
  · obtain ⟨line, member, nonempty⟩ := shown
    exact tailIndent_eq_of_outside same member nonempty
  · have empty : ∀ line, (false, line) ∈ laterLines strings text → line = [] := by
      simpa using shown
    rw [holedIndent_eq_nil empty]
    by_cases started : ∃ line, (true, line) ∈ laterLines strings text ∧ line ≠ []
    · obtain ⟨line, member, nonempty⟩ := started
      exact tailIndent_eq_nil_of_inside same member nonempty
    · refine tailIndent_eq_nil ?_
      rintro ⟨_ | _, line⟩ member
      · exact empty line member
      · by_contra nonempty
        exact started ⟨line, member, nonempty⟩

end Cut

/-- Outdenting a filled text gives the same as outdenting it before it is filled if and only if the
strings do not change what the lines after the first share, and this is nothing or no line that starts
inside a string has anything to lose. -/
theorem outdentTail_fill_iff (strings : α → List Char) (text : List (Glyph α)) :
    outdentTail (fill strings text) = fill strings (outdentHoles text) ↔
      tailIndent (fill strings text) = holedIndent text ∧
      (holedIndent text = [] ∨ ∀ line, (true, line) ∈ laterLines strings text → line = []) := by
  rw [outdentTail_fill_iff_lines]
  constructor
  · intro same
    have measured := tailIndent_eq_holedIndent same
    refine ⟨measured, or_iff_not_imp_left.mpr fun indented line member => ?_⟩
    by_contra nonempty
    exact indented (measured ▸ tailIndent_eq_nil_of_inside same member nonempty)
  · rintro ⟨measured, kept⟩ ⟨_ | _, line⟩ member
    · rw [outdentLine_tailIndent member, measured]
      rfl
    · rw [outdentLine_tailIndent member, measured]
      rcases kept with nothing | empty
      · rw [nothing]
        rfl
      · rw [empty line member]
        exact List.drop_nil

/-! ### Strings that change nothing -/

theorem laterLines_of_oneLine (oneLine : ∀ a, .hole a ∈ text → '\n' ∉ strings a) :
    laterLines strings text = (holedLines text).tail.map fun line => (false, fill strings line) := by
  have filled : ∀ line ∈ holedLines text, filledLine strings line = [(false, fill strings line)] := by
    intro line member
    have free := mem_of_mem_holedLines member
    have here : '\n' ∉ fill strings line :=
      newline_not_mem_fill (fun g inside => (free g inside).1)
        fun a inside => oneLine a (free _ inside).2
    have split := splitLines_eq_cons (fill strings line)
    rw [splitLines_of_oneLine here] at split
    rw [filledLine, splitLines_of_oneLine here, ← (List.cons.inj split).1]
    rfl
  rw [laterLines, List.flatMap_congr filled, List.map_tail, List.map_eq_flatMap]

/-- Strings without newlines that start visibly where they stand first on a later line do not change
what these lines share. -/
theorem outdentTail_fill (oneLine : ∀ a, .hole a ∈ text → '\n' ∉ strings a)
    (visible : ∀ line ∈ (holedLines text).tail, ∀ a ∈ leadingHole? line, StartsVisibly (strings a)) :
    outdentTail (fill strings text) = fill strings (outdentHoles text) := by
  have later := laterLines_of_oneLine oneLine
  have measured := sharedIndent_tailIndent (fill strings text)
  rw [splitLines_fill, later, List.tail_cons, List.map_map] at measured
  have shared : SharedIndent (holedIndent text) ((holedLines text).tail.map (fill strings)) := by
    refine (sharedIndent_holedIndent text).congr (fun line member => ?_) fun line member lead blank => ?_
    · exact (fill_eq_nil_iff (solid_visible line)).trans (fill_eq_nil_iff (visible line member)).symm
    · exact (prefix_fill_iff (solid_visible line) blank).trans
        (prefix_fill_iff (visible line member) blank).symm
  refine (outdentTail_fill_iff strings text).mpr ⟨measured.unique shared, .inr fun line member => ?_⟩
  rw [later] at member
  obtain ⟨_, -, same⟩ := List.mem_map.mp member
  cases same

/-- Outdenting a text with holes is outdenting it with any visible character in the holes. -/
theorem outdentTail_token {token : Char} (visible : isIndentChar token = false)
    (oneLine : token ≠ '\n') (text : List (Glyph α)) :
    outdentTail (fill (fun _ => [token]) text) = fill (fun _ => [token]) (outdentHoles text) := by
  refine outdentTail_fill (fun _ _ => ?_) fun _ _ _ _ => ⟨token, rfl, visible⟩
  rw [List.mem_singleton]
  exact Ne.symm oneLine

end MarkupTemplate.Text
