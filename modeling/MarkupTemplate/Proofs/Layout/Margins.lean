import MarkupTemplate.Text.Indent

/-!
# Margins

A printed text in which every character carries the margin of the block that it comes from. Setting
the text puts the margin of its first character in front of every line that is not empty.
`indentFrom_setFrom` shows that indenting a text that is set is setting it with wider margins.
-/

namespace MarkupTemplate.Text

/-- A character and its margin. -/
abbrev Marked := Char × List Char

/-- A text, all of it with one margin. -/
def mark (margin : List Char) (text : List Char) : List Marked := text.map (·, margin)

/-- The text without its margins. -/
def unmarked (text : List Marked) : List Char := text.map (·.1)

/-- `setLines` from a place where a line has just started, or not. -/
def setFrom : Bool → List Marked → List Char
  | _, [] => []
  | atStart, (c, margin) :: rest =>
    if c = '\n' then '\n' :: setFrom true rest
    else if atStart then margin ++ c :: setFrom false rest
    else c :: setFrom false rest

/-- Puts in front of every line that is not empty the margin of its first character. -/
def setLines (text : List Marked) : List Char := setFrom true text

/-- The part of a margin that is beyond an outer one. -/
def within (outer : List Char) (text : List Marked) : List Marked :=
  text.map fun (c, margin) => (c, margin.drop outer.length)

theorem within_append (outer : List Char) (text more : List Marked) :
    within outer (text ++ more) = within outer text ++ within outer more := by
  simp [within]

theorem unmarked_mark (margin text : List Char) : unmarked (mark margin text) = text := by
  simp [unmarked, mark, Function.comp_def]

theorem within_nil (text : List Marked) : within [] text = text := by
  simp [within]

/-! ### Texts of one block -/

/-- The text before the first newline has a margin. -/
def StartsAt (margin : List Char) : List Marked → Prop
  | [] => True
  | (c, m) :: rest => c = '\n' ∨ m = margin ∧ StartsAt margin rest

/-- A text inside a block: what stands on the line on which it starts has the margin of the block,
and every other margin extends it. No margin holds a newline. -/
structure Inside (margin : List Char) (text : List Marked) : Prop where
  starts : StartsAt margin text
  extend : ∀ entry ∈ text, margin <+: entry.2
  oneLine : ∀ entry ∈ text, '\n' ∉ entry.2

namespace Inside

variable {margin : List Char} {text more : List Marked}

theorem nil (margin : List Char) : Inside margin [] := ⟨trivial, nofun, nofun⟩

theorem append (h : Inside margin text) (h' : Inside margin more) :
    Inside margin (text ++ more) := by
  refine ⟨?_, List.forall_mem_append.mpr ⟨h.extend, h'.extend⟩,
    List.forall_mem_append.mpr ⟨h.oneLine, h'.oneLine⟩⟩
  have starts := h.starts
  clear h
  induction text with
  | nil => exact h'.starts
  | cons entry rest ih =>
    rcases starts with newline | ⟨same, starts⟩
    · exact .inl newline
    · exact .inr ⟨same, ih starts⟩

theorem mark (oneLine : '\n' ∉ margin) (text : List Char) : Inside margin (mark margin text) := by
  refine ⟨?_, ?_, ?_⟩
  · induction text with
    | nil => trivial
    | cons c rest ih => exact .inr ⟨rfl, ih⟩
  · intro entry member
    obtain ⟨c, -, rfl⟩ := List.mem_map.mp member
    exact List.prefix_rfl
  · intro entry member
    obtain ⟨c, -, rfl⟩ := List.mem_map.mp member
    exact oneLine

/-- A text on a line of its own is inside of every block that the block is inside of. -/
theorem outdent {outer : List Char} (prefixed : outer <+: margin) (h : Inside margin text)
    (own : text.head?.map (·.1) = some '\n') : Inside outer text := by
  refine ⟨?_, fun entry member => prefixed.trans (h.extend entry member), h.oneLine⟩
  cases text with
  | nil => trivial
  | cons entry rest => exact .inl (Option.some.inj own)

end Inside

/-! ### Setting -/

/-- A text that starts with the margin of its block can be set as if its line went on. -/
theorem setFrom_of_inside {margin : List Char} {text : List Marked} (h : Inside margin text)
    (atStart : Bool) : setFrom atStart (within margin text) = setFrom true (within margin text) := by
  cases text with
  | nil => cases atStart <;> rfl
  | cons entry rest =>
    obtain ⟨c, m⟩ := entry
    rcases h.starts with rfl | ⟨rfl, -⟩
    · simp [within, setFrom]
    · cases atStart <;> simp [within, setFrom]

theorem setFrom_append {margin : List Char} {more : List Marked} (h : Inside margin more)
    (atStart : Bool) (text : List Marked) :
    setFrom atStart (text ++ within margin more) =
      setFrom atStart text ++ setFrom true (within margin more) := by
  induction text generalizing atStart with
  | nil => exact setFrom_of_inside h atStart
  | cons entry rest ih =>
    simp only [List.cons_append, setFrom, ih]
    split
    · rfl
    · split <;> simp

theorem setFrom_mark (margin : List Char) (atStart : Bool) (text : List Char) :
    setFrom atStart (within margin (mark margin text)) = text := by
  induction text generalizing atStart with
  | nil => rfl
  | cons c rest ih =>
    have rest : ∀ atStart, setFrom atStart (within margin (rest.map (·, margin))) = rest := ih
    simp only [mark, within, List.map_cons, setFrom, List.drop_length, List.nil_append] at rest ⊢
    simp only [rest]
    split
    · next h => rw [h]
    · split <;> rfl

theorem indentFrom_noNewline (indent : List Char) {text : List Char} (oneLine : '\n' ∉ text)
    (rest : List Char) :
    indentFrom indent false (text ++ rest) = text ++ indentFrom indent false rest := by
  induction text with
  | nil => rfl
  | cons c cs ih =>
    rw [List.mem_cons, not_or] at oneLine
    simp [indentFrom, Ne.symm oneLine.1, ih oneLine.2]

theorem indentFrom_start (indent : List Char) {margin : List Char} (oneLine : '\n' ∉ margin)
    {c : Char} (visible : c ≠ '\n') (rest : List Char) :
    indentFrom indent true (margin ++ c :: rest) =
      indent ++ margin ++ c :: indentFrom indent false rest := by
  cases margin with
  | nil => simp [indentFrom, visible]
  | cons d ds =>
    rw [List.mem_cons, not_or] at oneLine
    simp [indentFrom, Ne.symm oneLine.1, indentFrom_noNewline indent oneLine.2, visible]

/-- Indenting a text that is set widens its margins. -/
theorem indentFrom_setFrom (indent : List Char) (atStart : Bool) {text : List Marked}
    (oneLine : ∀ entry ∈ text, '\n' ∉ entry.2) :
    indentFrom indent atStart (setFrom atStart text) =
      setFrom atStart (text.map fun (c, margin) => (c, indent ++ margin)) := by
  induction text generalizing atStart with
  | nil => rfl
  | cons entry rest ih =>
    obtain ⟨c, margin⟩ := entry
    obtain ⟨here, later⟩ := List.forall_mem_cons.mp oneLine
    simp only [List.map_cons, setFrom]
    split
    · simp [indentFrom, ih true later]
    · next visible =>
      cases atStart with
      | true => simp [indentFrom_start indent here visible, ih false later]
      | false => simp [indentFrom, visible, ih false later]

/-- Beyond an outer block, the margins are those beyond the block itself behind its own indentation. -/
theorem within_outer {outer indent : List Char} {text : List Marked}
    (h : Inside (outer ++ indent) text) :
    (within (outer ++ indent) text).map (fun (c, margin) => (c, indent ++ margin)) =
      within outer text := by
  rw [within, within, List.map_map]
  refine List.map_congr_left fun entry member => ?_
  obtain ⟨beyond, same⟩ := h.extend entry member
  simp [← same, List.append_assoc]

/-! ### The ends of a text -/

theorem head?_setFrom (atStart : Bool) {text : List Marked}
    (oneLine : ∀ entry ∈ text, '\n' ∉ entry.2) :
    ((setFrom atStart text).head? = some '\n') ↔ (unmarked text).head? = some '\n' := by
  cases text with
  | nil => rfl
  | cons entry rest =>
    obtain ⟨c, margin⟩ := entry
    have here := oneLine _ List.mem_cons_self
    by_cases newline : c = '\n'
    · simp [setFrom, unmarked, newline]
    · cases atStart with
      | false => simp [setFrom, unmarked, newline]
      | true =>
        cases margin with
        | nil => simp [setFrom, unmarked, newline]
        | cons d ds =>
          rw [List.mem_cons, not_or] at here
          simp [setFrom, unmarked, newline, Ne.symm here.1]

theorem getLast?_setFrom (atStart : Bool) (text : List Marked) :
    (setFrom atStart text).getLast? = (unmarked text).getLast? := by
  induction text generalizing atStart with
  | nil => rfl
  | cons entry rest ih =>
    obtain ⟨c, margin⟩ := entry
    have last : ∀ atStart, (c :: setFrom atStart rest).getLast? = (c :: unmarked rest).getLast? := by
      intro atStart
      rw [List.getLast?_cons, List.getLast?_cons, ih]
    simp only [setFrom]
    split
    · next newline => exact newline ▸ last true
    · split
      · rw [List.getLast?_append, last, List.getLast?_cons, Option.some_or]
        exact List.getLast?_cons.symm
      · exact last false

end MarkupTemplate.Text
