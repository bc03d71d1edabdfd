import MarkupTemplate.Proofs.Indentation.Shared

/-!
# Texts with holes

A text as its writer sees it: characters, and holes that strings are put into later. Its own shared
indentation is measured with something opaque in every hole. Strings that start visibly where they stand
first on a line do not lengthen what the line starts with.
-/

namespace MarkupTemplate.Text

/-- A character, or a hole for a string. -/
inductive Glyph (α : Type) where
  | char (c : Char)
  | hole (a : α)

variable {α : Type}

def Glyph.isNewline : Glyph α → Bool
  | .char c => c == '\n'
  | .hole _ => false

def Glyph.isBlank : Glyph α → Bool
  | .char c => isIndentChar c
  | .hole _ => false

/-- The text with a string in every hole. -/
def fill (strings : α → List Char) (text : List (Glyph α)) : List Char :=
  text.flatMap fun
    | .char c => [c]
    | .hole a => strings a

/-- The lines of a text with holes. What will be in the holes starts none. -/
def holedLines (text : List (Glyph α)) : List (List (Glyph α)) := text.splitOnP Glyph.isNewline

/-- The text with a visible character in every hole. -/
def solid (text : List (Glyph α)) : List Char := fill (fun _ => ['\uFFFC']) text

/-- The indentation that the lines after the first share, with holes being visible. -/
def holedIndent (text : List (Glyph α)) : List Char :=
  commonIndent (joinLines ((holedLines text).tail.map solid))

/-- Takes the indentation that the lines after the first share away from them, with holes being
visible. -/
def outdentHoles (text : List (Glyph α)) : List (Glyph α) :=
  [.char '\n'].intercalate ((holedLines text).take 1 ++
    (holedLines text).tail.map (·.drop (holedIndent text).length))

/-- The lines that a line becomes when it is filled, each with whether it starts inside a string. -/
def filledLine (strings : α → List Char) (line : List (Glyph α)) : List (Bool × List Char) :=
  (false, firstLine (fill strings line)) :: (splitLines (fill strings line)).tail.map (true, ·)

/-- The lines of a filled text after the first, each with whether it starts inside a string. -/
def laterLines (strings : α → List Char) (text : List (Glyph α)) : List (Bool × List Char) :=
  ((holedLines text).flatMap (filledLine strings)).tail

/-- The hole that a line starts with, blanks apart. -/
def leadingHole? (line : List (Glyph α)) : Option α :=
  match line.dropWhile Glyph.isBlank with
  | .hole a :: _ => some a
  | _ => none

/-- The text is not empty and does not start with a blank. -/
def StartsVisibly (text : List Char) : Prop := ∃ c ∈ text.head?, isIndentChar c = false

variable {strings : α → List Char} {lead : List Char} {line text : List (Glyph α)}

/-! ### Lines and holes -/

@[simp] theorem fill_nil (strings : α → List Char) : fill strings [] = [] := rfl

@[simp] theorem fill_char (strings : α → List Char) (c : Char) (text : List (Glyph α)) :
    fill strings (.char c :: text) = c :: fill strings text := rfl

@[simp] theorem fill_hole (strings : α → List Char) (a : α) (text : List (Glyph α)) :
    fill strings (.hole a :: text) = strings a ++ fill strings text := rfl

theorem fill_append (strings : α → List Char) (text more : List (Glyph α)) :
    fill strings (text ++ more) = fill strings text ++ fill strings more := List.flatMap_append

@[simp] theorem fill_chars (strings : α → List Char) (cs : List Char) :
    fill strings (cs.map .char) = cs := by
  induction cs with
  | nil => rfl
  | cons c cs ih => rw [List.map_cons, fill_char, ih]

theorem holedLines_ne_nil (text : List (Glyph α)) : holedLines text ≠ [] := List.splitOnP_ne_nil _ _

theorem holedLines_append_newline (free : ∀ g ∈ line, g.isNewline = false) (text : List (Glyph α)) :
    holedLines (line ++ .char '\n' :: text) = line :: holedLines text :=
  List.splitOnP_append_cons_of_forall_mem free _ rfl _

theorem holed_induction {motive : List (Glyph α) → Prop}
    (last : ∀ line : List (Glyph α), (∀ g ∈ line, g.isNewline = false) → motive line)
    (next : ∀ line more : List (Glyph α), (∀ g ∈ line, g.isNewline = false) → motive more →
      motive (line ++ .char '\n' :: more))
    (text : List (Glyph α)) : motive text := by
  induction text using separated_induction Glyph.isNewline with
  | last line free => exact last line free
  | next line g more free here ih =>
    cases g with
    | char c =>
      obtain rfl : c = '\n' := eq_of_beq here
      exact next line more free ih
    | hole a => cases here

theorem intercalate_holedLines (text : List (Glyph α)) :
    [.char '\n'].intercalate (holedLines text) = text := by
  induction text using holed_induction with
  | last line free => rw [holedLines, List.splitOnP_eq_singleton free, List.intercalate_singleton]
  | next line more free ih =>
    rw [holedLines_append_newline free, List.intercalate_cons_of_ne_nil (holedLines_ne_nil more), ih,
      List.append_assoc, List.singleton_append]

theorem mem_of_mem_holedLines (member : line ∈ holedLines text) :
    ∀ g ∈ line, g.isNewline = false ∧ g ∈ text := by
  induction text using holed_induction with
  | last only free =>
    rw [holedLines, List.splitOnP_eq_singleton free, List.mem_singleton] at member
    subst member
    exact fun g inside => ⟨free g inside, inside⟩
  | next first more free ih =>
    rw [holedLines_append_newline free, List.mem_cons] at member
    rcases member with rfl | member
    · exact fun g inside => ⟨free g inside, List.mem_append_left _ inside⟩
    · intro g inside
      obtain ⟨visible, within⟩ := ih member g inside
      exact ⟨visible, List.mem_append_right _ (List.mem_cons_of_mem _ within)⟩

theorem newline_not_mem_fill (free : ∀ g ∈ line, g.isNewline = false)
    (oneLine : ∀ a, .hole a ∈ line → '\n' ∉ strings a) : '\n' ∉ fill strings line := by
  intro member
  obtain ⟨g, inside, found⟩ := List.mem_flatMap.mp member
  cases g with
  | char c =>
    obtain rfl := List.mem_singleton.mp found
    have visible : true = false := free _ inside
    cases visible
  | hole a => exact oneLine a inside found

theorem newline_not_mem_solid (member : line ∈ holedLines text) : '\n' ∉ solid line :=
  newline_not_mem_fill (fun g inside => (mem_of_mem_holedLines member g inside).1) fun _ _ => by decide

/-! ### What is in the holes -/

theorem leadingHole?_char {c : Char} (blank : isIndentChar c = true) (line : List (Glyph α)) :
    leadingHole? (.char c :: line) = leadingHole? line := by
  have passed : (Glyph.char c : Glyph α).isBlank = true := blank
  rw [leadingHole?, List.dropWhile_cons_of_pos passed, leadingHole?]

/-- Strings that start visibly do not lengthen a run of blanks. -/
theorem prefix_fill_iff (visible : ∀ a ∈ leadingHole? line, StartsVisibly (strings a))
    (blank : ∀ c ∈ lead, isIndentChar c = true) :
    lead <+: fill strings line ↔ lead.map .char <+: line := by
  induction lead generalizing line with
  | nil => simp
  | cons c cs ih =>
    obtain ⟨here, later⟩ := List.forall_mem_cons.mp blank
    cases line with
    | nil => simp
    | cons g line =>
      cases g with
      | char d =>
        rw [fill_char, List.map_cons, List.cons_prefix_cons, List.cons_prefix_cons,
          Glyph.char.injEq]
        refine and_congr_right ?_
        rintro rfl
        exact ih (fun a found => visible a (by rwa [leadingHole?_char here])) later
      | hole a =>
        obtain ⟨d, first, seen⟩ := visible a rfl
        cases string : strings a with
        | nil =>
          rw [string] at first
          cases first
        | cons e rest =>
          rw [string] at first
          obtain rfl : e = d := Option.some.inj first
          rw [fill_hole, string, List.map_cons, List.cons_append, List.cons_prefix_cons,
            List.cons_prefix_cons]
          refine iff_of_false ?_ (fun same => nomatch same.1)
          rintro ⟨rfl, -⟩
          exact Bool.noConfusion (here.symm.trans seen)

theorem fill_eq_nil_iff (visible : ∀ a ∈ leadingHole? line, StartsVisibly (strings a)) :
    fill strings line = [] ↔ line = [] := by
  cases line with
  | nil => simp
  | cons g line =>
    cases g with
    | char c => simp
    | hole a =>
      obtain ⟨d, first, -⟩ := visible a rfl
      refine iff_of_false ?_ (List.cons_ne_nil _ _)
      rw [fill_hole, List.append_eq_nil_iff]
      rintro ⟨empty, -⟩
      rw [empty] at first
      cases first

theorem solid_visible (line : List (Glyph α)) :
    ∀ a ∈ leadingHole? line, StartsVisibly ((fun _ => ['\uFFFC']) a) :=
  fun _ _ => ⟨'\uFFFC', rfl, by decide⟩

/-- Lines that start with the same blanks share the same indentation. -/
theorem SharedIndent.congr {β : Type} {f g : β → List Char} {xs : List β}
    (h : SharedIndent lead (xs.map f)) (empty : ∀ x ∈ xs, f x = [] ↔ g x = [])
    (same : ∀ x ∈ xs, ∀ lead, (∀ c ∈ lead, isIndentChar c = true) →
      (lead <+: f x ↔ lead <+: g x)) : SharedIndent lead (xs.map g) := by
  refine ⟨h.blank, ?_, ?_, ?_⟩
  · intro line member nonempty
    obtain ⟨x, inside, rfl⟩ := List.mem_map.mp member
    refine (same x inside _ h.blank).mp (h.leads _ (List.mem_map_of_mem inside) ?_)
    exact fun nothing => nonempty ((empty x inside).mp nothing)
  · rintro other blank leads ⟨line, member, nonempty⟩
    refine h.longest other blank (fun line member nonempty => ?_) ?_
    · obtain ⟨x, inside, rfl⟩ := List.mem_map.mp member
      refine (same x inside _ blank).mpr (leads _ (List.mem_map_of_mem inside) ?_)
      exact fun nothing => nonempty ((empty x inside).mpr nothing)
    · obtain ⟨x, inside, rfl⟩ := List.mem_map.mp member
      exact ⟨f x, List.mem_map_of_mem inside, fun nothing => nonempty ((empty x inside).mp nothing)⟩
  · intro nothing
    refine h.none fun line member => ?_
    obtain ⟨x, inside, rfl⟩ := List.mem_map.mp member
    exact (empty x inside).mpr (nothing _ (List.mem_map_of_mem inside))

theorem sharedIndent_holedIndent (text : List (Glyph α)) :
    SharedIndent (holedIndent text) ((holedLines text).tail.map solid) := by
  refine sharedIndent_joinLines fun line member => ?_
  obtain ⟨holed, inside, rfl⟩ := List.mem_map.mp member
  exact newline_not_mem_solid (List.mem_of_mem_tail inside)

end MarkupTemplate.Text
