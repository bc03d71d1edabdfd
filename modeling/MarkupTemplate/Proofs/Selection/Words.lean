import Mathlib.Data.List.Basic
import MarkupTemplate.Proofs.Indentation.Lines
import MarkupTemplate.Text.Blank

/-!
# Words

The words of a text are the runs of characters other than white space that cannot be made longer:
`mem_words_iff`. A blank between two texts keeps their words apart, so texts that are joined by blanks have
just the words of each.
-/

namespace MarkupTemplate.Text

variable {b : Char} {word text more : List Char} {texts : List (List Char)}

/-- A run of characters other than white space with white space or an end of the text on both sides. -/
structure IsWord (word text : List Char) : Prop where
  nonempty : word ≠ []
  solid : ∀ c ∈ word, isBlank c = false
  apart : ∃ before after, text = before ++ (word ++ after) ∧
    (∀ c ∈ before.getLast?, isBlank c = true) ∧ ∀ c ∈ after.head?, isBlank c = true

/-! ### Blanks between texts -/

theorem wordsFrom_append_blank (blank : isBlank b = true) (word text more : List Char) :
    wordsFrom word (text ++ b :: more) = wordsFrom word text ++ words more := by
  induction text generalizing word with
  | nil =>
    rw [List.nil_append]
    simp only [wordsFrom, blank, ↓reduceIte, words]
    split <;> rfl
  | cons c text ih =>
    rw [List.cons_append, wordsFrom, wordsFrom]
    split
    · split
      · exact ih []
      · rw [ih, List.cons_append]
    · exact ih _

theorem wordsFrom_of_solid (solid : ∀ c ∈ text, isBlank c = false) (word : List Char) :
    wordsFrom word text = if word ++ text = [] then [] else [word ++ text] := by
  induction text generalizing word with
  | nil => simp [wordsFrom]
  | cons c text ih =>
    obtain ⟨here, later⟩ := List.forall_mem_cons.mp solid
    rw [wordsFrom, here, if_neg Bool.false_ne_true, ih later]
    simp

theorem IsWord.not_blank (h : IsWord word text) (blank : isBlank b = true) : b ∉ word := fun member =>
  absurd ((h.solid b member).symm.trans blank) Bool.false_ne_true

theorem IsWord.append_left (h : IsWord word text) (blank : isBlank b = true) (more : List Char) :
    IsWord word (text ++ b :: more) := by
  obtain ⟨before, after, rfl, started, ended⟩ := h.apart
  refine ⟨h.nonempty, h.solid, before, after ++ b :: more, by simp, started, ?_⟩
  cases after with
  | nil => simpa using blank
  | cons c after => simpa using ended

theorem IsWord.append_right (h : IsWord word more) (blank : isBlank b = true) (text : List Char) :
    IsWord word (text ++ b :: more) := by
  obtain ⟨before, after, rfl, started, ended⟩ := h.apart
  refine ⟨h.nonempty, h.solid, text ++ b :: before, after, by simp, ?_, ended⟩
  cases before with
  | nil => simpa using blank
  | cons c before => simpa using started

theorem isWord_append_blank (blank : isBlank b = true) :
    IsWord word (text ++ b :: more) ↔ IsWord word text ∨ IsWord word more := by
  refine ⟨fun h => ?_, ?_⟩
  · obtain ⟨before, after, same, started, ended⟩ := h.apart
    -- The blank is not in the word, so it stands in front of the word or behind it.
    rcases List.append_eq_append_iff.mp same with ⟨lead, rfl, rest⟩ | ⟨lead, rfl, rest⟩
    · right
      cases lead with
      | nil =>
        obtain ⟨c, cs, rfl⟩ := List.exists_cons_of_ne_nil h.nonempty
        obtain rfl : b = c := (List.cons.inj rest).1
        exact absurd List.mem_cons_self (h.not_blank blank)
      | cons c lead =>
        obtain ⟨rfl, rfl⟩ := List.cons.inj rest
        refine ⟨h.nonempty, h.solid, lead, after, rfl, ?_, ended⟩
        cases lead with
        | nil => exact nofun
        | cons d lead => simpa using started
    · left
      rcases List.append_eq_append_iff.mp rest with ⟨tail, rfl, rfl⟩ | ⟨tail, rfl, behind⟩
      · refine ⟨h.nonempty, h.solid, before, tail, rfl, started, ?_⟩
        cases tail with
        | nil => exact nofun
        | cons d tail => simpa using ended
      · cases tail with
        | nil => exact ⟨h.nonempty, h.solid, before, [], by simp, started, nofun⟩
        | cons c tail =>
          obtain rfl : b = c := (List.cons.inj behind).1
          exact absurd (by simp) (h.not_blank blank)
  · rintro (h | h)
    · exact h.append_left blank more
    · exact h.append_right blank text

theorem isWord_of_solid (solid : ∀ c ∈ text, isBlank c = false) : IsWord word text ↔ word = text ∧ text ≠ [] := by
  constructor
  · intro h
    obtain ⟨before, after, rfl, started, ended⟩ := h.apart
    rw [List.forall_mem_append, List.forall_mem_append] at solid
    obtain ⟨first, -, last⟩ := solid
    obtain rfl : before = [] := by
      rw [← List.getLast?_eq_none_iff, Option.eq_none_iff_forall_not_mem]
      intro c ends
      exact absurd ((first c (List.mem_of_getLast? ends)).symm.trans (started c ends)) Bool.false_ne_true
    obtain rfl : after = [] := by
      rw [← List.head?_eq_none_iff, Option.eq_none_iff_forall_not_mem]
      intro c starts
      exact absurd ((last c (List.mem_of_head? starts)).symm.trans (ended c starts)) Bool.false_ne_true
    simpa using h.nonempty
  · rintro ⟨rfl, nonempty⟩
    exact ⟨nonempty, solid, [], [], by simp, nofun, nofun⟩

theorem mem_words_iff : word ∈ words text ↔ IsWord word text := by
  induction text using separated_induction isBlank with
  | last text solid =>
    rw [words, wordsFrom_of_solid solid, isWord_of_solid solid, List.nil_append]
    split <;> simp [*]
  | next text b more solid blank ih =>
    rw [words, wordsFrom_append_blank blank, wordsFrom_of_solid solid, isWord_append_blank blank, ← ih,
      isWord_of_solid solid, List.nil_append, List.mem_append]
    split <;> simp [*]

theorem isWord_intercalate :
    IsWord word ([' '].intercalate texts) ↔ ∃ text ∈ texts, IsWord word text := by
  have blank : isBlank ' ' = true := isBlank_of_isWhitespace rfl
  induction texts with
  | nil => simp [isWord_of_solid]
  | cons text texts ih =>
    cases texts with
    | nil => simp
    | cons next texts =>
      rw [List.intercalate_cons_cons, List.append_assoc, List.singleton_append,
        isWord_append_blank blank, List.exists_mem_cons_iff]
      exact or_congr_right ih

end MarkupTemplate.Text
