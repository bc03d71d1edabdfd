import Mathlib.Data.List.Basic
import MarkupTemplate.Text.Markup

/-!
# Entities

Escaping leaves no character with which markup starts or ends something, and nothing is lost: replacing the
entities from left to right gives the text back.
-/

namespace MarkupTemplate.Text

variable {text : List Char} {c : Char}

/-- The characters that markup starts and ends tags and attributes with. -/
def delimiters : List Char := ['<', '>', '"', '\'']

def entities : List (List Char) :=
  ["&amp;".toList, "&lt;".toList, "&gt;".toList, "&quot;".toList, "&#39;".toList]

/-- Replaces the entities in a text, from left to right, by what they stand for. -/
def unescapeMarkup : List Char → List Char
  | '&' :: 'a' :: 'm' :: 'p' :: ';' :: rest => '&' :: unescapeMarkup rest
  | '&' :: 'l' :: 't' :: ';' :: rest => '<' :: unescapeMarkup rest
  | '&' :: 'g' :: 't' :: ';' :: rest => '>' :: unescapeMarkup rest
  | '&' :: 'q' :: 'u' :: 'o' :: 't' :: ';' :: rest => '"' :: unescapeMarkup rest
  | '&' :: '#' :: '3' :: '9' :: ';' :: rest => '\'' :: unescapeMarkup rest
  | c :: rest => c :: unescapeMarkup rest
  | [] => []

/-! ### One character -/

theorem mem_delimiters : c ∈ delimiters ↔ c = '<' ∨ c = '>' ∨ c = '"' ∨ c = '\'' := by simp [delimiters]

/-- A character that means something becomes an entity, and any other one stays. -/
theorem escapeEntity_cases (c : Char) :
    (c ∈ '&' :: delimiters ∧ escapeEntity c ∈ entities) ∨
      c ∉ '&' :: delimiters ∧ escapeEntity c = [c] := by
  unfold escapeEntity
  split
  case h_6 ampersand less greater double single =>
    refine .inr ⟨?_, rfl⟩
    simp only [List.mem_cons, mem_delimiters, not_or]
    exact ⟨ampersand, less, greater, double, single⟩
  all_goals exact .inl (by decide)

theorem unescapeMarkup_cons (plain : c ≠ '&') (rest : List Char) :
    unescapeMarkup (c :: rest) = c :: unescapeMarkup rest := by
  conv_lhs => unfold unescapeMarkup
  split <;> simp_all

theorem unescapeMarkup_escapeEntity (c : Char) (rest : List Char) :
    unescapeMarkup (escapeEntity c ++ rest) = c :: unescapeMarkup rest := by
  unfold escapeEntity
  split
  case h_6 ampersand _ _ _ _ => exact unescapeMarkup_cons ampersand rest
  all_goals rfl

/-! ### Texts -/

theorem escapeMarkup_cons (c : Char) (text : List Char) :
    escapeMarkup (c :: text) = escapeEntity c ++ escapeMarkup text := List.flatMap_cons

theorem unescapeMarkup_escapeMarkup (text : List Char) :
    unescapeMarkup (escapeMarkup text) = text := by
  induction text with
  | nil => rfl
  | cons c text ih => rw [escapeMarkup_cons, unescapeMarkup_escapeEntity, ih]

theorem escapeMarkup_injective : Function.Injective escapeMarkup :=
  Function.LeftInverse.injective unescapeMarkup_escapeMarkup

theorem not_mem_delimiters_of_mem_escapeMarkup (member : c ∈ escapeMarkup text) : c ∉ delimiters := by
  have plain : ∀ entity ∈ entities, ∀ c ∈ entity, c ∉ delimiters := by simp [entities, delimiters]
  obtain ⟨d, -, inside⟩ := List.mem_flatMap.mp member
  rcases escapeEntity_cases d with ⟨-, entity⟩ | ⟨other, itself⟩
  · exact plain _ entity c inside
  · rw [itself, List.mem_singleton] at inside
    rw [inside]
    exact List.not_mem_of_not_mem_cons other

/-- Every ampersand in an escaped text is the first character of an entity. -/
theorem entity_of_ampersand {before after : List Char}
    (split : escapeMarkup text = before ++ '&' :: after) :
    ∃ entity ∈ entities, entity <+: '&' :: after := by
  have single : ∀ entity ∈ entities, '&' ∉ entity.tail := by decide
  induction text generalizing before with
  | nil => exact absurd split.symm (by simp [escapeMarkup])
  | cons c text ih =>
    rw [escapeMarkup_cons] at split
    rcases List.append_eq_append_iff.mp split with ⟨skipped, -, later⟩ | ⟨rest, here, later⟩
    · exact ih later
    · cases rest with
      | nil =>
        have nothing : escapeMarkup text = [] ++ '&' :: after := later.symm
        exact ih nothing
      | cons first rest =>
        -- The ampersand stands in what the first character became.
        obtain ⟨rfl, rfl⟩ := List.cons.inj later
        rcases escapeEntity_cases c with ⟨-, entity⟩ | ⟨other, itself⟩
        · refine ⟨_, entity, ?_⟩
          cases before with
          | nil =>
            rw [here]
            exact List.prefix_append _ _
          | cons _ before =>
            have inside : '&' ∈ (escapeEntity c).tail := by simp [here]
            exact absurd inside (single _ entity)
        · have inside : '&' ∈ escapeEntity c := by simp [here]
          rw [itself, List.mem_singleton] at inside
          exact absurd (inside ▸ List.mem_cons_self) other

/-- A text in which nothing has a meaning stays as it is. -/
theorem escapeMarkup_eq_self (plain : ∀ c ∈ text, c ∉ '&' :: delimiters) : escapeMarkup text = text := by
  induction text with
  | nil => rfl
  | cons c text ih =>
    obtain ⟨here, later⟩ := List.forall_mem_cons.mp plain
    rcases escapeEntity_cases c with ⟨special, -⟩ | ⟨-, itself⟩
    · exact absurd special here
    · rw [escapeMarkup_cons, itself, ih later, List.singleton_append]

end MarkupTemplate.Text
