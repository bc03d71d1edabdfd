import MarkupTemplate.Document.Select
import MarkupTemplate.Proofs.Modules.Entries
import MarkupTemplate.Proofs.Selection.Words

/-!
# Criteria of selectors

What a selector asks of an element, in terms of the attributes that are written on it, of which the last
one of each name counts: `accepts_iff`. A selector can be taken apart into its criteria:
`matches_of_criteria`.
-/

namespace MarkupTemplate

open Dict (LastEntry)

variable {κ : Type} {name : String} {v : Value κ} {head : Head (Value κ)}

/-! ### Attributes -/

theorem Head.named?_eq_some_iff : head.named? name = some v ↔ LastEntry head.named name v := by
  unfold Head.named?
  induction head.named using List.reverseRecOn with
  | nil => simp [LastEntry]
  | append_singleton named entry ih =>
    obtain ⟨other, w⟩ := entry
    rw [Dict.lastEntry_concat, ← ih, List.reverse_concat, List.find?_cons]
    by_cases same : other = name
    · simp [same]
    · have differs : (other == name) = false := beq_eq_false_iff_ne.mpr same
      simp [same, differs]

/-- The class is a word of the attribute, or one of its items. -/
inductive Value.GivesClass (name : String) : Value κ → Prop where
  | word {s : String} : Text.IsWord name.toList s.toList → GivesClass name (.string s)
  | item {items : List (Value κ)} : .string name ∈ items → GivesClass name (.list items)

theorem Value.string?_eq_some_iff {s : String} : v.string? = some s ↔ v = .string s := by
  cases v <;> simp [string?]

theorem Value.hasClass_iff : v.hasClass name = true ↔ v.GivesClass name := by
  constructor
  · intro h
    cases v with
    | string s => exact .word (Text.mem_words_iff.mp (by simpa [hasClass] using h))
    | list items =>
      obtain ⟨item, member, same⟩ := List.any_eq_true.mp h
      exact .item (string?_eq_some_iff.mp (eq_of_beq same) ▸ member)
    | _ => exact absurd h Bool.false_ne_true
  · rintro (inside | member)
    · simpa [hasClass] using Text.mem_words_iff.mpr inside
    · exact List.any_eq_true.mpr ⟨_, member, by simp [string?]⟩

variable [BEq κ]

theorem Head.hasAttr_iff {value : Value κ} :
    head.hasAttr name value = true ↔ ∃ v, LastEntry head.named name v ∧ (v == value) = true := by
  simp only [← named?_eq_some_iff, hasAttr]
  cases head.named? name <;> simp

/-! ### Criteria -/

theorem holdsIfSet_iff {α : Type} {criterion : Option α} {p : α → Bool} :
    holdsIfSet criterion p = true ↔ ∀ a ∈ criterion, p a = true := by
  cases criterion <;> simp [holdsIfSet]

variable {sel : Selector κ} {n : Node κ}

/-- What a selector asks of an element. -/
structure Selector.Meets (sel : Selector κ) (head : Head (Value κ)) : Prop where
  tag : ∀ name ∈ sel.tag, ∃ tag ∈ head.tag, tag.name = name
  id : ∀ id ∈ sel.id, LastEntry head.named "id" (.string id)
  className : ∀ name ∈ sel.className, ∃ v, LastEntry head.named "class" v ∧ v.GivesClass name
  attrs : ∀ entry ∈ sel.attrs, ∃ v, LastEntry head.named entry.1 v ∧ (v == entry.2) = true

namespace Selector

theorem accepts_iff : sel.accepts head = true ↔ sel.Meets head := by
  have tag : ∀ name, (head.tag.map (·.name) == some name) = true ↔ ∃ tag ∈ head.tag, tag.name = name := by
    simp
  have id : ∀ id, ((head.named? "id").bind (·.string?) == some id) = true ↔
      LastEntry head.named "id" (.string id) := by
    intro id
    rw [beq_iff_eq, Option.bind_eq_some_iff]
    simp only [Value.string?_eq_some_iff, ← Head.named?_eq_some_iff]
    exact exists_eq_right
  have className : ∀ name, ((head.named? "class").map (·.hasClass name)).getD false = true ↔
      ∃ v, LastEntry head.named "class" v ∧ v.GivesClass name := by
    intro name
    simp only [← Head.named?_eq_some_iff, ← Value.hasClass_iff]
    cases head.named? "class" <;> simp
  simp only [accepts, Bool.and_eq_true, holdsIfSet_iff, tag, id, className, List.all_eq_true,
    Head.hasAttr_iff]
  constructor
  · rintro ⟨⟨⟨tag, id⟩, className⟩, attrs⟩
    exact ⟨tag, id, className, attrs⟩
  · intro h
    exact ⟨⟨⟨h.tag, h.id⟩, h.className⟩, h.attrs⟩

theorem matches_iff :
    sel.matches n = true ↔ ∃ head indent body, n = .element head indent body ∧ sel.Meets head := by
  cases n with
  | element head indent body => simp [Selector.matches, accepts_iff]
  | _ => simp [Selector.matches]

/-- The selectors that ask for one thing each. -/
def criteria (sel : Selector κ) : List (Selector κ) :=
  sel.tag.toList.map (fun name => { tag := some name }) ++
  sel.id.toList.map (fun id => { id := some id }) ++
  sel.className.toList.map (fun name => { className := some name }) ++
  sel.attrs.map fun entry => { attrs := [entry] }

theorem accepts_criteria (sel : Selector κ) (head : Head (Value κ)) :
    sel.accepts head = sel.criteria.all (·.accepts head) := by
  obtain ⟨tag, id, className, attrs⟩ := sel
  cases tag <;> cases id <;> cases className <;>
    simp [criteria, accepts, holdsIfSet, List.all_map, Function.comp_def, Bool.and_assoc]

theorem matches_of_criteria {before after : List (Selector κ)} {one : Selector κ}
    (taken : sel.criteria = before ++ one :: after) (n : Node κ) :
    sel.matches n = (one.matches n && (before ++ after).all (·.matches n)) := by
  cases n with
  | element head indent body =>
    simp only [Selector.matches]
    rw [accepts_criteria, taken]
    simp [Bool.and_left_comm]
  | _ => rfl

end Selector

end MarkupTemplate
