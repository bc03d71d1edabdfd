import Mathlib.Data.Set.List
import MarkupTemplate.Document.Render
import MarkupTemplate.Proofs.Markup.Attributes
import MarkupTemplate.Proofs.Selection.Criteria

/-!
# Classes as they are written

The words of the attribute `class` as its tag writes it, beside the classes that a selector finds:
`matches_written_class`. For a string these are the same. In a list, a selector finds the items that are
strings, while the words written are those of the text of each item.
-/

namespace MarkupTemplate

open Text (IsWord isBlank quoteAttribute)

variable {κ : Type} {v : Value κ} {c name text out : String}

/-! ### The text of an attribute -/

namespace Value

variable {items : List (Value κ)} {texts : List String}

/-- A string, or a list of values that can be written in an attribute. -/
inductive IsScalars : Value κ → Prop where
  | string (s : String) : IsScalars (.string s)
  | list {items : List (Value κ)} :
    (∀ item ∈ items, ∃ text, item.scalarText? = some text) → IsScalars (.list items)

theorem mapM_scalarText?_eq_some :
    items.mapM scalarText? = some texts ↔ items.map scalarText? = texts.map some := by
  induction items generalizing texts with
  | nil => cases texts <;> simp
  | cons item items ih =>
    rw [List.mapM_cons, Option.bind_eq_bind, Option.bind_eq_some_iff, List.map_cons]
    simp only [Option.bind_eq_bind, Option.bind_eq_some_iff, ih, Option.pure_def, Option.some.injEq]
    constructor
    · rintro ⟨text, here, rest, later, rfl⟩
      rw [here, later, List.map_cons]
    · intro same
      obtain ⟨text, rest, rfl, here, later⟩ := List.map_eq_cons_iff.mp same.symm
      exact ⟨text, here.symm, rest, later.symm, rfl⟩

theorem exists_texts (scalars : ∀ item ∈ items, ∃ text, item.scalarText? = some text) :
    ∃ texts, items.mapM scalarText? = some texts := by
  have texts : items.map scalarText? ∈ Set.range (List.map some) := by
    rw [Set.range_list_map]
    intro text member
    obtain ⟨item, inside, rfl⟩ := List.mem_map.mp member
    obtain ⟨text, written⟩ := scalars item inside
    exact ⟨text, written.symm⟩
  obtain ⟨texts, same⟩ := texts
  exact ⟨texts, mapM_scalarText?_eq_some.mpr same.symm⟩

theorem mem_texts_iff (written : items.mapM scalarText? = some texts) :
    text ∈ texts ↔ ∃ item ∈ items, item.scalarText? = some text := by
  have same := mapM_scalarText?_eq_some.mp written
  calc text ∈ texts
    _ ↔ some text ∈ texts.map some := by simp
    _ ↔ some text ∈ items.map scalarText? := by rw [same]
    _ ↔ ∃ item ∈ items, item.scalarText? = some text := List.mem_map

theorem IsScalars.exists_text (scalars : v.IsScalars) : ∃ text, v.attributeText? = some text := by
  cases scalars with
  | string s => exact ⟨s, rfl⟩
  | list scalars =>
    obtain ⟨texts, written⟩ := exists_texts scalars
    exact ⟨" ".intercalate texts, by rw [attributeText?, written, Option.map_some]⟩

/-- The words of a list are those of its items. -/
theorem isWord_attributeText (written : (Value.list items).attributeText? = some text) {word : List Char} :
    IsWord word text.toList ↔ ∃ item ∈ items, ∃ t, item.scalarText? = some t ∧ IsWord word t.toList := by
  obtain ⟨texts, each, rfl⟩ := Option.map_eq_some_iff.mp written
  have blank : " ".toList = [' '] := rfl
  rw [String.toList_intercalate, blank, Text.isWord_intercalate]
  constructor
  · rintro ⟨_, member, inside⟩
    obtain ⟨t, given, rfl⟩ := List.mem_map.mp member
    obtain ⟨item, among, written⟩ := (mem_texts_iff each).mp given
    exact ⟨item, among, t, written, inside⟩
  · rintro ⟨item, among, t, written, inside⟩
    exact ⟨_, List.mem_map_of_mem ((mem_texts_iff each).mpr ⟨item, among, written⟩), inside⟩

/-- A class is a word of what is written, and in a list an item of its own. -/
theorem givesClass_iff (scalars : v.IsScalars) (written : v.attributeText? = some text)
    (word : IsWord c.toList c.toList) :
    v.GivesClass c ↔ IsWord c.toList text.toList ∧ ∀ items, v = .list items → .string c ∈ items := by
  cases scalars with
  | string s =>
    obtain rfl : s = text := Option.some.inj written
    constructor
    · rintro ⟨inside⟩
      exact ⟨inside, nofun⟩
    · rintro ⟨inside, -⟩
      exact .word inside
  | list scalars =>
    rw [isWord_attributeText written]
    constructor
    · rintro (_ | member)
      refine ⟨⟨_, member, c, rfl, word⟩, ?_⟩
      rintro _ ⟨⟩
      exact member
    · rintro ⟨-, member⟩
      exact .item (member _ rfl)

end Value

/-! ### The text of an element -/

section

variable {dialect : Dialect} {before after named : List (String × Value κ)} {positional : List (Value κ)}
  {origin : TagOrigin} {isVoid : Bool} {head : Head (Value κ)}

theorem writeNamed_of_isScalars (scalars : v.IsScalars) (written : v.attributeText? = some text) :
    writeNamed dialect name v =
      .ok (" " ++ name ++ "=" ++ String.ofList (quoteAttribute text.toList)) := by
  have read := attributeText_eq_ok.mpr written
  cases scalars <;> simp [writeNamed, read]

theorem writeAllNamed_append : writeAllNamed dialect (before ++ after) = .ok out ↔
    ∃ s t, writeAllNamed dialect before = .ok s ∧ writeAllNamed dialect after = .ok t ∧ s ++ t = out := by
  induction before generalizing out with
  | nil => simp [writeAllNamed]
  | cons entry before ih =>
    obtain ⟨name, v⟩ := entry
    simp only [List.cons_append, writeAllNamed, bind_eq_ok, ih, Except.ok.injEq]
    constructor
    · rintro ⟨first, here, _, ⟨s, t, earlier, later, rfl⟩, rfl⟩
      exact ⟨first ++ s, t, ⟨first, here, s, earlier, rfl⟩, later, String.append_assoc ..⟩
    · rintro ⟨_, t, ⟨first, here, s, earlier, rfl⟩, later, rfl⟩
      exact ⟨first, here, s ++ t, ⟨s, t, earlier, later, rfl⟩, (String.append_assoc ..).symm⟩

section Write

variable [Host] [Shows κ]

/-- An element starts with its tag and attributes. -/
theorem expand_starts {body : TagBody κ}
    (written : (Tag.markup origin name isVoid dialect).expand body positional named = .ok out) :
    ∃ first attributes rest, writeAllPositional name positional = .ok first ∧
      writeAllNamed dialect named = .ok attributes ∧ out = "<" ++ name ++ first ++ attributes ++ rest := by
  change writeMarkup name isVoid dialect body positional named = .ok out at written
  unfold writeMarkup at written
  split at written
  · cases written
  · obtain ⟨first, firstWritten, written⟩ := bind_eq_ok.mp written
    obtain ⟨attributes, attributesWritten, written⟩ := bind_eq_ok.mp written
    split at written
    · obtain rfl := Except.ok.inj written
      exact ⟨first, attributes, _, firstWritten, attributesWritten, rfl⟩
    · obtain ⟨text, -, written⟩ := bind_eq_ok.mp written
      obtain rfl := Except.ok.inj written
      refine ⟨first, attributes, ">" ++ text ++ closingBreak text ++ "</" ++ name ++ ">",
        firstWritten, attributesWritten, ?_⟩
      simp only [String.append_assoc]

theorem Head.expand_of_write {nodes : List (Node κ)} {content : Except Error String} {tag : Tag}
    (tagged : head.tag = some tag) (written : head.write nodes content = .ok out) :
    ∃ body, tag.expand body head.positional head.named = .ok out := by
  unfold Head.write at written
  rw [tagged] at written
  simp only at written
  split at written
  · cases written
  · split at written
    · obtain ⟨text, -, written⟩ := bind_eq_ok.mp written
      exact ⟨_, written⟩
    · exact ⟨_, written⟩

theorem Head.write_class {nodes : List (Node κ)} {content : Except Error String}
    (tagged : head.tag = some (Tag.markup origin name isVoid dialect))
    (classes : head.named = before ++ ("class", v) :: after) (scalars : v.IsScalars)
    (attr : v.attributeText? = some text) (written : head.write nodes content = .ok out) :
    ∃ positional earlier rest, writeAllPositional name head.positional = .ok positional ∧
      writeAllNamed dialect before = .ok earlier ∧
      out = "<" ++ name ++ positional ++ earlier ++ " class=" ++
        String.ofList (quoteAttribute text.toList) ++ rest := by
  obtain ⟨body, expanded⟩ := Head.expand_of_write tagged written
  obtain ⟨positional, attributes, rest, first, named, rfl⟩ := expand_starts expanded
  rw [classes] at named
  obtain ⟨earlier, _, ahead, more, rfl⟩ := writeAllNamed_append.mp named
  obtain ⟨_, here, more⟩ := bind_eq_ok.mp more
  rw [writeNamed_of_isScalars scalars attr] at here
  obtain rfl := Except.ok.inj here
  obtain ⟨later, -, more⟩ := bind_eq_ok.mp more
  obtain rfl := Except.ok.inj more
  have space : " " ++ "class" ++ "=" = " class=" := rfl
  refine ⟨positional, earlier, later ++ rest, first, ahead, ?_⟩
  simp only [space, String.append_assoc]

end Write

/-! ### Selectors and what is written -/

variable [BEq κ]

theorem Selector.matches_className (classes : head.named = before ++ ("class", v) :: after)
    (last : ∀ entry ∈ after, entry.1 ≠ "class") (indent : Option Indent) (body : List (Node κ)) :
    Selector.matches { className := some c } (.element head indent body) = v.hasClass c := by
  have current : head.named? "class" = some v :=
    Head.named?_eq_some_iff.mpr ⟨before, after, classes, last⟩
  simp [Selector.matches, accepts, holdsIfSet, current]

/-- What is written for the last attribute `class` of an element, if that is a string or a list of scalars,
and when a selector finds a class there. The class has to be a word of what is written and, in a list, an
item. So it is missed just if it is a word of an item while no item equals it. -/
theorem Selector.matches_written_class [Host] [Shows κ]
    (tagged : head.tag = some (Tag.markup origin name isVoid dialect))
    (classes : head.named = before ++ ("class", v) :: after) (last : ∀ entry ∈ after, entry.1 ≠ "class")
    (scalars : v.IsScalars) (nonempty : c ≠ "") (solid : ∀ x ∈ c.toList, isBlank x = false)
    (indent : Option Indent) (body : List (Node κ)) :
    ∃ text, v.attributeText? = some text ∧
      (∀ out, head.write body (Node.renderList body) = .ok out →
        ∃ positional earlier rest, writeAllPositional name head.positional = .ok positional ∧
          writeAllNamed dialect before = .ok earlier ∧
          out = "<" ++ name ++ positional ++ earlier ++ " class=" ++
            String.ofList (quoteAttribute text.toList) ++ rest) ∧
      (Selector.matches { className := some c } (.element head indent body) = true ↔
        IsWord c.toList text.toList ∧ ∀ items, v = .list items → .string c ∈ items) ∧
      (IsWord c.toList text.toList ∧
          Selector.matches { className := some c } (.element head indent body) = false ↔
        ∃ items, v = .list items ∧ .string c ∉ items ∧
          ∃ item ∈ items, ∃ t, item.scalarText? = some t ∧ IsWord c.toList t.toList) := by
  obtain ⟨text, attr⟩ := scalars.exists_text
  have word : IsWord c.toList c.toList :=
    (Text.isWord_of_solid solid).mpr ⟨rfl, mt String.toList_eq_nil_iff.mp nonempty⟩
  have found : Selector.matches { className := some c } (.element head indent body) = true ↔
      IsWord c.toList text.toList ∧ ∀ items, v = .list items → .string c ∈ items := by
    rw [matches_className classes last, Value.hasClass_iff, Value.givesClass_iff scalars attr word]
  refine ⟨text, attr, fun out written => Head.write_class tagged classes scalars attr written, found, ?_⟩
  rw [← Bool.not_eq_true, found]
  constructor
  · rintro ⟨inside, missed⟩
    have absent : ∃ items, v = .list items ∧ .string c ∉ items := by
      by_contra none
      push Not at none
      exact missed ⟨inside, none⟩
    obtain ⟨items, rfl, absent⟩ := absent
    exact ⟨items, rfl, absent, (Value.isWord_attributeText attr).mp inside⟩
  · rintro ⟨items, rfl, absent, inside⟩
    exact ⟨(Value.isWord_attributeText attr).mpr inside, fun h => absent (h.2 items rfl)⟩

end

/-- The last of two attributes, a list with an item of two words, a number, and the class. -/
theorem Selector.matches_written_class_list :
    letI := Host.bare
    let items : List (Value Empty) := [.string "a b", .integer 3, .string "on"]
    let before : List (String × Value Empty) := [("class", .string "off"), ("n", .integer 1)]
    let after : List (String × Value Empty) := [("id", .string "i")]
    let head : Head (Value Empty) :=
      { tag := some (Tag.markup (.standard .html) "p" false .html)
        positional := [.string "x"], named := before ++ ("class", .list items) :: after }
    let out := "<p x class=\"off\" n=\"1\" class=\"a b 3 on\" id=\"i\"></p>"
    (Value.list items).IsScalars ∧ (∀ entry ∈ after, entry.1 ≠ "class") ∧
      (∀ x ∈ "on".toList, isBlank x = false) ∧ head.write [] (.ok "") = .ok out ∧
      IsWord "on".toList "a b 3 on".toList ∧
      Selector.matches { className := some "on" } (.element head none []) = true := by
  let := Host.bare
  intro items before after head out
  have scalars : (Value.list items).IsScalars := .list (by
    simp only [items, List.forall_mem_cons]
    exact ⟨⟨_, rfl⟩, ⟨_, rfl⟩, ⟨_, rfl⟩, nofun⟩)
  have tagged : head.tag = some (Tag.markup (.standard .html) "p" false .html) := rfl
  have last : ∀ entry ∈ after, entry.1 ≠ "class" := by decide +kernel
  have letters : isBlank 'o' = false ∧ isBlank 'n' = false := by decide +kernel
  have solid : ∀ x ∈ "on".toList, isBlank x = false := by simpa using letters
  have inside : IsWord "on".toList "a b 3 on".toList := Text.mem_words_iff.mp (by decide +kernel)
  have item : ∀ list, Value.list items = .list list → .string "on" ∈ list := by
    rintro _ ⟨⟩
    simp [items]
  obtain ⟨_, written, -, finds, -⟩ :=
    Selector.matches_written_class tagged rfl last scalars (by decide) solid none []
  obtain rfl : "a b 3 on" = _ := Option.some.inj written
  exact ⟨scalars, last, solid, rfl, inside, finds.mpr ⟨inside, item⟩⟩

/-- A word that is not the whole item, and a number. -/
theorem Selector.matches_class_missed :
    letI := Host.bare
    let head : Value Empty → Head (Value Empty) := fun v =>
      { tag := some (Tag.markup (.standard .html) "p" false .html), named := [("class", v)] }
    let several : Value Empty := .list [.string "a b"]
    let number : Value Empty := .list [.integer 3]
    ((head several).write [] (.ok "") = .ok "<p class=\"a b\"></p>" ∧ IsWord ['a'] "a b".toList ∧
      Selector.matches { className := some "a" } (.element (head several) none []) = false) ∧
    (head number).write [] (.ok "") = .ok "<p class=\"3\"></p>" ∧ IsWord ['3'] "3".toList ∧
      Selector.matches { className := some "3" } (.element (head number) none []) = false := by
  let := Host.bare
  intro head several number
  refine ⟨⟨rfl, Text.mem_words_iff.mp ?_, ?_⟩, rfl, Text.mem_words_iff.mp ?_, ?_⟩ <;> decide +kernel

end MarkupTemplate
