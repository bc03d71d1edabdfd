import Mathlib.Data.List.TakeWhile
import MarkupTemplate.Proofs.Markup.Entities
import MarkupTemplate.Proofs.Result
import MarkupTemplate.Tag.Markup
import MarkupTemplate.Text.Blank

/-!
# Reading attributes back

A reader of opening tags that knows nothing of values. It finds the attributes that were written, each with
the text between its quotes, and after the tag just what was put there: `expand_readOpening`.
-/

namespace MarkupTemplate

namespace Text

/-! ### A reader -/

def isNameChar (c : Char) : Bool := !isBlank c && !(['"', '\'', '=', '/', '<', '>'].contains c)

def IsName (name : List Char) : Prop := name ≠ [] ∧ ∀ c ∈ name, isNameChar c = true

/-- An attribute in a tag, with the text between its quotes. -/
structure Attribute where
  name : List Char
  value : Option (List Char) := none
  deriving DecidableEq, Repr

/-- An opening tag in front of a text. -/
structure Opening where
  name : List Char
  attributes : List Attribute
  /-- The tag ends itself. -/
  ended : Bool
  rest : List Char
  deriving DecidableEq, Repr

def readName? (text : List Char) : Option (List Char × List Char) :=
  if text.takeWhile isNameChar = [] then none
  else some (text.takeWhile isNameChar, text.dropWhile isNameChar)

def isQuote (c : Char) : Bool := c == '"' || c == '\''

/-- Everything up to the next quote, and what follows that. -/
def readUpTo? (quote : Char) (text : List Char) : Option (List Char × List Char) :=
  match text.dropWhile (· ≠ quote) with
  | [] => none
  | _ :: rest => some (text.takeWhile (· ≠ quote), rest)

def readValue? : List Char → Option (Option (List Char) × List Char)
  | '=' :: quote :: rest =>
    if isQuote quote then (readUpTo? quote rest).map fun (value, rest) => (some value, rest) else none
  | ['='] => none
  | rest => some (none, rest)

def readAttribute? : List Char → Option (Attribute × List Char)
  | ' ' :: text => do
    let (name, rest) ← readName? text
    let (value, rest) ← readValue? rest
    some (⟨name, value⟩, rest)
  | _ => none

theorem readUpTo?_length {quote : Char} {text value rest : List Char}
    (read : readUpTo? quote text = some (value, rest)) : rest.length < text.length := by
  unfold readUpTo? at read
  split at read
  · cases read
  · next c more dropped =>
    obtain ⟨-, rfl⟩ := Prod.mk.inj (Option.some.inj read)
    have shorter := (List.dropWhile_suffix (· ≠ quote) (l := text)).length_le
    rw [dropped, List.length_cons] at shorter
    omega

theorem readValue?_length {text rest : List Char} {value : Option (List Char)}
    (read : readValue? text = some (value, rest)) : rest.length ≤ text.length := by
  unfold readValue? at read
  split at read
  · split at read
    · obtain ⟨⟨_, _⟩, found, same⟩ := Option.map_eq_some_iff.mp read
      obtain ⟨-, rfl⟩ := Prod.mk.inj same
      have shorter := readUpTo?_length found
      simp only [List.length_cons]
      omega
    · cases read
  · cases read
  · obtain ⟨-, rfl⟩ := Prod.mk.inj (Option.some.inj read)
    exact le_rfl

theorem readName?_length {text name rest : List Char} (read : readName? text = some (name, rest)) :
    rest.length ≤ text.length := by
  unfold readName? at read
  split at read
  · cases read
  · obtain ⟨-, rfl⟩ := Prod.mk.inj (Option.some.inj read)
    exact (List.dropWhile_suffix _).length_le

theorem readAttribute?_length {text rest : List Char} {a : Attribute}
    (read : readAttribute? text = some (a, rest)) : rest.length < text.length := by
  unfold readAttribute? at read
  split at read
  · obtain ⟨⟨name, more⟩, named, read⟩ := Option.bind_eq_some_iff.mp read
    obtain ⟨⟨value, rest'⟩, valued, read⟩ := Option.bind_eq_some_iff.mp read
    obtain ⟨-, rfl⟩ := Prod.mk.inj (Option.some.inj read)
    have := readName?_length named
    have := readValue?_length valued
    rw [List.length_cons]
    omega
  · cases read

def readAttributes (text : List Char) : List Attribute × List Char :=
  match _ : readAttribute? text with
  | none => ([], text)
  | some (a, rest) => (a :: (readAttributes rest).1, (readAttributes rest).2)
termination_by text.length
decreasing_by exact readAttribute?_length ‹_›

def readOpening? : List Char → Option Opening
  | '<' :: text => do
    let (name, rest) ← readName? text
    match readAttributes rest with
    | (attributes, '>' :: rest) => some ⟨name, attributes, false, rest⟩
    | (attributes, ' ' :: '/' :: '>' :: rest) => some ⟨name, attributes, true, rest⟩
    | _ => none
  | _ => none

/-! ### Reading what is written -/

/-- What is put between the quotes for a text. -/
def quotedText (text : List Char) : List Char :=
  if '"' ∈ text ∧ '\'' ∈ text then escapeQuoted text else text

/-- A text that an attribute is read from. -/
inductive Spells : Attribute → List Char → Prop
  | alone (name : List Char) : Spells ⟨name, none⟩ (' ' :: name)
  | quoted (name : List Char) {quote : Char} {value : List Char} :
    isQuote quote = true → quote ∉ value →
      Spells ⟨name, some value⟩ (' ' :: (name ++ '=' :: quote :: (value ++ [quote])))

/-- A text with which neither a name nor an attribute goes on. -/
def Delimited (rest : List Char) : Prop := ∃ c more, rest = c :: more ∧ (c = ' ' ∨ c = '>')

theorem takeWhile_dropWhile_append {p : Char → Bool} {text rest : List Char}
    (inside : ∀ c ∈ text, p c = true) (outside : ∀ c ∈ rest.head?, p c = false) :
    (text ++ rest).takeWhile p = text ∧ (text ++ rest).dropWhile p = rest := by
  rw [List.takeWhile_append_of_pos inside, List.dropWhile_append_of_pos inside]
  cases rest with
  | nil => exact ⟨List.append_nil text, rfl⟩
  | cons c rest =>
    have stop : p c = false := outside c rfl
    simp [stop]

theorem readName?_append {name rest : List Char} (named : IsName name)
    (outside : ∀ c ∈ rest.head?, isNameChar c = false) :
    readName? (name ++ rest) = some (name, rest) := by
  obtain ⟨taken, dropped⟩ := takeWhile_dropWhile_append named.2 outside
  rw [readName?, taken, dropped, if_neg named.1]

theorem readUpTo?_append {quote : Char} {value : List Char} (inside : quote ∉ value) (rest : List Char) :
    readUpTo? quote (value ++ quote :: rest) = some (value, rest) := by
  have other : ∀ c ∈ value, decide (c ≠ quote) = true := by
    intro c member
    exact decide_eq_true fun same => inside (same ▸ member)
  have stop : ∀ c ∈ (quote :: rest).head?, decide (c ≠ quote) = false := by simp
  obtain ⟨taken, dropped⟩ := takeWhile_dropWhile_append other stop
  rw [readUpTo?, taken, dropped]

theorem Delimited.outside {rest : List Char} (h : Delimited rest) :
    ∀ c ∈ rest.head?, isNameChar c = false := by
  obtain ⟨c, more, rfl, rfl | rfl⟩ := h
  · have blank : isBlank ' ' = true := isBlank_of_isWhitespace rfl
    simp [isNameChar, blank]
  · simp [isNameChar]

theorem readValue?_delimited {rest : List Char} (h : Delimited rest) : readValue? rest = some (none, rest) := by
  obtain ⟨c, more, rfl, rfl | rfl⟩ := h <;> rfl

theorem readAttribute?_append {a : Attribute} {text rest : List Char} (spells : Spells a text)
    (named : IsName a.name) (delimited : Delimited rest) :
    readAttribute? (text ++ rest) = some (a, rest) := by
  cases spells with
  | alone name =>
    rw [List.cons_append, readAttribute?, readName?_append named delimited.outside]
    simp [readValue?_delimited delimited]
  | @quoted name quote value quotes inside =>
    have equals : ∀ c ∈ ('=' :: quote :: (value ++ quote :: rest)).head?, isNameChar c = false := by
      simp [isNameChar]
    rw [List.cons_append, List.append_assoc, readAttribute?]
    simp only [List.cons_append, List.append_assoc, List.nil_append]
    rw [readName?_append named equals]
    simp [readValue?, quotes, readUpTo?_append inside]

theorem readAttributes_of_none {rest : List Char} (nothing : readAttribute? rest = none) :
    readAttributes rest = ([], rest) := by
  rw [readAttributes]
  split
  · rfl
  · next found => exact absurd (nothing.symm.trans found) nofun

theorem readAttributes_of_some {text rest : List Char} {a : Attribute}
    (first : readAttribute? text = some (a, rest)) :
    readAttributes text = (a :: (readAttributes rest).1, (readAttributes rest).2) := by
  rw [readAttributes]
  split
  · next none => exact absurd (first.symm.trans none) nofun
  · next found =>
    obtain ⟨rfl, rfl⟩ := Prod.mk.inj (Option.some.inj (first.symm.trans found))
    rfl

/-! ### Quoting -/

theorem quote_not_mem_escapeQuoted (text : List Char) : '"' ∉ escapeQuoted text := by
  have plain : ∀ entity ∈ entities, '"' ∉ entity := by decide
  intro member
  obtain ⟨c, -, inside⟩ := List.mem_flatMap.mp member
  split at inside
  · next single =>
    rw [single] at inside
    revert inside
    decide
  · rcases escapeEntity_cases c with ⟨-, entity⟩ | ⟨other, itself⟩
    · exact plain _ entity inside
    · rw [itself, List.mem_singleton] at inside
      exact other (inside ▸ by decide)

theorem unescapeMarkup_escapeQuoted (text : List Char) : unescapeMarkup (escapeQuoted text) = text := by
  induction text with
  | nil => rfl
  | cons c text ih =>
    rw [escapeQuoted, List.flatMap_cons, ← escapeQuoted]
    split
    · next single =>
      rw [single, List.singleton_append, unescapeMarkup_cons (by decide), ih]
    · rw [unescapeMarkup_escapeEntity, ih]

theorem quoteAttribute_eq (text : List Char) :
    ∃ quote, isQuote quote = true ∧ quote ∉ quotedText text ∧
      quoteAttribute text = quote :: (quotedText text ++ [quote]) := by
  unfold quoteAttribute quotedText
  by_cases double : '"' ∈ text
  · by_cases single : '\'' ∈ text
    · refine ⟨'"', rfl, ?_, ?_⟩ <;> simp [double, single, quote_not_mem_escapeQuoted]
    · refine ⟨'\'', rfl, ?_, ?_⟩ <;> simp [double, single]
  · refine ⟨'"', rfl, ?_, ?_⟩ <;> simp [double]

end Text

open Text

variable {κ : Type} {dialect : Dialect} {name out : String} {v : Value κ} {named : List (String × Value κ)}

/-! ### Attributes -/

/-- What a value comes to in an attribute: a scalar, or a list of scalars with a blank between each two. -/
def Value.attributeText? : Value κ → Option String
  | .list items => (items.mapM scalarText?).map (" ".intercalate ·)
  | v => v.scalarText?

/-- The attribute that is written for a value, if there is any. -/
def shown? (dialect : Dialect) : String × Value κ → Option Attribute
  | (_, .none) | (_, .bool false) => none
  | (name, .bool true) =>
    some ⟨name.toList, match dialect with | .html => none | .xhtml => some name.toList⟩
  | (name, v) => v.attributeText?.map fun text => ⟨name.toList, some (quotedText text.toList)⟩

theorem Value.text_eq_ok {text : String} : v.text = .ok text ↔ v.scalarText? = some text := by
  unfold Value.text
  cases v.scalarText? <;> simp [fail]

theorem Value.texts_eq_ok {items : List (Value κ)} {texts : List String} :
    Value.texts items = .ok texts ↔ items.mapM scalarText? = some texts := by
  induction items generalizing texts with
  | nil => simp [Value.texts]
  | cons v items ih =>
    rw [Value.texts, List.mapM_cons, bind_eq_ok, Option.bind_eq_bind, Option.bind_eq_some_iff]
    refine exists_congr fun text => and_congr text_eq_ok ?_
    rw [bind_eq_ok, Option.bind_eq_bind, Option.bind_eq_some_iff]
    refine exists_congr fun rest => and_congr ih ?_
    rw [Except.ok.injEq, Option.pure_def, Option.some.injEq]

theorem attributeText_eq_ok {text : String} : attributeText v = .ok text ↔ v.attributeText? = some text := by
  by_cases list : ∃ items, v = .list items
  · obtain ⟨items, rfl⟩ := list
    rw [attributeText, map_eq_ok, Value.attributeText?, Option.map_eq_some_iff]
    exact exists_congr fun texts => and_congr_left' Value.texts_eq_ok
  · have scalar : attributeText v = v.text ∧ v.attributeText? = v.scalarText? := by
      cases v with
      | list items => exact absurd ⟨items, rfl⟩ list
      | _ => exact ⟨rfl, rfl⟩
    rw [scalar.1, scalar.2, Value.text_eq_ok]

theorem shown?_eq_none_iff {entry : String × Value κ} (text : ∃ text, entry.2.attributeText? = some text) :
    shown? dialect entry = none ↔ entry.2 = .none ∨ entry.2 = .bool false := by
  obtain ⟨name, v⟩ := entry
  obtain ⟨text, attr⟩ := text
  cases v with
  | none => exact iff_of_true rfl (.inl rfl)
  | bool b => cases b <;> simp [shown?]
  | _ => simp [shown?, attr]

theorem writeNamed_returns_iff (dialect : Dialect) (name : String) (v : Value κ) :
    (∃ out, writeNamed dialect name v = .ok out) ↔ ∃ text, v.attributeText? = some text := by
  simp only [← attributeText_eq_ok]
  cases v with
  | none => exact iff_of_true ⟨_, rfl⟩ ⟨_, rfl⟩
  | bool b => cases b <;> exact iff_of_true ⟨_, rfl⟩ ⟨_, rfl⟩
  | _ => simp [writeNamed, bind_eq_ok]

theorem spells_of_writeNamed (valid : IsName name.toList) (written : writeNamed dialect name v = .ok out) :
    shown? dialect (name, v) = none ∧ out = "" ∨
      ∃ a, shown? dialect (name, v) = some a ∧ a.name = name.toList ∧ Spells a out.toList := by
  cases v with
  | none =>
    obtain rfl := Except.ok.inj written
    exact .inl ⟨rfl, rfl⟩
  | bool b =>
    cases b with
    | false =>
      obtain rfl := Except.ok.inj written
      exact .inl ⟨rfl, rfl⟩
    | true =>
      obtain rfl := Except.ok.inj written
      refine .inr ⟨_, rfl, rfl, ?_⟩
      cases dialect with
      | html =>
        rw [String.toList_append]
        exact .alone name.toList
      | xhtml =>
        have free : '"' ∉ name.toList := fun member => absurd (valid.2 _ member) (by simp [isNameChar])
        have quotes : isQuote '"' = true := rfl
        have spelled := Spells.quoted name.toList quotes free
        simpa using spelled
  | _ =>
    obtain ⟨text, attr, made⟩ := bind_eq_ok.mp written
    obtain rfl := Except.ok.inj made
    obtain ⟨quote, quotes, free, quoted⟩ := quoteAttribute_eq text.toList
    refine .inr ⟨⟨name.toList, some (quotedText text.toList)⟩, ?_, rfl, ?_⟩
    · rw [shown?, attributeText_eq_ok.mp attr, Option.map_some] <;> exact nofun
    · have spelled := Spells.quoted name.toList quotes free
      simpa [quoted] using spelled

theorem Spells.starts {a : Attribute} {text : List Char} (spells : Spells a text) :
    ∃ more, text = ' ' :: more := by
  cases spells <;> exact ⟨_, rfl⟩

theorem delimited_of_writeAllNamed (valid : ∀ entry ∈ named, IsName entry.1.toList)
    (written : writeAllNamed dialect named = .ok out) {rest : List Char} (delimited : Delimited rest) :
    Delimited (out.toList ++ rest) ∧
      (readAttribute? rest = none →
        readAttributes (out.toList ++ rest) = (named.filterMap (shown? dialect), rest)) := by
  -- An attribute ends where the next one starts with a blank, so both facts are needed at once.
  induction named generalizing out with
  | nil =>
    obtain rfl := Except.ok.inj written
    exact ⟨delimited, readAttributes_of_none⟩
  | cons entry named ih =>
    obtain ⟨here, later⟩ := List.forall_mem_cons.mp valid
    obtain ⟨first, firstWritten, written⟩ := bind_eq_ok.mp written
    obtain ⟨more, moreWritten, written⟩ := bind_eq_ok.mp written
    obtain rfl := Except.ok.inj written
    obtain ⟨followed, reads⟩ := ih later moreWritten
    rw [String.toList_append, List.append_assoc, List.filterMap_cons]
    rcases spells_of_writeNamed here firstWritten with ⟨hidden, rfl⟩ | ⟨a, shown, same, spells⟩
    · rw [hidden]
      exact ⟨followed, reads⟩
    · obtain ⟨text, starts⟩ := Spells.starts spells
      refine ⟨⟨' ', text ++ (more.toList ++ rest), by rw [starts]; rfl, .inl rfl⟩, fun nothing => ?_⟩
      have read := readAttribute?_append spells (same ▸ here) followed
      rw [readAttributes_of_some read, reads nothing, shown]

/-! ### Tags -/

theorem writeAllNamed_returns_iff (dialect : Dialect) :
    (∃ out, writeAllNamed dialect named = .ok out) ↔
      ∀ entry ∈ named, ∃ text, entry.2.attributeText? = some text := by
  induction named with
  | nil => exact iff_of_true ⟨_, rfl⟩ nofun
  | cons entry named ih =>
    rw [List.forall_mem_cons, ← ih, ← writeNamed_returns_iff dialect entry.1]
    simp [writeAllNamed, bind_eq_ok]

theorem readOpening?_append (valid : IsName name.toList) (names : ∀ entry ∈ named, IsName entry.1.toList)
    (written : writeAllNamed dialect named = .ok out) (rest : List Char) :
    readOpening? ('<' :: (name.toList ++ (out.toList ++ '>' :: rest))) =
      some ⟨name.toList, named.filterMap (shown? dialect), false, rest⟩ ∧
    readOpening? ('<' :: (name.toList ++ (out.toList ++ ' ' :: '/' :: '>' :: rest))) =
      some ⟨name.toList, named.filterMap (shown? dialect), true, rest⟩ := by
  have greater : Delimited ('>' :: rest) := ⟨'>', rest, rfl, .inr rfl⟩
  have slash : Delimited (' ' :: '/' :: '>' :: rest) := ⟨' ', _, rfl, .inl rfl⟩
  -- The blank in front of the slash starts no attribute.
  have noName : readName? ('/' :: '>' :: rest) = none := by simp [readName?, isNameChar]
  have noAttribute : readAttribute? (' ' :: '/' :: '>' :: rest) = none := by
    rw [readAttribute?, noName]
    rfl
  obtain ⟨before, reads⟩ := delimited_of_writeAllNamed names written greater
  obtain ⟨before', reads'⟩ := delimited_of_writeAllNamed names written slash
  constructor
  · rw [readOpening?, readName?_append valid before.outside]
    simp [reads rfl]
  · rw [readOpening?, readName?_append valid before'.outside]
    simp [reads' noAttribute]

variable [Host] [Shows κ] {origin : TagOrigin} {isVoid : Bool} {body : TagBody κ}

def voidEnd : Dialect → String
  | .html => ">"
  | .xhtml => " />"

/-- The parts of an element that has been written. -/
theorem expand_eq_ok :
    (Tag.markup origin name isVoid dialect).expand body [] named = .ok out ↔
      ∃ attributes, writeAllNamed dialect named = .ok attributes ∧
        ((isVoid = true ∧ body.isEmpty = true ∧
            "<" ++ name ++ attributes ++ voidEnd dialect = out) ∨
          isVoid = false ∧ ∃ text, body.render = .ok text ∧
            "<" ++ name ++ attributes ++ ">" ++ text ++ closingBreak text ++ "</" ++ name ++ ">" = out) := by
  cases isVoid with
  | false => simp [Tag.expand, Tag.markup, writeMarkup, writeAllPositional, bind_eq_ok]
  | true =>
    cases empty : body.isEmpty with
    | false => simp [Tag.expand, Tag.markup, writeMarkup, empty, fail]
    | true =>
      cases dialect <;>
        simp [Tag.expand, Tag.markup, writeMarkup, writeAllPositional, bind_eq_ok, empty, voidEnd]

theorem expand_returns_iff :
    (∃ out, (Tag.markup origin name isVoid dialect).expand body [] named = .ok out) ↔
      (∀ entry ∈ named, ∃ text, entry.2.attributeText? = some text) ∧
      (isVoid = true → body.isEmpty = true) ∧
      (isVoid = false → ∃ text, body.render = .ok text) := by
  rw [← writeAllNamed_returns_iff dialect]
  simp only [expand_eq_ok]
  cases isVoid <;> simp

/-- An element with named attributes only is written if and only if these have texts and the body is
empty or allowed. Reading its opening tag gives back the attributes that are neither `none` nor `false`,
in order, with what was put between their quotes. Then come the body, a newline if the body starts with
one and does not end with one, and the closing tag. Quotes do not stand in what is put between them. -/
theorem expand_readOpening (origin : TagOrigin) (isVoid : Bool) (dialect : Dialect) (body : TagBody κ)
    (valid : IsName name.toList) (names : ∀ entry ∈ named, IsName entry.1.toList) :
    ((∃ out, (Tag.markup origin name isVoid dialect).expand body [] named = .ok out) ↔
      (∀ entry ∈ named, ∃ text, entry.2.attributeText? = some text) ∧
      (isVoid = true → body.isEmpty = true) ∧
      (isVoid = false → ∃ text, body.render = .ok text)) ∧
    (∀ out, (Tag.markup origin name isVoid dialect).expand body [] named = .ok out →
      (∀ entry ∈ named, shown? dialect entry = none ↔ entry.2 = .none ∨ entry.2 = .bool false) ∧
      (isVoid = true → readOpening? out.toList =
        some ⟨name.toList, named.filterMap (shown? dialect), dialect = .xhtml, []⟩) ∧
      (isVoid = false → ∃ text, body.render = .ok text ∧
        readOpening? out.toList = some ⟨name.toList, named.filterMap (shown? dialect), false,
          text.toList ++
          (if text.toList.head? = some '\n' ∧ text.toList.getLast? ≠ some '\n' then ['\n'] else []) ++
          ("</" ++ name ++ ">").toList⟩)) ∧
    ∀ text, unescapeMarkup (escapeQuoted text) = text ∧
      ∃ quote, isQuote quote = true ∧ quote ∉ quotedText text ∧
        quoteAttribute text = quote :: (quotedText text ++ [quote]) := by
  refine ⟨expand_returns_iff, fun out expanded => ?_,
    fun text => ⟨unescapeMarkup_escapeQuoted text, quoteAttribute_eq text⟩⟩
  obtain ⟨attributes, written, expanded⟩ := expand_eq_ok.mp expanded
  have texts := (writeAllNamed_returns_iff dialect).mp ⟨_, written⟩
  refine ⟨fun entry member => shown?_eq_none_iff (texts entry member), ?_, ?_⟩
  · rintro rfl
    obtain ⟨-, -, rfl⟩ | ⟨⟨⟩, -⟩ := expanded
    obtain ⟨open', closed⟩ := readOpening?_append valid names written []
    cases dialect with
    | html => simpa [voidEnd] using open'
    | xhtml => simpa [voidEnd] using closed
  · rintro rfl
    obtain ⟨⟨⟩, -⟩ | ⟨-, text, rendered, rfl⟩ := expanded
    refine ⟨text, rendered, ?_⟩
    have break_eq : (closingBreak text).toList =
        if text.toList.head? = some '\n' ∧ text.toList.getLast? ≠ some '\n' then ['\n'] else [] := by
      simp only [closingBreak, Bool.and_eq_true, beq_iff_eq, bne_iff_ne]
      split <;> rfl
    obtain ⟨open', -⟩ := readOpening?_append valid names written
      (text.toList ++ (closingBreak text).toList ++ ("</" ++ name ++ ">").toList)
    rw [← break_eq, ← open']
    simp

omit [Host] [Shows κ] in
/-- An attribute with both quotes between a list and `true`. -/
theorem expand_readOpening_quotes :
    letI := Host.bare
    let named : List (String × Value Empty) :=
      [("a", .list [.string "x", .bool true]), ("b", .string "\"'>"), ("c", .bool true), ("d", .none)]
    let element := "<p a=\"x true\" b=\"&quot;'&gt;\" c>\nz\n</p>"
    IsName "p".toList ∧ (∀ entry ∈ named, IsName entry.1.toList) ∧
      (Tag.markup (.standard .html) "p" false .html).expand (.text "\nz") [] named = .ok element ∧
      readOpening? element.toList = some ⟨['p'],
        [⟨['a'], some "x true".toList⟩, ⟨['b'], some "&quot;'&gt;".toList⟩, ⟨['c'], none⟩],
        false, "\nz\n</p>".toList⟩ := by
  let := Host.bare
  intro named element
  have letters : ['p', 'a', 'b', 'c', 'd'].all isNameChar = true := by decide +kernel
  simp only [List.all_cons, List.all_nil, Bool.and_eq_true] at letters
  have valid : IsName "p".toList := by simp [IsName, letters]
  have names : ∀ entry ∈ named, IsName entry.1.toList := by simp [named, IsName, letters]
  have expanded : (Tag.markup (.standard .html) "p" false .html).expand (.text "\nz") [] named =
      .ok element := rfl
  obtain ⟨-, reads, -⟩ := expand_readOpening (.standard .html) false .html (.text "\nz") valid names
  obtain ⟨-, -, element⟩ := reads _ expanded
  obtain ⟨text, rendered, read⟩ := element rfl
  obtain rfl := Except.ok.inj rendered
  exact ⟨valid, names, expanded, read⟩

end MarkupTemplate
