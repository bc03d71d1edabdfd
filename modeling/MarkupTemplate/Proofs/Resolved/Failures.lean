import MarkupTemplate.Proofs.Result
import MarkupTemplate.Script.Translate

/-!
# Errors of values and nodes

Working on values and nodes may fail, but never for want of a symbol, a module or a binding.
-/

namespace MarkupTemplate

variable {α β κ : Type}

/-- The categories of errors that resolving a script rules out. -/
def ErrorCategory.isScope : ErrorCategory → Bool
  | .undefinedSymbol | .importPath | .stackUnderflow => true
  | _ => false

/-- An error of a category that resolving a script does not rule out. -/
def Error.Plain (e : Error) : Prop := e.category.isScope = false

theorem Cause.toError_plain {c : Cause} (h : c.category.isScope = false) : c.toError.Plain := h

theorem Error.placed_category (e : Error) (source : String) (span : Span) :
    (e.placed source span).category = e.category := by
  unfold Error.placed
  split <;> rfl

theorem Error.Plain.placed {e : Error} (h : e.Plain) (source : String) (span : Span) :
    (e.placed source span).Plain := by
  rw [Error.Plain, e.placed_category]
  exact h

/-- A computation that fails with errors of some categories only. -/
def FailsIn (allowed : ErrorCategory → Prop) (x : Except Error α) : Prop :=
  ∀ e, x = .error e → allowed e.category

/-- A computation that fails with plain errors only. -/
abbrev Plain (x : Except Error α) : Prop := FailsIn (·.isScope = false) x

namespace FailsIn

variable {allowed : ErrorCategory → Prop}

theorem ok (a : α) : FailsIn allowed (.ok a) := by
  intro e failed
  cases failed

theorem fail {c : Cause} (h : allowed c.category) :
    FailsIn allowed (fail c : Except Error α) := by
  intro e failed
  cases failed
  exact h

theorem bind {x : Except Error α} {k : α → Except Error β} (h : FailsIn allowed x)
    (next : ∀ a, x = .ok a → FailsIn allowed (k a)) : FailsIn allowed (x >>= k) := by
  intro e failed
  rcases bind_eq_error.mp failed with here | ⟨a, found, later⟩
  · exact h e here
  · exact next a found e later

theorem map {x : Except Error α} (f : α → β) (h : FailsIn allowed x) :
    FailsIn allowed (f <$> x) := by
  intro e failed
  exact h e (map_eq_error.mp failed)

theorem locate {x : Except Error α} (h : FailsIn allowed x) (source : String) (span : Span) :
    FailsIn allowed (locate source span x) := by
  cases x with
  | ok a => exact .ok a
  | error e =>
    intro e' failed
    cases failed
    rw [Error.placed_category]
    exact h e rfl

theorem imp {wider : ErrorCategory → Prop} {x : Except Error α} (h : FailsIn allowed x)
    (weaker : ∀ c, allowed c → wider c) : FailsIn wider x :=
  fun e failed => weaker _ (h e failed)

end FailsIn

theorem Plain.fail {c : Cause} (h : c.category.isScope = false) :
    Plain (fail c : Except Error α) := FailsIn.fail h

/-- Functions of the host program fail with errors of some categories only. -/
class Host.FunctionsFailIn [Host] (allowed : ErrorCategory → Prop) : Prop where
  call (serial : Nat) {κ : Type} (shown : κ → Shown) (args : List (Value κ)) :
    FailsIn allowed ((Host.function serial).call shown args)

/-- Tags of the host program fail with errors of some categories only, if their bodies do. -/
class Host.TagsFailIn [Host] (allowed : ErrorCategory → Prop) : Prop where
  expand (serial : Nat) {body : TagBody Shown} (rendered : FailsIn allowed body.render)
    (positional : List (Value Shown)) (named : List (String × Value Shown)) :
    FailsIn allowed (Host.expand serial body positional named)

instance [Host] : Host.FunctionsFailIn fun _ => True := ⟨fun _ _ _ _ _ _ => trivial⟩

instance [Host] : Host.TagsFailIn fun _ => True := ⟨fun _ _ _ _ _ _ _ => trivial⟩

theorem Host.functionsFailIn_passing (allowed : ErrorCategory → Prop) (type : allowed .type) :
    @Host.FunctionsFailIn .passing allowed := by
  let := Host.passing
  refine ⟨fun serial _ shown args => ?_⟩
  match args with
  | [v] => exact .ok v
  | [] | _ :: _ :: _ => exact .fail type

theorem Host.tagsFailIn_passing (allowed : ErrorCategory → Prop) :
    @Host.TagsFailIn .passing allowed :=
  let := Host.passing
  ⟨fun _ _ rendered _ _ => rendered⟩

/-! ### Values

Values are refused for their type. -/

section Values

variable {allowed : ErrorCategory → Prop} (type : allowed .type)

include type

namespace Value

theorem text_fails (v : Value κ) : FailsIn allowed v.text := by
  unfold text
  split
  · exact .ok _
  · exact .fail type

theorem texts_fails (vs : List (Value κ)) : FailsIn allowed (texts vs) := by
  induction vs with
  | nil => exact .ok []
  | cons v vs ih =>
    unfold texts
    exact .bind (v.text_fails type) fun s _ => .bind ih fun rest _ => .ok _

theorem step_fails (source : String) (v : Value κ) (key : Key) :
    FailsIn allowed (v.step source key) := by
  unfold step
  split
  · split
    · exact .ok _
    · exact .locate (.fail type) source _
  · exact .locate (.fail type) source _
  · split
    · exact .ok _
    · exact .locate (.fail type) source _
  · exact .locate (.fail type) source _
  · exact .locate (.fail type) source _

theorem follow_fails (source : String) (v : Value κ) (path : List Key) :
    FailsIn allowed (v.follow source path) := by
  induction path generalizing v with
  | nil => exact .ok v
  | cons key rest ih =>
    unfold follow
    exact .bind (v.step_fails type source key) fun w _ => ih w

end Value

/-! ### Functions -/

namespace Builtin

theorem stringArgument_fails (f : Builtin) (v : Value κ) :
    FailsIn allowed (f.stringArgument v) := by
  unfold stringArgument
  split
  · exact .ok _
  · exact .fail type

theorem onText_fails (f : Builtin) (g : List Char → List Char) (v : Value κ) :
    FailsIn allowed (f.onText g v) := by
  unfold onText
  exact .bind (f.stringArgument_fails type v) fun s _ => .ok _

theorem element_fails (v key : Value κ) : FailsIn allowed (element v key) := by
  unfold element
  split
  · exact .ok _
  · exact .ok _
  · exact .ok _
  · exact .fail type
  · exact .fail type
  · exact .fail type

theorem joined_fails (list separator : Value κ) : FailsIn allowed (joined list separator) := by
  unfold joined
  refine .bind (stringArgument_fails type _ separator) fun s _ => ?_
  split
  · exact .bind (Value.texts_fails type _) fun texts _ => .ok _
  · exact .fail type

/-- A function fails because of its arguments. -/
theorem call_fails (f : Builtin) (args : List (Value κ)) : FailsIn allowed (f.call args) := by
  unfold call
  split
  · exact onText_fails type _ _ _
  · exact onText_fails type _ _ _
  · refine .bind (stringArgument_fails type _ _) fun s _ => ?_
    refine .bind (stringArgument_fails type _ _) fun pattern _ => ?_
    exact .bind (stringArgument_fails type _ _) fun replacement _ => .ok _
  · unfold firstOf
    split
    · exact .ok _
    · exact .fail type
  · unfold lastOf
    split
    · exact .ok _
    · exact .fail type
  · unfold lengthOf
    split
    · exact .ok _
    · exact .ok _
    · exact .ok _
    · exact .ok _
    · exact .fail type
  · unfold reversed
    split
    · exact .ok _
    · exact .ok _
    · exact .fail type
  · exact .ok _
  · exact element_fails type _ _
  · exact joined_fails type _ _
  · exact .fail type

end Builtin

theorem Function.call_fails [Host] [Shows κ] [Host.FunctionsFailIn allowed] (f : Function)
    (args : List (Value κ)) : FailsIn allowed (f.call args) := by
  cases f with
  | builtin f => exact f.call_fails type args
  | host serial _ => exact Host.FunctionsFailIn.call serial Shows.shown args

/-! ### Attributes -/

theorem attributeText_fails (v : Value κ) : FailsIn allowed (attributeText v) := by
  unfold attributeText
  split
  · exact .map _ (Value.texts_fails type _)
  · exact v.text_fails type

theorem writePositional_fails (tag : String) (v : Value κ) :
    FailsIn allowed (writePositional tag v) := by
  unfold writePositional
  split
  · exact .ok _
  · exact .ok _
  · exact .fail type
  · exact .map _ (attributeText_fails type v)

theorem writeNamed_fails (dialect : Dialect) (name : String) (v : Value κ) :
    FailsIn allowed (writeNamed dialect name v) := by
  unfold writeNamed
  split
  · exact .ok _
  · exact .ok _
  · exact .ok _
  · exact .bind (attributeText_fails type v) fun text _ => .ok _

theorem writeAllPositional_fails (tag : String) (vs : List (Value κ)) :
    FailsIn allowed (writeAllPositional tag vs) := by
  induction vs with
  | nil => exact .ok _
  | cons v vs ih =>
    unfold writeAllPositional
    exact .bind (writePositional_fails type tag v) fun s _ => .bind ih fun rest _ => .ok _

theorem writeAllNamed_fails (dialect : Dialect) (entries : List (String × Value κ)) :
    FailsIn allowed (writeAllNamed dialect entries) := by
  induction entries with
  | nil => exact .ok _
  | cons entry rest ih =>
    unfold writeAllNamed
    refine .bind (writeNamed_fails type dialect _ entry.2) fun s _ => ?_
    exact .bind ih fun more _ => .ok _

variable [Host] [Shows κ] [Host.TagsFailIn allowed]

/-- A tag refuses attributes for their type, and a body if it takes none. -/
theorem Tag.expand_fails (tag : Tag) (body : TagBody κ)
    (refused : tag.isVoid = true → body.isEmpty = false → allowed .voidBody)
    (h : FailsIn allowed body.render) (positional : List (Value κ))
    (named : List (String × Value κ)) : FailsIn allowed (tag.expand body positional named) := by
  unfold Tag.expand
  split
  · unfold writeMarkup
    split
    · next both =>
      obtain ⟨void, filled⟩ := Bool.and_eq_true_iff.mp both
      exact .fail (refused void (Bool.not_eq_true' _ ▸ filled))
    · refine .bind (writeAllPositional_fails type _ _) fun positional _ => ?_
      refine .bind (writeAllNamed_fails type _ _) fun named _ => ?_
      dsimp only
      split
      · exact .ok _
      · exact .bind h fun text _ => .ok _
  · have rendered : FailsIn allowed body.shown.render := by cases body <;> exact h
    exact Host.TagsFailIn.expand _ rendered _ _

/-- An element is refused for its attributes, or for its body if its tag takes none. -/
theorem Head.write_fails (head : Head (Value κ)) {body : List (Node κ)}
    {rendered : Except Error String} (h : FailsIn allowed rendered)
    (refused : ∀ tag, head.tag = some tag → tag.isVoid = true →
      allowed .voidBody ∨ body = [] ∧ rendered = .ok "") :
    FailsIn allowed (head.write body rendered) := by
  unfold Head.write
  split
  · exact h
  · next tag found =>
    split
    · next both =>
      obtain ⟨void, filled⟩ := Bool.and_eq_true_iff.mp both
      rcases refused tag found void with fine | ⟨rfl, -⟩
      · exact .fail fine
      · cases filled
    · split
      · refine .bind h fun text written => ?_
        refine tag.expand_fails type (.text text) (fun void filled => ?_) (.ok text) _ _
        rcases refused tag found void with fine | ⟨-, empty⟩
        · exact fine
        · obtain rfl := Except.ok.inj (written.symm.trans empty)
          cases filled
      · refine tag.expand_fails type (.nodes body rendered) (fun void filled => ?_) h _ _
        rcases refused tag found void with fine | ⟨rfl, -⟩
        · exact fine
        · cases filled

end Values

/-! ### Placing nodes -/

namespace Value

variable {allowed : ErrorCategory → Prop}

mutual

theorem flatten_fails (structural : allowed .structuralType) :
    ∀ v : Value κ, FailsIn allowed v.flatten
  | .none => .ok []
  | .nodes ns => .ok ns
  | .list items => flattenList_fails structural items
  | .bool _ | .integer _ | .float _ | .string _ | .map _ | .tag _ | .closure _ | .function _ =>
    .fail structural

theorem flattenList_fails (structural : allowed .structuralType) :
    ∀ vs : List (Value κ), FailsIn allowed (flattenList vs)
  | [] => .ok []
  | v :: vs => by
    unfold flattenList
    refine .bind (flatten_fails structural v) fun ns _ => ?_
    exact .bind (flattenList_fails structural vs) fun rest _ => .ok _

end

end Value

namespace Node

mutual

/-- A node that cannot be demoted is not indented far enough. -/
theorem demote_fails (parent : String) :
    ∀ (n : Node κ) (e : Error), (n.demote parent).2 = some e → e.category = .malformedIndent
  | .text _, _, failed | .root _, _, failed | .element _ (some (.relative _)) _, _, failed => by
    cases failed
  | .element _ none body, e, failed => demoteList_fails parent body e failed
  | .element _ (some (.absolute indent)) _, e, failed => by
    unfold demote at failed
    split at failed
    · cases failed
    · cases failed
      rfl

theorem demoteList_fails (parent : String) :
    ∀ (ns : List (Node κ)) (e : Error),
      (demoteList parent ns).2 = some e → e.category = .malformedIndent
  | [], _, failed => by cases failed
  | n :: ns, e, failed => by
    unfold demoteList at failed
    split at failed
    · next demoted =>
      exact demote_fails parent n e (congrArg Prod.snd demoted ▸ failed)
    · exact demoteList_fails parent ns e failed

end

theorem ofHead_plain (head : Head (Value κ)) (indent : Option Indent) (body : List (Node κ)) :
    Plain (ofHead head indent body) := by
  have build : Plain (ofHead.build head indent body) := by
    unfold ofHead.build place
    split
    · split
      · exact .ok _
      · next placed =>
        intro e failed
        cases failed
        dsimp only at placed
        split at placed
        · split at placed
          · cases placed
          · next demoted =>
            cases placed
            exact demoteList_fails _ _ _ (congrArg Prod.snd demoted) ▸ rfl
        · cases placed
          rfl
    · exact .ok _
  unfold ofHead
  split
  · split
    · exact .fail rfl
    · exact build
  · exact build

theorem group_plain (outline : Bool) (indent : Option Indent) (body : List (Node κ)) :
    Plain (group outline indent body) := ofHead_plain _ _ _

end Node

theorem demoteAll_fails {allowed : ErrorCategory → Prop} (malformed : allowed .malformedIndent)
    (parent : String) (ns : List (Node κ)) : FailsIn allowed (demoteAll parent ns) := by
  unfold demoteAll
  split
  · exact .ok _
  · next demoted =>
    intro e failed
    cases failed
    exact Node.demoteList_fails parent ns _ (congrArg Prod.snd demoted) ▸ malformed

theorem startLine_plain (indent : Option String) (ns : List (Node κ)) :
    Plain (startLine indent ns) := by
  unfold startLine
  split
  · exact .ok _
  · split
    · exact .ok _
    · exact .bind (Node.group_plain _ _ _) fun group _ => .ok _

/-! ### Writing nodes -/

theorem layOut_fails {allowed : ErrorCategory → Prop} (outline : Bool) {indent : Option Indent}
    (placed : allowed .malformedIndent ∨ ∀ i, indent ≠ some (.absolute i)) (text : String) :
    FailsIn allowed (layOut outline indent text) := by
  unfold layOut
  dsimp only
  split
  · exact .ok _
  · exact .ok _
  · next i => exact .fail (placed.resolve_right fun relative => relative i rfl)

theorem Translate.formatted_fails {allowed : ErrorCategory → Prop} (format : allowed .format)
    (env : Translate.Env) (span : Span) (v : Value Shown) :
    FailsIn allowed (Translate.formatted env span v) := by
  unfold Translate.formatted
  split
  · exact .ok _
  · exact .locate (.fail format) _ _

namespace Node

variable [Host] [Shows κ]

mutual

theorem render_plain [Host.TagsFailIn (·.isScope = false)] : ∀ n : Node κ, Plain n.render
  | .text s => .ok s
  | .root body => .map _ (renderList_plain body)
  | .element head indent body => by
    unfold render
    have written : Plain (head.write body (renderList body)) :=
      head.write_fails (by rfl) (renderList_plain body) fun _ _ _ => .inl rfl
    exact written.bind fun text _ => layOut_fails _ (.inl (by rfl)) _

theorem renderList_plain [Host.TagsFailIn (·.isScope = false)] :
    ∀ ns : List (Node κ), Plain (renderList ns)
  | [] => .ok _
  | n :: ns => by
    unfold renderList
    exact .bind (render_plain n) fun s _ => .bind (renderList_plain ns) fun rest _ => .ok _

end

end Node

theorem Translate.formatValue_plain [Host] [Defined κ] [Host.TagsFailIn (·.isScope = false)]
    (env : Translate.Env) (span : Span) (v : Value κ) : Plain (Translate.formatValue env span v) := by
  unfold Translate.formatValue
  split
  · exact Node.renderList_plain _
  · exact Translate.formatted_fails (by rfl) env span _

/-! ### Arguments -/

namespace Call

theorem setNamed_fails (name key : String) (v : Value κ) (slots : List (Param × Option (Value κ)))
    (c : Cause) (failed : setNamed name key v slots = .error c) : c.category = .type := by
  induction slots with
  | nil =>
    cases failed
    rfl
  | cons entry rest ih =>
    unfold setNamed at failed
    split at failed
    · split at failed
      · cases failed
        rfl
      · cases failed
    · exact ih (map_eq_error.mp failed)

theorem setAllNamed_fails (name : String) (slots : List (Param × Option (Value κ)))
    (named : List (String × Value κ)) (c : Cause) (failed : setAllNamed name slots named = .error c) :
    c.category = .type := by
  induction named generalizing slots with
  | nil => cases failed
  | cons entry rest ih =>
    unfold setAllNamed at failed
    rcases bind_eq_error.mp failed with here | ⟨filled, -, later⟩
    · exact setNamed_fails _ _ _ _ c here
    · exact ih filled later

theorem arguments_fails {allowed : ErrorCategory → Prop} (type : allowed .type)
    (void : allowed .voidBody) (call : Call κ) (signature : Signature) :
    FailsIn allowed ((call.arguments signature).mapError Cause.toError) := by
  intro e failed
  obtain ⟨c, refused, rfl⟩ := mapError_eq_error.mp failed
  change allowed c.category
  unfold arguments at refused
  dsimp only at refused
  split at refused
  · cases refused
    exact void
  · split at refused
    · cases refused
      exact type
    · exact setAllNamed_fails _ _ _ c refused ▸ type

end Call

end MarkupTemplate
