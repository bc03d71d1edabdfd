import MarkupTemplate.Proofs.Placement.Aligned
import MarkupTemplate.Proofs.Placement.Documents

/-!
# When an indentation is malformed

If all layouts are blank and no nodes come from outside, a translation finds an indentation malformed
if and only if it comes to a call that takes a body in which no outermost indentation starts all the
others. A tag that writes itself accepts such a body.
-/

namespace MarkupTemplate

/-- The layout holds blanks only. -/
def Layout.IsBlank (layout : Layout) : Prop :=
  ∀ c ∈ layout.indent.toList, Text.isIndentChar c = true

namespace Translate

variable {env : Env} {s s' : State Closure} {k : Call Closure}

theorem opened_of_isBlank {layout : Layout} (blank : layout.IsBlank) :
    ∃ o, opened s layout = .ok o := by
  have found : layout.indent.toList.find? (!Text.isIndentChar ·) = none :=
    List.find?_eq_none.mpr fun c member => by simp [blank c member]
  unfold opened
  split
  · exact ⟨_, rfl⟩
  · rw [found]
    exact ⟨_, rfl⟩

/-- The body of a call is bound unless a parameter takes it and it is not aligned. -/
theorem bindBody_fails_iff {fits : Layout → Prop} (clean : k.Clean fits) {param : Option Ident} :
    (∃ stop, bindBody s k param = .error stop) ↔ param.isSome ∧ ¬ Aligned k.body := by
  rw [← demoteAll_base_iff clean.body]
  cases param with
  | none => simp [bindBody]
  | some name =>
    cases demoted : demoteAll ((Node.baseOf? k.body).getD k.indent) k.body <;>
      simp [bindBody, demoted, Run.ofExcept]

theorem bindBody_malformed {param : Option Ident} {stop : Stop}
    (fails : bindBody s k param = .error stop) :
    ∃ e, stop = .error e ∧ e.category = .malformedIndent := by
  cases param with
  | none => cases fails
  | some name =>
    cases demoted : demoteAll ((Node.baseOf? k.body).getD k.indent) k.body with
    | ok body => simp [bindBody, demoted] at fails
    | error e =>
      have malformed : ∀ parent, FailsIn (· = .malformedIndent) (demoteAll parent k.body) :=
        fun parent => demoteAll_fails (by rfl) parent k.body
      simp only [bindBody, demoted] at fails
      exact ⟨e, (Except.error.inj fails).symm, malformed _ e demoted⟩

end Translate

namespace Template

open Translate

section Hosted

variable [Host] {t : Template} {context : Dict (Value Empty)}

theorem ComesTo.stops {stage : Stage (State Closure) Closure} (comes : t.ComesTo context stage)
    {stop : Stop} (fails : stage.Stops (t.env context) stop) :
    t.translate context = .error stop := by
  obtain ⟨symbols, found, reaches⟩ := comes
  have start := reaches.stops fails
  change Translate.blocks _ _ _ _ _ = _ at start
  have found : (t.env context).modules.initialSymbols = .ok symbols := found
  simp only [translate, MarkupTemplate.translate, Translate.script, scriptWith, found,
    lift_eq_ofExcept, ofExcept_ok, ok_bind, start, error_bind]

/-- If all layouts are blank and no literal and no value from outside holds nodes, translating fails
on a malformed indentation if and only if it comes to a call of a definition that takes a body, and
no outermost indentation of the body starts all the others. -/
theorem translate_malformed_iff [Host.KeepsSettled] [Host.FunctionsFailIn (· ≠ .malformedIndent)]
    [Host.TagsFailIn (· ≠ .malformedIndent)]
    (free : t.NodeFree Layout.IsBlank context) :
    (∃ e, t.translate context = .error (.error e) ∧ e.category = .malformedIndent) ↔
      ∃ limit s c k, t.ComesTo context (.entered limit s c k) ∧
        c.signature.bodyParam.isSome ∧ ¬ Aligned k.body := by
  constructor
  · rintro ⟨e, fails, malformed⟩
    by_contra none
    -- then no body is refused, so every way to stop is allowed but the one that was taken
    have setting : Setting Layout.IsBlank (t.env context) (· ≠ .malformedIndent)
        Stop.NotMalformed := by
      refine ⟨free.env, ⟨fun _ other => other, fun _ other => other⟩,
        fun layout s e blank refused => ?_⟩
      obtain ⟨o, opens⟩ := opened_of_isBlank (s := s) blank
      rw [opens] at refused
      cases refused
    have binds := script_placed setting t.engine.callLimit free.literals ?_
    · exact binds.allowed_of_error fails e rfl malformed
    · intro symbols found limit s c k reaches stop refused
      have comes : t.ComesTo context (.entered limit s c k) := ⟨symbols, found, reaches⟩
      exact absurd ⟨limit, s, c, k, comes,
        (bindBody_fails_iff (comes.clean free).2.2).mp ⟨stop, refused⟩⟩ none
  · rintro ⟨limit, s, c, k, comes, takes⟩
    obtain ⟨stop, refused⟩ := (bindBody_fails_iff (s := s) (comes.clean free).2.2).mpr takes
    obtain ⟨e, rfl, malformed⟩ := bindBody_malformed refused
    refine ⟨e, comes.stops ?_, malformed⟩
    change bindBody s k c.signature.bodyParam >>= _ = _
    rw [refused, error_bind]

end Hosted

/-- A call with two lines, of which one is indented by a space and the other by a tab. The tag `p`
writes itself, and `f` embeds its body. -/
def mixedBody (name : String) (readDepth : Option Nat) : List Block :=
  [.define ⟨⟨"f", {}⟩, [], some ⟨"b", {}⟩, readDepth⟩ [.embed (.var ⟨"b", {}⟩ []) {}],
    .call ⟨name, {}⟩ [] [.text [.raw "a"] ⟨true, " "⟩, .text [.raw "c"] ⟨true, "\t"⟩] {}]

/-- The resolved template that calls `name` with a mixed body. -/
def mixed (name : String) (readDepth : Nat) : Template where
  engine :=
    { modules := .ofRegistry [("p", .markup (.standard .html) "p" false .html)], callLimit := 2 }
  script := ⟨"", mixedBody name (some 2), some readDepth⟩

theorem mixed_nodeFree (name : String) (readDepth : Nat) :
    (mixed name readDepth).NodeFree Layout.IsBlank [] := by
  refine ⟨?_, nofun, Modules.ofRegistry_nodeFree _⟩
  simp [mixed, mixedBody, Block.AllWrite, Block.Writes, Resolve.partExprs, Resolve.argExprs,
    Resolve.defaultExprs, Expr.AllWrite, Expr.Writes, Layout.IsBlank, Text.isIndentChar]

theorem mixed_translate :
    letI := Host.passing
    (mixed "f" 1).translate [] =
      .error (.error (Cause.indentOutsideParent "\n\t" "\n ").toError) := by
  let := Host.passing
  have := Host.handsOn_passing
  exact (translate_eq_error _ _).mpr rfl

theorem translate_malformed_iff_mixed :
    letI := Host.passing
    (mixed "f" 1).NodeFree Layout.IsBlank [] ∧
      ∃ limit s c k, (mixed "f" 1).ComesTo [] (.entered limit s c k) ∧
        c.signature.bodyParam.isSome ∧ ¬ Aligned k.body := by
  let := Host.passing
  have := Host.keepsSettled_passing
  have := Host.functionsFailIn_passing (· ≠ .malformedIndent) nofun
  have := Host.tagsFailIn_passing (· ≠ .malformedIndent)
  exact ⟨mixed_nodeFree _ _,
    (translate_malformed_iff (mixed_nodeFree _ _)).mp ⟨_, mixed_translate, rfl⟩⟩

/-- A body that `p` accepts is malformed for `f`. -/
theorem mixed_malformed :
    letI := Host.passing
    (mixed "f" 1).engine.compile ⟨"", mixedBody "f" none⟩ = .ok (mixed "f" 1) ∧
      (mixed "f" 1).NodeFree Layout.IsBlank [] ∧
      (∃ e, (mixed "f" 1).translate [] = .error (.error e) ∧ e.category = .malformedIndent) ∧
      (mixed "p" 0).engine.compile ⟨"", mixedBody "p" none⟩ = .ok (mixed "p" 0) ∧
      (mixed "p" 0).renderWith [] = .ok "<p>\n a\n\tc\n</p>" := by
  let := Host.passing
  have := Host.handsOn_passing
  refine ⟨?_, mixed_nodeFree _ _, ⟨_, mixed_translate, rfl⟩, ?_, ?_⟩
  · rw [Engine.compile, Script.resolve_eq_resolveDeclared]
    rfl
  · rw [Engine.compile, Script.resolve_eq_resolveDeclared]
    rfl
  · rw [renderWith_lexically]
    rfl

end Template

end MarkupTemplate
