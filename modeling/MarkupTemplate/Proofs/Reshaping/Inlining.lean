import MarkupTemplate.Proofs.Lexical.Ends
import MarkupTemplate.Proofs.Reshaping.Compiled
import MarkupTemplate.Proofs.Reshaping.Sides
import MarkupTemplate.Proofs.Resolved.Registered

/-!
# Inlining calls

A definition that is called at once captures the bindings that the call is made on. So the body runs
in the state that it would run in without the call.
-/

namespace MarkupTemplate

namespace Translate

variable {env : Env} {call : Caller Lexical Capture} {depth : Nat} {signature : Signature}
  {body rest : List Block} {name : Ident} {layout : Layout} {s : Lexical}

variable [Host]

/-- The state after a definition, in which it is bound to what it captures. -/
abbrev Lexical.defined (depth : Nat) (signature : Signature) (body : List Block) (s : Lexical) :
    Lexical :=
  Scoping.push (tagSymbol signature.name.name)
    (.closure (.mk ⟨signature, body, depth⟩ s.bindings)) s

variable (named : name.name = signature.name.name) (inline : layout.outline = false)

include named inline

omit named inline

end Translate

variable {m : Modules} {exempt : Side → Stop → Prop}

/-- A call that is not needed and a branch are two sides, if the side before may fail for want of
calls. -/
theorem Inlining.reshapes (allowed : exempt .before .callDepth) {bs bs' : List Block}
    (h : Inlining m bs bs') (scope : Side → Declarations) (depth : Side → Nat) :
    Reshapes m exempt [] fun w => Block.allAnnotated m (scope w) (depth w) (sides bs bs' w) := by
  obtain @⟨signature, body, rest, name, layout, span, params, bodyParam, named, inline, avoids⟩ := h
  have inside : Reshapes m exempt [] fun w => Block.allAnnotated m
      (sides (scope .before ++ signature.declares (depth .before + 1)) (scope .after) w)
      (sides (depth .before + 1) (depth .after) w) body :=
    Block.reshapes_all body (Block.allAvoid_nil m body)
  have later : Reshapes m exempt [tagSymbol signature.name.name] fun w => Block.allAnnotated m
      (sides (scope .before ++ Block.declares m (depth .before) (.define signature body) ++
        Block.declares m (depth .before) (.call name [] [] layout)) (scope .after ++ []) w)
      (depth w) rest :=
    Block.reshapes_all rest avoids
  let charged : Signature := { signature with
    readDepth := shallowestRead (depth .before + 1) (Block.allSites m
      (scope .before ++ signature.declares (depth .before + 1)) (depth .before + 1) body) }
  have params : charged.params = [] := params
  have bodyParam : charged.bodyParam = none := bodyParam
  rw [annotated_sides]
  exact .inline params bodyParam named inline allowed inside later

/-- Nothing refers to the definition but the call. -/
theorem Inlining.clean {env : Resolve.Env} {bs bs' : List Block}
    (h : Inlining env.modules bs bs')
    (scope : Declarations) (depth : Nat) (clean : Block.AllClean env scope depth bs) :
    Block.AllClean env scope depth bs' := by
  obtain ⟨params, bodyParam, -, -, avoids⟩ := h
  obtain ⟨-, inner, clean⟩ := Block.allClean_cons.mp clean
  obtain ⟨-, -, rest⟩ := Block.allClean_cons.mp clean
  refine (Block.allClean_cons_inner (b := .branch ..) rfl rfl rfl).mpr
    ⟨List.forall_mem_append.mpr ⟨?_, nofun⟩, ?_⟩
  · refine Block.AllClean.shows _ inner (fun symbol member _ => ?_) (Block.allAvoid_nil _ _)
    simpa [Signature.declares, Signature.bound, params, bodyParam] using member
  · refine Block.AllClean.shows _ rest (fun symbol member shown => ?_) avoids
    simp only [Block.declares, Block.bound, List.map_append, List.mem_append] at member
    simpa [List.mem_singleton.not.mp shown] using member

end MarkupTemplate
