import MarkupTemplate.Proofs.Replace.Node
import MarkupTemplate.Script.Translate

/-!
# Replacing the closures that a script works with

Expressions, arguments and texts come out the same, with the closures replaced, when they are
evaluated on bindings whose closures have been replaced.
-/

namespace MarkupTemplate

variable {κ μ : Type} (f : κ → μ)

/-! ### Expressions -/

theorem Value.step_mapClosures (source : String) (v : Value κ) (key : Key) :
    (v.mapClosures f).step source key = Value.mapClosures f <$> v.step source key := by
  cases v with
  | list items =>
    cases key with
    | index i span =>
      simp only [mapClosures_list, step, List.getElem?_map]
      cases items[i]? <;> simp [← locate_map]
    | name key => simp [step, ← locate_map]
  | map entries =>
    cases key with
    | index i span => simp [mapClosures, step, ← locate_map]
    | name key =>
      simp only [mapClosures, mapClosuresEntries_eq, step, Dict.get?_map]
      cases Dict.get? key.name entries <;> simp [← locate_map]
  | _ => cases key <;> simp [mapClosures, step, ← locate_map, kind]

theorem Value.follow_mapClosures (source : String) (v : Value κ) (path : List Key) :
    (v.mapClosures f).follow source path = Value.mapClosures f <$> v.follow source path := by
  induction path generalizing v with
  | nil => rfl
  | cons key rest ih => simp [follow, step_mapClosures, map_bind, bind_map_left, ih]

section Eval

variable {look : String → Option (Value κ)} {look' : String → Option (Value μ)}

theorem valueOf_mapClosures (source : String)
    (h : ∀ symbol, look' symbol = (look symbol).map (Value.mapClosures f)) (symbol : String)
    (span : Span) :
    valueOf source look' symbol span = Value.mapClosures f <$> valueOf source look symbol span := by
  simp only [valueOf, h]
  cases look symbol <;> simp [← locate_map]

variable {f} [Host] [Shows κ] [Shows μ]

mutual

theorem Expr.eval_mapClosures (unseen : Host.Unseen f) (source : String)
    (h : ∀ symbol, look' symbol = (look symbol).map (Value.mapClosures f)) :
    ∀ e : Expr, e.eval source look' = Value.mapClosures f <$> e.eval source look
  | .literal value _ => by simp [Expr.eval]
  | .var name path => by
    simp [Expr.eval, valueOf_mapClosures f source h, map_bind, bind_map_left,
      Value.follow_mapClosures]
  | .tagRef name => by
    simp [Expr.eval, valueOf_mapClosures f source h, map_bind, bind_map_left, ← locate_map,
      apply_ite (Value.mapClosures f <$> ·)]
  | .list items => by simp [Expr.eval, Expr.evalAll_map unseen source h items]
  | .not e => by
    simp [Expr.eval, Expr.eval_mapClosures unseen source h e, map_bind, bind_map_left, Value.mapClosures]
  | .concat items => by simp [Expr.eval, Expr.evalText_map unseen source h items, Value.mapClosures]
  | .filter receiver name args => by
    simp only [Expr.eval, valueOf_mapClosures f source h, bind_map_left, map_bind]
    congr 1
    funext v
    cases v with
    | function g =>
      simp only [Value.mapClosures, Expr.eval_mapClosures unseen source h receiver,
        Expr.evalAll_map unseen source h args, bind_map_left, map_bind, ← List.map_cons,
        Function.call_map unseen, locate_map]
    | _ => simp [Value.mapClosures, Value.kind, ← locate_map]

theorem Expr.evalAll_map (unseen : Host.Unseen f) (source : String)
    (h : ∀ symbol, look' symbol = (look symbol).map (Value.mapClosures f)) :
    ∀ es : List Expr, Expr.evalAll source look' es =
      List.map (Value.mapClosures f) <$> Expr.evalAll source look es
  | [] => rfl
  | e :: es => by
    simp [Expr.evalAll, Expr.eval_mapClosures unseen source h e,
      Expr.evalAll_map unseen source h es, map_bind, bind_map_left]

theorem Expr.evalText_map (unseen : Host.Unseen f) (source : String)
    (h : ∀ symbol, look' symbol = (look symbol).map (Value.mapClosures f)) :
    ∀ es : List Expr, Expr.evalText source look' es = Expr.evalText source look es
  | [] => rfl
  | e :: es => by
    simp [Expr.evalText, Expr.eval_mapClosures unseen source h e, Expr.evalText_map unseen source h es,
      bind_map_left]

end

end Eval

/-! ### Calls -/

abbrev mapSlot : Param × Option (Value κ) → Param × Option (Value μ) :=
  Prod.map id (Option.map (Value.mapClosures f))

namespace Call

def mapClosures (call : Call κ) : Call μ where
  positional := call.positional.map (Value.mapClosures f)
  named := call.named.map (Prod.map id (Value.mapClosures f))
  body := call.body.map (Node.mapClosures f)
  indent := call.indent
  span := call.span

theorem mapClosures_id (call : Call κ) : call.mapClosures id = call := by
  simp only [mapClosures, Value.mapClosures_id', Node.mapClosures_id', Prod.map_id, List.map_id]

theorem fillPositional_map (params : List Param) (vs : List (Value κ)) :
    fillPositional params (vs.map (Value.mapClosures f)) =
      (fillPositional params vs).map (mapSlot f) := by
  induction params generalizing vs with
  | nil => rfl
  | cons p ps ih =>
    cases vs with
    | nil => simpa [fillPositional] using ih []
    | cons v vs => simp [fillPositional, ih]

theorem setNamed_map (name key : String) (v : Value κ) (slots : List (Param × Option (Value κ))) :
    setNamed name key (v.mapClosures f) (slots.map (mapSlot f)) =
      List.map (mapSlot f) <$> setNamed name key v slots := by
  induction slots with
  | nil => rfl
  | cons entry rest ih =>
    obtain ⟨p, slot⟩ := entry
    by_cases h : p.name.name = key
    · cases slot <;> simp [setNamed, h]
    · simp [setNamed, h, ih]

theorem setAllNamed_map (name : String) (slots : List (Param × Option (Value κ)))
    (named : List (String × Value κ)) :
    setAllNamed name (slots.map (mapSlot f)) (named.map (Prod.map id (Value.mapClosures f))) =
      List.map (mapSlot f) <$> setAllNamed name slots named := by
  induction named generalizing slots with
  | nil => rfl
  | cons entry rest ih => simp [setAllNamed, setNamed_map, map_bind, bind_map_left, ih]

theorem arguments_mapClosures (call : Call κ) (signature : Signature) :
    (call.mapClosures f).arguments signature =
      List.map (mapSlot f) <$> call.arguments signature := by
  simp only [arguments, mapClosures, List.isEmpty_map, List.length_map, fillPositional_map,
    setAllNamed_map]
  split
  · rfl
  · split <;> rfl

end Call

/-! ### Text and calls -/

/-- The formatter tells closures apart by their names only. -/
def Formatter.Nominal (formatter : Formatter) : Prop :=
  ∀ v : Value Shown, formatter (v.mapClosures Shown.nameOnly) = formatter v

namespace Translate

theorem called.callable?_mapClosures (v : Value κ) :
    called.callable? (v.mapClosures f) = (called.callable? v).map (Sum.map id f) := by
  cases v <;> rfl

theorem called.notCallable_mapClosures (env : Env) (name : Ident) (v : Value κ) :
    called.notCallable env name (v.mapClosures f) =
      Sum.map id f <$> called.notCallable env name v := by
  simp only [called.notCallable, Value.kind_mapClosures, ← locate_map, map_fail]

variable {f} [Host] [Defined κ] [Defined μ]

theorem formatValue_mapClosures (unseen : Host.Unseen f) {env : Env}
    (alike : ∀ v : Value κ, env.formatter (v.mapClosures f).shown = env.formatter v.shown)
    (span : Span) (v : Value κ) :
    formatValue env span (v.mapClosures f) = formatValue env span v := by
  have same (v : Value κ) :
      formatted env span (v.mapClosures f).shown = formatted env span v.shown := by
    simp only [formatted, alike v]
  cases v with
  | nodes ns => simp [formatValue, Value.mapClosures, Node.renderList_map unseen]
  | _ => exact same _

end Translate

end MarkupTemplate
