import MarkupTemplate.Proofs.Declared.Sites
import MarkupTemplate.Proofs.Resolved.Names
import MarkupTemplate.Proofs.Scoping.Indent

/-!
# Resolving on a stack and down the tree

Resolving works on one stack that is cut back at the end of every list, and on one running minimum
for each definition. It gives the same as reading off what is declared at each site.
-/

namespace MarkupTemplate

open Scope
open Resolve (partExprs argExprs defaultExprs)

variable {α β : Type}

/-! ### The first of some errors -/

/-- A computation gives the first of some errors, or without errors a result with a property. -/
def Checks (x : Run α) (errors : List Error) (p : α → Prop) : Prop :=
  match errors with
  | first :: _ => x = .error (.error first)
  | [] => ∃ a, x = .ok a ∧ p a

namespace Checks

variable {x : Run α} {errors later : List Error} {p : α → Prop} {q : β → Prop}

theorem ok {a : α} (h : p a) : Checks (.ok a) [] p := ⟨a, rfl, h⟩

theorem bind {k : α → Run β} (h : Checks x errors p) (next : ∀ a, p a → Checks (k a) later q) :
    Checks (x >>= k) (errors ++ later) q := by
  cases errors with
  | nil =>
    obtain ⟨a, rfl, here⟩ := h
    exact next a here
  | cons first rest =>
    obtain rfl : x = .error (.error first) := h
    rfl

/-- What comes after the last thing that can fail. -/
theorem bind_ok {k : α → Run β} (h : Checks x errors p) (next : ∀ a, p a → Checks (k a) [] q) :
    Checks (x >>= k) errors q := by
  have both := h.bind next
  rwa [List.append_nil] at both

/-- With one result that has the property, that is the result. -/
theorem eq {a : α} : Checks x errors (· = a) →
    x = match errors with
      | first :: _ => .error (.error first)
      | [] => .ok a := by
  intro h
  cases errors with
  | nil =>
    obtain ⟨_, ok, rfl⟩ := h
    exact ok
  | cons first rest => exact h

theorem locate {x : Except Error α} {source : String} {span : Span}
    (h : ∀ a, x = .ok a → p a) :
    Checks (Run.ofExcept (MarkupTemplate.locate source span x))
      (failure? (MarkupTemplate.locate source span x)).toList p := by
  cases x with
  | ok a => exact .ok (h a rfl)
  | error e => rfl

end Checks

/-! ### Smallest depths -/

theorem shallower_min? (reads : List Nat) (d : Nat) :
    Resolve.shallower reads.min? d = (reads ++ [d]).min? := by
  cases reads with
  | nil => rfl
  | cons first rest =>
    rw [List.cons_append, List.min?_cons', List.min?_cons', List.foldl_append]
    rfl

theorem min?_append_eq {reads more : List Nat} {d : Nat} (least : more.min? = some d) :
    (reads ++ more).min? = (reads ++ [d]).min? := by
  obtain ⟨member, below⟩ := List.min?_eq_some_iff.mp least
  cases all : (reads ++ [d]).min? with
  | none => simp at all
  | some e =>
    obtain ⟨found, least⟩ := List.min?_eq_some_iff.mp all
    refine List.min?_eq_some_iff.mpr ⟨?_, fun b there => ?_⟩
    · rcases List.mem_append.mp found with here | last
      · exact List.mem_append_left _ here
      · exact List.mem_append_right _ (List.mem_singleton.mp last ▸ member)
    · rcases List.mem_append.mp there with here | later
      · exact least b (List.mem_append_left _ here)
      · exact Nat.le_trans (least d (by simp)) (below b later)

theorem min?_filter (reads : List Nat) (limit : Nat) :
    (reads.filter (· ≤ limit)).min? = reads.min?.filter (· ≤ limit) := by
  cases all : reads.min? with
  | none => simp [List.min?_eq_none_iff.mp all]
  | some d =>
    obtain ⟨member, below⟩ := List.min?_eq_some_iff.mp all
    by_cases low : d ≤ limit
    · rw [Option.filter_some_pos (by simpa using low)]
      refine List.min?_eq_some_iff.mpr ⟨List.mem_filter.mpr ⟨member, by simpa using low⟩, ?_⟩
      exact fun b there => below b (List.mem_filter.mp there).1
    · rw [Option.filter_some_neg (by simpa using low), List.min?_eq_none_iff,
        List.filter_eq_nil_iff]
      intro b there
      have := below b there
      simp only [decide_eq_true_eq]
      omega

/-- Definitions deeper than the limit are declared inside. -/
theorem readsUpTo_succ (limit : Nat) (sites : List Site) :
    (readsUpTo (limit + 1) sites).filter (· ≤ limit) = readsUpTo limit sites := by
  rw [readsUpTo, readsUpTo, List.filter_filter]
  refine List.filter_congr fun d _ => ?_
  simp only [Bool.and_eq_left_iff_imp, decide_eq_true_eq]
  omega

@[simp] theorem readsUpTo_append (limit : Nat) (sites more : List Site) :
    readsUpTo limit (sites ++ more) = readsUpTo limit sites ++ readsUpTo limit more := by
  simp [readsUpTo]

@[simp] theorem readsUpTo_nil (limit : Nat) : readsUpTo limit [] = [] := rfl

theorem Scope.Stack.trunkLength_modify {σ : Store α} {s : Stack} {id : Nat} {f : Level α → Level α}
    (kept : ∀ l, (f l).trunk = l.trunk) : s.trunkLength (σ.modify id f) = s.trunkLength σ := by
  rw [trunkLength, trunkLength, Store.trunkLength, Store.trunkLength, Store.levels_modify]
  split
  · rw [Option.map_map]
    simp [Function.comp_def, Level.trunkLength, kept]
  · rfl

/-! ### Scopes -/

/-- Nothing in a scope is declared deeper than the place where it is visible. -/
def Declarations.Within (depth : Nat) (scope : Declarations) : Prop :=
  ∀ entry ∈ scope, entry.2.depth ≤ depth

namespace Declarations

variable {depth : Nat} {scope more : Declarations} {m : Modules}

/-- The depths that the symbols of a scope are declared at. -/
def depths (scope : Declarations) : List (String × Nat) :=
  scope.map (Prod.map id Declaration.depth)

theorem find?_depths (scope : Declarations) (symbol : String) :
    (lastBinding? symbol scope.depths).map (·.2) = (scope.find? symbol).map (·.depth) := by
  rw [depths, lastBinding?_map, find?, Option.map_map, Option.map_map]
  rfl

theorem mem_of_find? {symbol : String} {d : Declaration} (found : scope.find? symbol = some d) :
    (symbol, d) ∈ scope := by
  obtain ⟨⟨i, d⟩, last, rfl⟩ := Option.map_eq_some_iff.mp found
  exact List.mem_of_getElem? (mem_of_lastBinding? last)

theorem mem_of_reference {r : Reference} {d : Declaration} (member : d ∈ r.declarations scope) :
    ∃ symbol, (symbol, d) ∈ scope := by
  cases r with
  | symbol s span => exact ⟨s, mem_of_find? (Option.mem_toList.mp member)⟩
  | call name =>
    rcases List.mem_append.mp member with tag | var
    · exact ⟨_, mem_of_find? (Option.mem_toList.mp tag)⟩
    · exact ⟨_, mem_of_find? (Option.mem_toList.mp var)⟩

namespace Within

theorem append (h : scope.Within depth) (h' : more.Within depth) : (scope ++ more).Within depth :=
  List.forall_mem_append.mpr ⟨h, h'⟩

theorem declares (m : Modules) (b : Block) : (b.declares m depth).Within depth := by
  intro entry member
  obtain ⟨symbol, -, rfl⟩ := List.mem_map.mp member
  cases b <;> simp [Block.declaration, outsideDepth]

theorem ofSymbols (symbols : List String) :
    Within depth (symbols.map fun symbol => (symbol, { depth })) := by
  intro entry member
  obtain ⟨symbol, -, rfl⟩ := List.mem_map.mp member
  exact Nat.le_refl depth

theorem outside (symbols : List String) (depth : Nat) :
    (outsideDeclarations symbols).Within depth := by
  intro entry member
  obtain ⟨symbol, -, rfl⟩ := List.mem_map.mp member
  exact Nat.zero_le depth

theorem inner (h : scope.Within depth) (s : Signature) :
    (scope ++ s.declares (depth + 1)).Within (depth + 1) := by
  refine append (fun entry member => ?_) (ofSymbols _)
  exact Nat.le_succ_of_le (h entry member)

theorem reference (h : scope.Within depth) {r : Reference} {d : Declaration}
    (member : d ∈ r.declarations scope) : d.depth ≤ depth := by
  obtain ⟨symbol, here⟩ := mem_of_reference member
  exact h _ here

end Within

end Declarations

/-- A site refers to nothing that is deeper than itself. -/
theorem Site.readsUpTo_cons {depth : Nat} {scope : Declarations} (within : scope.Within depth)
    (b : Block) (sites : List Site) :
    readsUpTo depth (⟨scope, depth, b⟩ :: sites) =
      (⟨scope, depth, b⟩ : Site).reads ++ readsUpTo depth sites := by
  rw [readsUpTo, List.flatMap_cons, List.filter_append, ← readsUpTo, List.append_cancel_right_eq,
    List.filter_eq_self]
  intro d member
  obtain ⟨r, -, here⟩ := List.mem_flatMap.mp member
  obtain ⟨declared, there, rfl⟩ := List.mem_map.mp here
  exact decide_eq_true (within.reference there)

namespace Resolve

variable {env : Env} {s s' : State} {scope : Declarations} {reads : List Nat}

/-- A state holds what is declared in a scope, and some depths have been read in it. -/
structure State.Declares (s : State) (scope : Declarations) (reads : List Nat) : Prop where
  binds : s.Binds scope.depths
  -- Resolving opens no branch and never indents, so that cutting back is never refused.
  root : s.stack.trunkLength s.store = 0
  margin : s.stack.indent = "\n"
  reads : s.reads = reads.min?

namespace State.Declares

theorem depth?_eq (h : s.Declares scope reads) (symbol : String) :
    s.depth? symbol = (scope.find? symbol).map (·.depth) := by
  rw [h.binds.depth?_eq, scope.find?_depths]

theorem read (h : s.Declares scope reads) (d : Nat) : (s.read d).Declares scope (reads ++ [d]) := by
  refine ⟨h.binds.withReads _, h.root, h.margin, ?_⟩
  rw [← shallower_min?, ← h.reads]
  rfl

theorem push (h : s.Declares scope reads) (symbol : String) (d : Declaration) :
    (s.push symbol d.depth).Declares (scope ++ [(symbol, d)]) reads := by
  have root : s.stack.trunkLength (s.stack.push symbol d.depth s.store) = 0 :=
    (Stack.trunkLength_modify (f := .push symbol d.depth) fun _ => rfl).trans h.root
  refine ⟨?_, root, h.margin, h.reads⟩
  rw [Declarations.depths, List.map_append]
  exact h.binds.push symbol d.depth

theorem pushAll (h : s.Declares scope reads) (symbols : List String) (d : Declaration) :
    (s.pushAll symbols d.depth).Declares (scope ++ symbols.map (·, d)) reads := by
  induction symbols generalizing s scope with
  | nil => simpa [State.pushAll] using h
  | cons symbol rest ih =>
    have later := ih (h.push symbol d)
    rwa [List.append_assoc] at later

/-- Going back to where a list started leaves what was declared there. -/
theorem reset {outer : State} {more : Declarations} {before : List Nat}
    (h : s.Declares (scope ++ more) reads) (h' : outer.Declares scope before) :
    Checks (s.reset outer.checkpoint) [] (·.Declares scope reads) := by
  have below : outer.checkpoint.length ≤ s.stack.length s.store := by
    change _ ≤ s.checkpoint.length
    rw [h'.binds.length, h.binds.length]
    simp [Declarations.depths]
  have indent : outer.checkpoint.indentLength = s.stack.indent.utf8ByteSize := by
    rw [h.margin, ← h'.margin]
    rfl
  have undone := Stack.reset_eq_ok (by simp [h.margin]) indent (h.root ▸ Nat.zero_le _) below
  have ok := congrArg (Functor.map fun o => { s with store := o.1, stack := o.2 }) undone
  refine ⟨_, ok, ⟨?_, ?_, h.margin, h.reads⟩⟩
  · have both := h.binds
    rw [Declarations.depths, List.map_append] at both
    exact both.reset h'.binds.length ok
  · exact (Stack.trunkLength_modify (Level.trunk_popMany _)).trans h.root

/-- The state that the body of a definition starts with, where reads are counted anew. -/
theorem enter (h : s.Declares scope reads) (signature : Signature) (depth : Nat) :
    ((State.pushAll { s with reads := none } (signature.params.map (varSymbol ·.name.name))
      depth).pushAll (signature.bodyParam.toList.map (varSymbol ·.name)) depth).Declares
        (scope ++ signature.declares depth) [] := by
  have fresh : State.Declares { s with reads := none } scope [] :=
    ⟨h.binds.withReads none, h.root, h.margin, rfl⟩
  rw [Signature.declares, Signature.bound, List.map_append, ← List.append_assoc]
  exact (fresh.pushAll _ { depth }).pushAll _ { depth }

theorem recount (h : s.Declares scope reads) {counted : Option Nat} {reads' : List Nat}
    (same : counted = reads'.min?) : State.Declares { s with reads := counted } scope reads' :=
  ⟨h.binds.withReads counted, h.root, h.margin, same⟩

/-- The definition around another is charged with what that reads, unless it is deeper. -/
theorem charge (h : s.Declares scope reads) (depth : Nat) (inner : List Nat) :
    State.Declares (match inner.min? with
      | some d => if d ≤ depth then s.read d else s
      | none => s) scope (reads ++ inner.filter (· ≤ depth)) := by
  have least := min?_filter inner depth
  cases found : inner.min? with
  | none =>
    obtain rfl := List.min?_eq_none_iff.mp found
    simpa using h
  | some d =>
    rw [found] at least
    by_cases low : d ≤ depth
    · rw [Option.filter_some_pos (by simpa using low)] at least
      simp only [if_pos low]
      have read := h.read d
      exact ⟨read.binds, read.root, read.margin, read.reads.trans (min?_append_eq least).symm⟩
    · rw [Option.filter_some_neg (by simpa using low), List.min?_eq_none_iff] at least
      simpa only [if_neg low, least, List.append_nil] using h

end State.Declares

/-! ### References -/

/-- Reading references gives their first error, or counts their declarations as read. -/
def Reads (env : Env) (scope : Declarations) (reads : List Nat) (references : List Reference)
    (x : Run State) : Prop :=
  Checks x (references.flatMap (·.offences env.source scope))
    (·.Declares scope (reads ++ references.flatMap (·.depths scope)))

namespace Reads

theorem nil (h : s.Declares scope reads) : Reads env scope reads [] (.ok s) :=
  .ok (by simpa using h)

theorem bind {first later : List Reference} {x : Run State} {k : State → Run State}
    (h : Reads env scope reads first x)
    (next : ∀ s' reads', s'.Declares scope reads' → Reads env scope reads' later (k s')) :
    Reads env scope reads (first ++ later) (x >>= k) := by
  rw [Reads, List.flatMap_append, List.flatMap_append, ← List.append_assoc]
  exact Checks.bind h fun s' h' => next s' _ h'

end Reads

/-- Reading declarations one after the other. -/
def State.readAll (s : State) (ds : List Declaration) : State :=
  ds.foldl (fun s d => s.read d.depth) s

theorem State.Declares.readAll (h : s.Declares scope reads) (ds : List Declaration) :
    (s.readAll ds).Declares scope (reads ++ ds.map (·.depth)) := by
  induction ds generalizing s reads with
  | nil => simpa [State.readAll] using h
  | cons d rest ih =>
    have later := ih (h.read d.depth)
    rwa [List.append_assoc] at later

theorem reference_checks (h : s.Declares scope reads) {r : Reference} {x : Run State}
    (missing : r.declarations scope = [] → x = .failAt env.source r.span (.undefined r.missing))
    (found : r.declarations scope ≠ [] → x = .ok (s.readAll (r.declarations scope))) :
    Reads env scope reads [r] x := by
  rw [Reads, List.flatMap_singleton, List.flatMap_singleton, Reference.offences]
  by_cases none : r.declarations scope = []
  · rw [missing none, if_pos (List.isEmpty_iff.mpr none)]
    rfl
  · rw [found none, if_neg (mt List.isEmpty_iff.mp none)]
    exact .ok (h.readAll _)

theorem symbol_checks (h : s.Declares scope reads) (name : String) (span : Span) :
    Reads env scope reads [.symbol name span] (symbol env s name span) := by
  rw [symbol, h.depth?_eq]
  apply reference_checks h <;> rw [Reference.declarations] <;> cases scope.find? name
  · exact fun _ => rfl
  · exact fun unseen => absurd unseen (List.cons_ne_nil _ _)
  · exact fun shown => absurd rfl shown
  · exact fun _ => rfl

theorem calledName_checks (h : s.Declares scope reads) (name : Ident) :
    Reads env scope reads [.call name] (calledName env s name) := by
  rw [calledName, h.depth?_eq, h.depth?_eq]
  apply reference_checks h <;> rw [Reference.declarations] <;>
    cases scope.find? (tagSymbol name.name) <;> cases scope.find? (varSymbol name.name)
  any_goals exact fun _ => rfl
  case found.none.none => exact fun shown => absurd rfl shown
  all_goals exact fun unseen => absurd unseen (List.cons_ne_nil _ _)

mutual

theorem expr_checks : ∀ (e : Expr) (s : State) (reads : List Nat), s.Declares scope reads →
    Reads env scope reads e.references (expr env s e)
  | .literal .., _, _, h => .nil h
  | .var .., _, _, h => symbol_checks h _ _
  | .tagRef _, _, _, h => symbol_checks h _ _
  | .list items, s, reads, h => exprs_check items s reads h
  | .concat items, s, reads, h => exprs_check items s reads h
  | .not e, s, reads, h => expr_checks e s reads h
  | .filter receiver _ args, s, reads, h =>
    (expr_checks receiver s reads h).bind fun _ _ received =>
      (symbol_checks received _ _).bind fun _ _ named => exprs_check args _ _ named

theorem exprs_check : ∀ (es : List Expr) (s : State) (reads : List Nat), s.Declares scope reads →
    Reads env scope reads (Expr.allReferences es) (exprs env s es)
  | [], _, _, h => .nil h
  | e :: es, s, reads, h =>
    (expr_checks e s reads h).bind fun _ _ first => exprs_check es _ _ first

end

/-! ### Imports -/

theorem importItems_checks (path : String) (items : List Ident) (h : s.Declares scope reads) :
    Checks (importItems env path s items)
      (items.filterMap fun item =>
        failure? (locate env.source item.span (env.modules.symbol item.name path)))
      (·.Declares (scope ++ items.map fun item => (item.name, { depth := outsideDepth })) reads) := by
  induction items generalizing s scope with
  | nil => exact .ok (by simpa using h)
  | cons item rest ih =>
    have first : Checks (Run.ofExcept (locate env.source item.span
      (env.modules.symbol item.name path))) _ fun _ => True := .locate fun _ _ => trivial
    have all := first.bind fun _ _ => ih (h.push item.name { depth := outsideDepth })
    rw [List.append_assoc] at all
    rw [List.filterMap_cons]
    cases located : failure? (locate env.source item.span (env.modules.symbol item.name path)) <;>
      rwa [located] at all

/-! ### Blocks -/

section Walks

variable {depth : Nat} {after more : Declarations} {sites later : List Site}

/-- Resolving what stands at some sites gives their first error, or leaves what is declared after
them, counts what they read and gives a result. -/
def Walks (env : Env) (depth : Nat) (after : Declarations) (reads : List Nat) (sites : List Site)
    (result : α) (x : Run (State × α)) : Prop :=
  Checks x (sites.flatMap (·.offences env)) fun (s', found) =>
    s'.Declares after (reads ++ readsUpTo depth sites) ∧ found = result

namespace Walks

variable {result : α} {result' : β}

theorem ok (h : s.Declares after reads) : Walks env depth after reads [] result (.ok (s, result)) :=
  Checks.ok ⟨by simpa using h, rfl⟩

theorem bind {x : Run (State × α)} {k : State × α → Run (State × β)}
    (h : Walks env depth scope reads sites result x)
    (next : ∀ s' reads', s'.Declares scope reads' →
      Walks env depth after reads' later result' (k (s', result))) :
    Walks env depth after reads (sites ++ later) result' (x >>= k) := by
  rw [Walks, List.flatMap_append, readsUpTo_append, ← List.append_assoc]
  refine Checks.bind h fun (s', found) ⟨declares, same⟩ => ?_
  exact same ▸ next s' _ declares

/-- The body of a definition, whose reads are counted for itself. -/
theorem deeper {x : Run (State × α)} {k : State × α → Run (State × β)}
    (h : Walks env (depth + 1) scope [] sites result x)
    (next : ∀ s', s'.Declares scope (readsUpTo (depth + 1) sites) →
      Checks (k (s', result)) [] fun (s'', found) =>
        s''.Declares after (reads ++ readsUpTo depth sites) ∧ found = result') :
    Walks env depth after reads sites result' (x >>= k) :=
  Checks.bind_ok h fun (s', _) ⟨declares, same⟩ => same ▸ next s' declares

/-- A block that refers to nothing. -/
theorem only {b : Block} {x : Run (State × Block)} (references : b.references = [])
    (h : Checks x (b.importOffences env) fun (s', found) => s'.Declares after reads ∧ found = b) :
    Walks env depth after reads [⟨scope, depth, b⟩] b x := by
  simpa [Walks, Site.offences, references, readsUpTo, Site.reads] using h

/-- Cutting the stack back to where a list started. -/
theorem reset {outer : State} {before : List Nat} {k : State → Run (State × α)}
    (h : s.Declares (scope ++ more) reads) (h' : outer.Declares scope before)
    (next : ∀ s', s'.Declares scope reads → Walks env depth after reads sites result (k s')) :
    Walks env depth after reads sites result (s.reset outer.checkpoint >>= k) :=
  Checks.bind (h.reset h') next

/-- What a block itself refers to, and then the blocks in it. -/
theorem head {b : Block} {x : Run State} {k : State → Run (State × α)} (within : scope.Within depth)
    (imports : b.importOffences env = []) (h : Reads env scope reads b.references x)
    (next : ∀ s' reads', s'.Declares scope reads' →
      Walks env depth after reads' sites result (k s')) :
    Walks env depth after reads (⟨scope, depth, b⟩ :: sites) result (x >>= k) := by
  rw [Walks, Site.readsUpTo_cons within, List.flatMap_cons, Site.offences, imports, List.append_nil,
    ← List.append_assoc]
  exact Checks.bind h fun s' declares => next s' _ declares

end Walks

end Walks

mutual

theorem block_checks : ∀ (b : Block) (depth : Nat) (scope : Declarations) (s : State)
    (reads : List Nat), s.Declares scope reads → scope.Within depth →
    Walks env depth (scope ++ b.declares env.modules depth) reads
      (⟨scope, depth, b⟩ :: b.innerSites env.modules scope depth)
      (b.annotated env.modules scope depth) (block env depth s b)
  | .text parts layout, depth, scope, s, reads, h, within =>
    .head within rfl (exprs_check (partExprs parts) s reads h) fun s' reads' h' =>
      .ok (by simpa [Block.declares, Block.bound] using h')
  | .call name args body layout, depth, scope, s, reads, h, within => by
    have referred : Reads env scope reads (.call name :: Expr.allReferences (argExprs args)) _ :=
      (calledName_checks h name).bind fun s₁ reads₁ h₁ => exprs_check (argExprs args) s₁ reads₁ h₁
    rw [block, Block.innerSites, Block.annotated, ← bind_assoc]
    refine .head within rfl referred fun s₁ reads₁ h₁ => ?_
    rw [← List.append_nil (Block.allSites ..)]
    exact (blocks_check body depth scope s₁ reads₁ h₁ within).bind fun s₂ reads₂ h₂ =>
      .reset h₂ h₁ fun s₃ h₃ => .ok (by simpa [Block.declares, Block.bound] using h₃)
  | .embed e layout, depth, scope, s, reads, h, within =>
    .head within rfl (expr_checks e s reads h) fun s' reads' h' =>
      .ok (by simpa [Block.declares, Block.bound] using h')
  | .define signature body, depth, scope, s, reads, h, within => by
    rw [block, Block.innerSites, Block.annotated]
    refine .head within rfl (exprs_check _ s reads h) fun s₁ reads₁ h₁ => ?_
    have inner := h₁.enter signature (depth + 1)
    refine (blocks_check body (depth + 1) _ _ [] inner (within.inner signature)).deeper
      fun s₂ h₂ => ?_
    have counted := h₂.reads
    -- The stack is cut back to before the parameters, and the running minimum is that of the body
    -- until the one of the definition around it is put back.
    rw [List.append_assoc] at h₂
    refine (h₂.reset h₁).bind_ok fun s₃ h₃ => .ok ⟨?_, ?_⟩
    · have charged := (h₃.recount h₁.reads).charge depth (readsUpTo (depth + 1)
        (Block.allSites env.modules (scope ++ signature.declares (depth + 1)) (depth + 1) body))
      rw [readsUpTo_succ, ← counted] at charged
      exact charged.push _ { depth, definition := some signature }
    · rw [counted]
      rfl
  | .assign name e, depth, scope, s, reads, h, within =>
    .head within rfl (expr_checks e s reads h) fun s' reads' h' =>
      .ok (h'.push (varSymbol name.name) { depth })
  | .context names, depth, scope, s, reads, h, within =>
    .only rfl (.ok ⟨h.pushAll _ { depth := outsideDepth }, rfl⟩)
  | .importFrom path none span, depth, scope, s, reads, h, within => by
    refine .only rfl (.bind_ok (.locate fun symbols found => found) fun symbols found => ?_)
    have bound : (Block.importFrom path none span).bound env.modules = symbols.map (·.1) := by
      simp only [Block.bound, found, Except.toOption, Option.getD_some]
    rw [Block.declares, bound]
    exact .ok ⟨h.pushAll _ { depth := outsideDepth }, rfl⟩
  | .importFrom path (some items) span, depth, scope, s, reads, h, within =>
    .only rfl (.bind_ok (importItems_checks path items h) fun s' h' =>
      .ok ⟨by simpa [Block.declares, Block.bound, Block.declaration, Function.comp_def] using h',
        rfl⟩)
  | .branch condition thenBlocks elseBlocks, depth, scope, s, reads, h, within => by
    rw [block, Block.innerSites, Block.annotated]
    refine .head within rfl (expr_checks condition s reads h) fun s₁ reads₁ h₁ => ?_
    refine (blocks_check thenBlocks depth scope s₁ reads₁ h₁ within).bind fun s₂ reads₂ h₂ => ?_
    refine .reset h₂ h₁ fun s₃ h₃ => ?_
    rw [← List.append_nil (Block.allSites ..)]
    exact (blocks_check elseBlocks depth scope s₃ reads₂ h₃ within).bind fun s₄ reads₄ h₄ =>
      .reset h₄ h₃ fun s₅ h₅ => .ok (by simpa [Block.declares, Block.bound] using h₅)
  | .loop name items body, depth, scope, s, reads, h, within => by
    rw [block, Block.innerSites, Block.annotated]
    refine .head within rfl (expr_checks items s reads h) fun s₁ reads₁ h₁ => ?_
    have inner := h₁.push (varSymbol name.name) { depth }
    have deeper : (scope ++ loopDeclares depth name).Within depth :=
      within.append (.ofSymbols [varSymbol name.name])
    rw [← List.append_nil (Block.allSites ..)]
    refine (blocks_check body depth _ _ reads₁ inner deeper).bind fun s₂ reads₂ h₂ => ?_
    rw [List.append_assoc] at h₂
    exact .reset h₂ h₁ fun s₃ h₃ => .ok (by simpa [Block.declares, Block.bound] using h₃)

theorem blocks_check : ∀ (bs : List Block) (depth : Nat) (scope : Declarations) (s : State)
    (reads : List Nat), s.Declares scope reads → scope.Within depth →
    Walks env depth (scope ++ bs.flatMap (·.declares env.modules depth)) reads
      (Block.allSites env.modules scope depth bs) (Block.allAnnotated env.modules scope depth bs)
      (blocks env depth s bs)
  | [], depth, scope, s, reads, h, within => .ok (by simpa using h)
  | b :: bs, depth, scope, s, reads, h, within => by
    rw [blocks, Block.allSites, Block.allAnnotated, ← List.cons_append, List.flatMap_cons,
      ← List.append_assoc]
    refine (block_checks b depth scope s reads h within).bind fun s₁ reads₁ h₁ => ?_
    rw [← List.append_nil (Block.allSites ..)]
    exact (blocks_check bs depth _ s₁ reads₁ h₁ (within.append (.declares _ b))).bind
      fun s₂ reads₂ h₂ => .ok h₂

end

end Resolve

/-- Resolving a script on a stack is the same as reading off what is declared at its sites. -/
theorem Script.resolve_eq_resolveDeclared (modules : Modules) (script : Script) :
    script.resolve modules = script.resolveDeclared modules := by
  unfold resolve resolveDeclared
  cases modules.initialSymbols with
  | error e => rfl
  | ok symbols =>
    have empty : Resolve.State.Declares ⟨(Store.empty : Store Nat).newStack.1,
        (Store.empty : Store Nat).newStack.2, none⟩ [] [] :=
      ⟨⟨Store.wellFormed_empty.newStack, Nat.one_pos, nofun, rfl⟩, rfl, rfl, rfl⟩
    have start := empty.pushAll (symbols.map (·.1)) { depth := outsideDepth }
    simp only [lift_eq_ofExcept, ofExcept_ok, ok_bind]
    refine Checks.eq (Checks.bind_ok
      (Resolve.blocks_check script.blocks 1 _ _ [] start (.outside _ 1)) ?_)
    rintro ⟨s, blocks⟩ ⟨declares, rfl⟩
    exact .ok (congrArg _ declares.reads)

/-- Compiling agrees with declarative scoping. Without an error at any site, every definition has
the least depth that its body refers to, and so does the template. Otherwise the first error in the
order of the sites is reported. -/
theorem Engine.compile_declared (engine : Engine) (script : Script) :
    engine.compile script = Template.mk engine <$> script.resolveDeclared engine.modules := by
  rw [compile, script.resolve_eq_resolveDeclared]
  rfl

end MarkupTemplate
