import MarkupTemplate.Proofs.Declared.Charges

/-!
# Depths that pass from one definition to another

A definition whose body uses another one is charged with the depth where that is declared. What the
other definition reads is passed on where its body is part of the first, up to the declarations
inside nested definitions.
-/

namespace MarkupTemplate

variable {m : Modules} {engine : Engine} {script : Script} {t : Template}

theorem exists_min?_le {reads : List Nat} {n : Nat} (member : n ∈ reads) :
    ∃ e, reads.min? = some e ∧ e ≤ n := by
  cases least : reads.min? with
  | none =>
    obtain rfl := List.min?_eq_none_iff.mp least
    cases member
  | some e => exact ⟨e, rfl, (List.min?_eq_some_iff.mp least).2 n member⟩

namespace Site

theorem mem_reads {site : Site} {r : Reference} {d : Declaration}
    (referred : r ∈ site.block.references) (resolved : d ∈ r.declarations site.scope) :
    d.depth ∈ site.reads :=
  List.mem_flatMap.mpr ⟨r, referred, List.mem_map_of_mem resolved⟩

/-- What is inside a site that is inside another is inside that as well. -/
theorem inner_trans {around within place : Site} (h : within ∈ around.inner m)
    (h' : place ∈ within.inner m) : place ∈ around.inner m := by
  rw [inner, Block.innerSites_eq] at h ⊢
  obtain ⟨list, there, member⟩ := List.mem_flatMap.mp h
  exact List.mem_flatMap.mpr ⟨list, there, (Stands.of_mem _ _ _ member).inner_subset h'⟩

/-- A definition is charged with everything that is referred to in it, up to its own depth. -/
theorem Charged.reads {around place : Site} (h : around.Charged m) {g : Signature}
    {body : List Block} (defines : around.block = .define g body) (inner : place ∈ around.inner m)
    {n : Nat} (read : n ∈ place.reads) (low : n ≤ around.depth + 1) :
    ∃ e, g.readDepth = some e ∧ e ≤ n := by
  rw [h g body defines]
  refine exists_min?_le (List.mem_filter.mpr ⟨?_, by simpa using low⟩)
  exact List.mem_flatMap.mpr ⟨place, inner, read⟩

/-- What a definition is charged with is referred to in it. -/
theorem Charged.read_of_readDepth {around : Site} (h : around.Charged m) {g : Signature}
    {body : List Block} (defines : around.block = .define g body) {n : Nat}
    (charged : g.readDepth = some n) : ∃ place ∈ around.inner m, n ∈ place.reads := by
  rw [h g body defines] at charged
  exact List.mem_flatMap.mp (List.mem_filter.mp (List.min?_mem charged)).1

end Site

namespace Template

/-- In the body of a definition, or of one nested in it, a name is called or taken as a value that
stands for another definition. The first is defined at one depth, the other is declared at another.
-/
def BodyUses (t : Template) (g : Signature) (outer : Nat) (f : Signature) (declared : Nat) : Prop :=
  ∃ around ∈ t.sites, around.depth = outer ∧ (∃ body, around.block = .define g body) ∧
    ∃ place ∈ around.inner t.engine.modules, ∃ r ∈ place.block.references,
      ∃ d ∈ r.declarations place.scope, d.definition = some f ∧ d.depth = declared

theorem sites_within {site : Site} (member : site ∈ t.sites) : site.scope.Within site.depth :=
  (Stands.of_mem _ _ _ member).within (.outside _ 1)

/-- A definition that is used in the body of another one, and declared deeper than that is defined,
is part of it. -/
theorem inner_of_deeper {around place : Site} {g f : Signature} {body : List Block}
    (member : around ∈ t.sites) (defines : around.block = .define g body)
    (inner : place ∈ around.inner t.engine.modules) {r : Reference} {d : Declaration}
    (resolved : d ∈ r.declarations place.scope) (definition : d.definition = some f)
    (deeper : around.depth < d.depth) : ∃ within ∈ around.inner t.engine.modules,
      within.depth = d.depth ∧ ∃ body, within.block = .define f body := by
  obtain ⟨symbol, visible⟩ := Declarations.mem_of_reference resolved
  rw [Site.inner, defines] at inner ⊢
  rcases (Stands.of_mem _ _ _ inner).definition visible definition with start | within
  · rcases List.mem_append.mp start with outside | parameter
    · exact absurd (sites_within member _ outside) (Nat.not_le.mpr deeper)
    · obtain ⟨_, -, same⟩ := List.mem_map.mp parameter
      cases (Prod.mk.inj same).2
      cases definition
  · exact within

/-- What passes from a definition to one that uses it. The user is charged with the place where the
used one is declared, unless that is in a definition nested in the user. It reads no deeper than the
used one if that is declared directly in its body; or in a definition nested in it, and reads
something that is not; or outside, and reads nothing shallower than its own place. -/
theorem readDepth_passes (compiled : engine.compile script = .ok t) {g f : Signature}
    {outer declared : Nat} (uses : t.BodyUses g outer f declared) :
    (declared ≤ outer + 1 → ∃ e, g.readDepth = some e ∧ e ≤ declared) ∧
      ∀ n, f.readDepth = some n →
        declared = outer + 1 ∨ outer + 1 < declared ∧ n ≤ outer + 1 ∨
          declared ≤ outer ∧ declared ≤ n →
        ∃ e, g.readDepth = some e ∧ e ≤ n := by
  obtain ⟨around, member, rfl, ⟨body, defines⟩, place, inner, r, referred, d, resolved, definition,
    rfl⟩ := uses
  have charged := sites_charged compiled around member
  have direct : d.depth ≤ around.depth + 1 → ∃ e, g.readDepth = some e ∧ e ≤ d.depth :=
    charged.reads defines inner (Site.mem_reads referred resolved)
  -- What is read in a definition that is part of `g` is read in `g`.
  have nested : ∀ n, f.readDepth = some n → around.depth < d.depth → n ≤ around.depth + 1 →
      ∃ e, g.readDepth = some e ∧ e ≤ n := by
    intro n reads deeper low
    obtain ⟨within, there, -, _, defined⟩ :=
      inner_of_deeper member defines inner resolved definition deeper
    have standing := (Stands.of_mem _ _ _ member).inner_subset there
    obtain ⟨place', there', read⟩ :=
      (sites_charged compiled within standing).read_of_readDepth defined reads
    exact charged.reads defines (Site.inner_trans there there') read low
  refine ⟨direct, fun n reads place => ?_⟩
  rcases place with here | ⟨deeper, low⟩ | ⟨outside, high⟩
  · by_cases low : n ≤ around.depth + 1
    · exact nested n reads (by omega) low
    · obtain ⟨e, found, least⟩ := direct (Nat.le_of_eq here)
      exact ⟨e, found, by omega⟩
  · exact nested n reads (by omega) low
  · obtain ⟨e, found, least⟩ := direct (by omega)
    exact ⟨e, found, Nat.le_trans least high⟩

/-- A name that has just been defined is called. -/
theorem mem_declarations_call (scope : Declarations) (name : Ident) (d : Declaration) :
    d ∈ (Reference.call name).declarations (scope ++ [(tagSymbol name.name, d)]) := by
  refine List.mem_append_left _ (Option.mem_toList.mpr ?_)
  rw [Declarations.find?, lastBinding?_append, if_pos rfl]
  rfl

/-- A definition whose body defines and calls another one, which reads a variable of the top level.
-/
def nestedUse (f g : Option Nat) : List Block :=
  [.assign ⟨"x", {}⟩ (.literal (.integer 1) {}),
    .define ⟨⟨"g", {}⟩, [], none, g⟩
      [.define ⟨⟨"f", {}⟩, [], none, f⟩ [.embed (.var ⟨"x", {}⟩ []) {}],
        .call ⟨"f", {}⟩ [] [] {}]]

theorem readDepth_passes_nestedUse :
    let engine : Engine := { modules := .ofRegistry [], callLimit := 1 }
    let t : Template := ⟨engine, "", nestedUse (some 1) (some 1), some 1⟩
    let g : Signature := ⟨⟨"g", {}⟩, [], none, some 1⟩
    let f : Signature := ⟨⟨"f", {}⟩, [], none, some 1⟩
    engine.compile ⟨"", nestedUse none none⟩ = .ok t ∧ t.BodyUses g 1 f 2 ∧
      ∃ e, g.readDepth = some e ∧ e ≤ 1 := by
  intro engine t g f
  have compiled : engine.compile ⟨"", nestedUse none none⟩ = .ok t := by
    rw [Engine.compile, Script.resolve_eq_resolveDeclared]
    rfl
  have uses : t.BodyUses g 1 f 2 :=
    ⟨_, .tail _ (.head _), rfl, ⟨_, rfl⟩, _, .tail _ (.tail _ (.head _)), _, .head _, ⟨2, some f⟩,
      mem_declarations_call _ _ _, rfl, rfl⟩
  exact ⟨compiled, uses, (readDepth_passes compiled uses).2 1 rfl (.inl rfl)⟩

/-- A definition two levels inside another one, which reads its own parameter. -/
def privateUse (f h : Option Nat) : List Block :=
  [.define ⟨⟨"g", {}⟩, [], none, none⟩
    [.define ⟨⟨"h", {}⟩, [], none, h⟩
      [.define ⟨⟨"f", {}⟩, [⟨⟨"a", {}⟩, none⟩], none, f⟩ [.embed (.var ⟨"a", {}⟩ []) {}],
        .call ⟨"f", {}⟩ [.positional (.literal (.integer 1) {})] [] {}]]]

/-- A definition that calls another one, which calls a tag from outside. -/
def outsideUse (f g : Option Nat) : List Block :=
  [.define ⟨⟨"f", {}⟩, [], none, f⟩ [.call ⟨"p", {}⟩ [] [] {}],
    .define ⟨⟨"g", {}⟩, [], none, g⟩ [.call ⟨"f", {}⟩ [] [] {}]]

/-- Depths do not pass on in general. The outermost definition is not charged with what nested ones
declare inside, and a definition is charged with the place where another one is declared, not with
what that reads in turn. -/
theorem readDepth_stops :
    let modules : Modules := .ofRegistry [("p", .markup (.standard .html) "p" false .html)]
    let engine : Engine := { modules, callLimit := 1 }
    let inside : Template := ⟨engine, "", privateUse (some 4) (some 3), none⟩
    let outside : Template := ⟨engine, "", outsideUse (some 0) (some 1), some 0⟩
    let g (reads : Option Nat) : Signature := ⟨⟨"g", {}⟩, [], none, reads⟩
    let f : Signature := ⟨⟨"f", {}⟩, [⟨⟨"a", {}⟩, none⟩], none, some 4⟩
    let f' : Signature := ⟨⟨"f", {}⟩, [], none, some 0⟩
    (engine.compile ⟨"", privateUse none none⟩ = .ok inside ∧ inside.BodyUses (g none) 1 f 3 ∧
      ¬ ∃ e, (g none).readDepth = some e ∧ e ≤ 4) ∧
    engine.compile ⟨"", outsideUse none none⟩ = .ok outside ∧
      outside.BodyUses (g (some 1)) 1 f' 1 ∧ ¬ ∃ e, (g (some 1)).readDepth = some e ∧ e ≤ 0 := by
  intro modules engine inside outside g f f'
  have compiled : engine.compile ⟨"", privateUse none none⟩ = .ok inside := by
    rw [Engine.compile, Script.resolve_eq_resolveDeclared]
    rfl
  have compiled' : engine.compile ⟨"", outsideUse none none⟩ = .ok outside := by
    rw [Engine.compile, Script.resolve_eq_resolveDeclared]
    rfl
  refine ⟨⟨compiled, ?_, by simp [g]⟩, compiled', ?_, by simp [g]⟩
  · exact ⟨_, .head _, rfl, ⟨_, rfl⟩, _, .tail _ (.tail _ (.tail _ (.head _))), _, .head _,
      ⟨3, some f⟩, mem_declarations_call _ _ _, rfl, rfl⟩
  · have called := mem_declarations_call modules.outside ⟨"f", {}⟩ ⟨1, some f'⟩
    rw [← List.append_nil (_ ++ _)] at called
    exact ⟨_, .tail _ (.tail _ (.head _)), rfl, ⟨_, rfl⟩, _, .head _, _, .head _, _, called, rfl,
      rfl⟩

end Template

end MarkupTemplate
