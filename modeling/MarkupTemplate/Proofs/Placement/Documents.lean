import MarkupTemplate.Engine
import MarkupTemplate.Proofs.Placement.Reached
import MarkupTemplate.Proofs.Resolved.Registered
import MarkupTemplate.Proofs.Scoping.Refinement

/-!
# Translated documents

In a document that a template without nodes from outside is translated to, every node is in place: no
element is measured from the margin any more, and none has a body that its tag does not take. The same
holds of the nodes that texts write on the way.
-/

namespace MarkupTemplate

open Translate

theorem Modules.ofRegistry_nodeFree (r : Registry) :
    ∀ entry ∈ (ofRegistry r : Modules).modules, ∀ symbol ∈ entry.2, symbol.2.NodeFree := by
  intro entry only symbol member
  obtain rfl := List.mem_singleton.mp only
  rcases Dict.mem_insertAll member with none | listed
  · cases none
  · rcases List.mem_append.mp listed with tag | function
    · obtain ⟨⟨_, tag⟩, _, rfl⟩ := List.mem_map.mp tag
      rfl
    · obtain ⟨f, _, rfl⟩ := List.mem_map.mp function
      rfl

/-- Neither a literal of the template nor a value from outside holds nodes, and every layout is
allowed. -/
structure Template.NodeFree (allowed : Layout → Prop) (t : Template) (context : Dict (Value Empty)) :
    Prop where
  literals : Block.AllWrite Value.NodeFree allowed t.script.blocks
  context : ∀ entry ∈ context, entry.2.NodeFree
  modules : ∀ entry ∈ t.engine.modules.modules, ∀ symbol ∈ entry.2, symbol.2.NodeFree

namespace Template

section Hosted

variable [Host] {allowed : Layout → Prop} {t : Template} {context : Dict (Value Empty)}

/-- The stage in which a template starts with its symbols. -/
def start (t : Template) (symbols : Dict (Value Empty)) : Stage (State Closure) Closure :=
  .blocks t.engine.callLimit 1 (pushAll .start symbols) t.script.blocks

/-- Translating a template comes to a stage. -/
def ComesTo (t : Template) (context : Dict (Value Empty)) (stage : Stage (State Closure) Closure) :
    Prop :=
  ∃ symbols, t.engine.modules.initialSymbols = .ok symbols ∧
    Reaches (t.env context) (t.start symbols) stage

omit [Host] in
theorem NodeFree.env (free : t.NodeFree allowed context) : (t.env context).NodeFree :=
  ⟨free.context, free.modules⟩

variable [Host.KeepsSettled]

theorem ComesTo.clean {stage : Stage (State Closure) Closure} (comes : t.ComesTo context stage)
    (free : t.NodeFree allowed context) : stage.Clean allowed := by
  obtain ⟨symbols, found, reaches⟩ := comes
  have holds := free.env.publicSymbols found
  have start := (State.Keeps.start (Value.Clean allowed : Value Closure → Prop)).pushAll
    fun symbol member => Value.clean_lift (holds symbol member)
  exact reaches.clean free.env ⟨⟨"\n", start⟩, free.literals⟩

end Hosted

end Template

end MarkupTemplate
