import Mathlib.Data.List.TakeDrop
import MarkupTemplate.Document.Content
import MarkupTemplate.Document.Render
import MarkupTemplate.Proofs.Replace.Value
import MarkupTemplate.Script.Call

/-!
# Replacing the closures of nodes

Placing and rendering nodes does not look into the closures that stand in their attributes.
-/

namespace MarkupTemplate

variable {κ μ ν : Type}

def Head.mapClosures (f : κ → μ) (head : Head (Value κ)) : Head (Value μ) :=
  ⟨head.tag, head.positional.map (Value.mapClosures f),
    head.named.map (Prod.map id (Value.mapClosures f)), head.outline⟩

variable (f : κ → μ)

namespace Node

@[simp] theorem mapClosures_text (s : String) : (Node.text s : Node κ).mapClosures f = .text s :=
  rfl

@[simp] theorem mapClosures_root (body : List (Node κ)) :
    (Node.root body).mapClosures f = .root (body.map (mapClosures f)) := by
  simp [mapClosures]

@[simp] theorem mapClosures_element (head : Head (Value κ)) (indent : Option Indent)
    (body : List (Node κ)) :
    (Node.element head indent body).mapClosures f =
      .element (head.mapClosures f) indent (body.map (mapClosures f)) := by
  simp [mapClosures, Head.mapClosures]

@[simp] theorem isOutline_mapClosures (n : Node κ) : (n.mapClosures f).isOutline = n.isOutline := by
  cases n <;> simp [isOutline, Head.mapClosures]

end Node

@[simp] theorem Value.mapClosures_nodes (ns : List (Node κ)) :
    (Value.nodes ns).mapClosures f = .nodes (ns.map (Node.mapClosures f)) := by
  simp [Value.mapClosures]

@[simp] theorem Value.mapClosures_list (vs : List (Value κ)) :
    (Value.list vs).mapClosures f = .list (vs.map (Value.mapClosures f)) := by
  simp [Value.mapClosures]

/-! ### Nodes in values -/

mutual

theorem Value.flatten_mapClosures :
    ∀ v : Value κ, (v.mapClosures f).flatten = List.map (Node.mapClosures f) <$> v.flatten
  | .list items => by simp [Value.flatten, Value.flattenList_map items]
  | .nodes ns => by simp [Value.flatten]
  | .none | .bool _ | .integer _ | .float _ | .string _ | .map _ | .tag _ | .closure _
  | .function _ => by simp [Value.mapClosures, Value.flatten, Value.kind]

theorem Value.flattenList_map :
    ∀ vs : List (Value κ), Value.flattenList (vs.map (Value.mapClosures f)) =
      List.map (Node.mapClosures f) <$> Value.flattenList vs
  | [] => rfl
  | v :: vs => by
    simp [Value.flattenList, Value.flatten_mapClosures v, Value.flattenList_map vs, map_bind]

end

/-! ### Placing -/

mutual

theorem Node.demote_mapClosures (parent : String) :
    ∀ n : Node κ, (n.mapClosures f).demote parent =
      Prod.map (Node.mapClosures f) id (n.demote parent)
  | .text _ => rfl
  | .root body => by simp [Node.demote]
  | .element head none body => by simp [Node.demote, Node.demoteList_map parent body]
  | .element head (some (.absolute indent)) body => by
    simp only [Node.mapClosures_element, Node.demote]
    cases extension? parent indent <;> simp
  | .element head (some (.relative indent)) body => by simp [Node.demote]

theorem Node.demoteList_map (parent : String) :
    ∀ ns : List (Node κ), Node.demoteList parent (ns.map (Node.mapClosures f)) =
      Prod.map (List.map (Node.mapClosures f)) id (Node.demoteList parent ns)
  | [] => rfl
  | n :: ns => by
    simp only [List.map_cons, Node.demoteList, Node.demote_mapClosures parent n,
      Node.demoteList_map parent ns]
    rcases n.demote parent with ⟨n', _ | error⟩ <;> simp [Prod.map]

end

theorem demoteAll_map (parent : String) (ns : List (Node κ)) :
    demoteAll parent (ns.map (Node.mapClosures f)) =
      List.map (Node.mapClosures f) <$> demoteAll parent ns := by
  simp only [demoteAll, Node.demoteList_map]
  rcases Node.demoteList parent ns with ⟨ns', _ | error⟩ <;> rfl

mutual

theorem Node.anchor_mapClosures (base : String) :
    ∀ n : Node κ, (n.mapClosures f).anchor base = (n.anchor base).mapClosures f
  | .text _ => rfl
  | .root body => by simp [Node.anchor]
  | .element head none body => by simp [Node.anchor, Node.anchorList_map base body]
  | .element head (some (.absolute indent)) body => by simp [Node.anchor]
  | .element head (some (.relative indent)) body => by simp [Node.anchor]

theorem Node.anchorList_map (base : String) :
    ∀ ns : List (Node κ), Node.anchorList base (ns.map (Node.mapClosures f)) =
      (Node.anchorList base ns).map (Node.mapClosures f)
  | [] => rfl
  | n :: ns => by
    simp [Node.anchorList, Node.anchor_mapClosures base n, Node.anchorList_map base ns]

end

namespace Node

theorem place_mapClosures (indent : String) (n : Node κ) :
    place indent (n.mapClosures f) = Prod.map (mapClosures f) id (place indent n) := by
  cases n with
  | text s => rfl
  | root body => simp [place]
  | element head before body =>
    simp only [mapClosures_element, place, demoteList_map]
    split
    · rcases demoteList indent body with ⟨body', _ | error⟩ <;> simp [Prod.map]
    · simp

theorem build_mapClosures (head : Head (Value κ)) (indent : Option Indent) (body : List (Node κ)) :
    ofHead.build (head.mapClosures f) indent (body.map (mapClosures f)) =
      mapClosures f <$> ofHead.build head indent body := by
  unfold ofHead.build
  split
  · next indent =>
    rw [← mapClosures_element, place_mapClosures]
    rcases place indent (.element head none body) with ⟨n, _ | error⟩ <;> rfl
  · simp

theorem ofHead_mapClosures (head : Head (Value κ)) (indent : Option Indent)
    (body : List (Node κ)) :
    ofHead (head.mapClosures f) indent (body.map (mapClosures f)) =
      mapClosures f <$> ofHead head indent body := by
  have same : (head.mapClosures f).tag = head.tag := rfl
  unfold ofHead
  rw [same, build_mapClosures]
  split
  · simp only [List.isEmpty_map, apply_ite (mapClosures f <$> ·), map_fail]
  · rfl

theorem group_map (outline : Bool) (indent : Option Indent) (body : List (Node κ)) :
    group outline indent (body.map (mapClosures f)) =
      mapClosures f <$> group outline indent body :=
  ofHead_mapClosures f { outline } indent body

mutual

theorem base?_mapClosures : ∀ n : Node κ, (n.mapClosures f).base? = n.base?
  | .text _ => rfl
  | .root body => by simp [base?, baseOf?_map body]
  | .element head none body => by simp [base?, baseOf?_map body]
  | .element head (some (.absolute indent)) body => by simp [base?]
  | .element head (some (.relative indent)) body => by simp [base?]

theorem baseOf?_map : ∀ ns : List (Node κ), baseOf? (ns.map (mapClosures f)) = baseOf? ns
  | [] => rfl
  | n :: ns => by simp [baseOf?, base?_mapClosures n, baseOf?_map ns]

end

end Node

theorem span_map (ns : List (Node κ)) :
    (ns.map (Node.mapClosures f)).span (!·.isOutline) =
      Prod.map (List.map (Node.mapClosures f)) (List.map (Node.mapClosures f))
        (ns.span (!·.isOutline)) := by
  simp [List.span_eq_takeWhile_dropWhile, List.takeWhile_map, List.dropWhile_map, Function.comp_def]

theorem startLine_map (indent : Option String) (ns : List (Node κ)) :
    startLine indent (ns.map (Node.mapClosures f)) =
      List.map (Node.mapClosures f) <$> startLine indent ns := by
  cases indent with
  | none => rfl
  | some indent =>
    simp only [startLine, span_map]
    cases ns.span (!·.isOutline) with
    | mk inline rest =>
      cases inline with
      | nil => rfl
      | cons n inline =>
        simp only [Prod.map, List.map_cons]
        rw [← List.map_cons, Node.group_map]
        simp [map_bind, bind_map_left]

/-! ### Documents -/

def Document.mapClosures (d : Document κ) : Document μ := ⟨d.body.map (Node.mapClosures f)⟩

theorem Document.ofNodes_map (ns : List (Node κ)) :
    Document.ofNodes (ns.map (Node.mapClosures f)) =
      Document.mapClosures f <$> Document.ofNodes ns := by
  simp only [Document.ofNodes, demoteAll_map]
  cases demoteAll "\n" ns <;> rfl

theorem Document.mapClosures_id (d : Document κ) : d.mapClosures id = d := by
  rw [mapClosures, ← Node.mapClosuresList_eq, Node.mapClosuresList_id]

theorem Document.mapClosures_mapClosures (g : μ → ν) (d : Document κ) :
    (d.mapClosures f).mapClosures g = d.mapClosures fun c => g (f c) := by
  simp [Document.mapClosures, Node.mapClosures_mapClosures]

/-! ### Rendering -/

@[simp] theorem writePositional_mapClosures (tag : String) (v : Value κ) :
    writePositional tag (v.mapClosures f) = writePositional tag v := by
  rcases v with _ | (_ | _) | _ | _ | _ | _ | _ | _ | _ | _ | _ <;>
    simp [writePositional, Value.mapClosures, attributeText, Value.text, Value.scalarText?,
      Value.kind]

@[simp] theorem writeNamed_mapClosures (dialect : Dialect) (name : String) (v : Value κ) :
    writeNamed dialect name (v.mapClosures f) = writeNamed dialect name v := by
  rcases v with _ | (_ | _) | _ | _ | _ | _ | _ | _ | _ | _ | _ <;>
    simp [writeNamed, Value.mapClosures, attributeText, Value.text, Value.scalarText?, Value.kind]

@[simp] theorem writeAllPositional_map (tag : String) (vs : List (Value κ)) :
    writeAllPositional tag (vs.map (Value.mapClosures f)) = writeAllPositional tag vs := by
  induction vs with
  | nil => rfl
  | cons v vs ih => simp [writeAllPositional, ih]

@[simp] theorem writeAllNamed_map (dialect : Dialect) (entries : List (String × Value κ)) :
    writeAllNamed dialect (entries.map (Prod.map id (Value.mapClosures f))) =
      writeAllNamed dialect entries := by
  induction entries with
  | nil => rfl
  | cons entry rest ih => simp [writeAllNamed, ih]

@[simp] theorem TagBody.isEmpty_mapClosures (body : TagBody κ) :
    (body.mapClosures f).isEmpty = body.isEmpty := by
  cases body <;> simp [mapClosures, isEmpty]

@[simp] theorem TagBody.render_mapClosures (body : TagBody κ) :
    (body.mapClosures f).render = body.render := by
  cases body <;> rfl

section Render

variable {f} [Host] [Shows κ] [Shows μ]

theorem Tag.expand_map (unseen : Host.Unseen f) (tag : Tag) (body : TagBody κ)
    (positional : List (Value κ)) (named : List (String × Value κ)) :
    tag.expand (body.mapClosures f) (positional.map (Value.mapClosures f))
      (named.map (Prod.map id (Value.mapClosures f))) = tag.expand body positional named := by
  unfold Tag.expand
  split
  · simp [writeMarkup]
  · rw [List.map_map, List.map_map]
    exact unseen.expand _ body positional named

theorem Head.write_mapClosures (unseen : Host.Unseen f) (head : Head (Value κ))
    (body : List (Node κ)) (rendered : Except Error String) :
    (head.mapClosures f).write (body.map (Node.mapClosures f)) rendered =
      head.write body rendered := by
  have text (tag : Tag) (s : String) := Tag.expand_map unseen tag (.text s)
  have nodes (tag : Tag) := Tag.expand_map unseen tag (.nodes body rendered)
  simp only [TagBody.mapClosures, Node.mapClosuresList_eq] at text nodes
  simp [Head.write, Head.mapClosures, text, nodes]

mutual

theorem Node.render_mapClosures (unseen : Host.Unseen f) :
    ∀ n : Node κ, (n.mapClosures f).render = n.render
  | .text _ => rfl
  | .root body => by simp [Node.render, Node.renderList_map unseen body]
  | .element head indent body => by
    have same : (head.mapClosures f).outline = head.outline := rfl
    simp [Node.render, Node.renderList_map unseen body, Head.write_mapClosures unseen, same]

theorem Node.renderList_map (unseen : Host.Unseen f) :
    ∀ ns : List (Node κ), Node.renderList (ns.map (Node.mapClosures f)) = Node.renderList ns
  | [] => rfl
  | n :: ns => by
    simp [Node.renderList, Node.render_mapClosures unseen n, Node.renderList_map unseen ns]

end

end Render

end MarkupTemplate
