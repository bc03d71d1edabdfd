import Mathlib.Data.List.Basic
import MarkupTemplate.Proofs.Layout.Plan
import MarkupTemplate.Proofs.Result

/-!
# Rendering is setting what is printed

A well-laid plan can be built, and its document is rendered as the plan is printed, with every line
behind its margin. Building makes indentations relative from the leaves up, and rendering adds them
up again in the same order; `Plan.build_renders` carries this through the tree.
-/

namespace MarkupTemplate

open Text

variable {κ : Type}

/-- A text inside a block as it stands before the block itself is indented. -/
def setWithin (margin : List Char) (text : List Marked) : String :=
  String.ofList (setFrom true (within margin text))

theorem setWithin_append {margin : List Char} (text : List Marked) {more : List Marked}
    (h : Inside margin more) :
    setWithin margin (text ++ more) = setWithin margin text ++ setWithin margin more := by
  rw [setWithin, within_append, setFrom_append h, String.ofList_append]
  rfl

theorem setWithin_mark (margin : List Char) (s : String) :
    setWithin margin (mark margin s.toList) = s := by
  rw [setWithin, setFrom_mark, String.ofList_toList]

theorem setWithin_newline (margin : List Char) (text : List Marked) :
    setWithin margin (('\n', margin) :: text) = "\n" ++ setWithin margin text := by
  simp [setWithin, within, setFrom]

theorem unmarked_within (margin : List Char) (text : List Marked) :
    unmarked (within margin text) = unmarked text := by
  simp [unmarked, within, Function.comp_def]

theorem oneLine_within {margin : List Char} {text : List Marked} (h : Inside margin text) :
    ∀ entry ∈ within margin text, '\n' ∉ entry.2 := by
  intro entry member newline
  obtain ⟨inner, inside, rfl⟩ := List.mem_map.mp member
  exact h.oneLine inner inside (List.mem_of_mem_drop newline)

/-- Setting a body does not change whether the closing tag goes on a line of its own. -/
theorem closing_setWithin (tag : MarkupTag) {margin : List Char} {text : List Marked}
    (h : Inside margin text) :
    tag.closing (setWithin margin text).toList = tag.closing (unmarked text) := by
  have starts := head?_setFrom true (oneLine_within h)
  have ends := getLast?_setFrom true (within margin text)
  rw [unmarked_within] at starts ends
  simp only [MarkupTag.closing, closingBreak, setWithin, String.toList_ofList, ends,
    Bool.and_eq_true, beq_iff_eq, starts]

/-! ### Tags -/

namespace PlanHead

variable {head : PlanHead κ} {margin : List Char} {nodes : List (Node κ)}

theorem printTag_inside (oneLine : '\n' ∉ margin) {body text : List Marked} (h : Inside margin body)
    (printed : head.printTag margin body = .ok text) : Inside margin text := by
  unfold printTag at printed
  split at printed
  · exact Except.ok.inj printed ▸ h
  · obtain ⟨opening, -, printed⟩ := bind_eq_ok.mp printed
    split at printed
    · exact Except.ok.inj printed ▸ .mark oneLine _
    · exact Except.ok.inj printed ▸ ((Inside.mark oneLine _).append h).append (.mark oneLine _)

theorem print_inside (oneLine : '\n' ∉ margin) {body text : List Marked} (h : Inside margin body)
    (printed : head.print margin body = .ok text) : Inside margin text := by
  obtain ⟨tagged, around, printed⟩ := bind_eq_ok.mp printed
  have inside := printTag_inside oneLine h around
  obtain rfl := Except.ok.inj printed
  split
  · exact (Inside.mark oneLine ['\n']).append inside
  · exact inside

section Write

variable [Host] [Shows κ]

/-- A tag writes a body that is set as it prints the body. -/
theorem write_ok {body : List Marked} (h : Inside margin body) (oneLine : '\n' ∉ margin)
    (empty : ∀ tag ∈ head.tag, tag.isVoid → nodes = [] ∧ body = []) :
    head.toHead.write nodes (.ok (setWithin margin body)) =
      setWithin margin <$> head.printTag margin body := by
  cases found : head.tag with
  | none => simp only [Head.write, toHead, printTag, found, Option.map_none, map_ok]
  | some tag =>
    have empty := empty tag found
    have none : (tag.isVoid && !nodes.isEmpty) = false := by
      cases void : tag.isVoid with
      | false => rfl
      | true => simp [(empty void).1]
    have blank : (tag.isVoid && !(TagBody.text (setWithin margin body) : TagBody κ).isEmpty) = false := by
      cases void : tag.isVoid with
      | false => rfl
      | true => rw [(empty void).2]; rfl
    simp only [Head.write, toHead, printTag, found, Option.map_some, MarkupTag.toTag, Tag.markup, none,
      Tag.expand, writeMarkup, blank, ok_bind, TagBody.render, MarkupTag.opening, Bool.false_eq_true,
      if_false, if_true]
    cases writeAllPositional tag.name head.positional with
    | error e => rfl
    | ok positional =>
      cases writeAllNamed tag.dialect head.named with
      | error e => rfl
      | ok named =>
        simp only [ok_bind]
        cases tag.isVoid with
        | true =>
          simp only [if_true, map_ok, setWithin_mark]
          cases tag.dialect <;> rfl
        | false =>
          simp only [Bool.false_eq_true, if_false, map_ok]
          rw [setWithin_append _ (.mark oneLine _), setWithin_append _ h, setWithin_mark,
            setWithin_mark, ← closing_setWithin tag h]
          simp only [MarkupTag.closing, String.ofList_toList, String.append_assoc]

theorem write_error (empty : ∀ tag ∈ head.tag, tag.isVoid → nodes = []) (e : Error) :
    head.toHead.write nodes (.error e) = .error e := by
  cases found : head.tag with
  | none => simp only [Head.write, toHead, found, Option.map_none]
  | some tag =>
    have none : (tag.isVoid && !nodes.isEmpty) = false := by
      cases void : tag.isVoid with
      | false => rfl
      | true => simp [empty tag found void]
    simp only [Head.write, toHead, found, Option.map_some, MarkupTag.toTag, Tag.markup, none,
      Bool.false_eq_true, if_false, if_true, error_bind]

/-- Before it is indented, an element is laid out as it is printed. -/
theorem layOut_write {body : List Marked} (h : Inside margin body) (oneLine : '\n' ∉ margin)
    (empty : ∀ tag ∈ head.tag, tag.isVoid → nodes = [] ∧ body = []) :
    (head.toHead.write nodes (.ok (setWithin margin body)) >>= layOut head.outline none) =
      setWithin margin <$> head.print margin body := by
  rw [write_ok h oneLine empty, print]
  cases head.printTag margin body with
  | error e => rfl
  | ok text =>
    simp only [map_ok, ok_bind, layOut]
    cases head.outline
    · rfl
    · rw [if_pos rfl, if_pos rfl, setWithin_newline]

end Write

@[simp] theorem toHead_outline : head.toHead.outline = head.outline := rfl

/-- The element of a planned head takes its body as it is: a tag without one gets none. -/
theorem ofHead_toHead (indent : Option Indent) (body : List (Node κ))
    (empty : ∀ tag ∈ head.tag, tag.isVoid → body = []) :
    Node.ofHead head.toHead indent body = Node.ofHead.build head.toHead indent body := by
  cases found : head.tag with
  | none => simp only [Node.ofHead, toHead, found, Option.map_none]
  | some tag =>
    have refused : (tag.isVoid && !body.isEmpty) = false := by
      cases void : tag.isVoid with
      | false => rfl
      | true => rw [empty tag found void]; rfl
    simp only [Node.ofHead, toHead, found, Option.map_some, MarkupTag.toTag, Tag.markup, refused,
      Bool.false_eq_true, if_false]

end PlanHead

/-! ### Indentation -/

/-- Indenting a set text by what its block adds to an outer one sets it in the outer one. -/
theorem indentLines_setWithin {outer indent : List Char} {text : List Marked}
    (h : Inside (outer ++ indent) text) :
    String.ofList (indentLines indent (setWithin (outer ++ indent) text).toList) =
      setWithin outer text := by
  rw [indentLines, setWithin, setWithin, String.toList_ofList,
    indentFrom_setFrom indent true (oneLine_within h), within_outer h]

/-- A relative indentation goes in front of the lines of an element that stands in its place. -/
theorem bind_layOut_relative (outline : Bool) (indent : String) (text : Except Error String) :
    (text >>= layOut outline (some (.relative indent))) =
      (fun s => String.ofList (indentLines indent.toList s.toList)) <$>
        (text >>= layOut outline none) := by
  cases text <;> rfl

namespace Plan

/-- What a deeper indentation consists of. -/
theorem Deepens.split {parent indent : String} {margin : List Char} (deep : Deepens parent indent)
    (start : parent.toList = '\n' :: margin) :
    ∃ added, indent.toList = '\n' :: (margin ++ added) ∧ '\n' ∉ margin ++ added ∧
      extension? parent indent = some (String.ofList added) := by
  obtain ⟨added, same⟩ := deep.extend
  have whole : indent.toList = '\n' :: (margin ++ added) := by rw [← same, start, List.cons_append]
  refine ⟨added, whole, fun newline => ?_, ?_⟩
  · have blank := deep.blank '\n' (by rwa [whole, List.tail_cons])
    revert blank
    decide
  · rw [extension?, stripLead?_eq_some_iff.mpr same.symm, Option.map_some]

variable [Host] [Shows κ]

/-- A plan can be built into a node, this node demoted below the indentation of its parent, and the
result is rendered as the plan is printed, before its parent is indented. -/
structure Renders (parent : String) (margin : List Char) (plan : Plan κ) (node placed : Node κ) :
    Prop where
  built : plan.build = .ok node
  demoted : node.demote parent = (placed, none)
  rendered : placed.render = setWithin margin <$> plan.print margin
  inside : ∀ text, plan.print margin = .ok text → Inside margin text

structure AllRender (parent : String) (margin : List Char) (plans : List (Plan κ))
    (nodes placed : List (Node κ)) : Prop where
  built : buildAll plans = .ok nodes
  demoted : Node.demoteList parent nodes = (placed, none)
  rendered : Node.renderList placed = setWithin margin <$> printAll margin plans
  inside : ∀ text, printAll margin plans = .ok text → Inside margin text
  empty : plans = [] → nodes = [] ∧ placed = []

variable {parent : String} {margin : List Char} {head : PlanHead κ} {plans : List (Plan κ)}
  {nodes placed : List (Node κ)}

theorem Renders.text (oneLine : '\n' ∉ margin) (s : String) :
    Renders parent margin (.text s : Plan κ) (.text s) (.text s) where
  built := rfl
  demoted := rfl
  rendered := by rw [print, map_ok, setWithin_mark]; rfl
  inside _ printed := Except.ok.inj printed ▸ .mark oneLine _

theorem AllRender.nil : AllRender parent margin ([] : List (Plan κ)) [] [] where
  built := rfl
  demoted := rfl
  rendered := rfl
  inside _ printed := Except.ok.inj printed ▸ .nil margin
  empty _ := ⟨rfl, rfl⟩

theorem AllRender.cons {plan : Plan κ} {node there : Node κ}
    (first : Renders parent margin plan node there)
    (rest : AllRender parent margin plans nodes placed) :
    AllRender parent margin (plan :: plans) (node :: nodes) (there :: placed) where
  built := by rw [buildAll, first.built, ok_bind, rest.built, ok_bind]
  demoted := by simp only [Node.demoteList, first.demoted, rest.demoted]
  rendered := by
    rw [Node.renderList, first.rendered, rest.rendered, printAll]
    cases plan.print margin with
    | error e => rfl
    | ok text =>
      cases printed : printAll margin plans with
      | error e => rfl
      | ok more => simp only [map_ok, ok_bind, setWithin_append text (rest.inside more printed)]
  inside _ printed := by
    obtain ⟨text, here, printed⟩ := bind_eq_ok.mp printed
    obtain ⟨more, later, printed⟩ := bind_eq_ok.mp printed
    exact Except.ok.inj printed ▸ (first.inside text here).append (rest.inside more later)
  empty := nofun

theorem AllRender.print_inside (oneLine : '\n' ∉ margin)
    (body : AllRender parent margin plans nodes placed) {text : List Marked}
    (printed : printAll margin plans >>= head.print margin = .ok text) : Inside margin text := by
  obtain ⟨inner, there, printed⟩ := bind_eq_ok.mp printed
  exact head.print_inside oneLine (body.inside inner there) printed

/-- Before it is indented, an element is rendered as it is printed. -/
theorem AllRender.layOut_write (oneLine : '\n' ∉ margin)
    (body : AllRender parent margin plans nodes placed)
    (empty : ∀ tag ∈ head.tag, tag.isVoid → plans = []) :
    (head.toHead.write placed (Node.renderList placed) >>= layOut head.outline none) =
      setWithin margin <$> (printAll margin plans >>= head.print margin) := by
  rw [body.rendered]
  cases there : printAll margin plans with
  | error e =>
    have none := fun tag found void => (body.empty (empty tag found void)).2
    rw [map_error, head.write_error none, error_bind, error_bind, map_error]
  | ok inner =>
    have none : ∀ tag ∈ head.tag, tag.isVoid → placed = [] ∧ inner = [] := by
      intro tag found void
      rw [empty tag found void] at there body
      exact ⟨(body.empty rfl).2, (Except.ok.inj there).symm⟩
    exact head.layOut_write (body.inside inner there) oneLine none

theorem Renders.element (oneLine : '\n' ∉ margin)
    (body : AllRender parent margin plans nodes placed)
    (empty : ∀ tag ∈ head.tag, tag.isVoid → plans = []) :
    Renders parent margin (.element head none plans) (.element head.toHead none nodes)
      (.element head.toHead none placed) where
  built := by
    have none := fun tag found void => (body.empty (empty tag found void)).1
    rw [build, body.built, ok_bind, Option.map_none, head.ofHead_toHead _ _ none]
    rfl
  demoted := by simp only [Node.demote, body.demoted]
  rendered := body.layOut_write oneLine empty
  inside _ := body.print_inside oneLine

theorem Renders.indented {indent : String} {added : List Char}
    (start : indent.toList = '\n' :: (margin ++ added)) (oneLine : '\n' ∉ margin ++ added)
    (extension : extension? parent indent = some (String.ofList added))
    (outlined : head.outline = true)
    (body : AllRender indent (margin ++ added) plans nodes placed)
    (empty : ∀ tag ∈ head.tag, tag.isVoid → plans = []) :
    Renders parent margin (.element head (some indent) plans)
      (.element head.toHead (some (.absolute indent)) placed)
      (.element head.toHead (some (.relative (String.ofList added))) placed) := by
  have print : print margin (.element head (some indent) plans) =
      printAll (margin ++ added) plans >>= head.print (margin ++ added) := by
    rw [print, Option.map_some, Option.getD_some, start, List.tail_cons]
  refine ⟨?_, ?_, ?_, ?_⟩
  · have none := fun tag found void => (body.empty (empty tag found void)).1
    rw [build, body.built, ok_bind, Option.map_some, head.ofHead_toHead _ _ none]
    simp [Node.ofHead.build, Node.place, start, body.demoted]
  · simp only [Node.demote, extension]
  · have there := body.layOut_write oneLine empty
    rw [Node.render, print, bind_layOut_relative, String.toList_ofList, PlanHead.toHead_outline, there]
    cases whole : printAll (margin ++ added) plans >>= head.print (margin ++ added) with
    | error e => rfl
    | ok text => simp only [map_ok, indentLines_setWithin (body.print_inside oneLine whole)]
  · intro text whole
    rw [print] at whole
    refine (body.print_inside oneLine whole).outdent (List.prefix_append _ _) ?_
    obtain ⟨inner, -, whole⟩ := bind_eq_ok.mp whole
    obtain ⟨tagged, -, whole⟩ := bind_eq_ok.mp whole
    rw [← Except.ok.inj whole, outlined]
    rfl

/-! ### Plans -/

mutual

theorem build_renders {parent : String} {margin : List Char}
    (start : parent.toList = '\n' :: margin) (oneLine : '\n' ∉ margin) :
    ∀ plan : Plan κ, plan.WellLaid parent → ∃ node placed, Renders parent margin plan node placed
  | .text s, _ => ⟨_, _, .text oneLine s⟩
  | .element _ none body, ⟨empty, laid⟩ =>
    have ⟨_, _, body⟩ := buildAll_renders start oneLine body laid
    ⟨_, _, .element oneLine body empty⟩
  | .element _ (some _) body, ⟨empty, outlined, deep, laid⟩ =>
    have ⟨_, inner, innerLine, extension⟩ := deep.split start
    have ⟨_, _, body⟩ := buildAll_renders inner innerLine body laid
    ⟨_, _, .indented inner innerLine extension outlined body empty⟩

theorem buildAll_renders {parent : String} {margin : List Char}
    (start : parent.toList = '\n' :: margin) (oneLine : '\n' ∉ margin) :
    ∀ plans : List (Plan κ), AllWellLaid parent plans →
      ∃ nodes placed, AllRender parent margin plans nodes placed
  | [], _ => ⟨_, _, .nil⟩
  | plan :: plans, ⟨laid, rest⟩ =>
    have ⟨_, _, first⟩ := build_renders start oneLine plan laid
    have ⟨_, _, rest⟩ := buildAll_renders start oneLine plans rest
    ⟨_, _, .cons first rest⟩

end

/-- The document of a well-laid plan is rendered as the plan is printed and set. -/
theorem document_renders {plans : List (Plan κ)} (laid : AllWellLaid "\n" plans) :
    ∃ d, document plans = .ok d ∧
      d.render = (fun text => withoutLeadingNewline (String.ofList (setLines text))) <$>
        printAll [] plans := by
  have start : "\n".toList = '\n' :: [] := rfl
  obtain ⟨nodes, placed, renders⟩ := buildAll_renders start nofun plans laid
  refine ⟨⟨placed⟩, ?_, ?_⟩
  · rw [document, renders.built, ok_bind, Document.ofNodes, demoteAll, renders.demoted, map_ok]
  · rw [Document.render, renders.rendered]
    cases printAll [] plans with
    | error e => rfl
    | ok text => simp only [map_ok, setWithin, within_nil, setLines]

/-- A well-laid plan can be built, with and without its indentation. Without it the document is
rendered as the plan is printed; with it each line that is not empty goes behind the margin of its
first character. One is rendered if and only if the other is. -/
theorem render_layout {plans : List (Plan κ)} (laid : AllWellLaid "\n" plans) :
    ∃ d bare, document plans = .ok d ∧ document (bareAll plans) = .ok bare ∧
      bare.render = (fun text => withoutLeadingNewline (String.ofList (unmarked text))) <$>
        printAll [] plans ∧
      d.render = (fun text => withoutLeadingNewline (String.ofList (setLines text))) <$>
        printAll [] plans := by
  obtain ⟨d, built, rendered⟩ := document_renders laid
  obtain ⟨bare, bareBuilt, bareRendered⟩ := document_renders (allWellLaid_bareAll laid)
  refine ⟨d, bare, built, bareBuilt, ?_, rendered⟩
  rw [bareRendered, printAll_bareAll []]
  cases printAll [] plans with
  | error e => rfl
  | ok text =>
    have same := setFrom_mark [] true (unmarked text)
    rw [within_nil] at same
    simp only [map_ok, setLines, Text.bare, same]

/-- An item in a division, with an empty line before it and a text on its line. -/
def nestedItem : List (Plan Empty) :=
  [.text "A",
    .element { tag := some ⟨.standard .html, "div", false, .html⟩, outline := true } (some "\n  ")
      [.element {} none
        [.text "x\n\ny",
          .element { tag := some ⟨.standard .html, "li", false, .html⟩, outline := true }
            (some "\n  \t") [.text "b"]],
        .text "z"]]

omit [Host] in
theorem render_layout_nestedItem :
    letI := Host.bare
    AllWellLaid "\n" nestedItem ∧
      ∃ d bare, document nestedItem = .ok d ∧ document (bareAll nestedItem) = .ok bare ∧
        bare.render = .ok "A\n<div>x\n\ny\n<li>b</li>z</div>" ∧
        d.render = .ok "A\n  <div>x\n\n  y\n  \t<li>b</li>z</div>" := by
  let := Host.bare
  have division : Deepens "\n" "\n  " :=
    ⟨by cbv, by simp [Text.isIndentChar], ⟨"  ".toList, by cbv⟩⟩
  have item : Deepens "\n  " "\n  \t" :=
    ⟨by cbv, by simp [Text.isIndentChar], ⟨"\t".toList, by cbv⟩⟩
  have laid : AllWellLaid "\n" nestedItem := by
    simp [nestedItem, AllWellLaid, WellLaid, division, item]
  obtain ⟨d, bare, built, bareBuilt, bareRendered, rendered⟩ := render_layout laid
  exact ⟨laid, d, bare, built, bareBuilt, bareRendered.trans rfl, rendered.trans rfl⟩

end Plan

end MarkupTemplate
