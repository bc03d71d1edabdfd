import MarkupTemplate.Proofs.Indentation.Filling
import MarkupTemplate.Proofs.Placement.Retrying
import MarkupTemplate.Proofs.Placement.State

/-!
# Interpolated values in texts

A text block is outdented with the strings of its expressions in place, so lines of these strings are
measured and cut like its own. `textBlock_outdented` says when that makes no difference to a text that is
outdented with holes for its expressions.
-/

namespace MarkupTemplate

namespace Translate

open Scoping Text

section Parts

variable {σ κ μ : Type} [Host] [Defined κ] [Scoping σ κ μ]

/-- What an expression in a text is written as. -/
def interpolated (env : Env) (s : σ) (e : Expr) : Except Error (List Char) := do
  let v ← eval env s e
  String.toList <$> formatValue env e.span v

/-- The text that parts stand for, with a hole for every expression. -/
def holed (parts : List Part) : List (Glyph Expr) :=
  parts.flatMap fun
    | .raw text => text.toList.map .char
    | .expr e => [.hole e]

omit [Host] in
theorem hole_mem_holed {parts : List Part} {e : Expr} :
    .hole e ∈ holed parts ↔ .expr e ∈ parts := by
  constructor
  · intro member
    obtain ⟨part, inside, found⟩ := List.mem_flatMap.mp member
    cases part with
    | raw text =>
      obtain ⟨_, -, same⟩ := List.mem_map.mp found
      cases same
    | expr e' =>
      obtain ⟨rfl⟩ := List.mem_singleton.mp found
      exact inside
  · intro member
    exact List.mem_flatMap.mpr ⟨_, member, List.mem_singleton.mpr rfl⟩

/-- What is written is the text of the parts with the strings of its expressions in it. -/
theorem writeParts_interpolated {env : Env} {s : σ} {parts : List Part} {strings : Expr → List Char}
    (formatted : ∀ e, .expr e ∈ parts → interpolated env s e = .ok (strings e)) :
    writeParts env s parts = .ok (String.ofList (fill strings (holed parts))) := by
  induction parts with
  | nil => rfl
  | cons part parts ih =>
    have rest := ih fun e member => formatted e (List.mem_cons_of_mem _ member)
    have split : holed ([part] ++ parts) = holed [part] ++ holed parts := List.flatMap_append
    rw [List.singleton_append] at split
    cases part with
    | raw text =>
      have here : holed [.raw text] = text.toList.map .char := List.flatMap_singleton _ _
      rw [writeParts, rest, map_ok, split, here, fill_append, fill_chars, String.ofList_append,
        String.ofList_toList]
    | expr e =>
      have here : holed [.expr e] = [.hole e] := rfl
      obtain ⟨v, value, written⟩ := bind_eq_ok.mp (formatted e List.mem_cons_self)
      obtain ⟨text, written, same⟩ := map_eq_ok.mp written
      rw [writeParts, value, ok_bind, written, ok_bind, rest, map_ok, split, here, fill_append,
        fill_hole, fill_nil, List.append_nil, String.ofList_append, ← same, String.ofList_toList]

end Parts

variable {κ : Type} [Host] [Closing κ] {env : Env} {call : Caller (State κ) κ} {depth : Nat}
  {s : State κ} {layout : Layout} {parts : List Part} {strings : Expr → List Char}

/-- The node of a text, on a line of its own or not. -/
def textAt (place : Option String) (text : String) : Node κ :=
  match place with
  | none => .text text
  | some indent => .element { outline := true } (some (.absolute indent)) [.text text]

omit [Host] [Closing κ] in
theorem group_text_eq_ok {indent text : String} {n : Node κ} :
    Node.group true (some (.absolute indent)) [.text text] = .ok n ↔
      indent.toList.head? = some '\n' ∧ textAt (some indent) text = n := by
  rw [Node.group_eq_ok]
  refine and_congr_right fun _ => ?_
  constructor
  · rintro ⟨_, ⟨⟩, rfl⟩
    rfl
  · rintro rfl
    exact ⟨[], .nil, rfl⟩

theorem text_eq_ok (formatted : ∀ e, .expr e ∈ parts → interpolated env s e = .ok (strings e))
    {place : Option String} {o : Output (State κ) κ} :
    text env s parts place = .ok o ↔
      (∀ indent ∈ place, indent.toList.head? = some '\n') ∧
      (s, [textAt place (String.ofList (outdentTail (fill strings (holed parts))))]) = o := by
  rw [text, writeParts_interpolated formatted, lift_eq_ofExcept, ofExcept_ok, ok_bind,
    String.toList_ofList]
  cases place with
  | none => simp [textAt]
  | some indent =>
    simp only [lift_eq_ofExcept, bind_eq_ok, ofExcept_eq_ok, group_text_eq_ok]
    simp

/-- The only node that a text block makes. -/
theorem nodes_of_textBlock
    (formatted : ∀ e, .expr e ∈ parts → interpolated env s e = .ok (strings e))
    {o : Output (State κ) κ} (done : block env call depth s (.text parts layout) = .ok o) :
    o.2 = [textAt (s.placeFor layout)
      (String.ofList (outdentTail (fill strings (holed parts))))] := by
  rw [block] at done
  obtain ⟨s', ran⟩ := ran_of_indented done
  -- The indentation is not read by expressions.
  have formatted : ∀ e, .expr e ∈ parts →
      interpolated env (s.openFor layout) e = .ok (strings e) := formatted
  obtain ⟨-, made⟩ := (text_eq_ok formatted).mp ran
  exact (congrArg Prod.snd made).symm

/-- A text block whose expressions can be written succeeds. -/
theorem textBlock_returns
    (formatted : ∀ e, .expr e ∈ parts → interpolated env s e = .ok (strings e))
    (newline : s.stack.indent.toList.head? = some '\n')
    (blank : ∀ c ∈ layout.indent.toList, isIndentChar c = true) :
    block env call depth s (.text parts layout) =
      .ok (s, [textAt (s.placeFor layout)
        (String.ofList (outdentTail (fill strings (holed parts))))]) := by
  have formatted : ∀ e, .expr e ∈ parts →
      interpolated env (s.openFor layout) e = .ok (strings e) := formatted
  have nonempty : s.stack.indent ≠ "" := by
    intro empty
    rw [empty] at newline
    cases newline
  rw [block]
  refine indented_eq_ok_of_ran ((text_eq_ok formatted).mpr ⟨?_, rfl⟩) blank nonempty
  intro indent placed
  unfold State.placeFor at placed
  split at placed
  · obtain rfl := Option.some.inj placed
    rw [String.toList_append, List.head?_append, newline]
    rfl
  · cases placed

/-- A text block is written as its parts with the strings of its expressions in them, outdented. This is
the text that is outdented before the strings are put into it if and only if they do not change what the
lines after the first share, and this is nothing or every line that starts inside a string is empty. So it
is if no string has a newline and those that stand first on a line after the first start visibly: then
what is around the strings does not depend on them. -/
theorem textBlock_outdented (call : Caller (State κ) κ) (depth : Nat) (layout : Layout)
    (formatted : ∀ e, .expr e ∈ parts → interpolated env s e = .ok (strings e)) :
    (∀ token, isIndentChar token = false → token ≠ '\n' →
      outdentTail (fill (fun _ => [token]) (holed parts)) =
        fill (fun _ => [token]) (outdentHoles (holed parts))) ∧
    ∃ written : String,
      (∀ s' nodes, block env call depth s (.text parts layout) = .ok (s', nodes) →
        nodes = [textAt (s.placeFor layout) written]) ∧
      (s.stack.indent.toList.head? = some '\n' →
        (∀ c ∈ layout.indent.toList, isIndentChar c = true) →
        block env call depth s (.text parts layout) =
          .ok (s, [textAt (s.placeFor layout) written])) ∧
      (written.toList = fill strings (outdentHoles (holed parts)) ↔
        tailIndent (fill strings (holed parts)) = holedIndent (holed parts) ∧
        (holedIndent (holed parts) = [] ∨
          ∀ line, (true, line) ∈ laterLines strings (holed parts) → line = [])) ∧
      ((∀ e, .expr e ∈ parts → '\n' ∉ strings e) →
        (∀ line ∈ (holedLines (holed parts)).tail, ∀ e ∈ leadingHole? line, StartsVisibly (strings e)) →
        written.toList = fill strings (outdentHoles (holed parts))) := by
  refine ⟨fun token visible oneLine => outdentTail_token visible oneLine _,
    String.ofList (outdentTail (fill strings (holed parts))), ?_, ?_, ?_, ?_⟩
  · exact fun s' nodes done => nodes_of_textBlock formatted done
  · exact textBlock_returns formatted
  · rw [String.toList_ofList]
    exact outdentTail_fill_iff strings _
  · intro oneLine visible
    rw [String.toList_ofList]
    exact outdentTail_fill (fun e member => oneLine e (hole_mem_holed.mp member)) visible

/-- A line, one that starts with a variable, and one that is indented. -/
def variableBetween : List Part :=
  [.raw "a\n ", .expr (.var ⟨"x", {}⟩ []), .raw "\n  b"]

/-- A state in which the variable holds a string. -/
def holding (v : String) : State Closure := push (varSymbol "x") (.string v) .start

def plainEnv : Env := ⟨"", .ofRegistry [], .plain, []⟩

theorem eval_holding (env : Env) (v : String) :
    eval env (holding v) (.var ⟨"x", {}⟩ []) = .ok (.string v) := by
  have found : find? (varSymbol "x") (holding v) = some (0, .string v) :=
    Scope.Stack.find?_push Nat.zero_lt_one _ _
  have bound : value? (holding v) (varSymbol "x") = some (.string v) := by rw [value?, found]; rfl
  simp only [eval, Expr.eval, valueOf, bound]
  rfl

theorem interpolated_of_mem_variableBetween {e : Expr} (member : .expr e ∈ variableBetween)
    {v : String} : interpolated plainEnv (holding v) e = .ok v.toList := by
  have known : e = .var ⟨"x", {}⟩ [] := by simpa [variableBetween] using member
  rw [known, interpolated, eval_holding]
  rfl

omit [Host] in
theorem textBlock_outdented_visible :
    letI := Host.bare
    (∀ e, .expr e ∈ variableBetween → interpolated plainEnv (holding "c\t") e = .ok "c\t".toList) ∧
    ∀ call, block plainEnv call 1 (holding "c\t") (.text variableBetween ⟨true, "\t"⟩) =
      .ok (holding "c\t", [.element { outline := true } (some (.absolute "\n\t"))
        [.text "a\nc\t\n b"]]) := by
  let := Host.bare
  have formatted : ∀ e, .expr e ∈ variableBetween →
      interpolated plainEnv (holding "c\t") e = .ok "c\t".toList :=
    fun _ member => interpolated_of_mem_variableBetween member
  refine ⟨formatted, fun call => ?_⟩
  obtain ⟨-, written, -, returns, -, unchanged⟩ :=
    textBlock_outdented call 1 ⟨true, "\t"⟩ formatted
  have outdented : fill (fun _ => "c\t".toList) (outdentHoles (holed variableBetween)) =
      "a\nc\t\n b".toList := rfl
  have same := unchanged (fun _ _ => by decide) fun _ _ _ _ => ⟨'c', rfl, by decide⟩
  obtain rfl : written = "a\nc\t\n b" := String.toList_inj.mp (same.trans outdented)
  have blank : ∀ c ∈ ['\t'], isIndentChar c = true := List.forall_mem_singleton.mpr rfl
  exact returns rfl blank

omit [Host] in
/-- Blanks that a string starts with are measured and cut, and the line after it loses more. -/
theorem textBlock_outdented_blanks :
    letI := Host.bare
    let call : Caller (State Closure) Closure := fun _ _ _ => .error .callDepth
    (∀ e, .expr e ∈ variableBetween → interpolated plainEnv (holding "  c") e = .ok "  c".toList) ∧
    block plainEnv call 1 (holding "c") (.text variableBetween {}) =
      .ok (holding "c", [.text "a\nc\n b"]) ∧
    block plainEnv call 1 (holding "  c") (.text variableBetween {}) =
      .ok (holding "  c", [.text "a\n c\nb"]) ∧
    fill (fun _ => "  c".toList) (outdentHoles (holed variableBetween)) = "a\n  c\n b".toList ∧
    ¬ ∀ written : String,
      block plainEnv call 1 (holding "  c") (.text variableBetween {}) =
        .ok (holding "  c", [.text written]) →
      written.toList = fill (fun _ => "  c".toList) (outdentHoles (holed variableBetween)) := by
  let := Host.bare
  intro call
  have newline (v : String) : (holding v).stack.indent = "\n" := rfl
  have block_holding (v : String) : block plainEnv call 1 (holding v) (.text variableBetween {}) =
      .ok (holding v, [textAt none
        (String.ofList (outdentTail (fill (fun _ => v.toList) (holed variableBetween))))]) :=
    textBlock_returns (fun _ member => interpolated_of_mem_variableBetween member)
      (by rw [newline]; rfl) (List.forall_mem_nil _)
  have cut : block plainEnv call 1 (holding "  c") (.text variableBetween {}) =
      .ok (holding "  c", [.text "a\n c\nb"]) := block_holding "  c"
  have outdented : fill (fun _ => "  c".toList) (outdentHoles (holed variableBetween)) =
      "a\n  c\n b".toList := rfl
  refine ⟨fun _ member => interpolated_of_mem_variableBetween member, block_holding "c", cut,
    outdented, ?_⟩
  intro unchanged
  have same := unchanged _ cut
  rw [outdented] at same
  exact absurd same (by decide)

end Translate

end MarkupTemplate
