import MarkupTemplate.Proofs.Indentation.Interpolation
import MarkupTemplate.Proofs.Markup.Entities
import MarkupTemplate.Value.Formatter

/-!
# Escaped values in texts

The escaping formatter writes what the plain one does with entities for all that means something in markup. A
text block can take delimiters from nowhere else than from the text of its writer: `textBlock_escaped`.
-/

namespace MarkupTemplate

open Text

variable {κ : Type}

/-! ### Numbers -/

def isNumeral (c : Char) : Bool := c.isDigit || ['-', '.', 'N', 'a', 'i', 'n', 'f'].contains c

theorem isNumeral_toString (n : Nat) : ∀ c ∈ (toString n).toList, isNumeral c = true := by
  intro c member
  rw [Nat.toString_eq_repr, Nat.toList_repr] at member
  rw [isNumeral, Nat.isDigit_of_mem_toDigits (by decide) (by decide) member, Bool.true_or]

theorem isNumeral_toString_int (i : Int) : ∀ c ∈ (toString i).toList, isNumeral c = true := by
  cases i with
  | ofNat n => exact isNumeral_toString n
  | negSucc n =>
    have written : toString (Int.negSucc n) = "-" ++ toString (n + 1) := rfl
    rw [written, String.toList_append]
    exact List.forall_mem_append.mpr ⟨by simp [isNumeral], isNumeral_toString _⟩

namespace Decimal

theorem isNumeral_sign (negative : Bool) {text : String} (h : ∀ c ∈ text.toList, isNumeral c = true) :
    ∀ c ∈ (sign negative text).toList, isNumeral c = true := by
  cases negative with
  | false => exact h
  | true =>
    rw [sign, if_pos rfl, String.toList_append]
    exact List.forall_mem_append.mpr ⟨by simp [isNumeral], h⟩

theorem isNumeral_positional (d : Decimal) : ∀ c ∈ (positional d).toList, isNumeral c = true := by
  have digits := isNumeral_toString d.digits
  have zeros (n : Nat) : ∀ c ∈ List.replicate n '0', isNumeral c = true := by
    intro c member
    rw [List.eq_of_mem_replicate member]
    rfl
  unfold positional
  dsimp only
  split
  · rw [String.toList_ofList]
    exact List.forall_mem_append.mpr ⟨digits, zeros _⟩
  · split
    · rw [String.toList_ofList]
      refine List.forall_mem_append.mpr ⟨fun c member => digits c (List.mem_of_mem_take member), ?_⟩
      exact List.forall_mem_cons.mpr ⟨rfl, fun c member => digits c (List.mem_of_mem_drop member)⟩
    · rw [String.toList_ofList]
      refine List.forall_mem_append.mpr ⟨List.forall_mem_cons.mpr ⟨rfl, ?_⟩, digits⟩
      exact List.forall_mem_cons.mpr ⟨rfl, zeros _⟩

theorem isNumeral_write (x : Float) : ∀ c ∈ (write x).toList, isNumeral c = true := by
  unfold write
  split
  · simp [isNumeral]
  · exact isNumeral_sign _ (by simp [isNumeral])
  · exact isNumeral_sign _ (by simp [isNumeral])
  · exact isNumeral_sign _ (isNumeral_positional _)

end Decimal

theorem not_mem_of_isNumeral {c : Char} (numeral : isNumeral c = true) : c ∉ '&' :: delimiters := by
  intro special
  rw [List.mem_cons, mem_delimiters] at special
  rcases special with rfl | rfl | rfl | rfl | rfl <;> cases numeral

/-- Nothing in the text of a scalar has a meaning, if it is no string. -/
theorem scalarText?_plain {v : Value κ} {t : String} (written : v.scalarText? = some t)
    (other : v.kind ≠ .string) : ∀ c ∈ t.toList, c ∉ '&' :: delimiters := by
  cases v with
  | string s => exact absurd rfl other
  | none =>
    obtain rfl := Option.some.inj written
    exact nofun
  | bool b =>
    obtain rfl := Option.some.inj written
    cases b <;> simp [delimiters]
  | integer i =>
    obtain rfl := Option.some.inj written
    exact fun c member => not_mem_of_isNumeral (isNumeral_toString_int _ c member)
  | float x =>
    obtain rfl := Option.some.inj written
    exact fun c member => not_mem_of_isNumeral (Decimal.isNumeral_write x c member)
  | _ => cases written

namespace Formatter

/-- What the escaping formatter writes is what the plain one does, escaped; both refuse the same values with
the same message. -/
theorem escaped_eq (v : Value Shown) :
    escaped v = (fun t => String.ofList (escapeMarkup t.toList)) <$> plain v := by
  by_cases string : v.kind = .string
  · cases v with
    | string s => rfl
    | _ => cases string
  · have same : escaped v = plain v := by
      cases v with
      | string s => exact absurd rfl string
      | _ => rfl
    rw [same, plain]
    cases written : v.scalarText? with
    | none => rfl
    | some t =>
      have plain := escapeMarkup_eq_self (scalarText?_plain written string)
      rw [map_ok, plain, String.ofList_toList]

theorem not_mem_delimiters_of_escaped {v : Value Shown} {t : String} (written : escaped v = .ok t) :
    ∀ c ∈ t.toList, c ∉ delimiters := by
  rw [escaped_eq] at written
  obtain ⟨_, -, rfl⟩ := map_eq_ok.mp written
  intro c member
  rw [String.toList_ofList] at member
  exact not_mem_delimiters_of_mem_escapeMarkup member

theorem escaped_string_injective {s s' : String}
    (same : escaped (.string s) = escaped (.string s')) : s = s' := by
  have same := String.ofList_injective (Except.ok.inj same)
  exact String.toList_inj.mp (escapeMarkup_injective same)

end Formatter

/-! ### Texts -/

namespace Translate

open Scoping

section Parts

variable {σ κ μ : Type} [Host] [Defined κ] [Scoping σ κ μ] {env : Env} {s : σ} {parts : List Part}

theorem interpolated_of_writeParts {text : String} (written : writeParts env s parts = .ok text)
    {e : Expr} (member : .expr e ∈ parts) : ∃ string, interpolated env s e = .ok string := by
  induction parts generalizing text with
  | nil => cases member
  | cons part parts ih =>
    cases part with
    | raw raw =>
      obtain ⟨rest, written, -⟩ := map_eq_ok.mp written
      cases member with
      | tail _ member => exact ih written member
    | expr e' =>
      obtain ⟨v, value, written⟩ := bind_eq_ok.mp written
      obtain ⟨string, here, written⟩ := bind_eq_ok.mp written
      obtain ⟨rest, written, -⟩ := map_eq_ok.mp written
      cases member with
      | head => exact ⟨string.toList, bind_eq_ok.mpr ⟨v, value, map_eq_ok.mpr ⟨string, here, rfl⟩⟩⟩
      | tail _ member => exact ih written member

theorem not_mem_delimiters_of_interpolated (escaping : env.formatter = .escaped) {e : Expr}
    (other : ∀ ns, eval env s e ≠ .ok (.nodes ns)) {string : List Char}
    (written : interpolated env s e = .ok string) : ∀ c ∈ string, c ∉ delimiters := by
  obtain ⟨v, value, written⟩ := bind_eq_ok.mp written
  obtain ⟨text, done, rfl⟩ := map_eq_ok.mp written
  have outside : formatted env e.span v.shown = .ok text := by
    cases v with
    | nodes ns => exact absurd value (other ns)
    | _ => exact done
  rw [formatted, escaping] at outside
  cases escaped : Formatter.escaped v.shown with
  | error message =>
    rw [escaped] at outside
    cases outside
  | ok string =>
    rw [escaped] at outside
    obtain rfl := Except.ok.inj outside
    exact Formatter.not_mem_delimiters_of_escaped escaped

omit [Host] in
/-- What is left of a text is left from its raw parts if nothing is left of its strings. -/
theorem filter_fill {p : Char → Bool} {strings : Expr → List Char}
    (dropped : ∀ e, .expr e ∈ parts → (strings e).filter p = []) :
    (Text.fill strings (holed parts)).filter p =
      (Text.fill (fun _ => []) (holed parts)).filter p := by
  rw [Text.fill, Text.fill, List.filter_flatMap, List.filter_flatMap]
  refine List.flatMap_congr fun glyph member => ?_
  cases glyph with
  | char c => rfl
  | hole e => exact dropped e (hole_mem_holed.mp member)

end Parts

variable {κ : Type} [Host] [Closing κ] {env : Env} {call : Caller (State κ) κ} {depth : Nat}
  {s s' : State κ} {layout : Layout} {parts : List Part} {nodes : List (Node κ)}

/-- The delimiters in the text of a block are those of its raw parts, in their order. -/
theorem delimiters_of_textBlock (escaping : env.formatter = .escaped)
    (other : ∀ e, .expr e ∈ parts → ∀ ns, eval env s e ≠ .ok (.nodes ns))
    (done : block env call depth s (.text parts layout) = .ok (s', nodes)) :
    ∃ written : String, nodes = [textAt (s.placeFor layout) written] ∧
      written.toList.filter (· ∈ delimiters) =
        (Text.fill (fun _ => []) (holed parts)).filter (· ∈ delimiters) := by
  have ran := done
  rw [block] at ran
  obtain ⟨_, ran⟩ := ran_of_indented ran
  rw [text, lift_eq_ofExcept] at ran
  obtain ⟨_, parted, -⟩ := bind_eq_ok.mp ran
  choose! strings formatted using fun e member =>
    interpolated_of_writeParts (ofExcept_eq_ok.mp parted) (e := e) member
  -- Indentation is not read by expressions.
  have formatted : ∀ e, .expr e ∈ parts → interpolated env s e = .ok (strings e) := formatted
  have dropped : ∀ e, .expr e ∈ parts → (strings e).filter (· ∈ delimiters) = [] := by
    intro e member
    have plain := not_mem_delimiters_of_interpolated escaping (other e member) (formatted e member)
    exact List.filter_eq_nil_iff.mpr (by simpa using plain)
  have visible : ∀ c, isIndentChar c = true → decide (c ∈ delimiters) = false := by
    intro c blank
    rw [decide_eq_false_iff_not, mem_delimiters]
    intro special
    rcases special with rfl | rfl | rfl | rfl <;> cases blank
  refine ⟨_, nodes_of_textBlock formatted done, ?_⟩
  rw [String.toList_ofList, filter_outdentTail visible, filter_fill dropped]

/-- The escaping formatter refuses what the plain one refuses and writes the same texts escaped. What it
writes for a string has no delimiter, has ampersands only in front of entities, and tells the string. So no
delimiter in the text of a block comes from anywhere but its raw parts, if no value in it is made of
nodes. -/
theorem textBlock_escaped (call : Caller (State κ) κ) :
    (∀ v, Formatter.escaped v =
      (fun t : String => String.ofList (escapeMarkup t.toList)) <$> Formatter.plain v) ∧
    (∀ string : String, ∃ t : String, Formatter.escaped (.string string) = .ok t ∧
      (∀ c ∈ t.toList, c ∉ delimiters) ∧
      (∀ before after, t.toList = before ++ '&' :: after → ∃ entity ∈ entities, entity <+: '&' :: after) ∧
      unescapeMarkup t.toList = string.toList) ∧
    (∀ string other : String,
      Formatter.escaped (.string string) = Formatter.escaped (.string other) → string = other) ∧
    ∀ env depth s parts layout s' nodes, env.formatter = .escaped →
      (∀ e, .expr e ∈ parts → ∀ ns, eval env s e ≠ .ok (.nodes ns)) →
      block env call depth s (.text parts layout) = .ok (s', nodes) →
      ∃ written : String, nodes = [textAt (s.placeFor layout) written] ∧
        written.toList.filter (· ∈ delimiters) =
          (Text.fill (fun _ => []) (holed parts)).filter (· ∈ delimiters) := by
  refine ⟨Formatter.escaped_eq, fun string => ?_, fun _ _ => Formatter.escaped_string_injective, ?_⟩
  · have written : Formatter.escaped (.string string) =
        .ok (String.ofList (escapeMarkup string.toList)) := rfl
    refine ⟨_, written, Formatter.not_mem_delimiters_of_escaped written, fun before after => ?_, ?_⟩
    · rw [String.toList_ofList]
      exact entity_of_ampersand
    · rw [String.toList_ofList, unescapeMarkup_escapeMarkup]
  · intro env depth s parts layout s' nodes escaping other done
    exact delimiters_of_textBlock escaping other done

omit [Host] in
/-- An element around a variable, with the same element in the variable. -/
theorem textBlock_escaped_element :
    letI := Host.bare
    let parts := [.raw "<b>", .expr (.var ⟨"x", {}⟩ []), .raw "</b>"]
    let env : Env := ⟨"", .ofRegistry [], .escaped, []⟩
    let element := "<b>&lt;b&gt;&amp;&lt;/b&gt;</b>"
    env.formatter = .escaped ∧
    (∀ e, .expr e ∈ parts → ∀ ns, eval env (holding "<b>&</b>") e ≠ .ok (.nodes ns)) ∧
    (∀ call : Caller (State Closure) Closure, block env call 1 (holding "<b>&</b>") (.text parts {}) =
      .ok (holding "<b>&</b>", [.text element])) ∧
    element.toList.filter (· ∈ delimiters) = ['<', '>', '<', '>'] := by
  let := Host.bare
  intro parts env element
  have value : ∀ e, .expr e ∈ parts → eval env (holding "<b>&</b>") e = .ok (.string "<b>&</b>") := by
    intro e member
    obtain rfl : e = .var ⟨"x", {}⟩ [] := by simpa [parts] using member
    exact eval_holding env _
  have strings : ∀ e, .expr e ∈ parts → ∀ ns, eval env (holding "<b>&</b>") e ≠ .ok (.nodes ns) := by
    intro e member ns
    rw [value e member]
    intro same
    cases same
  have formatted : ∀ e, .expr e ∈ parts →
      interpolated env (holding "<b>&</b>") e = .ok "&lt;b&gt;&amp;&lt;/b&gt;".toList := by
    intro e member
    rw [interpolated, value e member]
    rfl
  have done (call : Caller (State Closure) Closure) :
      block env call 1 (holding "<b>&</b>") (.text parts {}) =
        .ok (holding "<b>&</b>", [.text element]) := by
    refine textBlock_returns formatted rfl fun c member => ?_
    exact absurd member List.not_mem_nil
  obtain ⟨-, -, -, raw⟩ := textBlock_escaped (κ := Closure) fun _ _ _ => .error .callDepth
  obtain ⟨written, made, kept⟩ := raw _ _ _ _ _ _ _ rfl strings (done _)
  obtain rfl : element = written := by simpa [textAt, State.placeFor] using made
  exact ⟨rfl, strings, done, kept⟩

end Translate

end MarkupTemplate
