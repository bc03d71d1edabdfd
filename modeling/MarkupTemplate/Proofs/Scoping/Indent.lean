import Mathlib.Data.List.Induction
import MarkupTemplate.Script.Translate

/-!
# The indentation of a state

The indentation of a state is never empty. Cutting it to its own length changes nothing, and taking a
character away undoes adding one.
-/

namespace MarkupTemplate

namespace Text

theorem byteLength_toList (s : String) : byteLength s.toList = s.utf8ByteSize := by
  have chars : ∀ cs : List Char, byteLength cs = (String.ofList cs).utf8ByteSize := by
    intro cs
    induction cs with
    | nil => rfl
    | cons c cs ih =>
      rw [← List.singleton_append, String.ofList_append, String.utf8ByteSize_append, ← ih]
      simp [byteLength]
  rw [chars, String.ofList_toList]

theorem splitAtByte?_byteLength (text : List Char) :
    splitAtByte? text (byteLength text) = some (text, []) := by
  simpa using splitAtByte?_append text []

/-- Nothing but the text itself starts with it and is no longer. -/
theorem eq_of_lead {lead text : List Char} (h : lead <+: text)
    (size : byteLength text ≤ byteLength lead) : lead = text := by
  obtain ⟨rest, rfl⟩ := h
  cases rest with
  | nil => simp
  | cons c cs =>
    have positive := c.utf8Size_pos
    rw [byteLength_append, byteLength_cons] at size
    omega

end Text

theorem utf8ByteSize_pos {s : String} (h : s ≠ "") : 0 < s.utf8ByteSize := by
  have := mt String.utf8ByteSize_eq_zero_iff.mp h
  omega

/-- Taking the last character away undoes adding one. -/
theorem dropLast_push (s : String) (c : Char) :
    String.ofList (s.push c).toList.dropLast = s := by
  simp

theorem push_utf8ByteSize {s : String} (h : s ≠ "") (c : Char) : 1 < (s.push c).utf8ByteSize := by
  have := utf8ByteSize_pos h
  have := c.utf8Size_pos
  rw [String.utf8ByteSize_push]
  omega

/-- Going back to a position of the same indentation only pops. -/
theorem Scope.Stack.reset_eq_ok {α : Type} {σ : Store α} {s : Stack} {c : Checkpoint}
    (nonempty : s.indent ≠ "") (indent : c.indentLength = s.indent.utf8ByteSize)
    (own : s.trunkLength σ ≤ c.length) (below : c.length ≤ s.length σ) :
    s.reset c σ = .ok (σ.modify s.level (.popMany (s.length σ - c.length)), s) := by
  have positive := utf8ByteSize_pos nonempty
  rw [reset, if_neg, if_neg, indent, ← Text.byteLength_toList, Text.splitAtByte?_byteLength]
  · simp only [String.ofList_toList]
  · simp only [Bool.or_eq_true, decide_eq_true_eq, beq_iff_eq]
    omega
  · simp only [Bool.or_eq_true, decide_eq_true_eq]
    omega

theorem Scope.withNewline_eq {indent : String} (newline : indent.toList.head? = some '\n') :
    withNewline indent = indent := by
  unfold withNewline
  split
  · rfl
  · next other =>
    cases chars : indent.toList with
    | nil => simp [chars] at newline
    | cons c cs =>
      rw [chars, List.head?_cons, Option.some.injEq] at newline
      exact absurd (newline ▸ chars) (other cs)

theorem Scope.head?_withNewline (indent : String) :
    (withNewline indent).toList.head? = some '\n' := by
  unfold withNewline
  split
  · next start => rw [start, List.head?_cons]
  · simp

theorem ne_of_newline {indent : String} (newline : indent.toList.head? = some '\n') :
    indent ≠ "" := by
  rintro rfl
  cases newline

theorem Scope.withNewline_ne (indent : String) : withNewline indent ≠ "" :=
  ne_of_newline (head?_withNewline indent)

namespace Translate

variable {σ κ μ : Type} [Scoping σ κ μ] {w : String → σ}

/-- Extending the indentation by some characters, given how one state looks with any indentation. -/
theorem indentBy_all
    (indentBy : ∀ indent c, Scoping.indentBy c (w indent) = w (indent.push c))
    (indent : String) (cs : List Char) :
    cs.foldl (fun s c => Scoping.indentBy c s) (w indent) =
      w (indent ++ String.ofList cs) := by
  induction cs generalizing indent with
  | nil => simp
  | cons c cs ih =>
    have longer : indent.push c ++ String.ofList cs = indent ++ String.ofList (c :: cs) := by
      apply String.ext
      simp
    rw [List.foldl_cons, indentBy, ih, longer]

/-- Taking as many characters away again. -/
theorem dedentBy_all
    (dedent : ∀ indent c, indent ≠ "" →
      Scoping.dedent (w (indent.push c)) = .ok (w indent))
    {indent : String} (nonempty : indent ≠ "") (cs : List Char) :
    dedentBy cs.length (w (indent ++ String.ofList cs)) = .ok (w indent) := by
  induction cs using List.reverseRecOn with
  | nil => simp [dedentBy]
  | append_singleton cs c ih =>
    have pushed : indent ++ String.ofList (cs ++ [c]) = (indent ++ String.ofList cs).push c := by
      apply String.ext
      simp
    have longer : indent ++ String.ofList cs ≠ "" := by
      intro empty
      exact nonempty (by simpa using congrArg String.toList empty : _ ∧ _).1
    rw [List.length_append, List.length_singleton, dedentBy, pushed, dedent _ c longer]
    exact ih

end Translate

end MarkupTemplate
