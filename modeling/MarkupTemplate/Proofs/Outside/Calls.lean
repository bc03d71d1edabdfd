import MarkupTemplate.Proofs.Outside.Translation

/-!
# Calls that read nothing from outside

A closure that refers to nothing from outside expands to the same nodes in every world. So does a
script, from the symbols that every world starts with.
-/

namespace MarkupTemplate

namespace Translate

variable {ω : Type} [Host] {worlds : Worlds ω} {m : Modules} {provided : String → Prop}

theorem invoke_accord [Host.HandsOn] (alike : worlds.Alike m provided) {call : ω → Caller Lexical Capture}
    (answers : Answers m provided call) :
    Answers m provided fun w => invoke (worlds.env w) (call w) := by
  intro s c k closed hold
  cases closed with
  | @mk d bindings scope closed declared defaults within =>
    let t : JointState ω := ⟨bindings, Scope.withNewline k.indent⟩
    have captured : t.Fits m provided scope :=
      ⟨declared, closed, Scope.head?_withNewline k.indent⟩
    have entered (w : ω) : t.state w = ⟨valuesIn w bindings, Scope.withNewline k.indent⟩ := rfl
    -- Defaults are evaluated where the definition stands, in what it captured.
    refine JointState.reading.invoke_accord d.signature (fun _ => ⟨d.signature.readDepth, rfl⟩) hold
      entered (JointState.reading.defaultAgrees entered (captured.tells defaults)) fun t' bound => ?_
    exact blocks_accord alike answers d.body (d.depth + 1) _ t' (Nat.succ_pos d.depth)
      (captured.binds (Nat.succ_pos d.depth) bound) within

end Translate

end MarkupTemplate
