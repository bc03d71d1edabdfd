import MarkupTemplate.Proofs.Placement.Translation

/-!
# What a translation comes to

Every stage that a translation comes to is clean: its state keeps values whose nodes are in place, and
the body of a call stands at the place of the call.
-/

namespace MarkupTemplate

namespace Translate

variable {fits : Layout → Prop} {env : Env}

/-- The stage has a clean state, clean blocks and clean calls. -/
def Stage.Clean (fits : Layout → Prop) : Stage (State Closure) Closure → Prop
  | .blocks _ _ s bs =>
    (∃ indent, s.Keeps (Value.Clean fits) indent) ∧ Block.AllWrite Value.NodeFree fits bs
  | .text s parts => (∃ indent, s.Keeps (Value.Clean fits) indent) ∧
      Expr.AllWrite Value.NodeFree (Resolve.partExprs parts)
  | .call _ s c k | .entered _ s c k => (∃ indent, s.Keeps (Value.Clean fits) indent) ∧
      c.toDefinition.Writes Value.NodeFree fits ∧ k.Clean fits

theorem Setting.any (free : env.NodeFree) (fits : Layout → Prop) :
    Setting fits env (fun _ => True) fun _ => True :=
  ⟨free, ⟨fun _ _ => trivial, fun _ _ => trivial⟩, fun _ _ _ _ _ => trivial⟩

variable [Host]

theorem BindsFrom.any (env : Env) (stage : Stage (State Closure) Closure) :
    BindsFrom env (fun _ => True) stage := fun _ _ _ _ _ _ _ => trivial

variable [Host.KeepsSettled]

theorem Leads.clean (free : env.NodeFree) {stage stage' : Stage (State Closure) Closure}
    (leads : Leads env stage stage') (clean : stage.Clean fits) : stage'.Clean fits := by
  have setting := Setting.any free fits
  have calls := fun limit => expand_placed setting limit
  cases leads with
  | next done =>
    obtain ⟨⟨indent, h⟩, first, rest⟩ := clean
    have placed := (block_placed setting (calls _) _ [] _ _ indent h first (.any env _)).of_ok done
    exact ⟨⟨indent, placed.state⟩, rest⟩
  | text opens =>
    obtain ⟨⟨indent, h⟩, ⟨written, -⟩, -⟩ := clean
    obtain ⟨base, opened⟩ := h.opened opens
    exact ⟨⟨base, opened.state⟩, written⟩
  | body calling passes opens =>
    obtain ⟨⟨indent, h⟩, ⟨-, inner, -⟩, -⟩ := clean
    obtain ⟨base, opened⟩ := h.opened opens
    exact ⟨⟨base, opened.state⟩, inner⟩
  | call calling passes opens done =>
    obtain ⟨⟨indent, h⟩, ⟨written, inner, -⟩, -⟩ := clean
    obtain ⟨base, opened⟩ := h.opened opens
    have placed := (confined_placed setting.tolerant opened.state
      (blocks_placed setting (calls _) _ _ _ base opened.state inner (.any env _))).of_ok done
    rw [opened.measured]
    have values := h.visible.evalArgs_inherit Value.hereditary_clean
      (Expr.allWrite_imp (fun _ => Value.clean_lift) _ written) passes
    exact ⟨⟨base, placed.state⟩, Value.clean_closure.mp (h.visible.called_inherits calling),
      values.1, values.2, placed.nodes, placed.clean, placed.state.newline⟩
  | branch tests =>
    obtain ⟨⟨indent, h⟩, ⟨-, thens, elses⟩, -⟩ := clean
    refine ⟨⟨indent, h⟩, ?_⟩
    split
    · exact thens
    · exact elses
  | loop ranges done binds =>
    obtain ⟨⟨indent, h⟩, ⟨written, inner⟩, -⟩ := clean
    have clean := eval_clean h written ranges
    have each := Value.hereditary_clean.list.mp clean
    obtain ⟨earlier, here⟩ := List.forall_mem_append.mp each
    have placed := (forEach_placed setting.tolerant (h.push _ Value.hereditary_clean.none) earlier
      fun _ _ _ _ s'' _ _ _ _ kept => blocks_placed setting (calls _) _ _ s'' indent kept inner
        (.any env _)).of_ok done
    have set := (placed.state.set_ends setting.tolerant _ (here _ List.mem_cons_self)).of_ok
      (ofExcept_eq_ok.mpr binds)
    exact ⟨⟨indent, set⟩, inner⟩
  | enter accepts enters binds =>
    obtain ⟨⟨indent, h⟩, written, k⟩ := clean
    obtain ⟨params, filled⟩ := Call.arguments_inherit k.positional k.named accepts
    obtain rfl := Except.ok.inj enters
    have bound := (bindParams_keeps setting.tolerant (h.enter _ k.newline) written _ 0
      (fun slot member => params ▸ List.mem_map_of_mem member) filled).of_ok binds
    exact ⟨⟨_, bound⟩, written, k⟩
  | run binds =>
    obtain ⟨⟨indent, h⟩, written, k⟩ := clean
    have bound := (bindBody_keeps h k fun stop _ => (trivial : (fun _ => True) stop)).of_ok binds
    exact ⟨⟨indent, bound⟩, written.body⟩

theorem Reaches.clean (free : env.NodeFree) {stage stage' : Stage (State Closure) Closure}
    (reaches : Reaches env stage stage') (clean : stage.Clean fits) : stage'.Clean fits := by
  induction reaches with
  | refl => exact clean
  | tail _ leads ih => exact leads.clean free ih

end Translate

end MarkupTemplate
