import MarkupTemplate.Proofs.Placement.Making

/-!
# Bodies that can be demoted

The body of a call is demoted below the shortest of its outermost indentations. This succeeds if and
only if one of them starts all the others.
-/

namespace MarkupTemplate

variable {κ : Type}

mutual

/-- The absolute indentation of a node or, if it has none of its own, those of the outermost indented
nodes below it. -/
def Node.outermost : Node κ → List String
  | .text _ => []
  | .root body => Node.allOutermost body
  | .element _ none body => Node.allOutermost body
  | .element _ (some (.absolute indent)) _ => [indent]
  | .element _ (some (.relative _)) _ => []

/-- The absolute indentations of the outermost indented ones of some nodes. -/
def Node.allOutermost : List (Node κ) → List String
  | [] => []
  | n :: ns => n.outermost ++ Node.allOutermost ns

end

/-- One of the outermost indentations of some nodes, if there are any, starts all the others. -/
def Aligned (ns : List (Node κ)) : Prop :=
  Node.allOutermost ns ≠ [] →
    ∃ base ∈ Node.allOutermost ns, ∀ i ∈ Node.allOutermost ns, base.toList <+: i.toList

/-! ### The shortest indentation -/

/-- The shortest of some indentations, if there are any. -/
def IsShortest (indents : List String) : Option String → Prop
  | none => indents = []
  | some i => i ∈ indents ∧ ∀ j ∈ indents, i.utf8ByteSize ≤ j.utf8ByteSize

theorem IsShortest.append {is js : List String} {a b : Option String} (ha : IsShortest is a)
    (hb : IsShortest js b) : IsShortest (is ++ js) (shorterIndent a b) := by
  cases a with
  | none =>
    obtain rfl : is = [] := ha
    simpa [shorterIndent] using hb
  | some i =>
    cases b with
    | none =>
      obtain rfl : js = [] := hb
      simpa [shorterIndent] using ha
    | some j =>
      obtain ⟨member, least⟩ := ha
      obtain ⟨member', least'⟩ := hb
      simp only [shorterIndent]
      split
      · next shorter =>
        refine ⟨List.mem_append_right _ member', List.forall_mem_append.mpr ⟨fun k k_mem => ?_, least'⟩⟩
        exact Nat.le_trans (Nat.le_of_lt shorter) (least k k_mem)
      · next longer =>
        refine ⟨List.mem_append_left _ member, List.forall_mem_append.mpr ⟨least, fun k k_mem => ?_⟩⟩
        exact Nat.le_trans (Nat.le_of_not_lt longer) (least' k k_mem)

mutual

theorem Node.base?_shortest : ∀ n : Node κ, IsShortest n.outermost n.base?
  | .text _ | .element _ (some (.relative _)) _ => rfl
  | .root body | .element _ none body => Node.baseOf?_shortest body
  | .element _ (some (.absolute _)) _ =>
    ⟨List.mem_singleton_self _, fun _ member => List.mem_singleton.mp member ▸ Nat.le_refl _⟩

theorem Node.baseOf?_shortest :
    ∀ ns : List (Node κ), IsShortest (Node.allOutermost ns) (Node.baseOf? ns)
  | [] => rfl
  | n :: ns => (Node.base?_shortest n).append (Node.baseOf?_shortest ns)

end

theorem prefix_of_shorter {i j : String} (start : i.toList <+: j.toList)
    (size : j.utf8ByteSize ≤ i.utf8ByteSize) : j = i := by
  obtain ⟨rest, same⟩ := start
  have whole : j = i ++ String.ofList rest := by
    rw [← String.toList_inj, String.toList_append, String.toList_ofList, same]
  rw [whole, String.utf8ByteSize_append] at size
  have empty : String.ofList rest = "" := String.utf8ByteSize_eq_zero_iff.mp (by omega)
  rw [whole, empty, String.append_empty]

/-- If one of the outermost indentations starts all the others, the shortest does. -/
theorem Aligned.starts {ns : List (Node κ)} (aligned : Aligned ns) {base : String}
    (shortest : Node.baseOf? ns = some base) :
    ∀ i ∈ Node.allOutermost ns, base.toList <+: i.toList := by
  have least := Node.baseOf?_shortest ns
  rw [shortest] at least
  obtain ⟨member, least⟩ := least
  obtain ⟨lead, among, starts⟩ := aligned (List.ne_nil_of_mem member)
  obtain rfl := prefix_of_shorter (starts base member) (least lead among)
  exact starts

/-! ### Demoting -/

mutual

theorem Settled.outermost_eq : ∀ {n : Node κ}, Settled [n] → n.outermost = []
  | .text _, _ | .element _ (some (.relative _)) _, _ => rfl
  | .root _, settled => Settled.allOutermost_eq (settled_root.mp settled)
  | .element _ none _, settled => Settled.allOutermost_eq (settled_element.mp settled).2.2
  | .element _ (some (.absolute indent)) _, settled =>
    absurd rfl ((settled_element.mp settled).2.1 indent)

theorem Settled.allOutermost_eq : ∀ {ns : List (Node κ)}, Settled ns → Node.allOutermost ns = []
  | [], _ => rfl
  | _ :: _, settled => by
    obtain ⟨first, rest⟩ := settled_cons.mp settled
    rw [Node.allOutermost, first.outermost_eq, rest.allOutermost_eq, List.append_nil]

end

mutual

/-- A node can be demoted if and only if its outermost indentations go at least as far as the
parent. -/
theorem Node.StandsIn.demote_fine_iff {outer parent : String} :
    ∀ {n : Node κ}, n.StandsIn outer →
      ((n.demote parent).2 = none ↔ ∀ i ∈ n.outermost, parent.toList <+: i.toList)
  | .text _, _ | .element _ (some (.relative _)) _, _ => by simp [demote, outermost]
  | .root _, settled => by
    rw [outermost, settled.allOutermost_eq]
    simp [demote]
  | .element _ none _, ⟨_, below⟩ => AllStandIn.demote_fine_iff below
  | .element _ (some (.absolute indent)) _, _ => by
    simp only [outermost, List.mem_singleton, forall_eq, demote, extension?]
    cases lead : Text.stripLead? parent.toList indent.toList with
    | none =>
      simp only [Option.map_none, reduceCtorEq, false_iff]
      rintro ⟨rest, same⟩
      rw [Text.stripLead?_eq_some_iff.mpr same.symm] at lead
      cases lead
    | some rest =>
      simp only [Option.map_some, true_iff]
      exact ⟨rest, (Text.stripLead?_eq_some_iff.mp lead).symm⟩

theorem Node.AllStandIn.demote_fine_iff {outer parent : String} :
    ∀ {ns : List (Node κ)}, AllStandIn outer ns →
      ((demoteList parent ns).2 = none ↔ ∀ i ∈ allOutermost ns, parent.toList <+: i.toList)
  | [], _ => by simp [demoteList, allOutermost]
  | n :: ns, ⟨first, rest⟩ => by
    rw [allOutermost, List.forall_mem_append, ← first.demote_fine_iff,
      ← AllStandIn.demote_fine_iff rest, demoteList]
    split
    · next here => simp [here]
    · next here => simp [here]

end

/-- A body that stands in the block of the call is demoted if and only if it is aligned. -/
theorem demoteAll_base_iff {indent : String} {body : List (Node κ)}
    (standing : Node.AllStandIn indent body) :
    (∃ body', demoteAll ((Node.baseOf? body).getD indent) body = .ok body') ↔ Aligned body := by
  have fine : (∃ body', demoteAll ((Node.baseOf? body).getD indent) body = .ok body') ↔
      (Node.demoteList ((Node.baseOf? body).getD indent) body).2 = none := by
    unfold demoteAll
    split <;> next demoted => simp [demoted]
  rw [fine, standing.demote_fine_iff]
  have least := Node.baseOf?_shortest body
  constructor
  · intro starts filled
    cases shortest : Node.baseOf? body with
    | none =>
      rw [shortest] at least
      exact absurd least filled
    | some base =>
      rw [shortest] at least starts
      exact ⟨base, least.1, starts⟩
  · intro aligned
    cases shortest : Node.baseOf? body with
    | none =>
      rw [shortest] at least
      have empty : Node.allOutermost body = [] := least
      rw [empty]
      nofun
    | some base => exact aligned.starts shortest

end MarkupTemplate
