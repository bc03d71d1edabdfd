import MarkupTemplate.Document.Render
import MarkupTemplate.Proofs.Placement.Frontier

/-!
# Placing again

An element that cannot be placed keeps its own indentation, but those below it are demoted up to the
one that did not fit. What was demoted then stays so when the element is placed elsewhere.
-/

namespace MarkupTemplate

variable {κ : Type} {parent other : String} {is js ks : List Indent}

/-- What an indentation becomes below a parent. -/
inductive Indent.Demoted (parent : String) : Indent → Indent → Prop
  | relative (rest : String) : Demoted parent (.relative rest) (.relative rest)
  | absolute (rest : String) : Demoted parent (.absolute (parent ++ rest)) (.relative rest)

namespace Indent

theorem demote_eq_none {i i' : Indent} : i.demote parent = (i', none) ↔ Demoted parent i i' := by
  constructor
  · intro fine
    cases i with
    | relative rest =>
      obtain rfl := (Prod.mk.inj fine).1
      exact .relative rest
    | absolute indent =>
      rw [demote] at fine
      split at fine
      · next rest extended =>
        obtain rfl := (Prod.mk.inj fine).1
        rw [← append_of_extension? extended]
        exact .absolute rest
      · cases fine
  · rintro (rest | rest)
    · rfl
    · simp only [demote, extension?_append]

theorem demote_eq_some {i i' : Indent} {error : Error} (failed : i.demote parent = (i', some error)) :
    ∃ bad, i = .absolute bad ∧ i' = i ∧ ∀ rest, bad ≠ parent ++ rest := by
  cases i with
  | relative rest => cases failed
  | absolute bad =>
    refine ⟨bad, rfl, ?_, ?_⟩
    · rw [demote] at failed
      split at failed
      · cases failed
      · exact (Prod.mk.inj failed).1.symm
    · rintro rest rfl
      simp only [demote, extension?_append] at failed
      cases failed

theorem demoteAll_eq_none : demoteAll parent is = (js, none) ↔ List.Forall₂ (Demoted parent) is js := by
  constructor
  · intro fine
    induction is generalizing js with
    | nil =>
      obtain rfl := (Prod.mk.inj fine).1
      exact .nil
    | cons i is ih =>
      rw [demoteAll] at fine
      split at fine
      · cases fine
      · next here =>
        obtain ⟨rfl, later⟩ := Prod.mk.inj fine
        exact .cons (demote_eq_none.mp here) (ih (Prod.ext_iff.mpr ⟨rfl, later⟩))
  · intro demoted
    induction demoted with
    | nil => rfl
    | cons here _ ih => rw [demoteAll, demote_eq_none.mpr here, ih]

/-- Demoting stops at the first indentation that does not extend the parent's. -/
theorem demoteAll_eq_some {error : Error} (failed : demoteAll parent is = (js, some error)) :
    ∃ before done bad after, is = before ++ .absolute bad :: after ∧
      List.Forall₂ (Demoted parent) before done ∧ (∀ rest, bad ≠ parent ++ rest) ∧
      js = done ++ .absolute bad :: after := by
  induction is generalizing js with
  | nil => cases failed
  | cons i is ih =>
    rw [demoteAll] at failed
    split at failed
    · next here =>
      obtain ⟨bad, rfl, rfl, outside⟩ := demote_eq_some here
      exact ⟨[], [], bad, is, rfl, .nil, outside, (Prod.mk.inj failed).1.symm⟩
    · next i' here =>
      obtain ⟨rfl, later⟩ := Prod.mk.inj failed
      obtain ⟨before, done, bad, after, rfl, fine, outside, stopped⟩ :=
        ih (Prod.ext_iff.mpr ⟨rfl, later⟩)
      exact ⟨i :: before, i' :: done, bad, after, rfl, .cons (demote_eq_none.mp here) fine, outside,
        congrArg (i' :: ·) stopped⟩

theorem split_demoted (demoted : List.Forall₂ (Demoted parent) (is ++ js) ks) :
    ∃ first second, ks = first ++ second ∧ List.Forall₂ (Demoted parent) is first ∧
      List.Forall₂ (Demoted parent) js second := by
  refine ⟨ks.take is.length, ks.drop is.length, (List.take_append_drop ..).symm, ?_, ?_⟩
  · exact (List.forall₂_take_append ks is js demoted.flip).flip
  · exact (List.forall₂_drop_append ks is js demoted.flip).flip

section Demoted

variable (demoted : List.Forall₂ (Demoted parent) is js)

include demoted

theorem demoted_again (other : String) : List.Forall₂ (Demoted other) js js := by
  induction demoted with
  | nil => exact .nil
  | cons here _ ih =>
    obtain rest | rest := here <;> exact .cons (.relative rest) ih

theorem demoted_eq_iff : js = is ↔ ∀ i ∈ is, ∃ rest, i = .relative rest := by
  induction demoted with
  | nil => simp
  | cons here _ ih => obtain rest | rest := here <;> simp [ih]

/-- Below two parents the same indentations become the same only if they were relative before. -/
theorem demoted_unique_iff (elsewhere : List.Forall₂ (Demoted other) is ks) (ne : parent ≠ other) :
    js = ks ↔ js = is := by
  induction demoted generalizing ks with
  | nil =>
    cases elsewhere
    rfl
  | cons here _ ih =>
    cases elsewhere with
    | cons there later =>
      rw [List.cons.injEq, List.cons.injEq, ih later]
      refine and_congr_left fun _ => ?_
      obtain rest | rest := here
      · cases there
        rfl
      · generalize extended : parent ++ rest = indent at there
        obtain - | rest' := there
        simp only [relative.injEq, reduceCtorEq, iff_false]
        rintro rfl
        exact ne ((String.append_left_inj rest).mp extended)

end Demoted

end Indent

/-! ### Elements -/

namespace Node

variable {head : Head (Value κ)} {before : Option Indent} {body : List (Node κ)} {indent : String}
  {m n' : Node κ} {error : Error}

theorem place_eq_none :
    (element head before body).place indent = (m, none) ↔
      indent.toList.head? = some '\n' ∧
        ∃ ks, List.Forall₂ (Indent.Demoted indent) (allFrontier body) ks ∧
          m = element head (some (.absolute indent)) (allWithFrontier ks body) := by
  rw [place, demoteList_eq]
  by_cases newline : indent.toList.head? = some '\n'
  · simp only [newline, beq_self_eq_true, if_true, true_and]
    rcases made : Indent.demoteAll indent (allFrontier body) with ⟨js, _ | error⟩
    · constructor
      · intro placed
        exact ⟨js, Indent.demoteAll_eq_none.mp made, (Prod.mk.inj placed).1.symm⟩
      · rintro ⟨ks, demoted, rfl⟩
        rw [Indent.demoteAll_eq_none.mpr demoted] at made
        obtain rfl := (Prod.mk.inj made).1
        rfl
    · refine iff_of_false (by simp) ?_
      rintro ⟨ks, demoted, -⟩
      rw [Indent.demoteAll_eq_none.mpr demoted] at made
      cases made
  · simp [newline]

theorem group_eq_ok {outline : Bool} :
    group outline (some (.absolute indent)) body = .ok m ↔
      indent.toList.head? = some '\n' ∧
        ∃ ks, List.Forall₂ (Indent.Demoted indent) (allFrontier body) ks ∧
          m = element { outline } (some (.absolute indent)) (allWithFrontier ks body) := by
  have placed : (element { outline } none body).place indent = (m, none) ↔ _ := place_eq_none
  rw [← placed, group, ofHead]
  simp only [ofHead.build]
  rcases (element { outline } none body).place indent with ⟨n, _ | error⟩ <;> simp

/-- An element that could not be placed has what stands before the first indentation that does not
extend its new one demoted below that. -/
theorem place_eq_some (failed : (element head before body).place indent = (n', some error)) :
    ∃ earlier done later, allFrontier body = earlier ++ later ∧
      List.Forall₂ (Indent.Demoted indent) earlier done ∧
      n' = element head before (allWithFrontier (done ++ later) body) ∧
      if indent.toList.head? = some '\n' then
        ∃ bad after, later = .absolute bad :: after ∧ ∀ rest, bad ≠ indent ++ rest
      else earlier = [] := by
  rw [place, demoteList_eq] at failed
  by_cases newline : indent.toList.head? = some '\n'
  · simp only [newline, beq_self_eq_true, if_true] at failed ⊢
    rcases made : Indent.demoteAll indent (allFrontier body) with ⟨js, _ | stop⟩
    · rw [made] at failed
      cases failed
    · rw [made] at failed
      obtain ⟨earlier, done, bad, after, whole, demoted, outside, rfl⟩ :=
        Indent.demoteAll_eq_some made
      exact ⟨earlier, done, _, whole, demoted, (Prod.mk.inj failed).1.symm, bad, after, rfl, outside⟩
  · simp only [newline, beq_iff_eq, if_false] at failed ⊢
    refine ⟨[], [], allFrontier body, rfl, .nil, ?_, rfl⟩
    rw [List.nil_append, allWithFrontier_allFrontier]
    exact (Prod.mk.inj failed).1.symm

/-- If an element cannot be placed, its own indentation stays, and so does everything below it but the
outermost indentations before the first one that does not extend the new one: these are demoted. So
nothing changes if and only if all of these were relative, and then and only then does placing the
element elsewhere give the same as if this had not been tried. -/
theorem place_failed (failed : (element head before body).place indent = (n', some error)) :
    ∃ earlier done later, allFrontier body = earlier ++ later ∧
      List.Forall₂ (Indent.Demoted indent) earlier done ∧
      n' = element head before (allWithFrontier (done ++ later) body) ∧
      (if indent.toList.head? = some '\n' then
        ∃ bad after, later = .absolute bad :: after ∧ ∀ rest, bad ≠ indent ++ rest
      else earlier = []) ∧
      (n' = element head before body ↔ ∀ i ∈ earlier, ∃ rest, i = .relative rest) ∧
      ∀ other m, (element head before body).place other = (m, none) →
        ∃ m', n'.place other = (m', none) ∧ (m' = m ↔ n' = element head before body) := by
  obtain ⟨earlier, done, later, whole, demoted, rfl, stopped⟩ := place_eq_some failed
  have same := demoted.length_eq
  have long : (done ++ later).length = (allFrontier body).length := by
    rw [whole, List.length_append, List.length_append, same]
  have unchanged : element head before (allWithFrontier (done ++ later) body) =
      element head before body ↔ done = earlier := by
    conv => lhs; rhs; rw [← allWithFrontier_allFrontier body]
    rw [element.injEq, and_iff_right rfl, and_iff_right rfl, allWithFrontier_inj long rfl, whole,
      List.append_left_inj]
  refine ⟨earlier, done, later, whole, demoted, rfl, stopped, ?_, ?_⟩
  · rw [unchanged, Indent.demoted_eq_iff demoted]
  · intro other m placed
    obtain ⟨newline, ks, fine, rfl⟩ := place_eq_none.mp placed
    rw [whole] at fine
    obtain ⟨first, second, rfl, here, there⟩ := Indent.split_demoted fine
    have kept : List.Forall₂ (Indent.Demoted other) (done ++ later) (done ++ second) :=
      List.rel_append (Indent.demoted_again demoted other) there
    rw [← allFrontier_allWithFrontier long] at kept
    refine ⟨_, place_eq_none.mpr ⟨newline, _, kept, rfl⟩, ?_⟩
    have long' : (done ++ second).length = (allFrontier body).length := by
      rw [← kept.length_eq, allFrontier_allWithFrontier long, long]
    have long'' : (first ++ second).length = (allFrontier body).length := by
      rw [whole, ← fine.length_eq]
    rw [unchanged, allWithFrontier_allWithFrontier long long', element.injEq, and_iff_right rfl,
      and_iff_right rfl, allWithFrontier_inj long' long'', List.append_left_inj]
    split at stopped
    · obtain ⟨bad, after, rfl, outside⟩ := stopped
      refine Indent.demoted_unique_iff demoted here ?_
      rintro rfl
      cases there with
      | cons fits _ =>
        cases fits with
        | absolute rest => exact outside rest rfl
    · subst stopped
      cases demoted
      cases here
      rfl

theorem place_failed_nested :
    let nested (i : Indent) : Node Empty :=
      element {} none [element {} none [text "a", element {} (some i) []],
        element {} none [element {} (some (.absolute "\n\t")) []]]
    let n := nested (.absolute "\n  ")
    let n' := nested (.relative "")
    (∃ error, n.place "\n  " = (n', some error)) ∧
      ∃ m m', n.place "\n" = (m, none) ∧ n'.place "\n" = (m', none) ∧ m' ≠ m := by
  intro nested n n'
  have failed : n.place "\n  " =
      (n', some (Cause.indentOutsideParent "\n\t" "\n  ").toError) := by cbv
  have changed : n' ≠ n := by
    intro same
    simp [n, n', nested] at same
  let m : Node Empty :=
    element {} (some (.absolute "\n")) [element {} none [text "a", element {} (some (.relative "  ")) []],
      element {} none [element {} (some (.relative "\t")) []]]
  have placed : n.place "\n" = (m, none) := by cbv
  obtain ⟨_, _, _, _, _, _, _, _, again⟩ := place_failed failed
  obtain ⟨m', later, same⟩ := again "\n" m placed
  exact ⟨⟨_, failed⟩, m, m', placed, later, fun equal => changed (same.mp equal)⟩

/-- Two lines, of which only the first one is in place below an element that is indented. -/
def twoLines (first : Indent) : Node Empty :=
  element {} none
    [element { outline := true } (some first) [text "a"],
      element { outline := true } (some (.absolute "\n\t")) [text "b"]]

/-- The first line loses its indentation although the element could not be placed. -/
theorem place_twoLines :
    letI := Host.bare
    let n := twoLines (.absolute "\n  ")
    let n' := twoLines (.relative "")
    (∃ error, n.place "\n  " = (n', some error)) ∧ n' ≠ n ∧
      ∃ m m', n.place "\n" = (m, none) ∧ n'.place "\n" = (m', none) ∧ m' ≠ m ∧
        (Document.ofNodes [m] >>= Document.render) = .ok "  a\n\tb" ∧
        (Document.ofNodes [m'] >>= Document.render) = .ok "a\n\tb" := by
  let := Host.bare
  intro n n'
  let placed (first : Indent) : Node Empty :=
    element {} (some (.absolute "\n"))
      [element { outline := true } (some first) [text "a"],
        element { outline := true } (some (.relative "\t")) [text "b"]]
  refine ⟨⟨(Cause.indentOutsideParent "\n\t" "\n  ").toError, by cbv⟩, ?_,
    placed (.relative "  "), placed (.relative ""), by cbv, by cbv, ?_, by cbv, by cbv⟩
  · simp [n, n', twoLines]
  · simp [placed]

end Node

end MarkupTemplate
