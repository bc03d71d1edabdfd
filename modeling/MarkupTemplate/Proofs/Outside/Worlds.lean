import MarkupTemplate.Modules
import MarkupTemplate.Proofs.Replace.Value
import MarkupTemplate.Proofs.Worlds.Uniform
import Mathlib.Tactic.Choose

/-!
# What is outside in several worlds

What a script gets from outside may differ from world to world. With the same names in all of them, it
is one list of entries, whose values depend on the world.
-/

namespace MarkupTemplate

variable {ω α : Type}

/-- The entries of a dictionary in one world. -/
abbrev entriesIn (w : ω) : List (String × (ω → α)) → List (String × α) :=
  List.map (Prod.map id (· w))

/-- Lists of entries with the same names are one list, whose values depend on the world. -/
theorem exists_entriesIn (names : List String) (entries : ω → List (String × α))
    (same : ∀ w, (entries w).map (·.1) = names) :
    ∃ joint : List (String × (ω → α)), joint.map (·.1) = names ∧
      ∀ w, entries w = entriesIn w joint := by
  induction names generalizing entries with
  | nil => exact ⟨[], rfl, fun w => List.map_eq_nil_iff.mp (same w)⟩
  | cons name rest ih =>
    have split : ∀ w, ∃ v more, entries w = (name, v) :: more ∧ more.map (·.1) = rest := by
      intro w
      obtain ⟨⟨n, v⟩, more, first, rfl, later⟩ := List.map_eq_cons_iff.mp (same w)
      exact ⟨v, more, first, later⟩
    choose v more first later using split
    obtain ⟨joint, names, here⟩ := ih more later
    exact ⟨(name, v) :: joint, by rw [List.map_cons, names],
      fun w => by rw [first, here w]; rfl⟩

/-- Modules at the same paths with the same symbols, whatever their values. -/
def Modules.SameNames (m m' : Modules) : Prop :=
  ∀ path, (Dict.get? path m'.modules).map (List.map (·.1)) =
    (Dict.get? path m.modules).map (List.map (·.1))

namespace Modules

variable {m : Modules} {modules : ω → Modules}

theorem SameNames.refl (m : Modules) : m.SameNames m := fun _ => rfl

theorem symbolsOf_uniform (same : ∀ w, m.SameNames (modules w)) (path : String) :
    Uniform entriesIn (fun joint => ∃ symbols, m.symbolsOf path = .ok symbols ∧
        joint.map (·.1) = symbols.map (·.1)) fun w => (modules w).symbolsOf path := by
  cases found : Dict.get? path m.modules with
  | none =>
    have missing : ∀ w, (modules w).symbolsOf path = fail (.unknownModule path) := by
      intro w
      have here := same w path
      rw [found, Option.map_none, Option.map_eq_none_iff] at here
      rw [symbolsOf, here]
    simp only [missing]
    exact .error _
  | some symbols =>
    have here : ∀ w, ∃ entries, Dict.get? path (modules w).modules = some entries ∧
        entries.map (·.1) = symbols.map (·.1) := by
      intro w
      have here := same w path
      rw [found] at here
      exact Option.map_eq_some_iff.mp here
    choose entries there names using here
    obtain ⟨joint, jointNames, split⟩ := exists_entriesIn _ entries names
    have all : ∀ w, (modules w).symbolsOf path = .ok (entriesIn w joint) := by
      intro w
      rw [symbolsOf, there, split]
    simp only [all]
    exact .ok ⟨symbols, by rw [symbolsOf, found], jointNames⟩

theorem publicSymbols_uniform (same : ∀ w, m.SameNames (modules w)) (path : String) :
    Uniform entriesIn (fun joint =>
        joint.map (·.1) = ((m.publicSymbols path).toOption.getD []).map (·.1))
      fun w => (modules w).publicSymbols path := by
  have filters (w : ω) : (modules w).publicSymbols path =
      (modules w).symbolsOf path >>= fun symbols => .ok (symbols.filter (!isPrivate ·.1)) := rfl
  simp only [filters]
  refine (symbolsOf_uniform same path).bind ?_
  rintro joint ⟨symbols, found, names⟩
  have kept : ∀ w, (entriesIn w joint).filter (!isPrivate ·.1) =
      entriesIn w (joint.filter (!isPrivate ·.1)) := by
    intro w
    rw [entriesIn, List.filter_map]
    rfl
  simp only [kept]
  refine .ok ?_
  have filtered := congrArg (List.filter fun symbol => !isPrivate symbol) names
  rw [List.filter_map, List.filter_map] at filtered
  rw [publicSymbols, found]
  exact filtered

theorem symbol_uniform (same : ∀ w, m.SameNames (modules w)) (symbol path : String) :
    Uniform (fun w v => v w) (fun _ : ω → Value Empty => True)
      fun w => (modules w).symbol symbol path := by
  refine (symbolsOf_uniform same path).bind fun joint _ => ?_
  simp only [Dict.get?_map]
  cases Dict.get? symbol joint with
  | none => exact .error _
  | some v => exact .ok trivial

end Modules

end MarkupTemplate
