import Mathlib.Data.List.Basic
import Mathlib.Logic.Function.Basic
import MarkupTemplate.Proofs.Balance.Frame

/-!
# Levels as sheets

A sheet is a level without an index: the list of its bindings. A name is found by going through the
positions of a sheet from the top. The levels of a store are read as sheets, and what is done to a level
is done to its sheet.
-/

namespace MarkupTemplate

open Scope

/-- The bindings of a level in order, on top of its trunk. -/
structure Sheet (α : Type) where
  trunk : Option Branch
  bindings : List (String × α)

namespace Sheet

variable {α β : Type}

def trunkLength (s : Sheet α) : Nat := (s.trunk.map (·.length)).getD 0

def length (s : Sheet α) : Nat := s.trunkLength + s.bindings.length

def push (name : String) (v : α) (s : Sheet α) : Sheet α :=
  { s with bindings := s.bindings ++ [(name, v)] }

/-- Replaces the value at a position above the trunk. -/
def set (index : Nat) (v : α) (s : Sheet α) : Sheet α :=
  { s with bindings := s.bindings.modify (index - s.trunkLength) fun b => (b.1, v) }

def clear (s : Sheet α) : Sheet α := { s with bindings := [] }

/-- The binding at a position of a sheet, or at this position of its trunk. -/
def entry? (sheets : Nat → Sheet α) (id index : Nat) : Option (String × α) :=
  if index < (sheets id).trunkLength then
    match (sheets id).trunk with
    | none => none
    | some b => if b.level < id then entry? sheets b.level index else none
  else (sheets id).bindings[index - (sheets id).trunkLength]?
termination_by id

/-- The last of the first `n` positions of a sheet that binds a name. -/
def scan (sheets : Nat → Sheet α) (name : String) (id : Nat) : Nat → Option (Nat × α)
  | 0 => none
  | n + 1 => match entry? sheets id n with
    | some (other, v) => if other = name then some (n, v) else scan sheets name id n
    | none => scan sheets name id n

theorem set_push (s : Sheet α) (name : String) (u v : α) :
    (s.push name u).set s.length v = s.push name v := by
  simp [set, push, length, trunkLength, List.modify_eq_set_getElem?]

end Sheet

/-! ### Levels as sheets -/

namespace Scope

variable {α β : Type} (f : α → β)

/-- The bindings of a level, with a function of their values. -/
def Level.sheet (l : Level α) : Sheet β :=
  ⟨l.trunk, l.bindings.toList.map fun b => (b.name, f b.value)⟩

namespace Level

@[simp] theorem trunkLength_sheet (l : Level α) : (l.sheet f).trunkLength = l.trunkLength := rfl

@[simp] theorem length_sheet (l : Level α) : (l.sheet f).length = l.length := by
  simp [Sheet.length, sheet, length, Sheet.trunkLength, trunkLength]

theorem sheet_push (l : Level α) (name : String) (v : α) :
    (l.push name v).sheet f = (l.sheet f).push name (f v) := by
  simp [sheet, push, Sheet.push]

theorem sheet_set (l : Level α) (index : Nat) (v : α) :
    (l.set index v).sheet f = (l.sheet f).set index (f v) := by
  refine congrArg (Sheet.mk l.trunk) (List.ext_getElem? fun i => ?_)
  simp only [set, sheet, Array.toList_modify, List.getElem?_map, List.getElem?_modify,
    Sheet.trunkLength, trunkLength]
  cases l.bindings.toList[i]? with
  | none => rfl
  | some b =>
    simp only [Option.map_some]
    split <;> rfl

theorem sheet_clear (l : Level α) : l.clear.sheet f = (l.sheet f).clear := rfl

/-- What starts with a level and is not longer has its bindings. -/
theorem Starts.sheet_eq {l l' : Level α} (h : l.Starts l') (length : l'.length = l.length) :
    l'.sheet f = l.sheet f := by
  have trunk := h.trunkLength
  have size : l'.bindings.size = l.bindings.size := by
    simp only [Level.length] at length
    omega
  have bindings : l'.bindings = l.bindings := by
    refine Array.ext_getElem? fun k => ?_
    by_cases inside : k < l.bindings.size
    · exact h.bindings k inside
    · rw [Array.getElem?_eq_none (by omega), Array.getElem?_eq_none (by omega)]
  rw [sheet, sheet, h.trunk, bindings]

end Level

namespace Store

/-- The levels of a store, without bindings where there is none. -/
def sheets (σ : Store α) (id : Nat) : Sheet β :=
  match σ.levels[id]? with
  | none => ⟨none, []⟩
  | some l => l.sheet f

variable {σ : Store α}

theorem sheets_level {id : Nat} {l : Level α} (h : σ.levels[id]? = some l) :
    σ.sheets f id = l.sheet f := by
  rw [sheets, h]

theorem length_sheets (id : Nat) : (σ.sheets f id).length = σ.length id := by
  unfold sheets
  cases h : σ.levels[id]? with
  | none =>
    rw [Store.length, h]
    rfl
  | some l => rw [length_of_level h, l.length_sheet f]; rfl

theorem trunkLength_sheets (id : Nat) : (σ.sheets f id).trunkLength = σ.trunkLength id := by
  unfold sheets Store.trunkLength
  cases σ.levels[id]? <;> rfl

theorem sheets_modify {id : Nat} {l : Level α} (h : σ.levels[id]? = some l)
    (g : Level α → Level α) :
    (σ.modify id g).sheets f = Function.update (σ.sheets f) id ((g l).sheet f) := by
  funext k
  by_cases same : k = id
  · subst same
    rw [Function.update_self, sheets, levels_modify, if_pos rfl, h]
    rfl
  · rw [Function.update_of_ne same, sheets, sheets, levels_modify, if_neg (Ne.symm same)]

theorem sheets_add (l : Level α) :
    (σ.add l).1.sheets f = Function.update (σ.sheets f) σ.levels.size (l.sheet f) := by
  funext k
  rw [sheets, levels_add]
  by_cases same : k = σ.levels.size
  · subst same
    rw [if_pos rfl, Function.update_self]
  · rw [if_neg same, Function.update_of_ne same]
    rfl

theorem entry?_sheets (level index : Nat) :
    Sheet.entry? (σ.sheets f) level index = (σ.bindingAt? level index).map (Prod.map id f) := by
  induction level using Nat.strongRecOn with
  | ind level ih =>
    rw [Sheet.entry?, bindingAt?]
    cases h : σ.levels[level]? with
    | none =>
      rw [sheets, h]
      rfl
    | some l =>
      rw [sheets_level f h, l.trunkLength_sheet f]
      dsimp only
      split
      · have trunk : (l.sheet f).trunk = l.trunk := rfl
        rw [trunk]
        cases l.trunk with
        | none => rfl
        | some b =>
          dsimp only
          split
          · next older => exact ih b.level older
          · rfl
      · simp [Level.sheet, Option.map_map, Function.comp_def]

theorem scan_sheets (name : String) (level n : Nat) :
    Sheet.scan (σ.sheets f) name level n = (σ.scan name level n).map (Prod.map id f) := by
  induction n with
  | zero => rfl
  | succ n ih =>
    rw [Sheet.scan, scan, entry?_sheets]
    cases σ.bindingAt? level n with
    | none => exact ih
    | some entry =>
      simp only [Option.map_some, Prod.map]
      by_cases same : entry.1 = name
      · simp [same]
      · simp [same, ih]

theorem findBelow_sheets (wf : σ.WellFormed) (name : String) (level limit : Nat) :
    Sheet.scan (σ.sheets f) name level limit =
      (σ.findBelow name level limit).map (Prod.map id f) := by
  rw [scan_sheets, findBelow_eq_scan wf]

end Store

end Scope

end MarkupTemplate
