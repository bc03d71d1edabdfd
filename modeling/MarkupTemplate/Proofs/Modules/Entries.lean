import Mathlib.Data.List.Induction
import Mathlib.Data.String.Basic
import MarkupTemplate.Proofs.Resolved.Registered

/-!
# Entries of dictionaries

A dictionary that entries are written to has each key once, in ascending order, with the value of the last
entry of that key.
-/

namespace MarkupTemplate.Dict

variable {α : Type} {d : Dict α} {entries : List (String × α)} {key : String} {value : α}

def Ascending (d : Dict α) : Prop := d.Pairwise fun entry later => entry.1 < later.1

/-- The value stands in an entry with the key, and no later entry has the key. -/
def LastEntry (entries : List (String × α)) (key : String) (value : α) : Prop :=
  ∃ before after, entries = before ++ (key, value) :: after ∧ ∀ entry ∈ after, entry.1 ≠ key

/-! ### Keys in order -/

theorem ascending_insert (h : Ascending d) (key : String) (value : α) :
    Ascending (d.insert key value) := by
  induction d with
  | nil => exact List.pairwise_singleton _ _
  | cons first rest ih =>
    obtain ⟨least, ordered⟩ := List.pairwise_cons.mp h
    unfold insert
    split
    · next same => exact List.pairwise_cons.mpr ⟨same ▸ least, ordered⟩
    · next other =>
      split
      · next less =>
        refine List.pairwise_cons.mpr ⟨List.forall_mem_cons.mpr ⟨less, ?_⟩, h⟩
        exact fun entry member => less.trans (least entry member)
      · next notLess =>
        refine List.pairwise_cons.mpr ⟨fun entry member => ?_, ih ordered⟩
        rcases mem_insert member with rfl | old
        · exact lt_of_le_of_ne (not_lt.mp notLess) (Ne.symm other)
        · exact least entry old

theorem ascending_insertAll (h : Ascending d) (entries : List (String × α)) :
    Ascending (d.insertAll entries) := by
  induction entries generalizing d with
  | nil => exact h
  | cons entry rest ih => exact ih (ascending_insert h entry.1 entry.2)

theorem ascending_ofEntries (entries : List (String × α)) : Ascending (ofEntries entries) :=
  ascending_insertAll .nil entries

/-- Every entry can be looked up, for no other one has its key. -/
theorem mem_iff_get? (h : Ascending d) : (key, value) ∈ d ↔ d.get? key = some value := by
  refine ⟨fun member => ?_, mem_of_get?⟩
  induction d with
  | nil => cases member
  | cons first rest ih =>
    obtain ⟨least, ordered⟩ := List.pairwise_cons.mp h
    unfold get?
    rcases List.mem_cons.mp member with rfl | later
    · exact if_pos rfl
    · rw [if_neg (least _ later).ne']
      exact ih ordered later

/-! ### Values of keys -/

theorem lastEntry_concat {entry : String × α} :
    LastEntry (entries ++ [entry]) key value ↔
      entry = (key, value) ∨ entry.1 ≠ key ∧ LastEntry entries key value := by
  constructor
  · rintro ⟨before, after, same, others⟩
    rcases List.eq_nil_or_concat after with rfl | ⟨after, last, rfl⟩
    · obtain ⟨-, only⟩ := List.append_inj' same rfl
      exact .inl (List.singleton_inj.mp only)
    · rw [List.concat_eq_append, ← List.cons_append, ← List.append_assoc] at same
      obtain ⟨rfl, only⟩ := List.append_inj' same rfl
      obtain rfl := List.singleton_inj.mp only
      rw [List.concat_eq_append, List.forall_mem_append, List.forall_mem_singleton] at others
      exact .inr ⟨others.2, before, after, rfl, others.1⟩
  · rintro (rfl | ⟨other, before, after, rfl, others⟩)
    · exact ⟨entries, [], rfl, nofun⟩
    · refine ⟨before, after ++ [entry], by simp, ?_⟩
      exact List.forall_mem_append.mpr ⟨others, List.forall_mem_singleton.mpr other⟩

theorem ofEntries_append (entries more : List (String × α)) :
    ofEntries (entries ++ more) = (ofEntries entries).insertAll more := List.foldl_append

theorem get?_ofEntries_concat (entries : List (String × α)) (entry : String × α) (key : String) :
    (ofEntries (entries ++ [entry])).get? key =
      if key = entry.1 then some entry.2 else (ofEntries entries).get? key := by
  rw [ofEntries_append]
  exact get?_insert _ _ _ _

theorem get?_ofEntries : (ofEntries entries).get? key = some value ↔ LastEntry entries key value := by
  induction entries using List.reverseRecOn with
  | nil => simp [ofEntries, insertAll, get?, LastEntry]
  | append_singleton entries entry ih =>
    rw [get?_ofEntries_concat, lastEntry_concat, ← ih]
    obtain ⟨name, v⟩ := entry
    by_cases same : key = name
    · subst same
      simp
    · simp [same, Ne.symm same]

theorem get?_ofEntries_eq_none :
    (ofEntries entries).get? key = none ↔ ∀ entry ∈ entries, entry.1 ≠ key := by
  induction entries using List.reverseRecOn with
  | nil => simp [ofEntries, insertAll, get?]
  | append_singleton entries entry ih =>
    rw [get?_ofEntries_concat, List.forall_mem_append, List.forall_mem_singleton, ← ih]
    by_cases same : key = entry.1
    · simp [same]
    · simp [same, Ne.symm same]

end MarkupTemplate.Dict
