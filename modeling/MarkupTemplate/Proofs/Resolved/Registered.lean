import MarkupTemplate.Modules
import MarkupTemplate.Proofs.Held

/-!
# Registered modules

Modules start from a registry and grow as symbols are registered. Whatever was registered, the symbol
of a tag stands for something that can be called.
-/

namespace MarkupTemplate

variable {α κ : Type}

/-- Modules that symbols have been registered in, over those of a registry. -/
inductive Modules.Registered : Modules κ → Prop where
  | ofRegistry (r : Registry) : Registered (.ofRegistry r)
  | add {m m' : Modules κ} (path : String) (symbols : List (String × Value κ)) :
    Registered m → m.add path symbols = .ok m' → Registered m'

/-- Every symbol of a tag stands for something that can be called. -/
def CallableTags (entries : List (String × Value κ)) : Prop :=
  ∀ entry ∈ entries, ∀ name, entry.1 = tagSymbol name → entry.2.kind = .callable

theorem varSymbol_ne_tagSymbol (name other : String) : varSymbol name ≠ tagSymbol other := by
  intro same
  have heads := congrArg (fun symbol => symbol.toList.head?) same
  simp [varSymbol, tagSymbol] at heads

theorem CallableTags.append {entries more : List (String × Value κ)} (h : CallableTags entries)
    (h' : CallableTags more) : CallableTags (entries ++ more) :=
  List.forall_mem_append.mpr ⟨h, h'⟩

theorem CallableTags.var (name : String) (v : Value κ) : CallableTags [(varSymbol name, v)] := by
  intro entry member other same
  obtain rfl := List.mem_singleton.mp member
  exact absurd same (varSymbol_ne_tagSymbol name other)

theorem CallableTags.of_kind (symbol : String) {v : Value κ} (kind : v.kind = .callable) :
    CallableTags [(symbol, v)] := by
  intro entry member name _
  obtain rfl := List.mem_singleton.mp member
  exact kind

namespace Dict

theorem mem_insert {key : String} {value : α} {d : Dict α} {entry : String × α}
    (h : entry ∈ d.insert key value) : entry = (key, value) ∨ entry ∈ d := by
  induction d with
  | nil => exact .inl (List.mem_singleton.mp h)
  | cons first rest ih =>
    unfold insert at h
    split at h
    · rcases List.mem_cons.mp h with here | later
      · exact .inl here
      · exact .inr (List.mem_cons_of_mem _ later)
    · split at h
      · exact List.mem_cons.mp h
      · rcases List.mem_cons.mp h with here | later
        · exact .inr (here ▸ List.mem_cons_self)
        · rcases ih later with same | old
          · exact .inl same
          · exact .inr (List.mem_cons_of_mem _ old)

theorem mem_insertAll {d : Dict α} {entries : List (String × α)} {entry : String × α}
    (h : entry ∈ d.insertAll entries) : entry ∈ d ∨ entry ∈ entries := by
  induction entries generalizing d with
  | nil => exact .inl h
  | cons first rest ih =>
    rcases ih h with before | later
    · rcases mem_insert before with same | old
      · exact .inr (same ▸ List.mem_cons_self)
      · exact .inl old
    · exact .inr (List.mem_cons_of_mem _ later)

end Dict

namespace Modules

theorem builtins_callable (r : Registry) : CallableTags (builtins r : Dict (Value κ)) := by
  intro entry member name same
  rcases Dict.mem_insertAll member with none | listed
  · cases none
  · rcases List.mem_append.mp listed with tag | function
    · obtain ⟨⟨_, tag⟩, _, rfl⟩ := List.mem_map.mp tag
      rfl
    · obtain ⟨f, _, rfl⟩ := List.mem_map.mp function
      exact absurd same (varSymbol_ne_tagSymbol f.name name)

theorem acceptAll_callable {symbols : List (String × Value κ)}
    (ok : acceptAll symbols = .ok ()) : CallableTags symbols := by
  induction symbols with
  | nil => nofun
  | cons first rest ih =>
    obtain ⟨⟨⟩, accepted, ok⟩ := bind_eq_ok.mp ok
    refine List.forall_mem_cons.mpr ⟨fun name same => ?_, ih ok⟩
    have chars : first.1.toList = '%' :: name.toList := by
      rw [same, tagSymbol, String.toList_append]
      rfl
    unfold accept at accepted
    rw [chars] at accepted
    change (if first.2.kind ≠ .callable then _ else _) = _ at accepted
    split at accepted
    · cases accepted
    · next kind => exact not_not.mp kind

/-- What is registered under the symbol of a tag can be called. -/
theorem Registered.callable {m : Modules κ} (h : m.Registered) :
    ∀ entry ∈ m.modules, CallableTags entry.2 := by
  induction h with
  | ofRegistry r =>
    intro entry member
    obtain rfl := List.mem_singleton.mp member
    exact builtins_callable r
  | @add m m' path symbols _ added ih =>
    obtain ⟨⟨⟩, accepted, ok⟩ := bind_eq_ok.mp added
    obtain rfl := Except.ok.inj ok
    intro entry member
    rcases Dict.mem_insert member with rfl | old
    · intro symbol member
      rcases Dict.mem_insertAll member with before | new
      · cases found : Dict.get? path m.modules with
        | none =>
          rw [found] at before
          cases before
        | some symbols =>
          rw [found] at before
          exact ih _ (Dict.mem_of_get? found) symbol before
      · exact acceptAll_callable accepted symbol new
    · exact ih entry old

theorem Registered.symbolsOf {m : Modules κ} (h : m.Registered) {path : String}
    {symbols : Dict (Value κ)} (ok : m.symbolsOf path = .ok symbols) : CallableTags symbols := by
  unfold Modules.symbolsOf at ok
  split at ok
  · next found =>
    obtain rfl := Except.ok.inj ok
    exact h.callable _ (Dict.mem_of_get? found)
  · cases ok

theorem Registered.publicSymbols {m : Modules κ} (h : m.Registered) {path : String}
    {symbols : Dict (Value κ)} (ok : m.publicSymbols path = .ok symbols) :
    CallableTags symbols := by
  obtain ⟨all, found, ok⟩ := bind_eq_ok.mp ok
  obtain rfl := Except.ok.inj ok
  intro entry member
  exact h.symbolsOf found entry (List.mem_filter.mp member).1

theorem Registered.symbol {m : Modules κ} (h : m.Registered) {symbol path : String}
    {v : Value κ} (ok : m.symbol symbol path = .ok v) : CallableTags [(symbol, v)] := by
  obtain ⟨all, found, ok⟩ := bind_eq_ok.mp ok
  split at ok
  · next here =>
    obtain rfl := Except.ok.inj ok
    intro entry member
    obtain rfl := List.mem_singleton.mp member
    exact h.symbolsOf found _ (Dict.mem_of_get? here)
  · cases ok

end Modules

end MarkupTemplate
