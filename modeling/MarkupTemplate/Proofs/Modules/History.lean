import MarkupTemplate.Proofs.Modules.Entries
import MarkupTemplate.Proofs.Result

/-!
# Histories of registrations

Modules after any history of registrations, some of them refused. `get?_registerAll` gives each module as the
entries that were registered at its path, and `registerAll_symbols` what scripts find there.
-/

namespace MarkupTemplate

variable {κ : Type}

namespace Modules

variable {m : Modules κ} {symbol path : String} {v : Value κ} {symbols : List (String × Value κ)}

/-- An identifier after the sigil of a variable, or after that of a tag if the value can be called. -/
def Allowed (symbol : String) (v : Value κ) : Prop :=
  ∃ name : String, Text.isIdentifier name.toList = true ∧
    (symbol = varSymbol name ∨ symbol = tagSymbol name ∧ v.kind = .callable)

/-! ### Symbols and their sigils -/

theorem eq_varSymbol_iff {name : List Char} :
    symbol.toList = '$' :: name ↔ symbol = varSymbol (String.ofList name) := by
  simp [← String.toList_inj, varSymbol]

theorem eq_tagSymbol_iff {name : List Char} :
    symbol.toList = '%' :: name ↔ symbol = tagSymbol (String.ofList name) := by
  simp [← String.toList_inj, tagSymbol]

theorem varSymbol_inj {name other : String} : varSymbol name = varSymbol other ↔ name = other := by
  rw [varSymbol, varSymbol, String.append_right_inj]

theorem tagSymbol_inj {name other : String} : tagSymbol name = tagSymbol other ↔ name = other := by
  rw [tagSymbol, tagSymbol, String.append_right_inj]

theorem allowed_varSymbol {name : String} :
    Allowed (varSymbol name) v ↔ Text.isIdentifier name.toList = true := by
  constructor
  · rintro ⟨other, identifier, same | ⟨same, -⟩⟩
    · rwa [varSymbol_inj.mp same]
    · exact absurd same (varSymbol_ne_tagSymbol name other)
  · exact fun identifier => ⟨name, identifier, .inl rfl⟩

theorem allowed_tagSymbol {name : String} :
    Allowed (tagSymbol name) v ↔ Text.isIdentifier name.toList = true ∧ v.kind = .callable := by
  constructor
  · rintro ⟨other, identifier, same | ⟨same, callable⟩⟩
    · exact absurd same.symm (varSymbol_ne_tagSymbol other name)
    · rw [tagSymbol_inj.mp same]
      exact ⟨identifier, callable⟩
  · exact fun ⟨identifier, callable⟩ => ⟨name, identifier, .inr ⟨rfl, callable⟩⟩

theorem acceptName_eq_ok {name : List Char} :
    accept.acceptName symbol name = .ok () ↔ Text.isIdentifier name = true := by
  unfold accept.acceptName
  split <;> simp_all [fail]

theorem accept_eq_ok : accept symbol v = .ok () ↔ Allowed symbol v := by
  unfold accept
  split
  · next name chars =>
    rw [eq_tagSymbol_iff.mp chars, allowed_tagSymbol, String.toList_ofList]
    split
    · next other => exact iff_of_false nofun fun allowed => other allowed.2
    · next callable =>
      rw [acceptName_eq_ok]
      exact (and_iff_left (not_not.mp callable)).symm
  · next name chars =>
    rw [eq_varSymbol_iff.mp chars, allowed_varSymbol, String.toList_ofList, acceptName_eq_ok]
  · next notTag notVar =>
    refine iff_of_false nofun ?_
    rintro ⟨name, -, rfl | ⟨rfl, -⟩⟩
    · exact notVar name.toList (eq_varSymbol_iff.mpr (by rw [String.ofList_toList]))
    · exact notTag name.toList (eq_tagSymbol_iff.mpr (by rw [String.ofList_toList]))

theorem acceptAll_eq_ok :
    acceptAll symbols = .ok () ↔ ∀ entry ∈ symbols, Allowed entry.1 entry.2 := by
  induction symbols with
  | nil => simp [acceptAll]
  | cons entry rest ih =>
    rw [acceptAll, bind_eq_ok, List.forall_mem_cons, ← accept_eq_ok, ← ih]
    exact ⟨fun ⟨⟨⟩, first, later⟩ => ⟨first, later⟩, fun ⟨first, later⟩ => ⟨(), first, later⟩⟩

end Modules

/-- A call that registers symbols at a path. -/
structure Registration (κ : Type) where
  path : String
  symbols : List (String × Value κ)

namespace Registration

/-- All symbols of the call may be registered. -/
def Accepted (c : Registration κ) : Prop := ∀ entry ∈ c.symbols, Modules.Allowed entry.1 entry.2

instance (c : Registration κ) : Decidable c.Accepted :=
  decidable_of_iff ((Modules.acceptAll c.symbols).isOk = true) <| by
    rw [Accepted, ← Modules.acceptAll_eq_ok]
    cases Modules.acceptAll c.symbols <;> simp [Except.isOk, Except.toBool]

end Registration

namespace Modules

variable {m : Modules κ} {c : Registration κ} {history : List (Registration κ)} {r : Registry}
  {symbol path : String} {v : Value κ}

/-- The modules after a call. A call that fails leaves them as they are. -/
def register (m : Modules κ) (c : Registration κ) : Modules κ :=
  match m.add c.path c.symbols with
  | .ok m' => m'
  | .error _ => m

def registerAll (m : Modules κ) (history : List (Registration κ)) : Modules κ :=
  history.foldl register m

/-! ### What was registered -/

/-- The tags of a registry and the functions, as they are registered before any call. -/
def builtinEntries (r : Registry) : List (String × Value κ) :=
  r.map (fun (name, tag) => (tagSymbol name, Value.tag tag)) ++
    Builtin.all.map fun f => (varSymbol f.name, Value.function (.builtin f))

/-- A call has registered something at the path, or it is that of the built-in module. -/
def Known (history : List (Registration κ)) (path : String) : Prop :=
  path = builtinPath ∨ ∃ c ∈ history, c.Accepted ∧ c.path = path

/-- All that was registered at a path, in order. -/
def entriesAt (r : Registry) (history : List (Registration κ)) (path : String) :
    List (String × Value κ) :=
  (if path = builtinPath then builtinEntries r else []) ++
    (history.filter fun c => c.Accepted ∧ c.path = path).flatMap (·.symbols)

instance (history : List (Registration κ)) (path : String) : Decidable (Known history path) :=
  inferInstanceAs (Decidable (path = builtinPath ∨ ∃ c ∈ history, c.Accepted ∧ c.path = path))

theorem known_concat :
    Known (history ++ [c]) path ↔ Known history path ∨ c.Accepted ∧ c.path = path := by
  simp only [Known, List.mem_append, List.mem_singleton, or_assoc, or_and_right, exists_or,
    exists_eq_left]

theorem entriesAt_concat (r : Registry) (history : List (Registration κ)) (c : Registration κ)
    (path : String) :
    entriesAt r (history ++ [c]) path =
      entriesAt r history path ++ if c.Accepted ∧ c.path = path then c.symbols else [] := by
  rw [entriesAt, entriesAt, List.filter_append, List.flatMap_append, List.append_assoc]
  by_cases here : c.Accepted ∧ c.path = path
  · simp [here]
  · simp [here]

theorem entriesAt_eq_nil (unknown : ¬ Known history path) : entriesAt r history path = [] := by
  rw [Known, not_or] at unknown
  obtain ⟨other, none⟩ := unknown
  rw [entriesAt, if_neg other, List.nil_append, List.flatMap_eq_nil_iff]
  intro c member
  obtain ⟨inside, here⟩ := List.mem_filter.mp member
  exact absurd ⟨c, inside, of_decide_eq_true here⟩ none

/-- What is registered stands under the symbol of a tag or of a variable. -/
theorem sigil_of_mem_entriesAt {entry : String × Value κ} (member : entry ∈ entriesAt r history path) :
    ∃ name, entry.1 = tagSymbol name ∨ entry.1 = varSymbol name := by
  rcases List.mem_append.mp member with builtin | registered
  · split at builtin
    · rcases List.mem_append.mp builtin with tag | function
      · obtain ⟨⟨name, tag⟩, -, rfl⟩ := List.mem_map.mp tag
        exact ⟨name, .inl rfl⟩
      · obtain ⟨f, -, rfl⟩ := List.mem_map.mp function
        exact ⟨f.name, .inr rfl⟩
    · cases builtin
  · obtain ⟨c, inside, member⟩ := List.mem_flatMap.mp registered
    obtain ⟨-, here⟩ := List.mem_filter.mp inside
    obtain ⟨name, -, var | ⟨tag, -⟩⟩ := (of_decide_eq_true here).1 entry member
    · exact ⟨name, .inr var⟩
    · exact ⟨name, .inl tag⟩

/-! ### One call -/

theorem add_eq_ok {path : String} {symbols : List (String × Value κ)} {m' : Modules κ} :
    m.add path symbols = .ok m' ↔ (∀ entry ∈ symbols, Allowed entry.1 entry.2) ∧
      ⟨Dict.insert path (((Dict.get? path m.modules).getD []).insertAll symbols) m.modules⟩ = m' := by
  rw [add, bind_eq_ok, ← acceptAll_eq_ok]
  exact ⟨fun ⟨⟨⟩, accepted, same⟩ => ⟨accepted, Except.ok.inj same⟩,
    fun ⟨accepted, same⟩ => ⟨(), accepted, congrArg _ same⟩⟩

theorem register_of_accepted (accepted : c.Accepted) : m.add c.path c.symbols = .ok (m.register c) := by
  have added : ∃ m', m.add c.path c.symbols = .ok m' := ⟨_, add_eq_ok.mpr ⟨accepted, rfl⟩⟩
  obtain ⟨m', added⟩ := added
  rw [register, added]

theorem add_fails_iff : (∃ e, m.add c.path c.symbols = .error e) ↔ ¬ c.Accepted := by
  constructor
  · rintro ⟨e, failed⟩ accepted
    rw [register_of_accepted accepted] at failed
    cases failed
  · intro refused
    cases added : m.add c.path c.symbols with
    | ok m' => exact absurd (add_eq_ok.mp added).1 refused
    | error e => exact ⟨e, rfl⟩

theorem register_of_refused (refused : ¬ c.Accepted) : m.register c = m := by
  obtain ⟨e, failed⟩ := add_fails_iff.mpr refused
  rw [register, failed]

/-- A call changes the module at its path only. -/
theorem get?_register (m : Modules κ) (c : Registration κ) (path : String) :
    Dict.get? path (m.register c).modules =
      if c.Accepted ∧ c.path = path then
        some (((Dict.get? path m.modules).getD []).insertAll c.symbols)
      else Dict.get? path m.modules := by
  by_cases accepted : c.Accepted
  · obtain ⟨-, registered⟩ := add_eq_ok.mp (register_of_accepted (m := m) accepted)
    rw [← registered, Dict.get?_insert]
    by_cases here : c.path = path
    · subst here
      simp [accepted]
    · simp [here, Ne.symm here]
  · rw [register_of_refused accepted, if_neg fun both => accepted both.1]

theorem Registered.register (h : m.Registered) (c : Registration κ) : (m.register c).Registered := by
  by_cases accepted : c.Accepted
  · exact .add c.path c.symbols h (register_of_accepted accepted)
  · rwa [register_of_refused accepted]

/-! ### A history of calls -/

theorem registerAll_concat (m : Modules κ) (history : List (Registration κ)) (c : Registration κ) :
    m.registerAll (history ++ [c]) = (m.registerAll history).register c :=
  List.foldl_concat _ _ _ _

theorem registered_registerAll (r : Registry) (history : List (Registration κ)) :
    ((ofRegistry r).registerAll history).Registered := by
  induction history using List.reverseRecOn with
  | nil => exact .ofRegistry r
  | append_singleton history c ih =>
    rw [registerAll_concat]
    exact ih.register c

/-- A module holds what was registered at its path, and there is none at a path that is not known. -/
theorem get?_registerAll (r : Registry) (history : List (Registration κ)) (path : String) :
    Dict.get? path ((ofRegistry r).registerAll history).modules =
      if Known history path then some (.ofEntries (entriesAt r history path)) else none := by
  induction history using List.reverseRecOn with
  | nil =>
    have start : Dict.get? path (ofRegistry r : Modules κ).modules =
        if path = builtinPath then some (builtins r) else none := rfl
    have known : Known ([] : List (Registration κ)) path ↔ path = builtinPath := by simp [Known]
    rw [registerAll, List.foldl_nil, start]
    by_cases builtin : path = builtinPath
    · rw [if_pos builtin, if_pos (known.mpr builtin), entriesAt, if_pos builtin]
      exact congrArg (some <| Dict.ofEntries ·) (List.append_nil _).symm
    · rw [if_neg builtin, if_neg fun inside => builtin (known.mp inside)]
  | append_singleton history c ih =>
    rw [registerAll_concat, get?_register, ih, entriesAt_concat]
    by_cases here : c.Accepted ∧ c.path = path
    · rw [if_pos here, if_pos here, if_pos (known_concat.mpr (.inr here)), Dict.ofEntries_append]
      by_cases before : Known history path
      · rw [if_pos before, Option.getD_some]
      · rw [if_neg before, entriesAt_eq_nil before]
        rfl
    · simp only [if_neg here, known_concat, or_iff_left here, List.append_nil]

theorem symbolsOf_registerAll (r : Registry) (history : List (Registration κ)) (path : String) :
    ((ofRegistry r).registerAll history).symbolsOf path =
      if Known history path then .ok (.ofEntries (entriesAt r history path))
      else fail (.unknownModule path) := by
  rw [symbolsOf, get?_registerAll]
  by_cases known : Known history path
  · rw [if_pos known, if_pos known]
  · rw [if_neg known, if_neg known]

theorem symbol_registerAll_of_known (known : Known history path) (symbol : String) :
    ((ofRegistry r).registerAll history).symbol symbol path =
      match Dict.get? symbol (.ofEntries (entriesAt r history path)) with
      | some v => .ok v
      | none => fail (.undefined symbol) := by
  rw [Modules.symbol, symbolsOf_registerAll, if_pos known]
  rfl

theorem symbol_registerAll_of_unknown (unknown : ¬ Known history path) (symbol : String) :
    ((ofRegistry r : Modules κ).registerAll history).symbol symbol path =
      fail (.unknownModule path) := by
  rw [Modules.symbol, symbolsOf_registerAll, if_neg unknown]
  rfl

theorem symbol_registerAll_eq_ok :
    ((ofRegistry r).registerAll history).symbol symbol path = .ok v ↔
      Dict.LastEntry (entriesAt r history path) symbol v := by
  rw [← Dict.get?_ofEntries]
  by_cases known : Known history path
  · rw [symbol_registerAll_of_known known]
    cases Dict.get? symbol (.ofEntries (entriesAt r history path)) <;> simp [fail]
  · rw [symbol_registerAll_of_unknown known, entriesAt_eq_nil known]
    simp [fail, Dict.ofEntries, Dict.insertAll, Dict.get?]

theorem symbol_registerAll_undefined :
    ((ofRegistry r : Modules κ).registerAll history).symbol symbol path = fail (.undefined symbol) ↔
      Known history path ∧
        ∀ entry ∈ (entriesAt r history path : List (String × Value κ)), entry.1 ≠ symbol := by
  rw [← Dict.get?_ofEntries_eq_none]
  by_cases known : Known history path
  · rw [symbol_registerAll_of_known known, and_iff_right known]
    cases Dict.get? symbol (.ofEntries (entriesAt r history path)) <;> simp [fail]
  · rw [symbol_registerAll_of_unknown known]
    simp [fail, known, Cause.toError]

theorem symbol_registerAll_unknown :
    ((ofRegistry r : Modules κ).registerAll history).symbol symbol path =
      fail (.unknownModule path) ↔ ¬ Known history path := by
  by_cases known : Known history path
  · rw [symbol_registerAll_of_known known]
    refine iff_of_false ?_ (not_not.mpr known)
    cases Dict.get? symbol (.ofEntries (entriesAt r history path)) <;> exact nofun
  · exact iff_of_true (symbol_registerAll_of_unknown known symbol) known

/-! ### Private symbols -/

/-- The name after the sigil starts with an underscore. -/
def Hidden (symbol : String) : Prop :=
  ∃ name : String, symbol = tagSymbol ("_" ++ name) ∨ symbol = varSymbol ("_" ++ name)

theorem isPrivate_append {sigil : String} (one : sigil.toList.length = 1) (name : String) :
    isPrivate (sigil ++ name) = true ↔ ∃ rest : String, name = "_" ++ rest := by
  have second : (sigil ++ name).toList[1]? = name.toList.head? := by
    rw [String.toList_append, List.getElem?_append_right one.le, one, Nat.sub_self,
      List.head?_eq_getElem?]
  rw [isPrivate, second, beq_iff_eq]
  constructor
  · intro first
    obtain ⟨rest, chars⟩ := List.head?_eq_some_iff.mp first
    refine ⟨String.ofList rest, ?_⟩
    simp [← String.toList_inj, chars]
  · rintro ⟨rest, rfl⟩
    rw [String.toList_append]
    rfl

theorem isPrivate_iff_hidden (sigil : ∃ name, symbol = tagSymbol name ∨ symbol = varSymbol name) :
    isPrivate symbol = true ↔ Hidden symbol := by
  obtain ⟨name, rfl | rfl⟩ := sigil
  · rw [tagSymbol, isPrivate_append rfl]
    refine exists_congr fun rest => ?_
    rw [← tagSymbol, tagSymbol_inj, or_iff_left (varSymbol_ne_tagSymbol _ _).symm]
  · rw [varSymbol, isPrivate_append rfl]
    refine exists_congr fun rest => ?_
    rw [← varSymbol, varSymbol_inj, or_iff_right (varSymbol_ne_tagSymbol _ _)]

theorem publicSymbols_registerAll (known : Known history path) :
    ∃ symbols, ((ofRegistry r).registerAll history).publicSymbols path = .ok symbols ∧
      Dict.Ascending symbols ∧ ∀ symbol (v : Value κ), (symbol, v) ∈ symbols ↔
        ((ofRegistry r).registerAll history).symbol symbol path = .ok v ∧ ¬ Hidden symbol := by
  refine ⟨(Dict.ofEntries (entriesAt r history path)).filter fun entry => !isPrivate entry.1,
    ?_, ?_, fun symbol v => ?_⟩
  · rw [publicSymbols, symbolsOf_registerAll, if_pos known]
    rfl
  · exact (Dict.ascending_ofEntries _).filter _
  · rw [List.mem_filter, Dict.mem_iff_get? (Dict.ascending_ofEntries _), symbol_registerAll_eq_ok,
      Dict.get?_ofEntries]
    refine and_congr_right fun last => ?_
    obtain ⟨before, after, entries, -⟩ := last
    have member : (symbol, v) ∈ entriesAt r history path := by simp [entries]
    rw [Bool.not_eq_true', ← Bool.not_eq_true, isPrivate_iff_hidden (sigil_of_mem_entriesAt member)]

/-- Calls fail if and only if they register something that is not allowed, and then change nothing. After any
history of calls a symbol has the value that was last registered for it at its path, the built-in symbols
being there from the start. It is undefined at a path that is known without it, and a path is unknown if it is
not that of the built-in module and no call for it succeeded. All symbols but the private ones are public, and
a symbol of a tag can be called. -/
theorem registerAll_symbols (r : Registry) (history : List (Registration κ)) :
    let m := (ofRegistry r : Modules κ).registerAll history
    (∀ c : Registration κ, (∃ e, m.add c.path c.symbols = .error e) ↔
      ∃ entry ∈ c.symbols, ¬ Allowed entry.1 entry.2) ∧
    (∀ c : Registration κ, (∃ e, m.add c.path c.symbols = .error e) → m.register c = m) ∧
    (∀ symbol path,
      (∀ v, m.symbol symbol path = .ok v ↔
        Dict.LastEntry (entriesAt r history path) symbol v) ∧
      (m.symbol symbol path = fail (.undefined symbol) ↔ Known history path ∧
        ∀ entry ∈ (entriesAt r history path : List (String × Value κ)), entry.1 ≠ symbol) ∧
      (m.symbol symbol path = fail (.unknownModule path) ↔ ¬ Known history path)) ∧
    (∀ path, Known history path → ∃ symbols, m.publicSymbols path = .ok symbols ∧
      Dict.Ascending symbols ∧ ∀ symbol v, (symbol, v) ∈ symbols ↔
        m.symbol symbol path = .ok v ∧ ¬ Hidden symbol) ∧
    (∀ path, m.publicSymbols path = fail (.unknownModule path) ↔ ¬ Known history path) ∧
    ∀ name path v, m.symbol (tagSymbol name) path = .ok v → v.kind = .callable := by
  intro m
  refine ⟨fun c => ?_, fun c failed => register_of_refused (add_fails_iff.mp failed),
    fun symbol path => ⟨fun v => symbol_registerAll_eq_ok, symbol_registerAll_undefined,
      symbol_registerAll_unknown⟩,
    fun path known => publicSymbols_registerAll known, fun path => ?_, fun name path v found => ?_⟩
  · rw [add_fails_iff, Registration.Accepted]
    simp only [not_forall, exists_prop]
  · rw [publicSymbols, symbolsOf_registerAll]
    by_cases known : Known history path
    · rw [if_pos known]
      exact iff_of_false nofun (not_not.mpr known)
    · rw [if_neg known]
      exact iff_of_true rfl known
  · exact (registered_registerAll r history).symbol found _ (List.mem_singleton.mpr rfl) name rfl

/-- A call that is refused for its last symbol, one that registers a symbol twice, and one that replaces a
built-in function. -/
theorem registerAll_symbols_replacedFunction :
    let refused : Registration Empty := ⟨"site", [("$title", .string "a"), ("%x", .integer 1)]⟩
    let twice : Registration Empty :=
      ⟨"site", [("$title", .string "b"), ("$_draft", .none), ("$title", .string "c")]⟩
    let replacing : Registration Empty := ⟨"builtins", [("$len", .bool true)]⟩
    let m := (ofRegistry []).registerAll [refused, twice, replacing]
    (∃ e, m.add refused.path refused.symbols = .error e) ∧ m.register refused = m ∧
      m.symbol "$title" "site" = .ok (.string "c") ∧ m.symbol "$len" "builtins" = .ok (.bool true) ∧
      m.symbol "%x" "site" = fail (.undefined "%x") ∧
      m.symbol "$title" "home" = fail (.unknownModule "home") ∧
      ∃ symbols, m.publicSymbols "site" = .ok symbols ∧ ("$title", .string "c") ∈ symbols := by
  intro refused twice replacing m
  obtain ⟨fails, unchanged, found, shown, -⟩ := registerAll_symbols [] [refused, twice, replacing]
  have refusal : ¬ refused.Accepted := by decide +kernel
  have registered : twice.Accepted := by decide +kernel
  have replaced : replacing.Accepted := by decide +kernel
  have site : entriesAt [] [refused, twice, replacing] "site" = twice.symbols := by
    simp [entriesAt, refusal, registered, replaced, builtinPath, twice, replacing]
  have builtin : entriesAt [] [refused, twice, replacing] "builtins" =
      builtinEntries [] ++ replacing.symbols := by
    simp [entriesAt, refusal, registered, replaced, builtinPath, twice, replacing]
  have known : Known [refused, twice, replacing] "site" := .inr ⟨twice, by simp, registered, rfl⟩
  have unknown : ¬ Known [refused, twice, replacing] "home" := by
    simp [Known, builtinPath, refused, twice, replacing]
  have failed := (fails refused).mpr <| by
    simpa only [Registration.Accepted, not_forall, exists_prop] using refusal
  have title : m.symbol "$title" "site" = .ok (.string "c") :=
    ((found "$title" "site").1 _).mpr ⟨twice.symbols.take 2, [], site, nofun⟩
  have function : m.symbol "$len" "builtins" = .ok (.bool true) :=
    ((found "$len" "builtins").1 _).mpr ⟨builtinEntries [], [], builtin, nofun⟩
  have undefined : ∀ entry ∈ entriesAt [] [refused, twice, replacing] "site", entry.1 ≠ "%x" := by
    rw [site]
    simp [twice]
  obtain ⟨symbols, listed, -, member⟩ := shown "site" known
  refine ⟨failed, unchanged refused failed, title, function,
    (found "%x" "site").2.1.mpr ⟨known, undefined⟩, (found "$title" "home").2.2.mpr unknown, symbols,
    listed, (member _ _).mpr ⟨title, ?_⟩⟩
  exact fun hidden => absurd ((isPrivate_iff_hidden ⟨"title", .inr rfl⟩).mpr hidden) (by decide)

end Modules

end MarkupTemplate
