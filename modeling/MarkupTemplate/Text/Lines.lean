/-!
# Lines

Cutting a text at its newlines and at a byte position.
`joinLines_splitLines` and `flatten_splitKeepingNewlines` show that nothing is lost.
-/

namespace MarkupTemplate.Text

/-- Puts a character in front of the first line. -/
def consFirst (c : Char) : List (List Char) → List (List Char)
  | [] => [[c]]
  | line :: lines => (c :: line) :: lines

/-- The lines of a text, without their newlines; even the empty text has one. -/
def splitLines : List Char → List (List Char)
  | [] => [[]]
  | c :: cs => if c = '\n' then [] :: splitLines cs else consFirst c (splitLines cs)

/-- The lines of a text with a newline between each two. -/
def joinLines : List (List Char) → List Char
  | [] => []
  | [line] => line
  | line :: next :: lines => line ++ '\n' :: joinLines (next :: lines)

/-- The lines of a text, each with the newline that ends it; there is none after a final newline. -/
def splitKeepingNewlines : List Char → List (List Char)
  | [] => []
  | c :: cs =>
    if c = '\n' then ['\n'] :: splitKeepingNewlines cs else consFirst c (splitKeepingNewlines cs)

/-- The lines of a text where a final newline ends the last line and starts no further one. -/
def terminatedLines (text : List Char) : List (List Char) :=
  match (splitLines text).reverse with
  | [] :: rest => rest.reverse
  | _ => splitLines text

def firstLine (text : List Char) : List Char := text.takeWhile (· ≠ '\n')

/-- What follows the first newline of a text. -/
def afterFirstLine? (text : List Char) : Option (List Char) :=
  match text.dropWhile (· ≠ '\n') with
  | [] => none
  | _ :: rest => some rest

/-- The text without `lead` in front of it, if it starts so. -/
def stripLead? (lead text : List Char) : Option (List Char) :=
  if lead.isPrefixOf text then some (text.drop lead.length) else none

/-- The text without one newline in front of it. -/
def stripNewline : List Char → List Char
  | '\n' :: rest => rest
  | text => text

/-! ### Byte positions -/

/-- The length of a text in bytes. -/
def byteLength (text : List Char) : Nat := text.foldr (·.utf8Size + ·) 0

/-- The text before and after a byte position, if the position is a boundary between characters. -/
def splitAtByte? : List Char → Nat → Option (List Char × List Char)
  | cs, 0 => some ([], cs)
  | [], _ + 1 => none
  | c :: cs, n + 1 =>
    if c.utf8Size ≤ n + 1 then
      (splitAtByte? cs (n + 1 - c.utf8Size)).map fun (before, after) => (c :: before, after)
    else none

/-- The text between two byte positions, if both are boundaries and in order. -/
def slice? (text : List Char) (m n : Nat) : Option (List Char) := do
  if n < m then none else
    let (_, rest) ← splitAtByte? text m
    let (piece, _) ← splitAtByte? rest (n - m)
    some piece

theorem byteLength_cons (c : Char) (cs : List Char) :
    byteLength (c :: cs) = c.utf8Size + byteLength cs := rfl

theorem byteLength_append (text text' : List Char) :
    byteLength (text ++ text') = byteLength text + byteLength text' := by
  induction text with
  | nil => simp [byteLength]
  | cons c cs ih => rw [List.cons_append, byteLength_cons, ih, byteLength_cons, Nat.add_assoc]

/-- A text is cut behind a part that it starts with. -/
theorem splitAtByte?_append (lead rest : List Char) :
    splitAtByte? (lead ++ rest) (byteLength lead) = some (lead, rest) := by
  induction lead with
  | nil => cases rest <;> rfl
  | cons c cs ih =>
    have positive := c.utf8Size_pos
    obtain ⟨n, total⟩ := Nat.exists_eq_add_one.mpr (Nat.add_pos_left positive (byteLength cs))
    rw [List.cons_append, byteLength_cons, total, splitAtByte?, if_pos (by omega), ← total,
      Nat.add_sub_cancel_left, ih]
    rfl

theorem slice?_append (before spanned after : List Char) :
    slice? (before ++ (spanned ++ after)) (byteLength before) (byteLength (before ++ spanned)) =
      some spanned := by
  rw [slice?, byteLength_append, if_neg (by omega), splitAtByte?_append, Nat.add_sub_cancel_left]
  simp [splitAtByte?_append]

/-- A text is cut without losing any of it, at the length asked for. -/
theorem of_splitAtByte? {text lead rest : List Char} {n : Nat}
    (h : splitAtByte? text n = some (lead, rest)) : text = lead ++ rest ∧ byteLength lead = n := by
  fun_induction splitAtByte? text n generalizing lead with
  | case1 text => cases h; exact ⟨rfl, rfl⟩
  | case2 n => cases h
  | case3 c cs n inside ih =>
    obtain ⟨⟨before, after⟩, cut, same⟩ := Option.map_eq_some_iff.mp h
    cases same
    obtain ⟨rfl, size⟩ := ih cut
    exact ⟨rfl, by rw [byteLength_cons, size]; omega⟩
  | case4 c cs n outside => cases h

/-! ### Nothing is lost -/

theorem splitLines_ne_nil (text : List Char) : splitLines text ≠ [] := by
  cases text with
  | nil => simp [splitLines]
  | cons c cs =>
    unfold splitLines
    split
    · simp
    · cases splitLines cs <;> simp [consFirst]

theorem joinLines_cons {line : List Char} {lines : List (List Char)} (others : lines ≠ []) :
    joinLines (line :: lines) = line ++ '\n' :: joinLines lines := by
  cases lines with
  | nil => exact absurd rfl others
  | cons next lines => rfl

theorem joinLines_consFirst (c : Char) (lines : List (List Char)) :
    joinLines (consFirst c lines) = c :: joinLines lines := by
  cases lines with
  | nil => rfl
  | cons line rest => cases rest <;> simp [consFirst, joinLines]

theorem joinLines_splitLines (text : List Char) : joinLines (splitLines text) = text := by
  induction text with
  | nil => rfl
  | cons c cs ih =>
    unfold splitLines
    split
    · next h => rw [joinLines_cons (splitLines_ne_nil cs), ih, h, List.nil_append]
    · rw [joinLines_consFirst, ih]

theorem flatten_consFirst (c : Char) (lines : List (List Char)) :
    (consFirst c lines).flatten = c :: lines.flatten := by
  cases lines <;> simp [consFirst]

theorem flatten_splitKeepingNewlines (text : List Char) :
    (splitKeepingNewlines text).flatten = text := by
  induction text with
  | nil => rfl
  | cons c cs ih =>
    unfold splitKeepingNewlines
    split
    · next h => simp [ih, h]
    · rw [flatten_consFirst, ih]

theorem stripLead?_eq_some_iff {lead text rest : List Char} :
    stripLead? lead text = some rest ↔ text = lead ++ rest := by
  unfold stripLead?
  constructor
  · intro h
    split at h
    · next hp =>
      obtain ⟨more, rfl⟩ := List.isPrefixOf_iff_prefix.mp hp
      simp at h
      rw [h]
    · cases h
  · rintro rfl
    rw [if_pos (List.isPrefixOf_iff_prefix.mpr (List.prefix_append _ _))]
    simp

end MarkupTemplate.Text
