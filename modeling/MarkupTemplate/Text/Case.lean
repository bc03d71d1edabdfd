import MarkupTemplate.Text.CaseTable
import MarkupTemplate.Text.Ranges

/-!
# Letter case

The lower and upper case of whole texts. A character may become several, and a capital sigma at the
end of a word becomes the final small one.
-/

namespace MarkupTemplate.Text

/-- The case mapping given by runs, and by expansions where a character becomes several. -/
def mapCase (ascii : Char → Char) (runs : Array CaseRun) (expansions : List (Nat × List Nat))
    (c : Char) : List Char :=
  if c.toNat < 0x80 then [ascii c]
  else
    match expansions.lookup c.toNat with
    | some image => image.map Char.ofNat
    | none => [(runs.findSome? (·.image? c.toNat)).elim c Char.ofNat]

def lowerChar (c : Char) : List Char := mapCase Char.toLower lowerRuns lowerExpansions c

def upperChar (c : Char) : List Char := mapCase Char.toUpper upperRuns upperExpansions c

/-- The first character that case does not ignore is cased. -/
def startsCased (text : List Char) : Bool :=
  match text.dropWhile (inRanges caseIgnorableRanges) with
  | [] => false
  | c :: _ => inRanges casedRanges c

/-- The lower case of a text that stands after `before`, which is given backwards. -/
def lowerAfter (before : List Char) : List Char → List Char
  | [] => []
  | c :: cs =>
    let image :=
      if c = 'Σ' then [if startsCased before && !startsCased cs then 'ς' else 'σ'] else lowerChar c
    image ++ lowerAfter (c :: before) cs

def lower (text : List Char) : List Char := lowerAfter [] text

def upper (text : List Char) : List Char := text.flatMap upperChar

end MarkupTemplate.Text
