/-!
# Spans

A span is a range of bytes of a script's source.
-/

namespace MarkupTemplate

/-- The bytes from `m` up to `n`. -/
structure Span where
  m : Nat := 0
  n : Nat := 0
  deriving DecidableEq, Repr

instance : Inhabited Span := ⟨{}⟩

def Span.combine (s t : Span) : Span := ⟨min s.m t.m, max s.n t.n⟩

end MarkupTemplate
