/-!
# Dictionaries

A dictionary is a list of entries whose keys ascend by code point. Writing a key again replaces its
value.
-/

namespace MarkupTemplate

/-- Entries in ascending order of their keys. -/
abbrev Dict (α : Type) := List (String × α)

namespace Dict

variable {α : Type}

def insert (key : String) (value : α) : Dict α → Dict α
  | [] => [(key, value)]
  | (k, v) :: rest =>
    if key = k then (key, value) :: rest
    else if key < k then (key, value) :: (k, v) :: rest
    else (k, v) :: insert key value rest

def get? (key : String) : Dict α → Option α
  | [] => none
  | (k, v) :: rest => if key = k then some v else get? key rest

def insertAll (d : Dict α) (entries : List (String × α)) : Dict α :=
  entries.foldl (fun d (key, value) => d.insert key value) d

/-- The dictionary of some entries, of which the last one with a key counts. -/
def ofEntries (entries : List (String × α)) : Dict α := insertAll [] entries

theorem get?_insert (d : Dict α) (key key' : String) (value : α) :
    (d.insert key value).get? key' = if key' = key then some value else d.get? key' := by
  induction d with
  | nil => simp [insert, get?, eq_comm]
  | cons entry rest ih => grind [insert, get?]

end Dict

end MarkupTemplate
