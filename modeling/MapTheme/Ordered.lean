/-! Entries in the order of their names, at most one of each name. -/
namespace MapTheme.Ordered

variable {α : Type}

/-- Puts an entry in its place; one of the same name gives way. -/
def insert (name : String) (value : α) : List (String × α) → List (String × α)
  | [] => [(name, value)]
  | (other, old) :: rest =>
    if name < other then (name, value) :: (other, old) :: rest
    else if name = other then (name, value) :: rest
    else (other, old) :: insert name value rest

/-- The last entry of each name. -/
def ofEntries (entries : List (String × α)) : List (String × α) :=
  entries.foldl (fun kept (name, value) => insert name value kept) []

end MapTheme.Ordered
