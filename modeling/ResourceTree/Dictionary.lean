/-!
# Dictionaries

Text-keyed entries in increasing key order, each key once. Keys are compared character by
character, which is also the order of their UTF-8 bytes.
-/

namespace ResourceTree
set_option autoImplicit false

/-- Entries in increasing key order. -/
abbrev Dictionary (α : Type) := List (String × α)

namespace Dictionary

variable {α : Type}

/-- Adds an entry in its place; an entry of the same key is replaced. -/
def insert (key : String) (value : α) : Dictionary α → Dictionary α
  | [] => [(key, value)]
  | (k, v) :: rest =>
    if key < k then (key, value) :: (k, v) :: rest
    else if key = k then (key, value) :: rest
    else (k, v) :: insert key value rest

/-- The dictionary of a list of entries; the last entry of a key counts. -/
def ofEntries (entries : List (String × α)) : Dictionary α :=
  entries.foldl (fun d e => insert e.1 e.2 d) []

/-- The value under a key. -/
def get? (key : String) (d : Dictionary α) : Option α :=
  (d.find? (·.1 = key)).map (·.2)

end Dictionary

end ResourceTree
