namespace KernelLink

/-- Entries found by their keys, in the order of the keys. -/
abbrev Table (α : Type) := List (String × α)

/-- Puts an entry where its key belongs. An entry of that key that is there already stays. -/
def Table.place {α : Type} (key : String) (value : α) : Table α → Table α
  | [] => [(key, value)]
  | (other, kept) :: rest =>
    if key < other then (key, value) :: (other, kept) :: rest
    else if key = other then (other, kept) :: rest
    else (other, kept) :: place key value rest

/-- The table of some entries; of several with one key the last is kept. -/
def Table.ofLast {α : Type} (entries : List (String × α)) : Table α :=
  entries.foldr (fun (key, value) t => place key value t) []

end KernelLink
