/-!
# Keyed tables

Values under text keys, in the order in which the keys first came. Setting a key that is there
keeps its place. A table that is built by `put` and `erase` alone has each key once.
-/

namespace AccountSidecar

/-- Values under text keys. -/
abbrev Keyed (α : Type) := List (String × α)

namespace Keyed

variable {α β : Type}

/-- The value under a key; the first one, should the key stand twice. -/
def find? (key : String) : Keyed α → Option α
  | [] => none
  | e :: rest => if e.1 = key then some e.2 else find? key rest

/-- Sets the value under a key: an existing key keeps its place, a new one goes to the end. -/
def put (key : String) (value : α) : Keyed α → Keyed α
  | [] => [(key, value)]
  | e :: rest => if e.1 = key then (key, value) :: rest else e :: put key value rest

/-- Removes a key. -/
def erase (key : String) (table : Keyed α) : Keyed α := table.filter fun e => e.1 ≠ key

/-- Changes the value under a key, if the key is there. -/
def update (key : String) (change : α → α) (table : Keyed α) : Keyed α :=
  match find? key table with
  | some value => put key (change value) table
  | none => table

/-- Sets the keys of one table after another in a table. -/
def merge (table changes : Keyed α) : Keyed α := changes.foldl (fun t e => put e.1 e.2 t) table

/-- Changes every value and keeps the keys. -/
def mapValues (f : α → β) (table : Keyed α) : Keyed β := table.map fun e => (e.1, f e.2)

end Keyed

end AccountSidecar
