import AccountSidecar.Value

/-!
# Documents under construction

A TOML document is built statement by statement. A `Draft` holds the tables built so far and the
rules about what may still be opened: a table that its own header or a dotted key opened may not be
opened again, and an inline table or an array is closed to everything below it.
-/

namespace AccountSidecar.Toml

/-- A path of keys from the root. -/
abbrev Path := List String

/-- A document under construction. -/
structure Draft where
  /-- The tables and values so far. -/
  root : Keyed Value := []
  /-- Tables that may not be opened by a header again. -/
  opened : List Path := []
  /-- Paths at and below which nothing may change. -/
  closed : List Path := []
  /-- Tables that join `opened` at the next header. -/
  pending : List Path := []

namespace Draft

/-- Whether the table may not be opened by a header again. -/
def isOpened (d : Draft) (path : Path) : Bool := !path.isEmpty && d.opened.contains path

/-- Whether the path lies at or below a closed one. -/
def isClosed (d : Draft) (path : Path) : Bool := d.closed.any fun c => c.isPrefixOf path

/-- Changes the table at a path, which is created where it is missing. Where `intoLists` is set, a
list of tables stands for its last table. A value that is no table ends the attempt. -/
def changeAt? (intoLists : Bool) (change : Keyed Value → Option (Keyed Value)) :
    Path → Keyed Value → Option (Keyed Value)
  | [], entries => change entries
  | k :: rest, entries =>
    match Keyed.find? k entries with
    | none => (changeAt? intoLists change rest []).map fun t => Keyed.put k (.table t) entries
    | some (.table inner) =>
      (changeAt? intoLists change rest inner).map fun t => Keyed.put k (.table t) entries
    | some (.list items) =>
      match intoLists, items.getLast? with
      | true, some (.table inner) =>
        (changeAt? intoLists change rest inner).map fun t =>
          Keyed.put k (.list (items.dropLast ++ [.table t])) entries
      | _, _ => none
    | some _ => none

/-- Sets a key that is not there yet. -/
def insertNew? (key : String) (value : Value) (entries : Keyed Value) :
    Option (Keyed Value) :=
  if (Keyed.find? key entries).isSome then none else some (entries ++ [(key, value)])

/-- Appends an empty table to a list of tables, which is created where it is missing. -/
def appendTable? (key : String) (entries : Keyed Value) :
    Option (Keyed Value) :=
  match Keyed.find? key entries with
  | none => some (entries ++ [(key, .list [.table []])])
  | some (.list items) => some (Keyed.put key (.list (items ++ [.table []])) entries)
  | some _ => none

/-- Whether a value is closed once it is set. -/
def closes : Value → Bool
  | .list _ | .table _ => true
  | _ => false

/-- Moves the pending tables to the opened ones, as each header does. -/
def settle (d : Draft) : Draft := { d with opened := d.pending ++ d.opened, pending := [] }

/-- Opens a table by its header. -/
def openTable? (d : Draft) (path : Path) : Option Draft :=
  let d := d.settle
  if d.isOpened path || d.isClosed path then none
  else
    (changeAt? true some path d.root).map fun root => { d with root, opened := path :: d.opened }

/-- Opens a new table at the end of a list of tables by its header. -/
def openItem? (d : Draft) (parent : Path) (key : String) : Option Draft :=
  let path := parent ++ [key]
  let d := d.settle
  if d.isClosed path then none
  else
    let kept (paths : List Path) := paths.filter fun p => !path.isPrefixOf p
    (changeAt? true (appendTable? key) parent d.root).map fun root =>
      { d with root, opened := path :: kept d.opened, closed := kept d.closed }

/-- The paths from the root of the tables that a dotted key passes through. -/
def passed (header : Path) : Path → List Path
  | [] => []
  | k :: rest => (header ++ [k]) :: passed (header ++ [k]) rest

/-- Sets a key below the header: `parent` is the dotted part in front of it. -/
def assign? (d : Draft) (header parent : Path) (key : String) (value : Value) : Option Draft :=
  let through := passed header parent
  let path := header ++ parent
  if through.any d.isOpened || d.isClosed path then none
  else
    (changeAt? true (insertNew? key value) path d.root).map fun root =>
      { d with
        root
        pending := through ++ d.pending
        closed := if closes value then (path ++ [key]) :: d.closed else d.closed }

/-- Sets a key of an inline table: `parent` is the dotted part in front of it. -/
def assignInline? (d : Draft) (parent : Path) (key : String) (value : Value) : Option Draft :=
  let path := parent ++ [key]
  if d.isClosed path then none
  else
    (changeAt? false (insertNew? key value) parent d.root).map fun root =>
      { d with root, closed := if closes value then path :: d.closed else d.closed }

end Draft

end AccountSidecar.Toml
