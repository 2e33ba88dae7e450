import AccountSidecar.Text.Split

/-!
# File trees

A file tree says what stands at each location. Its operations fail where a real file system would:
a file cannot be written where a directory stands or where its directory is missing, nothing can be
made below a file, a location may refuse whatever is put there, and of some locations it is not even
told whether anything stands there. An operation that fails changes nothing.

A location is the list of names that lead to a file from the working directory. One that starts with
`"/"` leads from the root. A last name `..` is that of the directory above; inside a location it is
a name like any other.
-/

namespace AccountSidecar.Storage

/-- The names that lead to a file or a directory. -/
abbrev Location := List String

namespace Location

/-- The location that a path writes. Empty names and single dots lead nowhere. -/
def ofText (path : String) : Location :=
  let names := (Text.pieces '/' path.toList).map String.ofList
  let kept := names.filter fun n => n != "" && n != "."
  if path.startsWith "/" then "/" :: kept else kept

/-- The path that writes a location. -/
def toText : Location → String
  | [] => "."
  | "/" :: names => "/" ++ Text.joinWith "/" names
  | names => Text.joinWith "/" names

/-- Whether the last name leads back to the directory above, where no file can be put. -/
def isBack (l : Location) : Bool := l.getLast? = some ".."

/-- The directory that holds the location. -/
def parent (l : Location) : Location := l.dropLast

/-- The last name, empty for the working directory and the root. -/
def name (l : Location) : String := if l = ["/"] then "" else l.getLast?.getD ""

/-- The location beside this one where new content is prepared. -/
def temporary (l : Location) : Location := l.parent ++ [l.name ++ ".tmp"]

end Location

/-- What stands at a location. -/
inductive Node where
  | file (content : ByteArray)
  /-- A directory, or whatever else cannot be read as a file. -/
  | directory

/-- What stands at each location; the working directory always exists. -/
structure FileTree where
  /-- The node at a location, if there is one. -/
  node? : Location → Option Node
  /-- Whether nothing can be put at a location, be it for want of permission or of space. -/
  refuses : Location → Bool := fun _ => false
  /-- Whether it is not told what stands at a location: a directory that leads there is closed to
  the one who asks, the name is too long, or the disk fails. Nothing can be put there either. -/
  hides : Location → Bool := fun _ => false

/-- What somebody gets who asks for the file at a location. -/
inductive Look where
  /-- Not even whether there is one. -/
  | hidden
  | nothing
  | unreadable
  | content (c : ByteArray)

namespace FileTree

/-- The tree without files. -/
def empty : FileTree where
  node? l := if l.isEmpty || l = ["/"] then some .directory else none

instance : Inhabited FileTree := ⟨empty⟩

/-- Puts a node at a location. -/
def set (t : FileTree) (l : Location) (n : Node) : FileTree :=
  { t with node? := fun m => if m = l then some n else t.node? m }

/-- Whether anything stands at the location. -/
def contains (t : FileTree) (l : Location) : Bool := (t.node? l).isSome

/-- Whether a directory stands at the location. -/
def isDirectory (t : FileTree) (l : Location) : Bool :=
  match t.node? l with
  | some .directory => true
  | _ => false

/-- Whether no file can be put at the location. -/
def isBlocked (t : FileTree) (l : Location) : Bool :=
  t.isDirectory l || t.refuses l || t.hides l || l.isBack

/-- What stands at the location, and whether that is hidden. -/
def place (t : FileTree) (l : Location) : Option Node × Bool := (t.node? l, t.hides l)

/-- What comes of asking for the file at the location. -/
def look (t : FileTree) (l : Location) : Look :=
  match t.place l with
  | (_, true) => .hidden
  | (none, false) => .nothing
  | (some .directory, false) => .unreadable
  | (some (.file content), false) => .content content

/-- The content of the file at the location. -/
def content? (t : FileTree) (l : Location) : Option ByteArray :=
  match t.node? l with
  | some (.file content) => some content
  | _ => none

/-- Makes the directories of a path below one that exists, as far as they are missing. -/
def makeBelow? (t : FileTree) (base : Location) : List String → Option FileTree
  | [] => some t
  | name :: rest =>
    let l := base ++ [name]
    match t.node? l with
    | some (.file _) => none
    | some .directory => if t.hides l then none else makeBelow? t l rest
    | none =>
      if t.refuses l || t.hides l then none else makeBelow? (t.set l .directory) l rest

/-- Makes a directory and those above it, as far as they are missing. -/
def makeDirectories? (t : FileTree) (l : Location) : Option FileTree := makeBelow? t [] l

/-- Writes a file, new or in place of another. -/
def write? (t : FileTree) (l : Location) (content : ByteArray) : Option FileTree :=
  if t.isBlocked l || !t.isDirectory l.parent then none else some (t.set l (.file content))

/-- Removes whatever stands at a location, with everything below it. -/
def remove (t : FileTree) (l : Location) : FileTree :=
  { t with node? := fun m => if l.isPrefixOf m then none else t.node? m }

/-- Moves a file onto a location where a file can be put. -/
def rename? (t : FileTree) (source target : Location) : Option FileTree :=
  match t.node? source with
  | some (.file content) =>
    if t.isBlocked target || !t.isDirectory target.parent then none
    else some ((t.remove source).set target (.file content))
  | _ => none

end FileTree

end AccountSidecar.Storage
