import AccountSidecar.CommandLine.Run

/-!
# The admin tool

The admin tool on a real disk and terminal. It takes a picture of the places that a command works
on, runs the command on the picture and then makes the disk agree with the outcome. Since a run is
a function, it is first tried without answers to see whether it asks for any.
-/

namespace AccountSidecar.AdminTool

open Storage CommandLine

/-- What stands at a location on the disk. What is there but cannot be read as a file counts as a
directory: nothing can be written over it either. -/
def nodeOnDisk (l : Location) : IO (Option Node) := do
  match ← (IO.FS.readBinFile l.toText).toBaseIO with
  | .ok content => return some (.file content)
  | .error _ =>
    match ← (IO.FS.realPath l.toText).toBaseIO with
    | .ok place => return if ← place.pathExists then some .directory else none
    | .error _ => return none

/-- A location with all that lead to it, those nearest the top first. -/
def leadingTo (l : Location) : List Location := (List.range l.length).map fun n => l.take (n + 1)

/-- The locations that a command on the files of a deployment may read or change. -/
def placesOf (d : Deployment) : List Location :=
  [d.usersFile, d.usersFile.temporary, d.metadataFile, d.metadataFile.temporary].flatMap leadingTo

/-- A picture of locations on the disk. -/
def takePicture (places : List Location) : IO FileTree :=
  places.foldlM (fun t l => return match ← nodeOnDisk l with
    | some n => t.set l n
    | none => t) FileTree.empty

/-- Makes a location on the disk agree with a tree that differs from the picture of the disk. A
file gets its content in one step. -/
def settleOnDisk (before after : FileTree) (l : Location) : IO Unit := do
  match before.node? l, after.node? l with
  | none, some .directory => IO.FS.createDirAll l.toText
  | old, some (.file content) =>
    let unchanged := match old with
      | some (.file c) => c == content
      | _ => false
    if !unchanged then
      IO.FS.writeBinFile l.temporary.toText content
      IO.FS.rename l.temporary.toText l.toText
  | _, _ => pure ()

/-- The variables of the environment that the tool looks at. -/
def environment : IO (Keyed String) := do
  let read (name : String) : IO (Keyed String) := return match ← IO.getEnv name with
    | some value => [(name, value)]
    | none => []
  return (← read "USERS_FILE_PATH") ++ (← read "USERS_TOML")

/-- Sources that give a fresh salt. -/
def freshSources : IO Sources := do
  let bytes ← IO.getRandomBytes 16
  return { (default : Sources) with
    salt := fun _ => Password.saltOf Password.defaultCost bytes.toList }

/-- Whether a command reads the input. -/
def readsInput : Option Command → Bool
  | some (.add _ fromInput) | some (.setPassword _ fromInput) => fromInput
  | _ => false

/-- Shows a prompt and reads the answer. -/
def ask (prompt : String) : IO String := do
  IO.eprint prompt
  let line ← (← IO.getStdin).getLine
  return String.ofList ((Text.recordLines line.toList).headD [])

/-- Shows a report and returns its code. -/
def display (r : Report) : IO UInt32 := do
  IO.print r.output
  IO.eprint r.errors
  return UInt32.ofNat r.code

/-- Does on the disk what an invocation asks for. -/
def perform (i : Invocation) : IO Report := do
  let sources ← freshSources
  let places := placesOf (i.deployment sources)
  let before ← takePicture places
  let run (t : Terminal) : Except Failure Report × World :=
    (i.perform sources t).runIn { files := before }
  let input ← if readsInput i.command then (← IO.getStdin).getLine else pure ""
  let asked := match (run { input }).1 with
    | .ok r => r.asked
    | .error _ => []
  let (result, after) := run { input, answers := ← asked.mapM ask }
  places.forM (settleOnDisk before after.files)
  match result with
  | .ok r => return r
  | .error _ => return .failed "the stored data cannot be used"

end AccountSidecar.AdminTool

open AccountSidecar CommandLine in
/-- Runs the admin tool. -/
def main (args : List String) : IO UInt32 := do
  match Invocation.read (← AdminTool.environment) args with
  | .error stop => AdminTool.display stop.report
  | .ok i =>
    match ← (AdminTool.perform i).toBaseIO with
    | .ok r => AdminTool.display r
    | .error e => AdminTool.display (.failed (toString e))
