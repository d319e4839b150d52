import Vetted.Command.Run

namespace Vetted.Machine

def textOf (place : Place) : String := "/" ++ "/".intercalate place

def node? (place : Place) : IO (Option Node) := do
  try
    let _ ← IO.FS.Handle.mk (textOf place ++ "/.") .read
    return some .directory
  catch _ =>
    try
      return some (.file (← IO.FS.readBinFile (textOf place)).toList)
    catch _ => return none

/-- Adds to a picture what stands at a path and on the way there. -/
def look (fs : FileSystem) (p : Path) : IO FileSystem := do
  let mut fs := fs
  for place in FileSystem.placesTo (fs.absolute p).parts do
    if (fs.node? place).isNone then
      if let some node ← node? place then fs := fs.put place node
  return fs

def lookAll (fs : FileSystem) (ps : List Path) : IO FileSystem := ps.foldlM look fs

def picture (directory : Place) (r : Command.Request) : IO FileSystem := do
  let fs ← lookAll (.ofWorkingDirectory directory) (r.config.toList.map Path.ofText)
  match (Command.prepare fs r).result with
  | .ok (settings, _) => lookAll fs (Generation.reads fs settings)
  | .error _ => return fs

def writeFile (place : Place) (bytes : List UInt8) : IO Unit := do
  let target := textOf place
  IO.FS.createDirAll (textOf place.dropLast)
  IO.FS.writeBinFile (target ++ ".tmp") ⟨bytes.toArray⟩
  IO.FS.rename (target ++ ".tmp") target

def update (old new : FileSystem) : IO Unit := do
  for (place, node) in new.nodes.reverse do
    if let .file bytes := node then
      if old.node? place ≠ some node then writeFile place bytes

end Vetted.Machine

open Vetted in
def main (args : List String) : IO UInt32 := do
  let directory := (Path.ofText (← IO.currentDir).toString).parts
  let fs ← match Command.parse args with
    | .ok r => Machine.picture directory r
    | .error _ => pure (.ofWorkingDirectory directory)
  let (after, result) := Command.run (fun _ => .plain) fs args (← (← IO.getStderr).isTty)
  Machine.update fs after
  match result with
  | .ok f =>
    IO.print f.stdout
    IO.eprint f.stderr
    return f.exit.toUInt32
  | .error failure =>
    IO.eprintln failure.plainMessage
    return 1
