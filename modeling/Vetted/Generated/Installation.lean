import Vetted.Generated.Output

namespace Vetted.Generated

open FileSystem (temporaryName)

def isDrawnLetter (c : Char) : Bool := c.isLower || c.isDigit || c = '_'

structure Lot where
  letters : List Char
  length_eq : letters.length = FileSystem.drawnLength
  drawn : letters.all isDrawnLetter = true

def Lot.blank : Lot := ⟨List.replicate FileSystem.drawnLength '_', rfl, by decide⟩

def Lot.nameFor (lot : Lot) (p : Path) : String := "." ++ p.stem ++ "." ++ String.ofList lot.letters ++ ".tmp"

inductive Call where
  | look
  | openTarget
  | makeDirectory (p : Path)
  | openBeside
  | fill
  | setMode
  | move
  | lookBeside
  | remove
deriving Repr, DecidableEq

/-- The numbers by which the system says that there is nothing at a path. That is an answer and no refusal. -/
def absences : List Nat := [2, 9, 20, 40]

structure Refusal where
  number : Nat
  reason : String
  denied : number ∉ absences
deriving Repr, DecidableEq

structure System where
  refusal? : FileSystem → Call → Option Refusal
  lots : List Lot

def System.obliging (lots : List Lot) : System := ⟨fun _ _ => none, lots⟩

def System.plain : System := .obliging [.blank]

def System.ask (sys : System) (fs : FileSystem) (call : Call) (path : String) (target : Option String := none) :
    Except FileFault Unit :=
  match sys.refusal? fs call with
  | some r => .error ⟨.refused r.number r.reason, path, target⟩
  | none => .ok ()

def mayInstall (sys : System) (fs : FileSystem) (p : Path) (overwrite : Bool) : Except Failure Bool := do
  (sys.ask fs .look p.text).mapError .fileFault
  let present ← (fs.isPresent p).mapError .fileFault
  if !present || overwrite then return true
  else
    match sys.ask fs .openTarget p.text with
    | .ok () => isMarked fs p
    | .error _ => return false

def makeDirectory (sys : System) (fs : FileSystem) (p : Path) : Except FileFault FileSystem := do
  sys.ask fs (.makeDirectory p) p.text
  fs.createDirectory p

def kept (fs : FileSystem) : Except FileFault FileSystem → FileSystem × Option FileFault
  | .ok made => (made, none)
  | .error fault => (fs, some fault)

/-- Makes a directory and those above it, as far as they are missing. The directory is given by its names from the
last to the first, and what was made above it stays if it cannot be made itself. -/
def makeDirectories (sys : System) (root : String) (fs : FileSystem) : List String → FileSystem × Option FileFault
  | [] =>
    match makeDirectory sys fs ⟨root, []⟩ with
    | .error fault => kept fs (if fault.kind = .missing then .error fault else fs.settled ⟨root, []⟩ (.error fault))
    | .ok made => (made, none)
  | name :: above =>
    let p : Path := ⟨root, (name :: above).reverse⟩
    match makeDirectory sys fs p with
    | .ok made => (made, none)
    | .error fault =>
      if fault.kind = .missing then
        match makeDirectories sys root fs above with
        | (made, none) => kept made (made.settled p (makeDirectory sys made p))
        | (made, some fault) => (made, some fault)
      else kept fs (fs.settled p (.error fault))

def openBeside (sys : System) (fs : FileSystem) (p : Path) : Except FileFault Place :=
  match fs.temporaryFault? p with
  | some fault => .error fault
  | none => do
    sys.ask fs .openBeside temporaryName
    let directory ← (fs.locate p.parent).mapError fun kind => ⟨kind, temporaryName, none⟩
    match sys.lots.find? fun lot => (fs.node? (directory ++ [lot.nameFor p])).isNone with
    | some lot => .ok (directory ++ [lot.nameFor p])
    | none => .error ⟨.exists, temporaryName, none⟩

structure Installed where
  files : FileSystem
  failure? : Option Failure := none

def moveIn (sys : System) (fs : FileSystem) (beside : Place) (p : Path) (bytes : List UInt8) :
    Except FileFault FileSystem := do
  sys.ask (fs.put beside (.file [])) .fill temporaryName
  sys.ask (fs.put beside (.file bytes)) .setMode temporaryName
  let moved ← ((fs.put beside (.file bytes)).erase beside).replace p bytes
  sys.ask (fs.put beside (.file bytes)) .move temporaryName p.text
  return moved

def withdraw (sys : System) (fs : FileSystem) (beside : Place) (p : Path) (fault : FileFault) : Installed :=
  match sys.ask fs .lookBeside temporaryName with
  | .error _ => ⟨fs, some (unwritable p fault)⟩
  | .ok () =>
    match sys.ask fs .remove temporaryName with
    | .error second => ⟨fs, some (.fileFault second)⟩
    | .ok () => ⟨fs.erase beside, some (unwritable p fault)⟩

/-- Installs a file from a new one beside it. That one stays if its text cannot be encoded or its target cannot be
told to the system. -/
def installBeside (sys : System) (fs : FileSystem) (beside : Place) (p : Path) (content : String) : Installed :=
  match Text.halfFault? Text.isHalf content with
  | some fault => ⟨fs.put beside (.file []), some (.unencodable fault)⟩
  | none =>
    let filled := fs.put beside (.file (Text.encodeUtf8 content))
    match moveIn sys fs beside p (Text.encodeUtf8 content) with
    | .ok moved => ⟨moved, none⟩
    | .error fault =>
      if fault.kind.isReported then withdraw sys filled beside p fault else ⟨filled, some (unwritable p fault)⟩

def install (sys : System) (fs : FileSystem) (p : Path) (content : String) (overwrite : Bool := false) : Installed :=
  match mayInstall sys fs p overwrite with
  | .error failure => ⟨fs, some failure⟩
  | .ok false => ⟨fs, some (.unmarkedOutput p.text)⟩
  | .ok true =>
    match makeDirectories sys p.root fs p.parent.parts.reverse with
    | (made, some fault) => ⟨made, some (.fileFault fault)⟩
    | (made, none) =>
      match openBeside sys made p with
      | .error fault => ⟨made, some (.fileFault fault)⟩
      | .ok beside => installBeside sys made beside p content

end Vetted.Generated
