import Vetted.FileFault
import Vetted.Path

namespace Vetted

abbrev Place := List String

inductive Node where
  | file (bytes : List UInt8)
  | directory
deriving Repr, DecidableEq, Inhabited

def Node.mode : Node → Nat
  | .file _ => 0o644
  | .directory => 0o755

structure FileSystem where
  workingDirectory : Place
  nodes : List (Place × Node) := []
deriving Repr, Inhabited

namespace FileSystem

def node? (fs : FileSystem) (place : Place) : Option Node :=
  if place.isEmpty then some .directory else fs.nodes.lookup place

def put (fs : FileSystem) (place : Place) (node : Node) : FileSystem :=
  { fs with nodes := (place, node) :: fs.nodes.filter (·.1 ≠ place) }

def erase (fs : FileSystem) (place : Place) : FileSystem := { fs with nodes := fs.nodes.filter (·.1 ≠ place) }

def remove (fs : FileSystem) (place : Place) : FileSystem :=
  { fs with nodes := fs.nodes.filter fun n => !place.isPrefixOf n.1 }

def start (fs : FileSystem) (p : Path) : Place := if p.isAbsolute then [] else fs.workingDirectory

def maxName : Nat := 255

def maxPath : Nat := 4095

def flaw? (p : Path) : Option FileFaultKind :=
  let cs := p.text.toList
  if cs.any isBadHalf then some .unencodable
  else if cs.contains '\x00' then some .nullByte
  else if maxPath < p.text.utf8ByteSize then some .tooLong
  else none

def follow (fs : FileSystem) (here : Place) : List String → Except FileFaultKind Place
  | [] => .ok here
  | part :: rest =>
    match fs.node? here with
    | none => .error .missing
    | some (.file _) => .error .notDirectory
    | some .directory =>
      if part = ".." then follow fs here.dropLast rest
      else if maxName < part.utf8ByteSize then .error .tooLong
      else if (fs.node? (here ++ [part])).isSome then follow fs (here ++ [part]) rest
      else .error .missing

def locate (fs : FileSystem) (p : Path) : Except FileFaultKind Place :=
  match flaw? p with
  | some kind => .error kind
  | none => fs.follow (fs.start p) p.parts

def endsInName (p : Path) : Bool := !p.name.isEmpty && p.name ≠ ".."

/-- The place of a file or directory that may be missing; its directory must be there. -/
def target (fs : FileSystem) (p : Path) : Except FileFaultKind Place :=
  match flaw? p with
  | some kind => .error kind
  | none =>
    if endsInName p then do
      let directory ← fs.locate p.parent
      match fs.node? directory with
      | some .directory => if maxName < p.name.utf8ByteSize then .error .tooLong else .ok (directory ++ [p.name])
      | _ => .error .notDirectory
    else fs.locate p

/-- What stands at a path. That a path leads nowhere is no fault, but that it is too long is one. -/
def at? (fs : FileSystem) (p : Path) : Except FileFault (Option Node) :=
  match fs.locate p with
  | .ok place => .ok (fs.node? place)
  | .error .tooLong => .error ⟨.tooLong, p.text, none⟩
  | .error _ => .ok none

def isPresent (fs : FileSystem) (p : Path) : Except FileFault Bool := (fs.at? p).map Option.isSome

def isFile (fs : FileSystem) (p : Path) : Except FileFault Bool :=
  (fs.at? p).map fun
    | some (.file _) => true
    | _ => false

def isDirectory (fs : FileSystem) (p : Path) : Bool :=
  match fs.locate p with
  | .ok place => fs.node? place = some .directory
  | .error _ => false

def read (fs : FileSystem) (p : Path) : Except FileFault (List UInt8) :=
  match fs.locate p with
  | .error kind => .error ⟨kind, p.text, none⟩
  | .ok place =>
    match fs.node? place with
    | some (.file bytes) => .ok bytes
    | _ => .error ⟨.isDirectory, p.text, none⟩

def createDirectory (fs : FileSystem) (p : Path) : Except FileFault FileSystem :=
  match fs.target p with
  | .error kind => .error ⟨kind, p.text, none⟩
  | .ok place =>
    if (fs.node? place).isSome then .error ⟨.exists, p.text, none⟩ else .ok (fs.put place .directory)

/-- The file system in which a directory is there, given a try to make it: the fault stands unless it was there
before. -/
def settled (fs : FileSystem) (p : Path) : Except FileFault FileSystem → Except FileFault FileSystem
  | .ok made => .ok made
  | .error fault => if fault.kind ≠ .missing && fs.isDirectory p then .ok fs else .error fault

def createDirectories (fs : FileSystem) (p : Path) : Except FileFault FileSystem :=
  match fs.createDirectory p with
  | .ok made => .ok made
  | .error fault =>
    if fault.kind = .missing then
      if _ : p.parts = [] then .error fault
      else do
        let above ← createDirectories fs p.parent
        above.settled p (above.createDirectory p)
    else fs.settled p (.error fault)
termination_by p.parts.length
decreasing_by
  have := List.length_pos_iff.2 ‹¬p.parts = []›
  simp [Path.parent]
  omega

/-- How a file that is written beside its target, to take its place in one step, is called in messages. -/
def temporaryName : String := "<TMP>"

def drawnLength : Nat := 8

/-- What keeps a file from being written beside its target first, in a directory that is there. -/
def temporaryFault? (fs : FileSystem) (p : Path) : Option FileFault :=
  let name := "." ++ p.stem ++ "." ++ Text.repeated drawnLength '_' ++ ".tmp"
  let path : Path := ⟨"/", fs.start p ++ p.parent.parts ++ [name]⟩
  match flaw? path with
  | some kind => some ⟨kind, if kind.isReported then temporaryName else path.text, none⟩
  | none => if maxName < name.utf8ByteSize then some ⟨.tooLong, temporaryName, none⟩ else none

def replace (fs : FileSystem) (p : Path) (bytes : List UInt8) : Except FileFault FileSystem :=
  match fs.target p with
  | .error kind => .error ⟨kind, temporaryName, some p.text⟩
  | .ok place =>
    if !endsInName p then .error ⟨.busy, temporaryName, some p.text⟩
    else if fs.node? place = some .directory then .error ⟨.isDirectory, temporaryName, some p.text⟩
    else .ok (fs.put place (.file bytes))

def writeFile (fs : FileSystem) (p : Path) (bytes : List UInt8) : Except FileFault FileSystem := do
  (← fs.createDirectories p.parent).replace p bytes

def delete (fs : FileSystem) (p : Path) : Except FileFault FileSystem :=
  match fs.locate p with
  | .ok place => .ok (fs.remove place)
  | .error kind => .error ⟨kind, p.text, none⟩

def resolveFrom (here : Place) : List String → Place
  | [] => here
  | part :: rest => if part = ".." then resolveFrom here.dropLast rest else resolveFrom (here ++ [part]) rest

def absolute (fs : FileSystem) (p : Path) : Path := ⟨"/", resolveFrom (fs.start p) p.parts⟩

/-- The absolute path of a path, without ways up, if the system can be asked about it. -/
def resolve (fs : FileSystem) (p : Path) : Except FileFault Path :=
  match flaw? p with
  | some .tooLong | none => .ok (fs.absolute p)
  | some kind => .error ⟨kind, p.text, none⟩

def files (fs : FileSystem) : List Place :=
  fs.nodes.filterMap fun (place, node) =>
    match node with
    | .file _ => some place
    | .directory => none

def listing (fs : FileSystem) : List String :=
  Text.sortTexts (fs.files.filterMap fun place => (dropStart fs.workingDirectory place).map ("/".intercalate ·))
where
  dropStart : Place → Place → Option Place
    | [], place => some place
    | a :: as, b :: bs => if a = b then dropStart as bs else none
    | _ :: _, [] => none

def placesTo : Place → List Place
  | [] => []
  | name :: rest => [name] :: (placesTo rest).map (name :: ·)

def ofWorkingDirectory (place : Place) : FileSystem where
  workingDirectory := place
  nodes := (placesTo place).map fun p => (p, .directory)

end FileSystem

end Vetted
