import Vetted.Text.Quoted

namespace Vetted

structure Path where
  root : String
  parts : List String
deriving Repr, DecidableEq, Inhabited

/-- Why a file name cannot be changed. -/
inductive PathFault where
  | emptyName (path : Path)
  | invalidName (name : String)
deriving Repr, DecidableEq, Inhabited

namespace Path

def rootOf (cs : List Char) : String :=
  match cs with
  | '/' :: '/' :: '/' :: _ => "/"
  | '/' :: '/' :: _ => "//"
  | '/' :: _ => "/"
  | _ => ""

def partsOf (s : String) : List String := (Text.splitOnChar '/' s).filter fun p => p ≠ "" && p ≠ "."

def ofText (s : String) : Path := ⟨rootOf s.toList, partsOf s⟩

def text (p : Path) : String :=
  if p.root.isEmpty && p.parts.isEmpty then "." else p.root ++ "/".intercalate p.parts

def isAbsolute (p : Path) : Bool := !p.root.isEmpty

def name (p : Path) : String := p.parts.getLast?.getD ""

def parent (p : Path) : Path := { p with parts := p.parts.dropLast }

def child (p : Path) (part : String) : Path := { p with parts := p.parts ++ [part] }

/-- A path seen from another; an absolute one stands alone. -/
def join (base p : Path) : Path := if p.isAbsolute then p else { base with parts := base.parts ++ p.parts }

/-- A file name without its extension; a point at either end does not count. -/
def stemOf (name : String) : String :=
  let cs := name.toList
  let after := cs.reverse.takeWhile (· ≠ '.')
  let place := cs.length - after.length - 1
  if after.length < cs.length && 0 < place && place < cs.length - 1 then String.ofList (cs.take place) else name

def stem (p : Path) : String := stemOf p.name

def withName (p : Path) (name : String) : Except PathFault Path :=
  if p.name.isEmpty then .error (.emptyName p)
  else
    let q := ofText name
    if name.isEmpty || Text.endsWith name "/" || !q.root.isEmpty || q.parts.length ≠ 1 then .error (.invalidName name)
    else .ok { p with parts := p.parts.dropLast ++ [name] }

def keys (p : Path) : List String := if p.root.isEmpty then p.parts else p.root :: p.parts

def listAtMost : List String → List String → Bool
  | [], _ => true
  | _ :: _, [] => false
  | a :: as, b :: bs => if a = b then listAtMost as bs else a < b

def atMost (p q : Path) : Bool := listAtMost p.keys q.keys

end Path

def PathFault.message : PathFault → String
  | .emptyName p => "PosixPath(" ++ Text.quote p.text ++ ") has an empty name"
  | .invalidName name => "Invalid name " ++ Text.quote name

end Vetted
