import Vetted.Command.Run
import Vetted.Proofs.UnreportedFailure

namespace Vetted.Proofs.CommandExit

open Command FilePlaces FileSystem Generation OutputNames Sequence UnreportedFailure
open Generated (System)

variable {sys : Nat → System} {fs : FileSystem} {r : Request} {e : Failure}

def nameFault? (p : Path) : Option FileFault :=
  match flaw? p with
  | some kind => if kind.isReported then none else some ⟨kind, p.text, none⟩
  | none => none

def itemFault? (directory : Path) : Value → Option FileFault
  | .text file => nameFault? (directory.join (Path.ofText file))
  | _ => none

end Vetted.Proofs.CommandExit
