import Vetted.Failure
import Vetted.Layout.Format

namespace Vetted.Generated

def defaultLineLength : Nat := 120

def formatted (path : Path) (lineLength : Nat) (code : String) : Except Failure String :=
  match Layout.format lineLength code with
  | some text => .ok text
  | none => .error (.invalidCode path.text)

end Vetted.Generated
