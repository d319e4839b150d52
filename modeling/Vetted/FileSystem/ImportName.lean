import Vetted.Failure
import Vetted.FileSystem

namespace Vetted.FileSystem

def isPackage (fs : FileSystem) (directory : Place) : Except FileFault Bool :=
  fs.isFile ⟨"/", directory ++ ["__init__.py"]⟩

def packages (fs : FileSystem) : List String → Except FileFault (Option (List String))
  | [] => do return if ← fs.isPackage [] then none else some []
  | name :: above => do
    if ← fs.isPackage (name :: above).reverse then return (← packages fs above).map (name :: ·) else return some []

def importName (fs : FileSystem) (p : Path) : Except Failure String := do
  let path ← (fs.resolve p).mapError .fileFault
  match ← (fs.packages path.parent.parts.reverse).mapError .fileFault with
  | some packages => return ".".intercalate (packages.reverse ++ [path.stem])
  | none => .error (.packageRoot p.text)

end Vetted.FileSystem
