import Vetted.Proofs.UnreportedFailure

namespace Vetted.Proofs.PackageChain

open FilePlaces FileSystem OutputNames Sequence UnreportedFailure

variable {fs : FileSystem} {p path : Path} {directory above : Place} {name : String} {fault : FileFault}

/-- The directory that comes next, and the names so far, from the source's own to that of the last package. -/
structure Walk where
  directory : Path
  names : List String

namespace Walk

def up (w : Walk) : Walk := ⟨w.directory.parent, w.names ++ [w.directory.name]⟩

end Walk

def Passable (fs : FileSystem) (place : Place) : Prop := ∀ upper, upper <+: place → fs.node? upper = some .directory

def Plain (name : String) : Prop := name ≠ ".." ∧ ∀ c ∈ name.toList, Tellable c

/-- A directory that is there and holds a regular file of the name that marks packages. -/
structure HasMark (fs : FileSystem) (directory : Place) : Prop where
  way : Passable fs directory
  file : ∃ bytes, fs.node? (directory ++ ["__init__.py"]) = some (.file bytes)

/-- The names of the packages that a directory is in: each of them has a mark, down to the directory itself, and the
directory above them has none. -/
def IsChain (fs : FileSystem) (directory : Place) (chain : List String) : Prop :=
  ∃ outer, directory = outer ++ chain ∧ ¬HasMark fs outer ∧
    ∀ place, outer <+: place → place ≠ outer → place <+: directory → HasMark fs place

end Vetted.Proofs.PackageChain
