import Vetted.Proofs.Variants

namespace Vetted.Proofs.VariantLoading

open Domain Generated Source DefinedNames GeneratedProgram Resolution Sequence Variants

variable {exports : Exports} {imports : List String} {p q : Program} {m : Declaration.Module} {records : List Record}

/-- A name that means the same whichever of some names are defined, in a class or outside. -/
def IsFree (defined : List String) (name : String) : Prop :=
  name ∉ defined ∧ name ≠ "NewType" ∧ Text.startsWith name "__" = false

/-- A type that takes nothing from names that are defined. -/
def Independent (defined : List String) (type : String) : Prop :=
  IsFree defined type ∧ ∀ a ∈ typeAccesses type, IsFree defined a.name

theorem IsFree.mono {defined names : List String} {name : String} (h : IsFree defined name)
    (hsubset : names ⊆ defined) : IsFree names name := ⟨fun hmem => h.1 (hsubset hmem), h.2⟩

theorem Independent.mono {defined names : List String} {type : String} (h : Independent defined type)
    (hsubset : names ⊆ defined) : Independent names type := ⟨h.1.mono hsubset, fun a ha => (h.2 a ha).mono hsubset⟩

open InputClasses (lookup_eq_none)

def outcome : Option LoadFault → Except LoadFault Unit
  | some fault => .error fault
  | none => .ok ()

end Vetted.Proofs.VariantLoading
