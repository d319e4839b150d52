import Vetted.Generation
import Vetted.Proofs.FilePlaces
import Vetted.Proofs.InputOrder
import Vetted.Proofs.SettingsReading
import Vetted.Proofs.TextPieces

namespace Vetted.Proofs.OutputNames

open FilePlaces FileSystem Generation Sequence SettingsReading TextPieces

variable {p : Path} {s : Settings}

theorem isSuffix_iff {suffix : String} :
    Settings.isSuffix suffix = true ↔ suffix ≠ "" ∧ ∀ c ∈ suffix.toList, c = '_' ∨ Text.isAlphanumeric c = true := by
  simp [Settings.isSuffix]

def Tellable (c : Char) : Prop := isBadHalf c = false ∧ c ≠ '\x00'

end Vetted.Proofs.OutputNames
