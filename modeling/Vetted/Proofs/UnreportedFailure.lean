import Mathlib.Data.List.Induction
import Vetted.Proofs.GeneratedProgram
import Vetted.Proofs.GenerationFailure
import Vetted.Proofs.OutputNames

namespace Vetted.Proofs.UnreportedFailure

open FilePlaces FileSystem GenerationFailure Generation InstalledFile OutputNames Sequence
open Generated (Call Refusal System install installBeside makeDirectories mayInstall moveIn openBeside unwritable
  withdraw)

variable {fs : FileSystem} {s : Settings} {g : Registry} {p : Path} {e : Failure}

def Declares (fs : FileSystem) (s : Settings) (p : Path) : Prop :=
  ∃ text body records, fs.readText p = .ok text ∧ '\x00' ∉ text.toList ∧ Source.statements text = .ok body ∧
    Declaration.recordsOf s.inputSuffix body = .ok records

def mark (directory : Place) : Path := ⟨"/", directory ++ ["__init__.py"]⟩

variable {m : Rendered} {q : Path}

/-- What keeps a file from being compared with its module: its path is too long, or it is no text. -/
inductive LookEscapes (fs : FileSystem) (q : Path) : Failure → Prop where
  | long (long : fs.locate q = .error .tooLong) : LookEscapes fs q (.fileFault ⟨.tooLong, q.text, none⟩)
  | bytes {bytes : List UInt8} {fault : Text.Utf8Fault} (read : fs.read q = .ok bytes)
      (decode : Text.decodeUtf8 bytes = .error fault) : LookEscapes fs q (.undecodable fault)

theorem LookEscapes.report? (h : LookEscapes fs q e) : e.report? = none := by
  cases h <;> rfl

variable {sys : System} {content : String} {overwrite : Bool}

/-- What a rendered module promises of its path: a directory to go into, and a name that can be told if a file can be
made beside it. -/
structure Ready (fs : FileSystem) (m : Rendered) : Prop extends HasDirectory fs m.output where
  told : fs.temporaryFault? m.output = none → ∀ c ∈ m.output.text.toList, Tellable c

theorem Ready.mono {after : FileSystem} (h : Ready fs m) (hsame : SameDirectories fs after) : Ready after m where
  toHasDirectory := h.toHasDirectory.mono hsame
  told := by
    have htold := h.told
    rw [temporaryFault?] at htold ⊢
    rwa [hsame.start_eq]

end Vetted.Proofs.UnreportedFailure
