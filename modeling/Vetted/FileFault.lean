import Vetted.Text.Quoted

namespace Vetted

inductive FileFaultKind where
  | missing
  | busy
  | exists
  | notDirectory
  | isDirectory
  | tooLong
  | nullByte
  | unencodable
  | refused (number : Nat) (reason : String)
deriving Repr, DecidableEq, Inhabited

/-- A failed file operation. `target` is the second path of an operation on two. -/
structure FileFault where
  kind : FileFaultKind
  path : String
  target : Option String := none
deriving Repr, DecidableEq, Inhabited

def FileFaultKind.isReported : FileFaultKind → Bool
  | .nullByte | .unencodable => false
  | _ => true

def FileFaultKind.number : FileFaultKind → Nat
  | .missing => 2
  | .busy => 16
  | .exists => 17
  | .notDirectory => 20
  | .isDirectory => 21
  | .tooLong => 36
  | .nullByte | .unencodable => 0
  | .refused number _ => number

def FileFaultKind.describe : FileFaultKind → String
  | .missing => "No such file or directory"
  | .busy => "Device or resource busy"
  | .exists => "File exists"
  | .notDirectory => "Not a directory"
  | .isDirectory => "Is a directory"
  | .tooLong => "File name too long"
  | .nullByte => "embedded null byte"
  | .unencodable => "not encodable"
  | .refused _ reason => reason

def isBadHalf (c : Char) : Bool := Text.isHalf c && !(0xdc80 ≤ Text.codePoint c && Text.codePoint c ≤ 0xdcff)

def FileFault.systemMessage (f : FileFault) : String :=
  "[Errno " ++ toString f.kind.number ++ "] " ++ f.kind.describe ++ ": " ++ Text.quote f.path ++
    (match f.target with
    | some t => " -> " ++ Text.quote t
    | none => "")

def FileFault.message (f : FileFault) : String :=
  match f.kind with
  | .nullByte => f.kind.describe
  | .unencodable =>
    match Text.halfFault? isBadHalf f.path with
    | some fault => fault.message
    | none => f.kind.describe
  | _ => f.systemMessage

end Vetted
