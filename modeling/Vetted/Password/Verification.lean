import Vetted.Password.Hash
import Vetted.Value

namespace Vetted.Password

def typeLabel : Value → String
  | .none => "None"
  | .decimal _ => "decimal.Decimal"
  | .date _ => "datetime.date"
  | .moment _ => "datetime.datetime"
  | v => v.typeName

def secretBytes : Value → Except Fault (Except Fault (List UInt8))
  | .text s => if maxLength < s.length then .error .tooLong else .ok (passwordBytes s)
  | .bytes bs => if maxLength < bs.length then .error .tooLong else .ok (.ok bs)
  | v => .error (.notText "secret" (typeLabel v))

def asciiByteMessage (place : Nat) (b : UInt8) : String :=
  "'ascii' codec can't decode byte " ++ Text.byteText b ++ " in position " ++ toString place ++
    ": ordinal not in range(128)"

def hashText (bs : List UInt8) : Except Fault String :=
  let front := bs.takeWhile (· < 128)
  match bs.drop front.length with
  | [] => .ok (String.ofList (bs.map fun b => Char.ofNat b.toNat))
  | b :: _ => .error (.undecodable (asciiByteMessage front.length b))

def markBytes : List UInt8 := Text.encodeUtf8 mark

/-- Whether a password has a hash. Without a hash it has not. -/
def verify (password hash : Value) : Except Fault Bool := do
  let text ←
    match hash with
    | .none => return false
    | .text s => if Text.startsWith s mark then pure (.ok s) else throw .unknownMethod
    | .bytes bs => if markBytes.isPrefixOf bs then pure (hashText bs) else throw .unknownMethod
    | v => throw (.notText "hash" (typeLabel v))
  let secret ← secretBytes password
  (← Hash.ofText (← text)).verifies secret

end Vetted.Password
