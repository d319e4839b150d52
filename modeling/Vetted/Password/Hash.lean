import Vetted.Number.Numeral
import Vetted.Password.Base64
import Vetted.Password.Derived
import Vetted.Text.Quoted
import Vetted.Text.Utf8

namespace Vetted.Password

structure Hash where
  rounds : Nat
  salt : List UInt8
  key : Option (List UInt8)
deriving Repr, DecidableEq, Inhabited

/-- Why a password cannot be hashed or compared. -/
inductive Fault where
  | tooLong
  | unencodable (fault : Text.HalfFault)
  | notText (what typeName : String)
  | unknownMethod
  | malformed (detail : String)
  | rounds (fault : Number.Numeral.Fault)
  | notAscii (text : String)
  | undecodable (message : String)
  | base64 (fault : Base64.Fault)
  | saltSize
  | fewRounds (n : Int)
  | manyRounds (n : Int)
  | keyMissing
deriving Repr, DecidableEq, Inhabited

def mark : String := "$pbkdf2-sha256$"

def method : String := "pbkdf2_sha256"

/-- The place of the first character outside ASCII, and of the last one of the run that it opens. -/
def foreignRun (cs : List Char) : Nat × Nat × Char :=
  let front := cs.takeWhile (·.toNat < 128)
  let run := (cs.drop front.length).takeWhile (128 ≤ ·.toNat)
  (front.length, front.length + run.length - 1, run.headD ' ')

def codePointText (c : Char) : String :=
  let n := Text.codePoint c
  String.ofList
    (if n < 256 then '\\' :: 'x' :: Text.hexPadded 2 n
    else if n < 65536 then '\\' :: 'u' :: Text.hexPadded 4 n
    else '\\' :: 'U' :: Text.hexPadded 8 n)

def asciiMessage (text : String) : String :=
  let (first, last, c) := foreignRun text.toList
  if first = last then
    "'ascii' codec can't encode character '" ++ codePointText c ++ "' in position " ++ toString first ++
      ": ordinal not in range(128)"
  else
    "'ascii' codec can't encode characters in position " ++ toString first ++ "-" ++ toString last ++
      ": ordinal not in range(128)"

def malformedMessage (detail : String) : String :=
  "malformed " ++ method ++ " hash" ++ (if detail.isEmpty then "" else " (" ++ detail ++ ")")

def Fault.message : Fault → String
  | .tooLong => "password exceeds maximum allowed size"
  | .unencodable fault => fault.message
  | .notText what typeName => what ++ " must be unicode or bytes, not " ++ typeName
  | .unknownMethod => "hash could not be identified"
  | .malformed detail => malformedMessage detail
  | .rounds fault => fault.message
  | .notAscii text => asciiMessage text
  | .undecodable message => message
  | .base64 .length => "invalid base64 input"
  | .base64 (.extraCharacter count) =>
    "Invalid base64-encoded string: number of data characters (" ++ toString count ++
      ") cannot be 1 more than a multiple of 4"
  | .base64 .padding => "Incorrect padding"
  | .saltSize => "salt too large (" ++ method ++ " requires <= 1024 bytes)"
  | .fewRounds n => method ++ ": rounds (" ++ toString n ++ ") is too low, must be at least 1"
  | .manyRounds n => method ++ ": rounds (" ++ toString n ++ ") is too large, cannot be more than 4294967295"
  | .keyMissing => "expected " ++ method ++ " hash, got " ++ method ++ " config string instead"

def partBytes (part : String) : Except Fault (List UInt8) :=
  if part.toList.all (·.toNat < 128) then (Base64.decode part.toList).mapError .base64 else .error (.notAscii part)

def roundsOf (part : String) : Except Fault Int :=
  if part = "" then .error (.malformed "empty rounds field")
  else if Text.startsWith part "0" && part ≠ "0" then .error (.malformed "zero-padded rounds")
  else (Number.Numeral.read 10 part).mapError .rounds

def Hash.ofText (text : String) : Except Fault Hash := do
  if !Text.startsWith text mark then throw .unknownMethod
  let (rounds, salt, key) ←
    match Text.splitOnChar '$' (String.ofList (text.toList.drop mark.length)) with
    | [rounds, salt, key] => pure (rounds, salt, key)
    | [rounds, salt] => pure (rounds, salt, "")
    | _ => throw (.malformed "")
  let rounds ← roundsOf rounds
  let salt ← partBytes salt
  let key ← if key = "" then pure none else (partBytes key).map some
  if key.any (·.length ≠ 32) then throw (.malformed "checksum must be exactly 32 bytes")
  if 1024 < salt.length then throw .saltSize
  if rounds < 1 then throw (.fewRounds rounds)
  if 4294967295 < rounds then throw (.manyRounds rounds)
  return { rounds := rounds.toNat, salt, key }

def Hash.text (h : Hash) : String :=
  mark ++ toString h.rounds ++ "$" ++ String.ofList (Base64.encode h.salt) ++
    match h.key with
    | some key => "$" ++ String.ofList (Base64.encode key)
    | none => ""

def standardRounds : Nat := 29000

def maxLength : Nat := 4096

def passwordBytes (password : String) : Except Fault (List UInt8) :=
  match Text.halfFault? Text.isHalf password with
  | some fault => .error (.unencodable fault)
  | none => .ok (Text.encodeUtf8 password)

def Hash.make (salt : List UInt8) (password : String) : Except Fault Hash :=
  if maxLength < password.length then .error .tooLong
  else do
    let bytes ← passwordBytes password
    return { rounds := standardRounds, salt, key := some (derive bytes salt standardRounds) }

/-- Whether a password has the hash. Its bytes are asked for only if there is a key. -/
def Hash.verifies (h : Hash) (password : Except Fault (List UInt8)) : Except Fault Bool :=
  match h.key with
  | none => .error .keyMissing
  | some key => do return derive (← password) h.salt h.rounds = key

end Vetted.Password
