import Vetted.Text.CharacterName
import Vetted.Text.Basic
import Vetted.Text.Half
import Vetted.Number.Binary

namespace Vetted.Source

/-- A string token taken apart: the letters in front, and the text between the quotes. -/
structure StringParts where
  mark : List Char
  body : List Char
deriving Repr, Inhabited

namespace StringParts

def ofToken (text : String) : StringParts :=
  let cs := text.toList
  let mark := cs.takeWhile fun c => c ≠ '"' && c ≠ '\''
  let quoted := cs.drop mark.length
  let width :=
    match quoted with
    | a :: b :: c :: _ :: _ :: _ => if a = b && b = c then 3 else 1
    | _ => 1
  ⟨mark.map Char.toLower, (quoted.drop width).take (quoted.length - 2 * width)⟩

def isBytes (p : StringParts) : Bool := p.mark.contains 'b'

def isRaw (p : StringParts) : Bool := p.mark.contains 'r'

def isFormatted (p : StringParts) : Bool := p.mark.contains 'f'

end StringParts

def isOctal (c : Char) : Bool := '0' ≤ c && c ≤ '7'

def octalValue (cs : List Char) : Nat := cs.foldl (fun n c => n * 8 + (c.toNat - 48)) 0

def hexDigits? (n : Nat) (cs : List Char) : Option Nat :=
  let ds := cs.take n
  if ds.length = n && ds.all fun c => (Text.hexValue? c).isSome then some (Text.readHex (String.ofList ds)) else none

def simpleEscapes : List (Char × Nat) :=
  [('\\', 92), ('\'', 39), ('"', 34), ('a', 7), ('b', 8), ('f', 12), ('n', 10), ('r', 13), ('t', 9), ('v', 11)]

/-- The text after a backslash: the code point meant, if there is one, and how many characters the escape takes.
`none` is a malformed escape. -/
def escapeAt (bytes : Bool) (c : Char) (rest : List Char) : Option (List Nat × Nat) :=
  match simpleEscapes.lookup c with
  | some n => some ([n], 1)
  | none =>
    if c = '\n' then some ([], 1)
    else if isOctal c then
      let ds := c :: (rest.take 2).takeWhile isOctal
      let n := octalValue ds
      some ([if bytes then n % 256 else n], ds.length)
    else if c = 'x' then (hexDigits? 2 rest).map fun n => ([n], 3)
    else if bytes then some ([92, c.toNat], 1)
    else if c = 'u' then (hexDigits? 4 rest).map fun n => ([n], 5)
    else if c = 'U' then
      match hexDigits? 8 rest with
      | some n => if n ≤ 0x10ffff then some ([n], 9) else none
      | none => none
    else if c = 'N' then
      match rest with
      | '\x7b' :: more =>
        let name := more.takeWhile (· ≠ '\x7d')
        if name.length < more.length then
          (Text.characterNamed? (String.ofList name)).map fun ch => ([ch.toNat], name.length + 3)
        else none
      | _ => none
    else some ([92, c.toNat], 1)

def decodeBody (bytes raw : Bool) : (skip : Nat) → List Char → Option (List Nat)
  | _, [] => some []
  | skip + 1, _ :: rest => decodeBody bytes raw skip rest
  | 0, c :: rest =>
    if bytes && 128 ≤ c.toNat then none
    else if c = '\\' && !raw then
      match rest with
      | [] => some [92]
      | d :: more => do
        let (points, used) ← escapeAt bytes d more
        let tail ← decodeBody bytes raw used rest
        return points ++ tail
    else do
      let tail ← decodeBody bytes raw 0 rest
      return c.toNat :: tail

def decodeText (raw : Bool) (body : List Char) : Option (List Char) :=
  (decodeBody false raw 0 body).map (·.map Text.characterOf)

def decodeBytes (raw : Bool) (body : List Char) : Option (List UInt8) :=
  (decodeBody true raw 0 body).map (·.map Nat.toUInt8)

/-- The value of a number. A floating-point number is the shortest decimal that stands for it, or too large. -/
inductive NumberValue where
  | integer (n : Nat)
  | float (value : Option Number.Scaled)
  | imaginary (value : Option Number.Scaled)
deriving Repr, DecidableEq, Inhabited

def readBase (base : Nat) (ds : List Char) : Nat :=
  ds.foldl (fun n c => n * base + (Text.hexValue? c).getD 0) 0

def readSigned (cs : List Char) : Int :=
  match cs with
  | '-' :: ds => -(readBase 10 ds : Int)
  | '+' :: ds => readBase 10 ds
  | ds => readBase 10 ds

def readScaled (cs : List Char) : Number.Scaled :=
  let isMark (c : Char) : Bool := c = 'e' || c = 'E'
  let front := cs.takeWhile (!isMark ·)
  let exponent := readSigned ((cs.dropWhile (!isMark ·)).drop 1)
  let whole := front.takeWhile (· ≠ '.')
  let fraction := (front.dropWhile (· ≠ '.')).drop 1
  ⟨readBase 10 (whole ++ fraction), exponent - fraction.length⟩

def readFloat (cs : List Char) : Option Number.Scaled :=
  (Number.Binary.ofScaled? (readScaled cs)).map Number.Binary.shortest

def NumberValue.ofToken (text : String) : NumberValue :=
  let cs := (text.toList.filter (· ≠ '_')).map Char.toLower
  match cs with
  | '0' :: 'x' :: ds => .integer (readBase 16 ds)
  | '0' :: 'o' :: ds => .integer (readBase 8 ds)
  | '0' :: 'b' :: ds => .integer (readBase 2 ds)
  | _ =>
    if cs.getLast? = some 'j' then .imaginary (readFloat cs.dropLast)
    else if cs.contains '.' || cs.contains 'e' then .float (readFloat cs)
    else .integer (readBase 10 cs)

def maxDigits : Nat := 4300

def isOverlongInteger (text : String) : Bool :=
  let cs := text.toList.filter (· ≠ '_')
  cs.all Char.isDigit && maxDigits < cs.length

end Vetted.Source
