namespace Vetted.Password.Base64

def alphabet : List Char :=
  "ABCDEFGHIJKLMNOPQRSTUVWXYZabcdefghijklmnopqrstuvwxyz0123456789./".toList

def charOf (n : Nat) : Char := (alphabet[n]?).getD '.'

def valueOf? (c : Char) : Option Nat :=
  if c.isUpper then some (c.toNat - 65)
  else if c.isLower then some (c.toNat - 71)
  else if c.isDigit then some (c.toNat + 4)
  else if c = '.' || c = '+' then some 62
  else if c = '/' then some 63
  else none

def encode : List UInt8 → List Char
  | a :: b :: c :: rest =>
    let n := a.toNat * 65536 + b.toNat * 256 + c.toNat
    charOf (n / 262144) :: charOf (n / 4096 % 64) :: charOf (n / 64 % 64) :: charOf (n % 64) :: encode rest
  | [a, b] =>
    let n := a.toNat * 256 + b.toNat
    [charOf (n / 1024), charOf (n / 16 % 64), charOf (n * 4 % 64)]
  | [a] => [charOf (a.toNat / 4), charOf (a.toNat * 16 % 64)]
  | [] => []

inductive Fault where
  | length
  | extraCharacter (count : Nat)
  | padding
deriving Repr, DecidableEq, Inhabited

/-- Reads characters, `place` counting those of the group under way, `left` holding the bits kept of the last one and
`pads` the padding signs in a row. -/
def read (place left pads : Nat) (out : List UInt8) : List Char → Except Fault (List UInt8)
  | [] =>
    if place = 0 then .ok out.reverse
    else if place = 1 then .error (.extraCharacter (out.length / 3 * 4 + 1))
    else .error .padding
  | c :: rest =>
    if c = '=' then
      if 2 ≤ place && 4 ≤ place + pads + 1 then .ok out.reverse
      else read place left (if 2 ≤ place then pads + 1 else pads) out rest
    else
      match valueOf? c with
      | none => read place left pads out rest
      | some v =>
        match place with
        | 0 => read 1 v 0 out rest
        | 1 => read 2 (v % 16) 0 ((left * 4 + v / 16).toUInt8 :: out) rest
        | 2 => read 3 (v % 4) 0 ((left * 16 + v / 4).toUInt8 :: out) rest
        | _ => read 0 0 0 ((left * 64 + v).toUInt8 :: out) rest

def decode (cs : List Char) : Except Fault (List UInt8) :=
  match cs.length % 4 with
  | 0 => read 0 0 0 [] cs
  | 2 => read 0 0 0 [] (cs ++ ['=', '='])
  | 3 => read 0 0 0 [] (cs ++ ['='])
  | _ => .error .length

end Vetted.Password.Base64
