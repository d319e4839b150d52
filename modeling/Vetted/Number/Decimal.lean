import Vetted.Number.Binary
import Vetted.Text.Basic
import Vetted.Text.Digit

namespace Vetted.Number

inductive Decimal where
  | finite (negative : Bool) (digits : Nat) (exponent : Int)
  | infinite (negative : Bool)
  | nan (negative signaling : Bool) (payload : Nat)
deriving Repr, DecidableEq, Inhabited

namespace Decimal

def ofInt (n : Int) : Decimal := .finite (n < 0) n.natAbs 0

def isNan : Decimal → Bool
  | .nan _ _ _ => true
  | _ => false

def isZero : Decimal → Bool
  | .finite _ digits _ => digits = 0
  | _ => false

def maxExponent : Int := 999999999999999999

def minExponent : Int := -1999999999999999997

/-- Takes surrounding blanks and all underscores away and turns digits of every script into those of ASCII. -/
def plainText (s : String) : List Char :=
  ((Text.trim s.toList).filter (· ≠ '_')).map fun c =>
    match Text.digitValue? c with
    | some d => Char.ofNat (48 + d)
    | none => c

def natOf (cs : List Char) : Nat := cs.foldl (fun n c => 10 * n + (c.toNat - 48)) 0

def allDigits (cs : List Char) : Bool := cs.all Char.isDigit

def signOf : List Char → Bool × List Char
  | '-' :: rest => (true, rest)
  | '+' :: rest => (false, rest)
  | cs => (false, cs)

def digitsOf? (cs : List Char) : Option (Nat × Nat) :=
  let (whole, fraction?) := Text.cut '.' cs
  let fraction := fraction?.getD []
  if allDigits whole && allDigits fraction && !(whole.isEmpty && fraction.isEmpty) then
    some (natOf (whole ++ fraction), fraction.length)
  else none

def exponentOf? (cs : List Char) : Option Int :=
  let (negative, digits) := signOf cs
  if digits ≠ [] && allDigits digits then some (if negative then -(natOf digits : Int) else natOf digits) else none

def withinLimits? (negative : Bool) (digits : Nat) (exponent : Int) : Option Decimal :=
  let first := exponent + digitCount digits - 1
  if first ≤ maxExponent && minExponent ≤ exponent then some (.finite negative digits exponent) else none

def isExponentMark (c : Char) : Bool := c = 'e' || c = 'E'

def numberOf? (negative : Bool) (cs : List Char) : Option Decimal := do
  let (digits, places) ← digitsOf? (cs.takeWhile (!isExponentMark ·))
  let exponent ←
    match cs.dropWhile (!isExponentMark ·) with
    | [] => some 0
    | _ :: rest => exponentOf? rest
  withinLimits? negative digits (exponent - places)

def ofText? (s : String) : Option Decimal :=
  let (negative, cs) := signOf (plainText s)
  match cs.map Char.toLower with
  | 'n' :: 'a' :: 'n' :: payload => if allDigits payload then some (.nan negative false (natOf payload)) else none
  | 's' :: 'n' :: 'a' :: 'n' :: payload => if allDigits payload then some (.nan negative true (natOf payload)) else none
  | ['i', 'n', 'f'] | ['i', 'n', 'f', 'i', 'n', 'i', 't', 'y'] => some (.infinite negative)
  | _ => numberOf? negative cs

/-- Digits and exponent of a number, positional where the exponent is not positive and the first digit stands at most
six places behind the point. -/
def finiteText (digits : Nat) (exponent : Int) : String :=
  let ds := Nat.toDigits 10 digits
  let point : Int := ds.length + exponent
  if exponent ≤ 0 && -6 < point then
    if exponent = 0 then String.ofList ds
    else if point ≤ 0 then "0." ++ String.ofList (List.replicate (-point).toNat '0' ++ ds)
    else String.ofList (ds.take point.toNat) ++ "." ++ String.ofList (ds.drop point.toNat)
  else
    let rest := ds.drop 1
    String.ofList (ds.take 1) ++ (if rest.isEmpty then "" else "." ++ String.ofList rest) ++
      (if point - 1 < 0 then "E-" else "E+") ++ toString (point - 1).natAbs

def text : Decimal → String
  | .finite negative digits exponent => (if negative then "-" else "") ++ finiteText digits exponent
  | .infinite negative => if negative then "-Infinity" else "Infinity"
  | .nan negative signaling payload =>
    (if negative then "-" else "") ++ (if signaling then "sNaN" else "NaN") ++
      (if payload = 0 then "" else toString payload)

/-- Order of `a · 10 ^ e` and `b · 10 ^ f`. Numbers with different places of the first digit need no alignment. -/
def compareScaled (a : Nat) (e : Int) (b : Nat) (f : Int) : Ordering :=
  if a = 0 || b = 0 then compare a b
  else
    let place := compare (digitCount a + e) (digitCount b + f)
    if place ≠ .eq then place
    else
      let low := min e f
      compare (a * Nat.pow 10 (e - low).toNat) (b * Nat.pow 10 (f - low).toNat)

def compare? : Decimal → Decimal → Option Ordering
  | .nan _ _ _, _ => none
  | _, .nan _ _ _ => none
  | .infinite m, .infinite n => some (if m = n then .eq else if m then .lt else .gt)
  | .infinite m, .finite _ _ _ => some (if m then .lt else .gt)
  | .finite _ _ _, .infinite n => some (if n then .gt else .lt)
  | .finite m a e, .finite n b f =>
    if a = 0 && b = 0 then some .eq
    else
      match m && a ≠ 0, n && b ≠ 0 with
      | false, false => some (compareScaled a e b f)
      | true, true => some (compareScaled b f a e)
      | true, false => some .lt
      | false, true => some .gt

end Decimal

end Vetted.Number
