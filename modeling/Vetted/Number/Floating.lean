import Vetted.Number.Decimal
import Vetted.Number.Numeral

namespace Vetted.Number

inductive Floating where
  | finite (negative : Bool) (size : Scaled)
  | infinite (negative : Bool)
  | nan
deriving Repr, DecidableEq, Inhabited

namespace Floating

def ofText? (s : String) : Option Floating :=
  match Decimal.ofText? s with
  | some (.finite negative digits exponent) => some (.finite negative (Scaled.trimmed ⟨digits, exponent⟩))
  | some (.infinite negative) => some (.infinite negative)
  | some (.nan _ _ _) => some .nan
  | none => none

def ofBinary? (negative : Bool) : Option Binary → Floating
  | some b => .finite negative b.shortest.trimmed
  | none => .infinite negative

def nearestText? (s : String) : Option Floating :=
  let cs := (Numeral.trimBlanks s.toList).map fun c =>
    match Text.digitValue? c with
    | some d => Char.ofNat (48 + d)
    | none => c.toLower
  let (negative, cs) := Numeral.signOf cs
  match cs with
  | ['n', 'a', 'n'] => some .nan
  | ['i', 'n', 'f'] | ['i', 'n', 'f', 'i', 'n', 'i', 't', 'y'] => some (.infinite negative)
  | _ => do
    let (digits, places) ← Decimal.digitsOf? (cs.takeWhile (· ≠ 'e'))
    let exponent ←
      match cs.dropWhile (· ≠ 'e') with
      | [] => some 0
      | _ :: rest => Decimal.exponentOf? rest
    return ofBinary? negative (Binary.ofScaled? ⟨digits, exponent - places⟩)

/-- The value nearest to an integer; `none` if that is too large. -/
def ofNat? (n : Nat) : Option Floating := (Binary.nearest? n 1).map fun b => .finite false b.shortest.trimmed

def text : Floating → String
  | .finite negative size => (if negative then "-" else "") ++ size.text .float
  | .infinite negative => if negative then "-inf" else "inf"
  | .nan => "nan"

def isZero : Floating → Bool
  | .finite _ size => size.digits = 0
  | _ => false

def toDecimal : Floating → Decimal
  | .finite negative size => .finite negative size.digits size.exponent
  | .infinite negative => .infinite negative
  | .nan => .nan false false 0

/-- The binary value itself as a decimal. -/
def exact : Floating → Decimal
  | .finite negative size =>
    match Binary.ofScaled? size with
    | some b =>
      if 0 ≤ b.exponent then .finite negative (b.mantissa * Nat.pow 2 b.exponent.toNat) 0
      else .finite negative (b.mantissa * Nat.pow 5 (-b.exponent).toNat) b.exponent
    | none => .infinite negative
  | x => x.toDecimal

def isNegative : Floating → Bool
  | .finite negative _ | .infinite negative => negative
  | .nan => false

def binary (size : Scaled) : Binary := (Binary.ofScaled? size).getD ⟨0, -1074⟩

def nearest (negative : Bool) (n : Nat) (e : Int) : Floating :=
  let (num, den) := scaleBy n 2 e
  ofBinary? negative (Binary.nearest? num den)

def negated : Floating → Floating
  | .finite negative size => .finite (!negative) size
  | .infinite negative => .infinite (!negative)
  | .nan => .nan

def times : Floating → Floating → Floating
  | .finite m a, .finite n b =>
    nearest (m ≠ n) ((binary a).mantissa * (binary b).mantissa) ((binary a).exponent + (binary b).exponent)
  | .nan, _ | _, .nan => .nan
  | x, y => if x.isZero || y.isZero then .nan else .infinite (x.isNegative ≠ y.isNegative)

def plus : Floating → Floating → Floating
  | .finite m a, .finite n b =>
    let low := min (binary a).exponent (binary b).exponent
    let signed (negative : Bool) (x : Binary) : Int :=
      let size : Int := (x.mantissa * Nat.pow 2 (x.exponent - low).toNat : Nat)
      if negative then -size else size
    let sum := signed m (binary a) + signed n (binary b)
    if sum = 0 then .finite (m && n) ⟨0, 0⟩ else nearest (sum < 0) sum.natAbs low
  | .nan, _ | _, .nan => .nan
  | .infinite m, .infinite n => if m = n then .infinite m else .nan
  | .infinite m, _ | _, .infinite m => .infinite m

end Floating

end Vetted.Number
