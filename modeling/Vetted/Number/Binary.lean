namespace Vetted.Number

structure Binary where
  mantissa : Nat
  exponent : Int
deriving Repr, DecidableEq, Inhabited

structure Scaled where
  digits : Nat
  exponent : Int
deriving Repr, DecidableEq, Inhabited

def scaleBy (n b : Nat) (e : Int) : Nat × Nat :=
  if 0 ≤ e then (n * Nat.pow b e.toNat, 1) else (n, Nat.pow b (-e).toNat)

def roundHalfEven (num den : Nat) : Nat :=
  let q := num / den
  let r := num % den
  if 2 * r < den then q else if den < 2 * r then q + 1 else if q % 2 = 0 then q else q + 1

/-- The exponent of the last bit of the number nearest to `num / den`: 53 bits in front of it, but never below the
least exponent. -/
def lastBit (num den : Nat) : Int :=
  let guess : Int := (num.log2 : Int) - (den.log2 : Int) - 52
  let (a, b) := if 0 ≤ guess then (num, den * Nat.pow 2 guess.toNat) else (num * Nat.pow 2 (-guess).toNat, den)
  let q := if a / b < Nat.pow 2 52 then guess - 1 else if Nat.pow 2 53 ≤ a / b then guess + 1 else guess
  max q (-1074)

def Binary.nearest? (num den : Nat) : Option Binary :=
  if num = 0 then some ⟨0, -1074⟩
  else
    let q := lastBit num den
    let m :=
      if 0 ≤ q then roundHalfEven num (den * Nat.pow 2 q.toNat) else roundHalfEven (num * Nat.pow 2 (-q).toNat) den
    let (m, q) := if m = Nat.pow 2 53 then (Nat.pow 2 52, q + 1) else (m, q)
    if 971 < q then none else some ⟨m, q⟩

def digitCount (n : Nat) : Nat := (Nat.toDigits 10 n).length

def Binary.ofScaled? (s : Scaled) : Option Binary :=
  let top := s.exponent + digitCount s.digits
  if s.digits = 0 || top < -400 then some ⟨0, -1074⟩
  else if 400 < top then none
  else
    let (num, den) := scaleBy s.digits 10 s.exponent
    Binary.nearest? num den

/-- The bounds of the decimals that read back as the number, as numerators over one denominator: lower bound, the number
itself, upper bound, denominator. -/
def Binary.interval (x : Binary) : Nat × Nat × Nat × Nat :=
  let below := if x.mantissa = Nat.pow 2 52 && -1074 < x.exponent then 1 else 2
  let (num, den) := scaleBy 1 2 (x.exponent - 2)
  ((4 * x.mantissa - below) * num, 4 * x.mantissa * num, (4 * x.mantissa + 2) * num, den)

def Binary.withDigits? (x : Binary) (top : Int) (n : Nat) : Option Scaled :=
  let (lo, mid, hi, den) := x.interval
  let e : Int := top - n
  -- compare `d · 10 ^ e` with the bounds over the common denominator
  let (up, down) := scaleBy 1 10 e
  let lo := lo * down
  let mid := mid * down
  let hi := hi * down
  let unit := den * up
  let d := mid / unit
  let inside (c : Nat) : Bool :=
    let v := c * unit
    if x.mantissa % 2 = 0 then lo ≤ v && v ≤ hi else lo < v && v < hi
  let gapDown := mid - d * unit
  let gapUp := (d + 1) * unit - mid
  match inside d, inside (d + 1) with
  | true, true =>
    if gapDown < gapUp then some ⟨d, e⟩ else if gapUp < gapDown then some ⟨d + 1, e⟩
    else if d % 2 = 0 then some ⟨d, e⟩ else some ⟨d + 1, e⟩
  | true, false => some ⟨d, e⟩
  | false, true => some ⟨d + 1, e⟩
  | false, false => none

def decimalTop (num den : Nat) : Int :=
  let q := num / den
  if 0 < q then digitCount q
  else
    -- below one: count the zeros after the point
    let n := digitCount (den / num)
    let e : Int := 1 - n
    if num * Nat.pow 10 (n - 1) < den then e else e + 1

def Binary.shortest (x : Binary) : Scaled :=
  if x.mantissa = 0 then ⟨0, 0⟩
  else
    let (_, mid, _, den) := x.interval
    let top := decimalTop mid den
    match (List.range 17).findSome? fun i => x.withDigits? top (i + 1) with
    | some s => s
    | none => ⟨0, 0⟩

def Scaled.trimWith : (fuel : Nat) → Scaled → Scaled
  | 0, s => s
  | fuel + 1, s => if s.digits ≠ 0 && s.digits % 10 = 0 then trimWith fuel ⟨s.digits / 10, s.exponent + 1⟩ else s

def Scaled.trimmed (s : Scaled) : Scaled := s.trimWith (digitCount s.digits)

/-- How a decimal is laid out: exponents of the first digit from which on, and up to which, no positional form is used,
and whether a whole number keeps a point and a zero. -/
structure Layout where
  tooSmall : Int
  tooLarge : Int
  keepPoint : Bool

def Layout.float : Layout := ⟨-4, 17, true⟩

def Layout.imaginary : Layout := ⟨-4, 17, false⟩

def exponentText (e : Int) : String :=
  let digits := Nat.toDigits 10 e.natAbs
  let padded := if digits.length < 2 then '0' :: digits else digits
  (if e < 0 then "e-" else "e+") ++ String.ofList padded

def Scaled.text (l : Layout) (s : Scaled) : String :=
  let s := s.trimmed
  let ds := Nat.toDigits 10 s.digits
  if s.digits = 0 then (if l.keepPoint then "0.0" else "0")
  else
    let point : Int := ds.length + s.exponent
    if l.tooSmall < point && point < l.tooLarge then
      if point ≤ 0 then "0." ++ String.ofList (List.replicate (-point).toNat '0' ++ ds)
      else if ds.length ≤ point.toNat then
        String.ofList (ds ++ List.replicate (point.toNat - ds.length) '0') ++ (if l.keepPoint then ".0" else "")
      else String.ofList (ds.take point.toNat) ++ "." ++ String.ofList (ds.drop point.toNat)
    else
      let rest := ds.drop 1
      String.ofList (ds.take 1) ++ (if rest.isEmpty then "" else "." ++ String.ofList rest) ++ exponentText (point - 1)

end Vetted.Number
