import Vetted.Text.Digit
import Vetted.Text.Quoted

namespace Vetted.Number.Numeral

inductive Fault where
  | malformed (base : Nat) (text : String)
  | tooLong (digits : Nat)
deriving Repr, DecidableEq, Inhabited

def maxDigits : Nat := 4300

def Fault.message : Fault → String
  | .malformed base text =>
    "invalid literal for int() with base " ++ toString base ++ ": " ++
      String.ofList ((Text.quote text).toList.take 200)
  | .tooLong digits =>
    "Exceeds the limit (" ++ toString maxDigits ++ " digits) for integer string conversion: value has " ++
      toString digits ++ " digits; use sys.set_int_max_str_digits() to increase the limit"

def unwrittenMessage : String :=
  "Exceeds the limit (" ++ toString maxDigits ++
    " digits) for integer string conversion; use sys.set_int_max_str_digits() to increase the limit"

def isBlank (c : Char) : Bool := Text.isBlank c && !(28 ≤ c.toNat && c.toNat ≤ 31)

def trimBlanks (cs : List Char) : List Char := ((cs.dropWhile isBlank).reverse.dropWhile isBlank).reverse

/-- The value of a digit: a decimal one of any script, or a letter of ASCII. -/
def digit? (base : Nat) (c : Char) : Option Nat :=
  let value? :=
    match Text.digitValue? c with
    | some d => some d
    | none => Text.hexValue? c
  value?.filter (· < base)

def signOf : List Char → Bool × List Char
  | '-' :: rest => (true, rest)
  | '+' :: rest => (false, rest)
  | cs => (false, cs)

def markOf : Nat → List Char
  | 2 => ['b', 'B']
  | 8 => ['o', 'O']
  | 16 => ['x', 'X']
  | _ => []

def withoutMark (base : Nat) : List Char → List Char
  | '0' :: c :: rest =>
    if (markOf base).contains c then
      match rest with
      | '_' :: more => more
      | more => more
    else '0' :: c :: rest
  | cs => cs

/-- The values of digits that are parted by nothing or by single underscores. -/
def digitsOf? (base : Nat) (cs : List Char) : Option (List Nat) :=
  let groupOf? (group : List Char) : Option (List Nat) := if group.isEmpty then none else group.mapM (digit? base)
  ((Text.pieces '_' cs).mapM groupOf?).map List.flatten

def read (base : Nat) (text : String) : Except Fault Int :=
  let (negative, cs) := signOf (trimBlanks text.toList)
  let cs := withoutMark base cs
  let run := cs.takeWhile fun c => c = '_' || (digit? base c).isSome
  match digitsOf? base run with
  | none => .error (.malformed base text)
  | some digits =>
    if base = 10 && maxDigits < digits.length then .error (.tooLong digits.length)
    else if run.length < cs.length then .error (.malformed base text)
    else
      let n := digits.foldl (fun n d => base * n + d) 0
      .ok (if negative then -(n : Int) else n)

end Vetted.Number.Numeral
