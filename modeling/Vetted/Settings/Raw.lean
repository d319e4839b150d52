import Vetted.Settings.Problem
import Vetted.Text.Utf8
import Vetted.Value

namespace Vetted.Settings

open Number (Floating)

def isNumberBlank (c : Char) : Bool := Text.isBlank c && !(28 ≤ c.toNat && c.toNat ≤ 31)

def trimNumber (cs : List Char) : List Char :=
  ((cs.dropWhile isNumberBlank).reverse.dropWhile isNumberBlank).reverse

/-- Drops zeros in front of the first other digit or of a point; underscores may stand between them. `last` is the
character before. -/
def dropZeros (last : Char) : List Char → Option (List Char)
  | [] => some [last]
  | c :: cs =>
    if c = '0' || c = '_' then dropZeros c cs
    else if c.isDigit then some (c :: cs)
    else if c = '.' then some (last :: c :: cs)
    else none

def withoutZeros : List Char → Option (List Char)
  | '0' :: cs => dropZeros '0' cs
  | c :: cs => if c.isDigit || c = '-' then some (c :: cs) else none
  | [] => none

def withoutPoint (cs : List Char) : List Char :=
  match Text.cut '.' cs with
  | (whole, some rest) => if rest.all (· = '0') then whole else cs
  | (whole, none) => whole

def withoutUnderscores (cs : List Char) : List Char :=
  if cs.head? = some '_' || cs.getLast? = some '_' || Text.occursIn ['_', '_'] cs then cs else cs.filter (· ≠ '_')

/-- Digits without a needless zero in front. -/
def naturalOf? (cs : List Char) : Option Nat :=
  match cs with
  | [] => none
  | '0' :: _ :: _ => none
  | _ => if cs.all Char.isDigit then some (cs.foldl (fun n c => 10 * n + (c.toNat - 48)) 0) else none

def integerOf? (cs : List Char) : Option Int :=
  match cs with
  | '-' :: ds => (naturalOf? ds).map fun n => -(n : Int)
  | ds => (naturalOf? ds).map Int.ofNat

def maxDigits : Nat := 4300

def integerFromText (s : String) : Checked Int :=
  let cs := trimNumber s.toList
  let cs? :=
    match cs with
    | '+' :: '-' :: _ => none
    | '+' :: ds => withoutZeros ds
    | ds => withoutZeros ds
  match cs? with
  | none => refuse .unclearInteger
  | some cs =>
    let cs := withoutUnderscores (withoutPoint cs)
    if maxDigits < cs.length && (cs.dropWhile (· = '-')).all Char.isDigit then refuse .hugeInteger
    else
      match integerOf? cs with
      | some n => .ok n
      | none => refuse .unclearInteger

def integerFromFloat (x : Floating) : Checked Int :=
  match x.exact with
  | .finite negative digits exponent =>
    let whole? : Option Nat :=
      if 0 ≤ exponent then some (digits * Nat.pow 10 exponent.toNat)
      else if digits % Nat.pow 10 (-exponent).toNat = 0 then some (digits / Nat.pow 10 (-exponent).toNat)
      else none
    match whole? with
    | none => refuse .fraction
    | some n => if n < Nat.pow 2 63 then .ok (if negative then -(n : Int) else n) else refuse .hugeInteger
  | _ => refuse .notFinite

def integer : Value → Checked Int
  | .bool b => .ok (if b then 1 else 0)
  | .int n => .ok n
  | .float x => integerFromFloat x
  | .text s => if Text.hasHalf s then refuse .undecodableText else integerFromText s
  | .bytes bs =>
    match Text.decodeUtf8 bs with
    | .ok s => integerFromText s
    | .error _ => refuse .unclearInteger
  | _ => refuse .notInteger

def onWords : List String := ["1", "on", "t", "true", "y", "yes"]

def offWords : List String := ["0", "off", "f", "false", "n", "no"]

def flagFromText (s : String) : Checked Bool :=
  let word := String.ofList (s.toList.map Char.toLower)
  if onWords.contains word then .ok true
  else if offWords.contains word then .ok false
  else refuse .unclearFlag

/-- A switch from an integer. One of more than 64 bits is not even tried. -/
def flagFromInteger (n : Int) : Checked Bool :=
  if n = 0 then .ok false
  else if n = 1 then .ok true
  else if -(Nat.pow 2 63 : Nat) ≤ n && n < (Nat.pow 2 63 : Nat) then refuse .unclearFlag
  else refuse .notFlag

def flag : Value → Checked Bool
  | .bool b => .ok b
  | .text s => if Text.hasHalf s then refuse .undecodableText else flagFromText s
  | .bytes bs =>
    match Text.decodeUtf8 bs with
    | .ok s => flagFromText s
    | .error _ => refuse .unclearFlag
  | .int n => flagFromInteger n
  | .float x =>
    match integerFromFloat x with
    | .ok n => flagFromInteger n
    | .error _ => refuse .notFlag
  | _ => refuse .notFlag

def text : Value → Checked String
  | .text s => .ok s
  | .bytes bs | .byteArray bs =>
    match Text.decodeUtf8 bs with
    | .ok s => .ok s
    | .error _ => refuse .undecodableText
  | _ => refuse .notText

def filledText (v : Value) : Checked String :=
  match text v with
  | .ok s => if Text.hasHalf s then refuse .undecodableText else if s.isEmpty then refuse .emptyText else .ok s
  | r => r

def optional {α : Type} (read : Value → Checked α) : Value → Checked (Option α)
  | .none => .ok none
  | v => (read v).map some

/-- Reads items in turn and collects the problems of all of them, each under its index. -/
def itemsFrom {α : Type} (read : Value → Checked α) (index : Nat) : List Value → Checked (List α)
  | [] => .ok []
  | v :: vs =>
    match under (toString index) (read v), itemsFrom read (index + 1) vs with
    | .ok a, .ok as => .ok (a :: as)
    | r, rs => .error (problemsOf r ++ problemsOf rs)

def items {α : Type} (read : Value → Checked α) : Value → Checked (List α)
  | .list vs | .tuple vs | .set vs | .frozenSet vs => itemsFrom read 0 vs
  | _ => refuse .notList

def entry? (key : String) : List (Value × Value) → Option Value
  | [] => none
  | (.text k, v) :: es => if k = key then some v else entry? key es
  | _ :: es => entry? key es

def required {α : Type} (entries : List (Value × Value)) (key : String) (read : Value → Checked α) : Checked α :=
  under key <|
    match entry? key entries with
    | some v => read v
    | none => refuse .required

def given {α : Type} (entries : List (Value × Value)) (key : String) (otherwise : α) (read : Value → Checked α) :
    Checked α :=
  match entry? key entries with
  | some v => under key (read v)
  | none => .ok otherwise

end Vetted.Settings
