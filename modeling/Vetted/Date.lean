import Vetted.Text.Basic
import Vetted.Text.Digit

namespace Vetted

structure Date where
  year : Nat
  month : Nat
  day : Nat
deriving Repr, DecidableEq, Inhabited

namespace Date

def isLeap (year : Nat) : Bool := year % 4 = 0 && (year % 100 ≠ 0 || year % 400 = 0)

def daysIn (year month : Nat) : Nat :=
  match month with
  | 2 => if isLeap year then 29 else 28
  | 4 | 6 | 9 | 11 => 30
  | _ => 31

def isReal (d : Date) : Bool :=
  1 ≤ d.year && d.year ≤ 9999 && 1 ≤ d.month && d.month ≤ 12 && 1 ≤ d.day && d.day ≤ daysIn d.year d.month

def isAfter (a b : Date) : Bool :=
  b.year < a.year || (a.year = b.year && (b.month < a.month || (a.month = b.month && b.day < a.day)))

def padded (width n : Nat) : List Char :=
  let ds := Nat.toDigits 10 n
  List.replicate (width - ds.length) '0' ++ ds

def isoText (d : Date) : String :=
  String.ofList (padded 4 d.year ++ '-' :: padded 2 d.month ++ '-' :: padded 2 d.day)

def ofIso? (s : String) : Option Date :=
  match (Text.pieces '-' s.toList).map fun p => (String.ofList p).toNat? with
  | [some year, some month, some day] => some ⟨year, month, day⟩
  | _ => none

def monthOf? : List Char → Option Nat
  | [] => none
  | [c] => if '1' ≤ c && c ≤ '9' then some (c.toNat - 48) else none
  | [tens, c] =>
    match tens with
    | '1' => if '0' ≤ c && c ≤ '2' then some (c.toNat - 38) else none
    | '0' => if '1' ≤ c && c ≤ '9' then some (c.toNat - 48) else none
    | _ => none
  | _ :: _ :: _ :: _ => none

/-- A day from 1 to 31: two digits, of which the second may be of any script after a 1 or 2, or one digit with or
without a space before it. -/
def dayOf? : List Char → Option Nat
  | [] => none
  | [c] => if '1' ≤ c && c ≤ '9' then some (c.toNat - 48) else none
  | [tens, c] =>
    match tens with
    | '3' => if c = '0' || c = '1' then some (c.toNat - 18) else none
    | '1' => (Text.digitValue? c).map (10 + ·)
    | '2' => (Text.digitValue? c).map (20 + ·)
    | '0' => if '1' ≤ c && c ≤ '9' then some (c.toNat - 48) else none
    | ' ' => if '1' ≤ c && c ≤ '9' then some (c.toNat - 48) else none
    | _ => none
  | _ :: _ :: _ :: _ => none

def yearOf? (cs : List Char) : Option Nat :=
  if cs.length = 4 then (cs.mapM Text.digitValue?).map fun ds => ds.foldl (fun n d => 10 * n + d) 0 else none

/-- The date of a text of a year, a month and a day with hyphens between them; blanks around it do not count. -/
def ofText? (s : String) : Option Date :=
  match Text.pieces '-' (Text.trim s.toList) with
  | [y, m, d] => do
    let date : Date := ⟨← yearOf? y, ← monthOf? m, ← dayOf? d⟩
    if date.isReal then some date else none
  | _ => none

end Date

end Vetted
