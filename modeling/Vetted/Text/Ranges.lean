import Vetted.Text.Pieces

namespace Vetted.Text

def hexValue? (c : Char) : Option Nat :=
  if '0' ≤ c && c ≤ '9' then some (c.toNat - 48)
  else if 'a' ≤ c && c ≤ 'f' then some (c.toNat - 87)
  else if 'A' ≤ c && c ≤ 'F' then some (c.toNat - 55)
  else none

def hexOf (cs : List Char) : Nat :=
  cs.foldl (fun n c => n * 16 + (hexValue? c).getD 0) 0

def readHex (s : String) : Nat := hexOf s.toList

/-- Inclusive ranges of code points, sorted and disjoint. -/
structure Ranges where
  spans : Array (Nat × Nat)

namespace Ranges

def spanOf (cs : List Char) : Nat × Nat :=
  match pieces '-' cs with
  | [a, b] => (hexOf a, hexOf b)
  | _ => (hexOf cs, hexOf cs)

def ofLines (lines : List String) : Ranges :=
  ⟨(lines.flatMap fun l => (pieces ' ' l.toList).map spanOf).toArray⟩

/-- Halves the places `lo … hi` until the range that holds `n` is found; `fuel` bounds the number of halvings. -/
def search (r : Ranges) (n : Nat) : Nat → Nat → Nat → Option (Nat × Nat)
  | 0, _, _ => none
  | fuel + 1, lo, hi =>
    if lo ≥ hi then none
    else
      let mid := (lo + hi) / 2
      match r.spans[mid]? with
      | none => none
      | some (a, b) =>
        if n < a then search r n fuel lo mid
        else if b < n then search r n fuel (mid + 1) hi
        else some (a, b)

def find? (r : Ranges) (n : Nat) : Option (Nat × Nat) := r.search n (r.spans.size + 1) 0 r.spans.size

def contains (r : Ranges) (n : Nat) : Bool := (r.find? n).isSome

def offset? (r : Ranges) (n : Nat) : Option Nat := (r.find? n).map fun s => n - s.1

end Ranges

end Vetted.Text
