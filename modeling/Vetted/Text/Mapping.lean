import Vetted.Text.Ranges

namespace Vetted.Text

/-- Entries sorted by their code point. -/
structure Mapping where
  entries : Array (Nat × List Nat)

namespace Mapping

def entryRun (step : Nat) : Nat → Nat → Nat → List (Nat × List Nat)
  | _, _, 0 => []
  | key, image, count + 1 => (key, [image]) :: entryRun step (key + step) (image + step) count

def entriesOf (cs : List Char) : List (Nat × List Nat) :=
  match pieces ':' cs with
  | [keys, images] =>
    match pieces '-' keys, pieces '/' keys with
    | [a, b], _ => entryRun 1 (hexOf a) (hexOf images) (hexOf b - hexOf a + 1)
    | _, [a, b] => entryRun 2 (hexOf a) (hexOf images) ((hexOf b - hexOf a) / 2 + 1)
    | _, _ => [(hexOf keys, (pieces ',' images).map hexOf)]
  | _ => [(hexOf cs, [])]

def ofLines (lines : List String) : Mapping :=
  ⟨(lines.flatMap fun l => (pieces ' ' l.toList).flatMap entriesOf).toArray⟩

def rank (m : Mapping) (n : Nat) : Nat → Nat → Nat → Nat
  | 0, lo, _ => lo
  | fuel + 1, lo, hi =>
    if lo ≥ hi then lo
    else
      let mid := (lo + hi) / 2
      match m.entries[mid]? with
      | none => lo
      | some (a, _) => if a ≤ n then rank m n fuel (mid + 1) hi else rank m n fuel lo mid

def entryBelow? (m : Mapping) (n : Nat) : Option (Nat × List Nat) :=
  match m.rank n (m.entries.size + 1) 0 m.entries.size with
  | 0 => none
  | k + 1 => m.entries[k]?

def get? (m : Mapping) (n : Nat) : Option (List Nat) :=
  match m.entryBelow? n with
  | some (a, v) => if a = n then some v else none
  | none => none

def apply (m : Mapping) (c : Char) : List Char :=
  match m.get? c.toNat with
  | some v => v.map Char.ofNat
  | none => [c]

end Mapping

end Vetted.Text
