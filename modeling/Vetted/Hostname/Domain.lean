import Vetted.Hostname.Label
import Vetted.Hostname.Mapping
import Vetted.Text.Basic
import Vetted.Text.Printable

namespace Vetted.Hostname

open Text

def isHostChar (c : Char) : Bool := c.isAlphanum || c = '-' || c = '.' || 128 ≤ c.toNat

/-- A text without separators, control or unassigned characters, and with no mark at its start. -/
def isSafe (cs : List Char) : Bool := cs.all (fun c => c ≠ ' ' && isPrintable c) && !(cs.head?.any isMark)

def mapped? (cs : List Char) : Option (List Char) :=
  (cs.mapM mapChar?).map fun parts => (nfc (String.ofList parts.flatten)).toList

def isFramed (label : List Char) : Bool :=
  label ≠ [] && label.head? ≠ some '-' && label.getLast? ≠ some '-'

def isReserved (label : List Char) : Bool :=
  (label.drop 2).take 2 = ['-', '-'] && (label.take 2).map Char.toLower ≠ ['x', 'n']

def labelsOf (cs : List Char) : List (List Char) := pieces '.' cs

def joinLabels (labels : List (List Char)) : List Char := (labels.intersperse ['.']).flatten

def ascii? (cs : List Char) : Option (List Char) :=
  if isAscii cs then some cs
  else if 254 < cs.length then none
  else do
    let labels ← (labelsOf cs).mapM asciiLabel?
    let all := joinLabels labels
    if all.length ≤ 253 then some all else none

def specialNames : List String := ["arpa", "invalid", "local", "localhost", "onion", "test"]

def isSpecial (cs : List Char) : Bool :=
  specialNames.any fun s => cs = s.toList || ('.' :: s.toList).isSuffixOf cs

/-- Forms of a host name that mail can be sent to: in ASCII, and as it is shown. -/
structure Domain where
  ascii : List Char
  shown : List Char

def Domain.ofText? (text : List Char) : Option Domain := do
  guard (text.all isHostChar && isSafe text)
  let name ← mapped? text
  guard (name.all isHostChar && (labelsOf name).all fun l => isFramed l && !isReserved l)
  let ascii ← ascii? name
  guard (ascii.length ≤ 253 && (labelsOf ascii).all (·.length ≤ 63))
  guard (2 ≤ (labelsOf ascii).length && ascii.getLast?.any Char.isAlpha && !isSpecial ascii)
  let shown := joinLabels (← (labelsOf ascii).mapM shownLabel?)
  guard (shown.all isHostChar && isSafe shown)
  guard (joinLabels (← (labelsOf shown).mapM asciiLabel?) = ascii)
  return { ascii, shown }

end Vetted.Hostname
