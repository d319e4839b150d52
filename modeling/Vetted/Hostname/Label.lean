import Vetted.Hostname.Allowed
import Vetted.Hostname.Direction
import Vetted.Hostname.Punycode
import Vetted.Hostname.Script
import Vetted.Text.Mark
import Vetted.Text.Normal

namespace Vetted.Hostname

open Text

def contextAllows (label before : List Char) (c : Char) (after : List Char) : Bool :=
  let n := c.toNat
  if n = 0xb7 then before.head? = some 'l' && after.head? = some 'l'
  else if n = 0x375 then after.head?.any isGreek
  else if n = 0x5f3 || n = 0x5f4 then before.head?.any isHebrew
  else if n = 0x30fb then label.any fun d => d ≠ c && isJapanese d
  else if 0x660 ≤ n && n ≤ 0x669 then label.all fun d => !(0x6f0 ≤ d.toNat && d.toNat ≤ 0x6f9)
  else if 0x6f0 ≤ n && n ≤ 0x6f9 then label.all fun d => !(0x660 ≤ d.toNat && d.toNat ≤ 0x669)
  else false

/-- Whether every character may stand where it stands, `before` holding the passed ones, nearest first. -/
def charactersAllowed (label before : List Char) : List Char → Bool
  | [] => true
  | c :: rest =>
    (isAlwaysAllowed c || (needsContext c && contextAllows label before c rest)) &&
      charactersAllowed label (c :: before) rest

def isRightward (d : Direction) : Bool := d = .rightToLeft || d = .arabicLetter

def lastDirection (ds : List Direction) : Option Direction := (ds.filter (· ≠ .nonspacingMark)).getLast?

def directionAllowed (label : List Char) : Bool :=
  match label.mapM direction? with
  | none => false
  | some ds =>
    if !ds.any fun d => isRightward d || d = .arabicNumber then true
    else
      match ds.head? with
      | none => false
      | some first =>
        if isRightward first then
          ds.all (· ≠ .leftToRight) &&
            (lastDirection ds).any (fun d => isRightward d || d = .europeanNumber || d = .arabicNumber) &&
            !(ds.contains .europeanNumber && ds.contains .arabicNumber)
        else
          first = .leftToRight && ds.all (fun d => !isRightward d && d ≠ .arabicNumber) &&
            (lastDirection ds).any (fun d => d = .leftToRight || d = .europeanNumber)

def isLabel (label : List Char) : Bool :=
  label ≠ [] && label.length ≤ 254 && nfc (String.ofList label) = String.ofList label &&
    (label.drop 2).take 2 ≠ ['-', '-'] && label.head? ≠ some '-' && label.getLast? ≠ some '-' &&
    !(label.head?.any isMark) && charactersAllowed label [] label && directionAllowed label

def isAscii (cs : List Char) : Bool := cs.all (·.toNat < 128)

def shownLabel? (label : List Char) : Option (List Char) :=
  match label.map Char.toLower with
  | 'x' :: 'n' :: '-' :: '-' :: rest =>
    if rest = [] || rest.getLast? = some '-' then none
    else (Punycode.decode? rest).filter isLabel
  | lower => some lower |>.filter isLabel

def asciiLabel? (label : List Char) : Option (List Char) :=
  let encoded? :=
    if isAscii label then (shownLabel? label).map fun _ => label
    else if isLabel label then some ("xn--".toList ++ Punycode.encode label)
    else none
  encoded?.filter (·.length ≤ 63)

end Vetted.Hostname
