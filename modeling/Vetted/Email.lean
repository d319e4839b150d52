import Vetted.Hostname.Domain
import Vetted.Text.Alphanumeric

namespace Vetted.Email

open Text

def isPlainAtom (c : Char) : Bool := c.isAlphanum || "_!#$%&'*+-/=?^`\x7b|\x7d~".toList.contains c

def isAtom (c : Char) : Bool := isPlainAtom c || 128 ≤ c.toNat

def isDotted (atom : Char → Bool) (cs : List Char) : Bool := (pieces '.' cs).all fun p => p ≠ [] && p.all atom

def isLocalPart (cs : List Char) : Bool := isDotted isPlainAtom cs || (isDotted isAtom cs && Hostname.isSafe cs)

def byteLength (cs : List Char) : Nat := (String.ofList cs).utf8ByteSize

def isBareAddress (cs : List Char) : Bool :=
  match cut '@' cs with
  | (_, none) => false
  | (front, some back) =>
    let normal := (nfc (String.ofList front)).toList
    isLocalPart front && isLocalPart normal &&
      match Hostname.Domain.ofText? back with
      | none => false
      | some domain =>
        byteLength cs ≤ 254 && byteLength (normal ++ '@' :: domain.shown) ≤ 254 &&
          byteLength (normal ++ '@' :: domain.ascii) ≤ 254

def isNameChar (c : Char) : Bool := isAlphanumeric c || isPlainAtom c || c = '.'

/-- What stands between the angle brackets that the text opens and ends with; blanks may follow. -/
def bracketed? (cs : List Char) : Option (List Char) :=
  match cs, (trimRight cs).reverse with
  | '<' :: rest, '>' :: _ =>
    let inner := rest.take ((trimRight cs).length - 2)
    if inner ≠ [] then some inner else none
  | _, _ => none

/-- The bracketed address after a quoted name, which ends at the last quote that permits it; `passed` says that
something stands between the quotes. -/
def afterQuoted? (passed : Bool) : List Char → Option (List Char)
  | [] => none
  | c :: rest =>
    (afterQuoted? true rest).or (if c = '"' && passed then bracketed? (trimLeft rest) else none)

def named? (cs : List Char) : Option (List Char) :=
  let cs := trimLeft cs
  let name := cs.takeWhile (· ≠ '<')
  if name.all fun c => isNameChar c || isBlank c then bracketed? (cs.dropWhile (· ≠ '<'))
  else
    match cs with
    | '"' :: rest => afterQuoted? false rest
    | _ => none

def isLineBreak (c : Char) : Bool := c = '\n' || c = '\r'

/-- Whether a text is an address of at most 2048 characters on one line, with or without a name. -/
def isAddress (s : String) : Bool :=
  s.length ≤ 2048 && !s.toList.any isLineBreak && isBareAddress (trim ((named? s.toList).getD s.toList))

end Vetted.Email
