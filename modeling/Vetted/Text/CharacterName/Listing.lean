import Vetted.Text.Ranges

namespace Vetted.Text.CharacterName

/-- What a listing says: a code point, or the next name by its difference from the last. -/
inductive Entry where
  | code (n : Nat)
  | name (dropped : Nat) (added : List Char)

def readLetters (cs : List Char) : Nat := cs.foldl (fun n c => n * 26 + (c.toNat - 97)) 0

def words : List (Char × String) :=
  [('!', " LETTER "), ('#', " WITH "), ('$', "CAPITAL"), ('%', "SMALL"), ('&', " ARROW"), ('(', " FORM"),
    (')', "RIGHT"), ('*', " AND "), ('+', " ABOVE"), (',', "WARDS"), ('.', " SIGN"), ('<', " ISOLATED"),
    ('=', "LEFT"), ('>', "DOUBLE"), ('?', " BELOW"), ('@', " TRIANGLE"), ('^', "FINAL"), ('_', "VERTICAL"),
    ('|', " MARK"), ('~', " SYMBOL")]

def spelled (c : Char) : List Char := ((words.lookup c).map String.toList).getD [c]

def namesOf : List (List Char) → List Entry
  | letters :: added :: rest => .name (readLetters letters) (added.flatMap spelled) :: namesOf rest
  | _ => []

def entriesOf (line : List Char) : List Entry :=
  (pieces ';' line).flatMap fun run =>
    let split := fun cs => namesOf (cs.splitBy fun a b => a.isLower == b.isLower)
    match cut ':' run with
    | (digits, some names) => .code (hexOf digits) :: split names
    | (names, none) => split names

def search (key : List Char) (code : Nat) (last : List Char) : List Entry → Option Nat
  | [] => none
  | .code n :: rest => search key n last rest
  | .name dropped added :: rest =>
    let name := added.reverse ++ last.drop dropped
    if name = key then some code else search key (code + 1) name rest

def findIn? (name : List Char) (listing : List String) : Option Nat :=
  search name.reverse 0 [] (listing.flatMap fun line => entriesOf line.toList)

end Vetted.Text.CharacterName
