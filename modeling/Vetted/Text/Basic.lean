import Vetted.Text.Pieces
import Vetted.Text.Ranges

namespace Vetted.Text

def blankRanges : Ranges := .ofLines ["9-d 1c-20 85 a0 1680 2000-200a 2028-2029 202f 205f 3000"]

def isBlank (c : Char) : Bool :=
  if c.toNat < 128 then (9 ≤ c.toNat && c.toNat ≤ 13) || (28 ≤ c.toNat && c.toNat ≤ 32)
  else blankRanges.contains c.toNat

def trimLeft (cs : List Char) : List Char := cs.dropWhile isBlank

def trimRight (cs : List Char) : List Char := (cs.reverse.dropWhile isBlank).reverse

def trim (cs : List Char) : List Char := trimRight (trimLeft cs)

/-- The maximal runs of characters that are not blank, `run` being the one under way. -/
def wordsFrom (run : List Char) : List Char → List (List Char)
  | [] => if run.isEmpty then [] else [run.reverse]
  | c :: cs =>
    if isBlank c then
      if run.isEmpty then wordsFrom [] cs else run.reverse :: wordsFrom [] cs
    else wordsFrom (c :: run) cs

def words (cs : List Char) : List (List Char) := wordsFrom [] cs

def unifyLineEnds : List Char → List Char
  | '\r' :: '\n' :: rest => '\n' :: unifyLineEnds rest
  | '\r' :: rest => '\n' :: unifyLineEnds rest
  | c :: rest => c :: unifyLineEnds rest
  | [] => []

/-- The lines of a text, without their ends; a final line end opens no further line. -/
def lines (s : String) : List String :=
  match (pieces '\n' s.toList).reverse with
  | [] :: rest => rest.reverse.map String.ofList
  | all => all.reverse.map String.ofList

/-- A string without blanks at its ends. -/
def strip (s : String) : String := String.ofList (trim s.toList)

def splitOnChar (sep : Char) (s : String) : List String := (pieces sep s.toList).map String.ofList

def splitWords (s : String) : List String := (words s.toList).map String.ofList

def total (ns : List Nat) : Nat := ns.foldl (· + ·) 0

def commaJoin (items : List String) : String := ", ".intercalate items

def occursIn (small : List Char) : List Char → Bool
  | [] => small.isEmpty
  | c :: cs => small.isPrefixOf (c :: cs) || occursIn small cs

def containsText (big small : String) : Bool := occursIn small.toList big.toList

def startsWith (s front : String) : Bool := front.toList.isPrefixOf s.toList

def endsWith (s tail : String) : Bool := tail.toList.isSuffixOf s.toList

def repeated (n : Nat) (c : Char) : String := String.ofList (List.replicate n c)

/-- Strict order of strings by code points. -/
def before (a b : String) : Bool := a < b

def atMost (a b : String) : Bool := !(b < a)

def insertText (a : String) : List String → List String
  | [] => [a]
  | b :: rest => if atMost a b then a :: b :: rest else b :: insertText a rest

def sortTexts (items : List String) : List String := items.foldr insertText []

def distinct : List String → List String
  | [] => []
  | a :: rest => a :: (distinct rest).filter (· ≠ a)

end Vetted.Text
