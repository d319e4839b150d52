import Vetted.Source.Formatted
import Vetted.Source.Lexer

namespace Vetted.Layout

open Source (isNamePart takeQuoted isOpenBracket isCloseBracket)

/-- What is open at some place of a formatted string: the text of a string with its quotes, the expression of a field
with the number of brackets open in it, or the format of a field. -/
inductive Opened where
  | text (quotes : List Char) (raw : Bool)
  | field (brackets : Nat)
  | spec
deriving Repr, DecidableEq

/-- A scan of a formatted string: what is open, innermost first, the characters taken, those since the opening of the
outermost field that is open, and the fields that are complete, each latest first. -/
structure NestedScan where
  opened : List Opened
  taken : List Char := []
  field : List Char := []
  fields : List (List Char) := []
deriving Repr

namespace NestedScan

def eat (s : NestedScan) (cs : List Char) : NestedScan :=
  { s with
    taken := cs.reverse ++ s.taken
    field := if 1 < s.opened.length then cs.reverse ++ s.field else s.field }

def close (s : NestedScan) (mark : List Char) : NestedScan :=
  let outer := s.opened.tail
  if outer.length = 1 then
    { s with taken := mark.reverse ++ s.taken, opened := outer, field := [], fields := s.field.reverse :: s.fields }
  else { s.eat mark with opened := outer }

def enter (s : NestedScan) (mark : List Char) (o : Opened) : NestedScan :=
  let s := s.eat mark
  { s with opened := o :: s.opened }

end NestedScan

def quotesAt : List Char → List Char
  | q :: r :: t :: _ => if q = r && r = t then [q, q, q] else [q]
  | q :: _ => [q]
  | [] => []

def stringMarkWords : List (List Char) :=
  ["", "b", "u", "r", "f", "t", "br", "rb", "fr", "rf", "tr", "rt"].map String.toList

def markAt? (cs : List Char) : Option (List Char) :=
  let word := cs.takeWhile isNamePart
  match cs.drop word.length with
  | q :: _ =>
    if (q = '"' || q = '\'') && stringMarkWords.contains (word.map Char.toLower) then some word else none
  | [] => none

def marksFields (mark : List Char) : Bool := mark.any fun c => c = 'f' || c = 'F' || c = 't' || c = 'T'

def marksRaw (mark : List Char) : Bool := mark.any fun c => c = 'r' || c = 'R'

def escaped (raw : Bool) (rest : List Char) : List Char :=
  match rest with
  | 'N' :: '\x7b' :: more =>
    if raw then ['N']
    else
      let name := more.takeWhile fun c => c ≠ '\x7d' && c ≠ '\n'
      'N' :: '\x7b' :: name ++ (more.drop name.length).take 1
  | c :: _ => if c = '\x7b' || c = '\x7d' then [] else [c]
  | [] => []

def scanNested : (fuel : Nat) → NestedScan → List Char → Option (NestedScan × List Char)
  | 0, _, _ => none
  | fuel + 1, s, cs =>
    match s.opened with
    | [] => some (s, cs)
    | .text quotes raw :: _ =>
      if quotes.isPrefixOf cs then scanNested fuel (s.close quotes) (cs.drop quotes.length)
      else
        match cs with
        | [] => none
        | '\\' :: rest =>
          let run := escaped raw rest
          scanNested fuel (s.eat ('\\' :: run)) (rest.drop run.length)
        | '\x7b' :: '\x7b' :: rest => scanNested fuel (s.eat ['\x7b', '\x7b']) rest
        | '\x7b' :: rest => scanNested fuel (s.eat ['\x7b'] |>.enter [] (.field 0)) rest
        | c :: rest => if c = '\n' && quotes.length = 1 then none else scanNested fuel (s.eat [c]) rest
    | .field n :: outer =>
      match markAt? cs with
      | some mark =>
        let quoted := cs.drop mark.length
        if marksFields mark then
          let quotes := quotesAt quoted
          scanNested fuel (s.enter (mark ++ quotes) (.text quotes (marksRaw mark))) (quoted.drop quotes.length)
        else
          match takeQuoted quoted with
          | some (text, rest) => scanNested fuel (s.eat (mark ++ text)) rest
          | none => none
      | none =>
        let word := cs.takeWhile isNamePart
        if !word.isEmpty then scanNested fuel (s.eat word) (cs.drop word.length)
        else
          match cs with
          | [] => none
          | '\\' :: rest => if rest.head? = some '\n' then scanNested fuel (s.eat ['\\', '\n']) (rest.drop 1) else none
          | '#' :: rest =>
            let remark := rest.takeWhile (· ≠ '\n')
            scanNested fuel (s.eat ('#' :: remark)) (rest.drop remark.length)
          | c :: rest =>
            let go (o : Opened) : NestedScan := { s.eat [c] with opened := o :: outer }
            if isOpenBracket c then scanNested fuel (go (.field (n + 1))) rest
            else if n = 0 && c = '\x7d' then scanNested fuel (s.close [c]) rest
            else if isCloseBracket c then (if n = 0 then none else scanNested fuel (go (.field (n - 1))) rest)
            else if n = 0 && c = ':' then scanNested fuel (go .spec) rest
            else scanNested fuel (s.eat [c]) rest
    | .spec :: outer =>
      let short := outer.head?.any fun o =>
        match o with
        | .text quotes _ => quotes.length = 1
        | _ => false
      match cs with
      | [] => none
      | '\x7b' :: rest => scanNested fuel (s.eat ['\x7b'] |>.enter [] (.field 0)) rest
      | '\x7d' :: rest => scanNested fuel (s.close ['\x7d']) rest
      | c :: rest => if c = '\n' && short then none else scanNested fuel (s.eat [c]) rest

def takeFormatted (mark : List Char) (quoted : List Char) : Option (List Char × List (List Char) × List Char) :=
  let quotes := quotesAt quoted
  let start : NestedScan := ({ opened := [.text quotes (marksRaw mark)] } : NestedScan).eat (mark ++ quotes)
  (scanNested (2 * quoted.length + 4) start (quoted.drop quotes.length)).map fun (s, rest) =>
    (s.taken.reverse, s.fields.reverse, rest)

def fieldTexts (text : String) : List (List Char) :=
  match markAt? text.toList with
  | some mark =>
    if marksFields mark then
      match takeFormatted mark (text.toList.drop mark.length) with
      | some (_, fields, _) => fields
      | none => []
    else []
  | none => []

def fieldExpression? (field : List Char) : Option (List Char × List Char) :=
  Source.takeFieldExpr (field.length + 1) {} [] field

def showsExpression (field : List Char) : Bool :=
  (fieldExpression? field).any fun (_, rest) => rest.head? = some '='

end Vetted.Layout
