import Vetted.Layout.Comment
import Vetted.Layout.Position

namespace Vetted.Layout

open Source (TokenKind Kind)

def offMarks : List String := ["# fmt: off", "# fmt:off", "# yapf: disable"]

def onMarks : List String := ["# fmt: on", "# fmt:on", "# yapf: enable"]

def skipMarks : List String := ["# fmt: skip", "# fmt:skip"]

def commentPieces (taken : List Char) : List Char → List (List Char)
  | [] => [taken.reverse]
  | [c] => [(c :: taken).reverse]
  | '#' :: ' ' :: cs => taken.reverse :: commentPieces [] cs
  | c :: cs => commentPieces (c :: taken) cs

def hasMark (marks : List String) (text : String) : Bool :=
  let edge (c : Char) : Bool := c = '#' || c = ' '
  let bare := ((text.toList.dropWhile edge).reverse.dropWhile edge).reverse
  let parts := (commentPieces [] text.toList).drop 1 ++ Text.pieces ';' bare
  (text :: parts.map fun p => "# " ++ String.ofList (Text.trim p)).any marks.contains

def remarksOf (p : Part) : List Remark := (remarksBefore false p.before).1

def turnsOn (p : Part) : Bool :=
  (remarksOf p).foldl (fun on r =>
    if onMarks.contains r.text then true else if offMarks.contains r.text then false else on)
    false

def holdsTurnOn (p : Part) : Bool := p.parts.any turnsOn

def containerOf (root : Part) (start : String) : (fuel : Nat) → Position → Position
  | 0, place => place
  | fuel + 1, place =>
    let around := place.dropLast
    let isBracket (q : Position) : Bool := ((root.at? q).bind Part.word?).any fun w => w.opens || w.closes
    match root.at? around with
    | none => place
    | some p =>
      if place.isEmpty || around.isEmpty then place
      else if (p.parts.head?.map Part.before) ≠ some start then place
      else if p.isKind .file || (Position.previous? around).any isBracket then place
      else containerOf root start fuel around

def partsUntilOn (way : Position) (i : Nat) : List Part → List Position
  | [] => []
  | p :: ps =>
    if (p.word?.isSome && turnsOn p) || holdsTurnOn p || turnsOn p then []
    else if p.isToken .indent && ps.head?.any holdsTurnOn then []
    else (way ++ [i]) :: partsUntilOn way (i + 1) ps

def partsOff (root : Part) : (fuel : Nat) → Position → List Position
  | 0, _ => []
  | fuel + 1, place =>
    match root.at? place with
    | none => []
    | some p =>
      if place.isEmpty || p.isToken .finish || turnsOn p then []
      else if holdsTurnOn p then partsUntilOn place 0 p.parts
      else if p.isToken .dedent && (root.at? (Position.next place)).isNone then []
      else place :: partsOff root fuel (Position.next place)

def lineBefore (root : Part) : (fuel : Nat) → Position → List Position → List Position
  | 0, _, found => found
  | fuel + 1, place, found =>
    if ((root.at? place).map Part.before).any (·.contains '\n') then found
    else
      match Position.before? place.length place with
      | none => found
      | some q =>
        match ((root.at? q).map (·.positioned q.reverse)).bind List.getLast? with
        | none => found
        | some (last, w) =>
          if w.kind = .newline || w.kind = .indent || w.kind = .dedent then found
          else lineBefore root fuel last (last :: found)

/-- The parts that a mark at the end of a line leaves alone; the mark stands before the token at the position. -/
def partsSkipped (root : Part) (fuel : Nat) (place : Position) : List Position :=
  match (Position.previous? place).orElse fun _ => Position.previous? place.dropLast with
  | none => []
  | some q => lineBefore root fuel q [q]

def textOf (p : Part) : String := String.join (p.words.map fun w => w.before ++ w.text)

def withoutLastEnd (s : String) : String :=
  match s.toList.reverse with
  | '\n' :: rest => String.ofList rest.reverse
  | _ => s

def wordBefore (place : Position) (words : List (Position × Word)) : Option Word :=
  ((words.takeWhile fun q => q.1 ≠ place).getLast?).map Prod.snd

/-- Puts one token in place of some parts. `front` is the text before it and `edit` completes the text of the parts. -/
def collapseParts (root : Part) (gone : List Position) (front : String) (edit : String → String) : Part :=
  let text := String.join (gone.map fun q => ((root.at? q).map textOf).getD "")
  let leads := ((gone.head?.bind root.at?).bind (·.words.head?)).map Word.text
  let word : Word :=
    { kind := .name, text := withoutLastEnd (edit text), before := front, verbatim := true, leads := leads.getD "" }
  Part.collapse gone (.word word) [] root

def dropText (n : Nat) (s : String) : String := String.ofList (s.toList.drop n)

def takeText (n : Nat) (s : String) : String := String.ofList (s.toList.take n)

/-- Only comments stand between a mark that turns the layout off and the one that turns it on again. -/
def collapseComments (root : Part) (place : Position) (w : Word) : Option Part :=
  let remarks := (remarksBefore false w.before).1
  let front := remarks.takeWhile fun r => !offMarks.contains r.text
  match remarks.drop front.length with
  | [] => none
  | off :: rest =>
    match rest.find? fun r => onMarks.contains r.text with
    | none => none
    | some on =>
      let start := (front.getLast?.map Remark.reach).getD 0
      let text := off.text ++ "\n" ++ dropText off.reach (takeText on.reach w.before)
      let word : Word :=
        { kind := .name, text := withoutLastEnd text, verbatim := true, apart := true
          before := takeText start w.before ++ Text.repeated off.blanks.count '\n' }
      let root := root.modifyAt (fun p => p.setBefore (dropText on.reach w.before)) place
      some (Part.insertBefore (.word word) place root)

/-- Deals with one comment before the token at a position; `passed` is the reach of the comments before it. -/
def handleMark (root : Part) (fuel : Nat) (words : List (Position × Word)) (place : Position) (w : Word) (first : Bool)
    (passed : Nat) (r : Remark) : Option Part :=
  let isOff := hasMark offMarks r.text
  let isSkip := hasMark skipMarks r.text
  let prior := wordBefore place words
  let afterLine := prior.all fun q => q.kind = .newline || q.kind = .indent || q.kind = .dedent
  if isOff && w.closes then none
  else if r.trailing && isOff && !(afterLine || prior.any Word.verbatim) then none
  else if r.trailing && isSkip && prior.isSome && afterLine then none
  else if isSkip then
    match first, partsSkipped root fuel place with
    | false, _ => none
    | _, [] => none
    | true, gone =>
      let front := ((gone.head?.bind root.at?).map Part.before).getD ""
      let root := root.modifyAt (fun p => p.setBefore (dropText r.reach p.before)) place
      let root := (gone.head?.map fun q => root.modifyAt (fun p => p.setBefore "") q).getD root
      some (collapseParts root gone front fun t => t ++ String.ofList r.indent ++ r.text)
  else if isOff then
    match partsOff root fuel (containerOf root w.before fuel place) with
    | [] => collapseComments root place w
    | gone =>
      let exact := offMarks.contains r.text
      let old := ((gone.head?.bind root.at?).map Part.before).getD ""
      let front := takeText passed old ++ Text.repeated r.blanks.count '\n'
      let root :=
        if exact then (gone.head?.map fun q => root.modifyAt (fun p => p.setBefore (dropText r.reach old)) q).getD root
        else root
      some (collapseParts root gone front fun t => if exact then r.text ++ "\n" ++ t else t)
  else none

def handleMarks (root : Part) (fuel : Nat) (words : List (Position × Word)) (place : Position) (w : Word) :
    (first : Bool) → (passed : Nat) → List Remark → Option Part
  | _, _, [] => none
  | first, passed, r :: rs =>
    if hasMark offMarks r.text || hasMark skipMarks r.text then
      (handleMark root fuel words place w first passed r).orElse fun _ =>
        handleMarks root fuel words place w false (if hasMark offMarks r.text && w.closes then r.reach else passed) rs
    else handleMarks root fuel words place w false r.reach rs

def untouchOnce (root : Part) : Option Part :=
  let words := root.positioned []
  words.findSome? fun (place, w) =>
    if w.verbatim || !w.before.contains '#' then none
    else handleMarks root (words.length + 50) words place w true 0 (remarksBefore false w.before).1

def untouch : (fuel : Nat) → Part → Part
  | 0, root => root
  | fuel + 1, root =>
    match untouchOnce root with
    | some next => untouch fuel next
    | none => root

end Vetted.Layout
