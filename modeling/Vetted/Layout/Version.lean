import Vetted.Layout.Nested
import Vetted.Layout.Part

namespace Vetted.Layout

open Source (Kind)

def oldestVersion : Nat := 3

def wordVersion (w : Word) : Nat :=
  match w.kind with
  | .string =>
    let mark := (splitMark w.text.toList).1
    if mark.any fun c => c = 't' || c = 'T' then 14
    else if mark.any fun c => c = 'f' || c = 'F' then (if (fieldTexts w.text).any showsExpression then 8 else 6)
    else oldestVersion
  | .number => if w.text.contains '_' then 6 else oldestVersion
  | .operator => if w.text = ":=" then 8 else oldestVersion
  | _ => oldestVersion

def isSimpleDecorator : Part → Bool
  | .word w => w.isName
  | .group .power (.word w :: trailers) =>
    let isAttribute (p : Part) : Bool := p.isKind .trailer && p.parts.head?.any (·.isOperator ".")
    let isCall (p : Part) : Bool := p.isKind .trailer && p.parts.head?.any (·.isOperator "(")
    w.isName && trailers.dropLast.all isAttribute && trailers.getLast?.all fun p => isAttribute p || isCall p
  | _ => false

def isStar (p : Part) : Bool := p.isOperator "*" || p.isOperator "**"

def starsBeforeComma (ps : List Part) : Bool :=
  ps.getLast?.any (·.isOperator ",") && ps.any fun p => isStar p || (p.isKind .argument && p.parts.any isStar)

/-- Whether an item in brackets is given a name; `fuel` bounds the depth. -/
def givesName : (fuel : Nat) → Part → Bool
  | 0, _ => false
  | _ + 1, .group .aliased _ => true
  | fuel + 1, .group .tupleItems ps => ps.any (givesName fuel)
  | fuel + 1, p => p.unbracketed?.any (givesName fuel)

def groupVersion (k : Kind) (ps : List Part) : Nat :=
  let holdsStar (p : Part) : Bool := p.isKind .starList && p.parts.any (·.isKind .starred)
  match k with
  | .parameterList =>
    max (if starsBeforeComma ps then 6 else oldestVersion) (if ps.any (·.isOperator "/") then 8 else oldestVersion)
  | .lambdaParameterList => if ps.any (·.isOperator "/") then 8 else oldestVersion
  | .argumentList => if starsBeforeComma ps then 5 else oldestVersion
  | .returnStatement | .yieldExpr => if ps[1]?.any holdsStar then 8 else oldestVersion
  | .typing => if ps[3]?.any (·.isKind .starList) then 8 else oldestVersion
  | .decorator => if ps[1]?.all isSimpleDecorator then oldestVersion else 9
  | .withStatement =>
    if ps[1]?.any fun p => p.isKind .atom && p.unbracketed?.any (givesName 50) then 9 else oldestVersion
  | .matchStatement => 10
  | .exceptClause =>
    if ps.any (·.isKind .starList) then 14 else if ps[1]?.any (·.isOperator "*") then 11 else oldestVersion
  | .subscriptList | .trailer => if ps.any (·.isKind .starred) then 11 else oldestVersion
  | .starTypedName => if ps[2]?.any (·.isKind .starred) then 11 else oldestVersion
  | .typeStatement | .typeParameters => 12
  | .typeParameter => if ps.any (·.isOperator "=") then 13 else oldestVersion
  | _ => oldestVersion

mutual

def versionOf : Part → Nat
  | .word w => wordVersion w
  | .group k ps => max (groupVersion k ps) (versionOfAll ps)

def versionOfAll : List Part → Nat
  | [] => oldestVersion
  | p :: ps => max (versionOf p) (versionOfAll ps)

end

def futureNames : Part → Option (List String)
  | .group .simpleLine (.group .importFrom ps :: _) =>
    if ps[1]?.any (·.isNamed "__future__") then
      some ((Part.wordsOf (ps.drop 3)).filterMap fun w => if w.isName then some w.text else none)
    else none
  | _ => none

def isTextLine : Part → Bool
  | .group .simpleLine [p, n] => p.isToken .string && n.isToken .newline
  | _ => false

/-- The names of future features at the start of a source; a text may stand before them. -/
def futureFeatures : (started : Bool) → List Part → List String
  | _, [] => []
  | started, p :: ps =>
    if !started && isTextLine p then futureFeatures true ps
    else
      match futureNames p with
      | some names => names ++ futureFeatures true ps
      | none => []

def sourceVersion (file : Part) : Nat :=
  let future := if (futureFeatures false file.parts).contains "annotations" then 7 else oldestVersion
  max future (versionOf file)

end Vetted.Layout
