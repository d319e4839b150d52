import Vetted.Layout.Part

namespace Vetted.Layout

open Source (TokenKind Kind)

/-- Where a token stands: the groups around it, innermost first, the part before it in its group, and whether it is part
of a slice with operators or calls in it. -/
structure Place where
  around : List Kind := []
  previous : Option Part := none
  complexSlice : Bool := false
deriving Inhabited

namespace Place

def parent? (p : Place) : Option Kind := p.around.head?

def grandparent? (p : Place) : Option Kind := p.around[1]?

def isIn (p : Place) (kinds : List Kind) : Bool := p.parent?.any kinds.contains

end Place

/-- A token that has been placed, with the blanks before it. -/
structure Placed where
  word : Word
  place : Place
  gap : String
deriving Inhabited

def argumentKinds : List Kind := [.argumentList, .argument, .trailer, .parameterList, .lambdaParameterList]

def unpackingKinds : List Kind :=
  [.atom, .dictOrSet, .listItems, .tupleItems, .starList, .exprList, .subjectList, .pattern, .patterns]

/-- A star or double star in front of an operand that is unpacked, inside one of the kinds of group. -/
def isUnpacking (kinds : List Kind) (w : Word) (place : Place) : Bool :=
  (w.isOperator "*" || w.isOperator "**") &&
    (if place.parent? = some .starred then place.grandparent?.any kinds.contains else place.parent?.any kinds.contains)

def mathMarks : List String := ["|", "^", "&", "<<", ">>", "+", "-", "*", "/", "//", "%", "@", "~", "**"]

def isMath (w : Word) : Bool := w.kind = .operator && mathMarks.contains w.text

def isSlice (k : Kind) : Bool := k = .subscript || k = .stepClause

def typedNames : List Kind := [.typedName, .starTypedName]

/-- Blanks settled by the token before the group, if the token is the first of its group. -/
def gapAfterOuter (w : Word) (place : Place) (prior : Option Placed) : Option String :=
  match prior with
  | none => some ""
  | some q =>
    if q.word.opens then some ""
    else if w.isOperator ":" then
      some (if q.word.isOperator "," || (place.complexSlice && !q.word.isOperator ":") then " " else "")
    else if q.word.isOperator "=" then
      if q.place.isIn [.argumentList, .argument, .parameters, .lambdaParameterList] then some ""
      else if q.place.isIn [.parameterList] then some q.gap
      else none
    else if q.word.isOperator "*" && q.place.parent? = some .starred
        && q.place.grandparent?.any (fun k => k = .subscriptList || k = .starTypedName) then some ""
    else if q.word.isOperator "*" || q.word.isOperator "**" then
      if isUnpacking (argumentKinds ++ unpackingKinds) q.word q.place then some ""
      else if q.place.isIn [.starred] then some ""
      else none
    else if q.word.isOperator ":" then
      if q.place.parent?.any isSlice then some (if place.complexSlice then " " else "") else none
    else if isMath q.word && q.place.isIn [.signed, .starred] then some ""
    else if q.word.isOperator "@" && place.grandparent? = some .decorator then some ""
    else if q.word.isOperator ">>" && q.place.isIn [.shift] && q.place.previous.any (·.isNamed "print") then some ""
    else none

def gapInGroup (w : Word) (place : Place) (prior : Option Placed) : String :=
  let previous := place.previous
  let afterComma := previous.any (·.isOperator ",")
  let priorIs (text : String) : Bool := prior.any (·.word.isOperator text)
  match place.parent? with
  | none => " "
  | some k =>
    match k with
    | .parameters | .argumentList => if afterComma then " " else ""
    | .lambdaParameterList => if previous.isSome && !afterComma then "" else " "
    | .parameterList =>
      match previous with
      | none => ""
      | some p =>
        if w.isOperator "=" then (if p.kind?.any typedNames.contains then " " else "")
        else if p.isOperator "=" then (prior.map Placed.gap).getD ""
        else if p.isOperator "," then " "
        else ""
    | .typedName | .starTypedName => if previous.isNone && !priorIs "," then "" else " "
    | .trailer =>
      if w.isOperator "(" || w.isOperator ")" then ""
      else
        match previous with
        | none => if w.isOperator "." || w.isOperator "[" then "" else " "
        | some p => if p.isOperator "," then " " else ""
    | .argument =>
      if w.isOperator "=" then ""
      else
        match previous with
        | none => if prior.isNone || priorIs "(" then "" else " "
        | some p => if p.isOperator "=" || p.isOperator "*" || p.isOperator "**" then "" else " "
    | .decorator => ""
    | .dottedName =>
      if previous.isSome then ""
      else if prior.isNone || priorIs "@" || prior.any (·.word.isDots) then ""
      else " "
    | .classDef => if w.isOperator "(" then "" else " "
    | .typeParameters => if previous.isNone then "" else " "
    | .typeParameter => if previous.any (fun p => p.isOperator "*" || p.isOperator "**") then "" else " "
    | .subscript | .stepClause =>
      match previous with
      | none =>
        if place.grandparent? = some .subscriptList then " "
        else if k = .stepClause && place.complexSlice then " " else ""
      | some p => if w.isOperator ":=" || p.isOperator ":=" then " " else if place.complexSlice then " " else ""
    | .atom => " "
    | .dictOrSet => if previous.any (·.isOperator "**") then "" else " "
    | .signed | .starred =>
      match previous with
      | none =>
        match prior with
        | none => ""
        | some q =>
          if q.word.opens then ""
          else if q.word.isOperator ":" && q.place.parent?.any isSlice then (if place.complexSlice then " " else "")
          else if q.word.isOperator "=" && q.place.isIn [.argument] then ""
          else " "
      | some _ => if w.isName || w.kind = .number || w.kind = .string then "" else " "
    | .importFrom =>
      if w.isDots then (if previous.any fun p => !(p.word?.any Word.isDots) then " " else "")
      else if w.isNamed "import" then " "
      else if w.isName && previous.any (fun p => p.word?.any Word.isDots) then ""
      else " "
    | .exceptClause => if w.isOperator "*" then "" else " "
    | _ => " "

def gapBefore (w : Word) (place : Place) (prior : Option Placed) : String :=
  if w.closes || w.isOperator "," || w.isOperator ";" then ""
  else if w.isOperator ":" && !(place.isIn [.subscript, .subscriptList, .stepClause]) then ""
  else
    match place.previous with
    | none => (gapAfterOuter w place prior).getD (gapInGroup w place prior)
    | some p => if p.word?.any Word.opens then "" else gapInGroup w place prior

abbrev Rank := Nat

def comprehensionRank : Rank := 20

def commaRank : Rank := 18

def ternaryRank : Rank := 16

def logicRank : Rank := 14

def stringRank : Rank := 12

def comparisonRank : Rank := 10

def attributeRank : Rank := 1

def mathRank (text : String) : Rank :=
  match text with
  | "|" => 9
  | "^" => 8
  | "&" => 7
  | "<<" | ">>" => 6
  | "+" | "-" => 5
  | "~" => 3
  | "**" => 2
  | _ => 4

def rankBefore (w : Word) (place : Place) (prior : Option Word) : Rank :=
  let priorIs (text : String) : Bool := prior.any (·.isNamed text)
  if isUnpacking (argumentKinds ++ unpackingKinds) w place then 0
  else if w.isOperator "." && !(place.isIn [.importFrom, .dottedName]) && !(prior.any Word.isName) then attributeRank
  else if isMath w && !(place.isIn [.signed, .starred]) then mathRank w.text
  else if w.kind = .operator && ["<", ">", "==", "!=", "<=", ">="].contains w.text then comparisonRank
  else if w.kind = .string && prior.any (·.kind = .string) then stringRank
  else if !w.isName then 0
  else if w.text = "for" && place.isIn [.forClause] && !(place.previous.any (·.isNamed "async")) then comprehensionRank
  else if w.text = "async" && place.isIn [.forClause] then comprehensionRank
  else if w.text = "if" && place.isIn [.ifClause] then comprehensionRank
  else if (w.text = "if" || w.text = "else") && place.isIn [.conditional] then ternaryRank
  else if w.text = "is" then comparisonRank
  else if w.text = "in" && place.isIn [.compareOp, .comparison] && !priorIs "not" then comparisonRank
  else if w.text = "not" && place.isIn [.compareOp] && !priorIs "is" then comparisonRank
  else if w.text = "and" || w.text = "or" then logicRank
  else 0

end Vetted.Layout
