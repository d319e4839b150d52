import Vetted.Source.FaultLine

namespace Vetted.Source

inductive TargetPlace where
  | many
  | single
  | delete
deriving DecidableEq

def isPlaceOf (ts : List Tree) : Bool :=
  !(ts.head?.any (·.isWord "await")) && !(ts.any (·.isWord "**")) &&
    match ts.getLast? with
    | some (.node .trailer (o :: _)) => !o.isWord "("
    | _ => false

def badTarget (place : TargetPlace) : (fuel : Nat) → Tree → Option Nat
  | 0, t => some t.line
  | fuel + 1, t =>
    let items (ts : List Tree) : Option Nat :=
      if place = .single then some t.line
      else
        (commaParts ts).findSome? fun part =>
          match part with
          | [.node .starred [_, x]] => if place = .many then badTarget place fuel x else some t.line
          | [x] => badTarget place fuel x
          | _ => some t.line
    match t with
    | .leaf tok => if tok.kind = .name then none else some tok.line
    | .node .power ts => if isPlaceOf ts then none else some t.line
    | .node .atom [o, _] => if o.isWord "(" || o.isWord "[" then items [] else some t.line
    | .node .atom [o, .node .tupleItems ts, _] =>
      if o.isWord "(" && !(ts.any (·.isKind .forClause)) then items ts else some t.line
    | .node .atom [o, .node .listItems ts, _] =>
      if o.isWord "[" && !(ts.any (·.isKind .forClause)) then items ts else some t.line
    | .node .atom [o, x, _] =>
      if o.isWord "(" then badTarget place fuel x
      else if o.isWord "[" then items [x]
      else some t.line
    | .node .starList ts => items ts
    | .node .exprList ts => items ts
    | .node .starred [_, x] => if place = .many then badTarget place fuel x else some t.line
    | _ => some t.line

def targetFault (place : TargetPlace) (t : Tree) : Option Nat := badTarget place (t.tokens.length + 2) t

def assignmentTargets : List Tree → List Tree
  | t :: eq :: rest => if eq.isWord "=" then t :: assignmentTargets rest else []
  | _ => []

structure ArgumentState where
  sawKeyword : Bool := false
  sawKeywords : Bool := false

def argumentFault (firstLine nextLine : Nat) : ArgumentState → List (List Tree) → Option Nat
  | _, [] => none
  | st, part :: rest =>
    let ts :=
      match part with
      | [.node .argument ts] => ts
      | ts => ts
    match ts with
    | [m, _] =>
      if m.isWord "**" then argumentFault firstLine nextLine { st with sawKeywords := true } rest
      else if m.isWord "*" then
        if st.sawKeywords then some firstLine else argumentFault firstLine nextLine st rest
      else some m.line
    | [_, eq, _] =>
      if eq.isWord "=" then argumentFault firstLine nextLine { st with sawKeyword := true } rest
      else if st.sawKeyword || st.sawKeywords then some nextLine
      else argumentFault firstLine nextLine st rest
    | [_] =>
      if st.sawKeyword || st.sawKeywords then some nextLine else argumentFault firstLine nextLine st rest
    | x :: _ => some x.line
    | [] => argumentFault firstLine nextLine st rest

/-- Where the walk over parameters stands; `bareStar` is the line of a star that names must follow. -/
structure ParameterState where
  count : Nat := 0
  sawDefault : Bool := false
  sawSlash : Bool := false
  sawStar : Bool := false
  bareStar : Option Nat := none
  finished : Bool := false

/-- The line of the first parameter that cannot stand where it does; `bareLine` gives the one for a star that no name
follows, from its own line and that of what follows. -/
def parameterFault (bareLine : Nat → Nat → Nat) (nextLine : Nat) : ParameterState → List (List Tree) → Option Nat
  | st, [] => st.bareStar.map (bareLine · nextLine)
  | st, part :: rest =>
    let line := (part.head?.map Tree.line).getD nextLine
    let go := fun st => parameterFault bareLine nextLine st rest
    if st.finished then some line
    else
      match part with
      | [x] =>
        if x.isWord "/" then
          if st.count = 0 || st.sawSlash || st.sawStar then some line else go { st with sawSlash := true }
        else if x.isWord "*" then
          if st.sawStar then some line else go { st with sawStar := true, bareStar := some line }
        else if st.sawDefault && !st.sawStar then some line
        else go { st with count := st.count + 1, bareStar := none }
      | [m, _] =>
        if m.isWord "*" then
          if st.sawStar then some line else go { st with sawStar := true }
        else
          match st.bareStar with
          | some star => some (bareLine star line)
          | none => go { st with finished := true }
      | _ => go { st with count := st.count + 1, bareStar := none, sawDefault := st.sawDefault || !st.sawStar }

def dictFault (ts : List Tree) : Option Nat :=
  match ts.getLast? with
  | some (.node .forClause _) =>
    match ts with
    | [x, _] => if x.isKind .starred then some x.line else none
    | [m, x, _] => if m.isWord "**" then some x.line else none
    | _ => none
  | _ =>
    let isPair (part : List Tree) : Bool := part.any fun t => t.isWord ":" || t.isWord "**"
    match commaParts ts with
    | [] => none
    | first :: rest =>
      (rest.find? fun part => isPair part ≠ isPair first).bind fun part =>
        ((part.find? (·.isWord ":")).orElse fun _ => part.head?).map Tree.line

def namedFault (ts : List Tree) : Option Nat :=
  match ts with
  | x :: w :: _ => if w.isWord ":=" && !x.isName then some x.line else none
  | _ => none

def comprehensionFault (ts : List Tree) : Option Nat :=
  match ts with
  | [x, clause] => if clause.isKind .forClause && x.isKind .starred then some x.line else none
  | _ => none

def classPatternFault : Bool → List (List Tree) → Option Nat
  | _, [] => none
  | sawKeyword, part :: rest =>
    match part with
    | [_, eq, _] => if eq.isWord "=" then classPatternFault true rest else classPatternFault sawKeyword rest
    | x :: _ => if sawKeyword then some x.line else classPatternFault sawKeyword rest
    | [] => classPatternFault sawKeyword rest

def complexPatternFault (first second : Tree) : Option Nat :=
  let isImaginary (t : Tree) : Bool := t.text.toList.getLast?.any fun c => c = 'j' || c = 'J'
  if isImaginary first then some first.line
  else if isImaginary second then none
  else some second.line

def patternNumberFault (ts : List Tree) : Option Nat :=
  match ts.filter fun t => !(t.isWord "-" || t.isWord "+") with
  | [first, second] =>
    if first.tokenKind? = some .number && second.tokenKind? = some .number then complexPatternFault first second
    else none
  | _ => none

/-- The line of a fault in the fields of a formatted string that starts on `line`. Expressions are read by `readField`,
which counts lines from zero; any other fault is reported on `nextLine`. -/
def fieldsFault (readField : List Char → Except Nat Tree) (raw : Bool) (line nextLine : Nat) :
    (fuel : Nat) → List Field → Option Nat
  | 0, _ => none
  | _ + 1, [] => none
  | fuel + 1, .literal text :: rest =>
    if (decodeText raw text).isNone then some nextLine else fieldsFault readField raw line nextLine fuel rest
  | fuel + 1, .value source _ _ spec before :: rest =>
    match readField source with
    | .error inner => some (line + before + inner)
    | .ok _ =>
      (spec.bind (fieldsFault readField raw line nextLine fuel)).orElse fun _ =>
        fieldsFault readField raw line nextLine fuel rest

def literalFault (readField : List Char → Except Nat Tree) (nextLine : Nat) (t : Tree) : Option Nat :=
  let p := StringParts.ofToken t.text
  if p.isFormatted then
    match fieldsOf p.isRaw p.body with
    | some fields => fieldsFault readField p.isRaw t.line nextLine (fields.length + 1000) fields
    | none => some nextLine
  else if p.isBytes then if (decodeBytes p.isRaw p.body).isNone then some nextLine else none
  else if (decodeText p.isRaw p.body).isNone then some nextLine
  else none

def stringFault (readField : List Char → Except Nat Tree) (nextLine : Nat) (ts : List Tree) : Option Nat :=
  (ts.findSome? (literalFault readField nextLine)).orElse fun _ =>
    if (stringRun (ts.map Tree.text)).isNone then some nextLine else none

def literalsFault (readField : List Char → Except Nat Tree) (nextLine : Nat) (kind : Kind) (ts : List Tree) :
    Option Nat :=
  match kind, ts with
  | .atom, t :: rest =>
    match t.tokenKind? with
    | some .string => stringFault readField nextLine (t :: rest)
    | some .number => if isOverlongInteger t.text then some t.line else none
    | _ => none
  | .closedPattern, ts =>
    let strings := (ts.dropWhile fun t => t.tokenKind? ≠ some .string).takeWhile fun t => t.tokenKind? = some .string
    if strings.isEmpty then patternNumberFault ts else stringFault readField nextLine strings
  | _, _ => none

def shapeFault (nextLine : Nat) (kind : Kind) (ts : List Tree) : Option Nat :=
  match kind, ts with
  | .assignment, [target, .node .typing _] => targetFault .single target
  | .assignment, [target, op, _] =>
    if op.isWord "=" then targetFault .many target else targetFault .single target
  | .assignment, ts => (assignmentTargets ts).findSome? (targetFault .many)
  | .deletion, [_, t] => targetFault .delete t
  | .forStatement, _ :: t :: _ => targetFault .many t
  | .forClause, ts =>
    let isAsync := ts.head?.any (·.isWord "async")
    (ts[if isAsync then 2 else 1]?).bind (targetFault .many)
  | .aliased, [_, _, t] => targetFault .many t
  | .named, ts => namedFault ts
  | .subscript, ts => namedFault ts
  | .tupleItems, ts => comprehensionFault ts
  | .listItems, ts => comprehensionFault ts
  | .dictOrSet, ts => dictFault ts
  | .argumentList, [_] => none
  | .argumentList, ts => argumentFault ((ts.head?.map Tree.line).getD nextLine) nextLine {} (commaParts ts)
  | .argument, ts =>
    match ts with
    | n :: eq :: _ => if (eq.isWord "=" || eq.isWord ":=") && !n.isName then some n.line else none
    | _ => none
  | .classDef, _ :: _ :: _ :: .node .argument [_, clause] :: _ =>
    if clause.isKind .forClause then some clause.line else none
  | .parameterList, ts => parameterFault (fun star _ => star) nextLine {} (commaParts ts)
  | .lambdaParameterList, ts => parameterFault (fun _ next => next) nextLine {} (commaParts ts)
  | .importFrom, ts =>
    match ts.getLast? with
    | some (.node .importAsNames items) =>
      if items.getLast?.any (·.isWord ",") then some nextLine else none
    | _ => none
  | .tryStatement, ts =>
    let handlers := ts.filter fun t => t.isKind .exceptClause || t.isWord "except"
    let starred := handlers.filter fun t => t.children[1]?.any (·.isWord "*")
    if starred.isEmpty || starred.length = handlers.length then none else some nextLine
  | .exceptClause, [_, m] => if m.isWord "*" then some nextLine else none
  | .pattern, ts =>
    match ts.getLast?, ts.reverse[1]? with
    | some n, some w => if w.isWord "as" && n.isName && n.text = "_" then some n.line else none
    | _, _ => none
  | .closedPattern, ts =>
    match ts with
    | n :: o :: rest =>
      if (n.isName || n.isKind .dottedName) && o.isWord "(" then classPatternFault false (commaParts (rest.dropLast))
      else
        match (ts.dropWhile (!·.isWord "**"))[1]? with
        | some t => if t.text = "_" then some t.line else none
        | none => none
    | _ => none
  | .atom, [o, x, _] => if o.isWord "(" && x.isKind .starred then some x.line else none
  | _, _ => none

def faultOf (readField : List Char → Except Nat Tree) (nextLine : Nat) (kind : Kind) (ts : List Tree) : Option Fault :=
  match literalsFault readField nextLine kind ts with
  | some line => some ⟨line, true⟩
  | none => (shapeFault nextLine kind ts).map (⟨·, false⟩)

def readField (g : Grammar) (source : List Char) : Except Nat Tree :=
  (readTree g loneExpression (enclosedText source)).mapError (· - 1)

/-- The check of the declaration language. Expressions inside formatted strings are read with the same check, `depth`
bounding how far such strings are nested. -/
def check : (depth : Nat) → (nextLine : Nat) → Kind → List Tree → Option Fault
  | 0, nextLine, kind, ts => faultOf (fun _ => .ok default) nextLine kind ts
  | depth + 1, nextLine, kind, ts =>
    faultOf (readField { rules := rules false, check := check depth }) nextLine kind ts

def grammar : Grammar := { rules := rules false, check := check 8 }

end Vetted.Source
