import Vetted.Source.Expr
import Vetted.Source.Formatted
import Vetted.Source.Grammar
import Vetted.Source.Lexer
import Vetted.Text.Normal

namespace Vetted.Source

def nameText (t : Tree) : String := Text.nfkc t.text

def binaryOps : List (String × BinaryOp) :=
  [("+", .add), ("-", .sub), ("*", .mul), ("@", .matMul), ("/", .div), ("%", .mod), ("<<", .shiftLeft),
    (">>", .shiftRight), ("|", .bitOr), ("^", .bitXor), ("&", .bitAnd), ("//", .floorDiv), ("**", .pow)]

def compareOps : List (String × CompareOp) :=
  [("==", .eq), ("!=", .ne), ("<", .lt), ("<=", .le), (">", .gt), (">=", .ge), ("in", .member), ("is", .is)]

def compareOpOf : Tree → Option CompareOp
  | .leaf t => compareOps.lookup t.text
  | .node _ (t :: _) => some (if t.isWord "not" then .notMember else .isNot)
  | .node _ [] => none

def unaryOps : List (String × UnaryOp) := [("+", .plus), ("-", .minus), ("~", .invert)]

def operands : List Tree → List Tree
  | [] => []
  | [t] => [t]
  | t :: _ :: rest => t :: operands rest

/-- Joins neighbouring plain texts of a formatted string and drops empty ones. -/
def mergeTexts : List Expr → List Expr
  | [] => []
  | .constant (.text a m) :: rest =>
    match mergeTexts rest with
    | .constant (.text b _) :: more => .constant (.text (a ++ b) m) :: more
    | more => if a.isEmpty then more else .constant (.text a m) :: more
  | e :: rest => e :: mergeTexts rest

def parameterParts (role : ParameterRole) : List (List Tree) → List (ParameterRole × String × Option Tree)
  | [] => []
  | part :: rest =>
    match part with
    | [t] =>
      if t.isWord "/" then parameterParts role rest
      else if t.isWord "*" then parameterParts .keywordOnly rest
      else (role, nameText t, none) :: parameterParts role rest
    | [m, t] =>
      if m.isWord "*" then (.rest, nameText t, none) :: parameterParts .keywordOnly rest
      else (.keywordRest, nameText t, none) :: parameterParts role rest
    | t :: _ :: value :: _ => (role, nameText t, some value) :: parameterParts role rest
    | [] => parameterParts role rest

def lambdaParameters (parts : List (List Tree)) : List (ParameterRole × String × Option Tree) :=
  let isSlash (p : List Tree) : Bool :=
    match p with
    | [t] => t.isWord "/"
    | _ => false
  if parts.any isSlash then
    parameterParts .positionalOnly (parts.takeWhile (!isSlash ·)) ++
      parameterParts .positional ((parts.dropWhile (!isSlash ·)).drop 1)
  else parameterParts .positional parts

def plainGrammar : Grammar := { rules := rules false, check := fun _ _ _ => none }

def enclosedText (source : List Char) : String := String.ofList ('(' :: source ++ [')'])

def loneExpression : Pattern := .seq [.rule .starList, .token .newline, .token .finish]

def treeOfField (g : Grammar) (source : List Char) : Option Tree :=
  let s := scan (enclosedText source)
  if s.fault.isSome then none
  else
    let tokens := s.tokens.toArray
    match matchAt g tokens (stepsFor tokens) loneExpression 0 [] {} with
    | .hit _ trees _ => trees.getLast?
    | _ => none

/-- What the tokens of adjacent string literals have in common. -/
inductive StringRun where
  | bytes (value : List UInt8)
  | plain (value : String)
  | fields (parts : List (List Field ⊕ String))

/-- The value of adjacent string literals; `none` if one is malformed or byte strings are mixed with others. -/
def stringRun (texts : List String) : Option (Bool × StringRun) := do
  let parts := texts.map StringParts.ofToken
  let marked := (texts.head?.bind fun t => t.toList.head?) = some 'u'
  if parts.all StringParts.isBytes then
    let bytes ← parts.mapM fun p => decodeBytes p.isRaw p.body
    return (marked, .bytes bytes.flatten)
  else if parts.any StringParts.isBytes then none
  else if parts.any StringParts.isFormatted then
    let fields ← parts.mapM fun p =>
      if p.isFormatted then (fieldsOf p.isRaw p.body).map Sum.inl
      else (decodeText p.isRaw p.body).map fun cs => Sum.inr (String.ofList cs)
    return (marked, .fields fields)
  else
    let texts ← parts.mapM fun p => decodeText p.isRaw p.body
    return (marked, .plain (String.ofList texts.flatten))

mutual

/-- The expression of a tree; `fuel` bounds the depth. -/
def exprOf : (fuel : Nat) → Tree → Option Expr
  | 0, _ => none
  | fuel + 1, .leaf t =>
    match t.kind with
    | .name => some (.name (Text.nfkc t.text))
    | .number => some (.constant (.number (.ofToken t.text)))
    | .string => stringsOf fuel [t.text]
    | _ =>
      if t.text = "None" then some (.constant .none)
      else if t.text = "True" then some (.constant (.bool true))
      else if t.text = "False" then some (.constant (.bool false))
      else if t.text = "..." then some (.constant .ellipsis)
      else if t.text = "yield" then some (.yield none)
      else if t.text = ":" then some (.slice none none none)
      else none
  | fuel + 1, .node kind ts =>
    match kind, ts with
    | .conditional, [body, _, test, _, other] =>
      return .conditional (← exprOf fuel test) (← exprOf fuel body) (← exprOf fuel other)
    | .lambda, [_, _, body] => return .lambda [] (← exprOf fuel body)
    | .lambda, [_, params, _, body] => do
      let parts :=
        match params with
        | .node .lambdaParameterList ps => lambdaParameters (commaParts ps)
        | t => lambdaParameters [[t]]
      let params ← parts.mapM fun (role, name, value) => do
        match value with
        | some v => return (role, name, some (← exprOf fuel v))
        | none => return (role, name, none)
      return .lambda params (← exprOf fuel body)
    | .disjunction, first :: _ :: second :: rest =>
      return .boolean true (← exprOf fuel first) (← exprOf fuel second) (← (operands (rest.drop 1)).mapM (exprOf fuel))
    | .conjunction, first :: _ :: second :: rest =>
      return .boolean false (← exprOf fuel first) (← exprOf fuel second) (← (operands (rest.drop 1)).mapM (exprOf fuel))
    | .negation, [_, t] => return .unary .not (← exprOf fuel t)
    | .comparison, t :: op :: right :: rest =>
      return .compare (← exprOf fuel t) (← compareOpOf op) (← exprOf fuel right) (← comparisonsOf fuel rest)
    | .starred, [_, t] => return .starred (← exprOf fuel t)
    | .signed, [op, t] => return .unary (← unaryOps.lookup op.text) (← exprOf fuel t)
    | .power, ts => powerOf fuel ts
    | .atom, ts => atomOf fuel ts
    | .named, [t, _, v] => return .named (← exprOf fuel t) (← exprOf fuel v)
    | .starList, ts => return .tuple (← (commaParts ts).mapM (itemOf fuel))
    | .exprList, ts => return .tuple (← (commaParts ts).mapM (itemOf fuel))
    | .subscriptList, ts => return .tuple (← (commaParts ts).mapM (itemOf fuel))
    | .subscript, ts => subscriptOf fuel ts
    | .yieldExpr, [_, .node .yieldArg [_, t]] => return .yieldFrom (← exprOf fuel t)
    | .yieldExpr, [_, t] => return .yield (some (← exprOf fuel t))
    | .argument, ts => itemOf fuel ts
    | _, t :: rest => do binaryOf fuel (← exprOf fuel t) rest
    | _, [] => none

def binaryOf : (fuel : Nat) → Expr → List Tree → Option Expr
  | 0, _, _ => none
  | _ + 1, left, [] => some left
  | fuel + 1, left, op :: t :: rest => do
    let right ← exprOf fuel t
    binaryOf fuel (.binary (← binaryOps.lookup op.text) left right) rest
  | _ + 1, _, _ => none

def comparisonsOf : (fuel : Nat) → List Tree → Option (List (CompareOp × Expr))
  | 0, _ => none
  | _ + 1, [] => some []
  | fuel + 1, op :: t :: rest => do
    let right ← exprOf fuel t
    return (← compareOpOf op, right) :: (← comparisonsOf fuel rest)
  | _ + 1, _ => none

/-- One item of a list: an expression, a name with a value, or an expression with its clauses. -/
def itemOf : (fuel : Nat) → List Tree → Option Expr
  | 0, _ => none
  | fuel + 1, [t] => exprOf fuel t
  | fuel + 1, [t, clause] => do
    if clause.isKind .forClause then return .generator (← exprOf fuel t) (← clausesOf fuel clause)
    else return .starred (← exprOf fuel clause)
  | fuel + 1, [t, _, v] => return .named (← exprOf fuel t) (← exprOf fuel v)
  | fuel + 1, [t, _, v, clause] =>
    return .generator (.named (← exprOf fuel t) (← exprOf fuel v)) (← clausesOf fuel clause)
  | _ + 1, _ => none

def atomOf : (fuel : Nat) → List Tree → Option Expr
  | 0, _ => none
  | fuel + 1, ts =>
    match ts with
    | [o, _] =>
      if o.isWord "(" then some (.tuple [])
      else if o.isWord "[" then some (.list [])
      else if o.isWord "\x7b" then some (.dict [])
      else stringsOf fuel (ts.map Tree.text)
    | [o, t, _] =>
      if o.isWord "(" then
        match t with
        | .node .tupleItems [item, clause] =>
          if clause.isKind .forClause then return .generator (← exprOf fuel item) (← clausesOf fuel clause)
          else return .tuple [← exprOf fuel item]
        | .node .tupleItems items => return .tuple (← (commaParts items).mapM (itemOf fuel))
        | _ => exprOf fuel t
      else if o.isWord "[" then
        match t with
        | .node .listItems [item, clause] =>
          if clause.isKind .forClause then return .listOf (← exprOf fuel item) (← clausesOf fuel clause)
          else return .list [← exprOf fuel item]
        | .node .listItems items => return .list (← (commaParts items).mapM (itemOf fuel))
        | _ => return .list [← exprOf fuel t]
      else if o.isWord "\x7b" then
        match t with
        | .node .dictOrSet items => dictOrSetOf fuel items
        | _ => return .set [← exprOf fuel t]
      else stringsOf fuel (ts.map Tree.text)
    | _ => stringsOf fuel (ts.map Tree.text)

def dictOrSetOf : (fuel : Nat) → List Tree → Option Expr
  | 0, _ => none
  | fuel + 1, ts =>
    match ts with
    | [k, _, v, clause] =>
      if clause.isKind .forClause then do
        let key ← exprOf fuel k
        let value ← exprOf fuel v
        let clauses ← clausesOf fuel clause
        if ts.any (·.isWord ":") then return .dictOf key value clauses else return .setOf (.named key value) clauses
      else dictItemsOf fuel ts
    | [item, clause] =>
      if clause.isKind .forClause then return .setOf (← exprOf fuel item) (← clausesOf fuel clause)
      else dictItemsOf fuel ts
    | _ => dictItemsOf fuel ts

def dictItemsOf : (fuel : Nat) → List Tree → Option Expr
  | 0, _ => none
  | fuel + 1, ts =>
    if ts.any fun t => t.isWord ":" || t.isWord "**" then do
      let items ← (commaParts ts).mapM fun part =>
        match part with
        | [_, v] => do return (none, v.exprLine, ← exprOf fuel v)
        | [k, _, v] => do return (some (← exprOf fuel k), v.exprLine, ← exprOf fuel v)
        | _ => none
      return .dict items
    else return .set (← (commaParts ts).mapM (itemOf fuel))

def clausesOf : (fuel : Nat) → Tree → Option (List (Bool × Expr × Expr × List Expr))
  | 0, _ => none
  | fuel + 1, .node .forClause ts =>
    let isAsync := ts.head?.any (·.isWord "async")
    match if isAsync then ts.drop 1 else ts with
    | _ :: target :: _ :: source :: rest => do
      let target ← exprOf fuel target
      let source ← exprOf fuel source
      let (conditions, more) ← conditionsOf fuel rest
      return (isAsync, target, source, conditions) :: more
    | _ => none
  | _ + 1, _ => none

def conditionsOf : (fuel : Nat) → List Tree → Option (List Expr × List (Bool × Expr × Expr × List Expr))
  | 0, _ => none
  | _ + 1, [] => some ([], [])
  | fuel + 1, .node .ifClause (_ :: test :: rest) :: _ => do
    let test ← exprOf fuel test
    let (conditions, more) ← conditionsOf fuel rest
    return (test :: conditions, more)
  | fuel + 1, t :: _ => do return ([], ← clausesOf fuel t)

def subscriptOf : (fuel : Nat) → List Tree → Option Expr
  | 0, _ => none
  | fuel + 1, ts =>
    if ts.any (·.isWord ":=") then itemOf fuel ts
    else do
      let optional (part : List Tree) : Option (Option Expr) :=
        match part with
        | [t] => do return some (← exprOf fuel t)
        | _ => some none
      let lower ← optional (ts.takeWhile (!·.isWord ":"))
      let after := (ts.dropWhile (!·.isWord ":")).drop 1
      let step :=
        match after.getLast? with
        | some (.node .stepClause s) => s.drop 1
        | _ => []
      let isStep (t : Tree) : Bool := t.isKind .stepClause || t.isWord ":"
      let upper ← optional (after.filter (!isStep ·))
      let step ← optional step
      return .slice lower upper step

def powerOf : (fuel : Nat) → List Tree → Option Expr
  | 0, _ => none
  | fuel + 1, ts => do
    let isAwait := ts.head?.any (·.isWord "await")
    let ts := if isAwait then ts.drop 1 else ts
    let front := ts.takeWhile (!·.isWord "**")
    let exponent := (ts.dropWhile (!·.isWord "**")).drop 1
    match front with
    | [] => none
    | atom :: trailers => do
      let base ← trailersOf fuel (← exprOf fuel atom) trailers
      let base := if isAwait then .await base else base
      match exponent with
      | t :: _ => return .binary .pow base (← exprOf fuel t)
      | [] => return base

def trailersOf : (fuel : Nat) → Expr → List Tree → Option Expr
  | 0, _, _ => none
  | _ + 1, e, [] => some e
  | fuel + 1, e, .node .trailer [o, t] :: rest =>
    if o.isWord "." then trailersOf fuel (.attribute e (nameText t)) rest else trailersOf fuel (.call e [] []) rest
  | fuel + 1, e, .node .trailer [o, t, _] :: rest => do
    if o.isWord "[" then
      let index ← exprOf fuel t
      let index := if t.isKind .starred then .tuple [index] else index
      trailersOf fuel (.subscript e index) rest
    else
      let parts :=
        match t with
        | .node .argumentList ts => commaParts ts
        | .node .argument ts => [ts]
        | t => [[t]]
      let (arguments, keywords) ← argumentsOf fuel parts
      trailersOf fuel (.call e arguments keywords) rest
  | _ + 1, _, _ => none

def argumentsOf : (fuel : Nat) → List (List Tree) → Option (List Expr × List (Option String × Expr))
  | 0, _ => none
  | _ + 1, [] => some ([], [])
  | fuel + 1, part :: rest => do
    let part :=
      match part with
      | [.node .argument ts] => ts
      | ts => ts
    match part with
    | [m, t] =>
      if m.isWord "**" then
        let e ← exprOf fuel t
        let (args, keys) ← argumentsOf fuel rest
        return (args, (none, e) :: keys)
      else if m.isWord "*" then
        let e ← exprOf fuel t
        let (args, keys) ← argumentsOf fuel rest
        return (.starred e :: args, keys)
      else
        let item ← itemOf fuel part
        let (args, keys) ← argumentsOf fuel rest
        return (item :: args, keys)
    | [n, eq, t] =>
      if eq.isWord "=" then
        let e ← exprOf fuel t
        let (args, keys) ← argumentsOf fuel rest
        return (args, (some (nameText n), e) :: keys)
      else
        let item ← itemOf fuel part
        let (args, keys) ← argumentsOf fuel rest
        return (item :: args, keys)
    | _ =>
      let item ← itemOf fuel part
      let (args, keys) ← argumentsOf fuel rest
      return (item :: args, keys)

def stringsOf : (fuel : Nat) → List String → Option Expr
  | 0, _ => none
  | fuel + 1, texts => do
    let raws := texts.map fun t => (StringParts.ofToken t).isRaw
    match ← stringRun texts with
    | (_, .bytes b) => return .constant (.bytes b)
    | (marked, .plain s) => return .constant (.text s marked)
    | (marked, .fields parts) =>
      let pieces ← (parts.zip raws).mapM fun (part, raw) =>
        match part with
        | .inl fields => fieldExprs fuel raw marked fields
        | .inr s => some [.constant (.text s marked)]
      return .joined (mergeTexts pieces.flatten)

def fieldExprs : (fuel : Nat) → (raw marked : Bool) → List Field → Option (List Expr)
  | 0, _, _, _ => none
  | _ + 1, _, _, [] => some []
  | fuel + 1, raw, marked, .literal text :: rest => do
    let cs ← decodeText raw text
    return .constant (.text (String.ofList cs) marked) :: (← fieldExprs fuel raw marked rest)
  | fuel + 1, raw, marked, .value source shown conversion spec _ :: rest => do
    let value ← exprOf fuel (← treeOfField plainGrammar source)
    let spec ←
      (match spec with
      | some fields => do return some (.joined (mergeTexts (← fieldExprs fuel raw marked fields)))
      | none => some none)
    let front :=
      match shown with
      | some text => [Expr.constant (.text (String.ofList text) marked)]
      | none => []
    return front ++ .formatted value conversion spec :: (← fieldExprs fuel raw marked rest)

end

def depthFor (count : Nat) : Nat := 40 * (count + 50)

def Tree.expr? (t : Tree) : Option Expr := exprOf (depthFor t.tokens.length + 4000) t

end Vetted.Source
