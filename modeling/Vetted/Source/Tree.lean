import Vetted.Source.Token

namespace Vetted.Source

inductive Kind where
  | file | statement | simpleLine | smallStatement | block
  | decorator | decorators | decorated | asyncFunction | asyncStatement
  | function | parameters | parameterList | typedName | starTypedName | lambdaParameterList
  | typeParameters | typeParameter | typeStatement
  | classDef
  | assignment | augmented | typing | deletion | returnStatement | raiseStatement | assertStatement
  | importName | importFrom | importAsName | dottedAsName | importAsNames | dottedAsNames | dottedName
  | globalStatement
  | ifStatement | whileStatement | forStatement | tryStatement | withStatement | exceptClause
  | matchStatement | subjectList | caseBlock | guard | patterns | pattern | closedPattern
  | starList | exprList | yieldExpr | yieldArg
  | named | aliased | conditional | lambda
  | disjunction | conjunction | negation | comparison | compareOp | starred
  | bitOr | bitXor | bitAnd | shift | sum | product | signed | power | atom
  | tupleItems | listItems | dictOrSet | trailer | subscriptList | subscript | stepClause
  | argumentList | argument | forClause | ifClause
deriving Repr, DecidableEq, Inhabited

inductive Tree where
  | leaf (token : Token)
  | node (kind : Kind) (children : List Tree)
deriving Repr, Inhabited

namespace Tree

/-- A construct of the given parts; a single part stands for itself. -/
def build (kind : Kind) : List Tree → Tree
  | [t] => t
  | ts => .node kind ts

def kind? : Tree → Option Kind
  | .leaf _ => none
  | .node k _ => some k

def isKind (k : Kind) (t : Tree) : Bool := t.kind? = some k

def children : Tree → List Tree
  | .leaf _ => []
  | .node _ ts => ts

/-- Whether the tree is a keyword or operator with this text. -/
def isWord (w : String) : Tree → Bool
  | .leaf t => t.text = w && (t.kind = .operator || t.kind = .keyword)
  | .node _ _ => false

def tokenKind? : Tree → Option TokenKind
  | .leaf t => some t.kind
  | .node _ _ => none

def isName (t : Tree) : Bool := t.tokenKind? = some .name

mutual

def tokens : Tree → List Token
  | .leaf t => [t]
  | .node _ ts => tokensOf ts

def tokensOf : List Tree → List Token
  | [] => []
  | t :: ts => tokens t ++ tokensOf ts

end

mutual

def first? : Tree → Option Token
  | .leaf t => some t
  | .node _ ts => firstOf? ts

def firstOf? : List Tree → Option Token
  | [] => none
  | t :: ts => (first? t).or (firstOf? ts)

end

def line (t : Tree) : Nat := (t.first?.map Token.line).getD 0

/-- The line on which the expression of the tree starts; brackets that only group do not count. -/
def exprLine : Tree → Nat
  | .node .atom [o, .node .tupleItems ts, c] => line (.node .atom [o, .node .tupleItems ts, c])
  | .node .atom [o, t, c] => if o.isWord "(" then exprLine t else line (.node .atom [o, t, c])
  | t => line t

def column (t : Tree) : Nat := (t.first?.map Token.column).getD 0

def text : Tree → String
  | .leaf t => t.text
  | .node _ _ => ""

end Tree

def splitParts (sep : String) : List Tree → List (List Tree)
  | [] => [[]]
  | t :: ts =>
    if t.isWord sep then [] :: splitParts sep ts
    else
      match splitParts sep ts with
      | [] => [[t]]
      | p :: ps => (t :: p) :: ps

def commaParts (ts : List Tree) : List (List Tree) := (splitParts "," ts).filter (!·.isEmpty)

end Vetted.Source
