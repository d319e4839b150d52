import Vetted.Source.Restriction
import Vetted.Source.Stmt

namespace Vetted.Source

def dottedText (t : Tree) : String := ".".intercalate ((t.tokens.filter (·.kind = .name)).map fun n => Text.nfkc n.text)

def aliasOf : Tree → Alias
  | .node .dottedAsName [n, _, a] => ⟨dottedText n, some (nameText a)⟩
  | .node .importAsName [n, _, a] => ⟨dottedText n, some (nameText a)⟩
  | t => ⟨if t.isWord "*" then "*" else dottedText t, none⟩

/-- The items of a list that may be written without commas when it has one item. -/
def listParts (kind : Kind) : Tree → List Tree
  | .node k ts => if k = kind then ts.filter (!·.isWord ",") else [.node k ts]
  | t => [t]

def dotsOf (ts : List Tree) : Nat :=
  Text.total (ts.map fun t => if t.isWord "." then 1 else if t.isWord "..." then 3 else 0)

def importFromOf (line : Nat) (ts : List Tree) : Stmt :=
  let front := (ts.drop 1).takeWhile (!·.isWord "import")
  let after := (ts.dropWhile (!·.isWord "import")).drop 1
  let package := (front.find? fun t => !(t.isWord "." || t.isWord "...")).map dottedText
  let names := after.filter fun t => !(t.isWord "(" || t.isWord ")")
  .importFrom line (dotsOf front) package ((names.flatMap (listParts .importAsNames)).map aliasOf)

def basesOf (ts : List Tree) : List Expr :=
  let parts := (ts.dropWhile (!·.isWord "(")).drop 1
  match parts with
  | t :: _ =>
    (listParts .argumentList t).filterMap fun a =>
      match a with
      | .node .argument _ => none
      | .leaf tok => if tok.text = ")" then none else (Tree.leaf tok).expr?
      | t => t.expr?
  | [] => []

def decoratorsOf : Tree → List Expr
  | .node .decorators ts => ts.filterMap fun d => (d.children[1]?).bind Tree.expr?
  | .node .decorator (_ :: t :: _) => t.expr?.toList
  | _ => []

mutual

/-- The statements of a tree; `fuel` bounds the depth of blocks. -/
def stmtsOf : (fuel : Nat) → Tree → List Stmt
  | 0, _ => []
  | fuel + 1, t =>
    match t with
    | .node .simpleLine ts =>
      (ts.filter fun s => !(s.isWord ";" || s.tokenKind? = some .newline)).map smallStmt
    | .node .classDef ts => [classOf fuel [] ts]
    | .node .decorated [ds, .node .classDef ts] => [classOf fuel (decoratorsOf ds) ts]
    | .node .decorated [_, d] => stmtsOf fuel d
    | .node _ ts => [.compound t.line (ts.flatMap (blockOf fuel))]
    | .leaf tok => [.plain tok.line]

def blockOf : (fuel : Nat) → Tree → List Stmt
  | 0, _ => []
  | fuel + 1, .node .block ts => ts.flatMap (fun t => if t.tokenKind?.isSome then [] else stmtsOf fuel t)
  | fuel + 1, .node .simpleLine ts => stmtsOf fuel (.node .simpleLine ts)
  | fuel + 1, .node .function ts => stmtsOf fuel (.node .function ts)
  | fuel + 1, .node .withStatement ts => stmtsOf fuel (.node .withStatement ts)
  | fuel + 1, .node .forStatement ts => stmtsOf fuel (.node .forStatement ts)
  | fuel + 1, .node .caseBlock ts => ts.flatMap (blockOf fuel)
  | _ + 1, _ => []

def classOf : (fuel : Nat) → List Expr → List Tree → Stmt
  | 0, _, _ => .plain 0
  | fuel + 1, decorators, ts =>
    let whole := Tree.node .classDef ts
    .classDef whole.line whole.column ((ts[1]?).map nameText |>.getD "") (basesOf ts) decorators
      (match ts.getLast? with | some b => blockOf fuel b | none => [])

def smallStmt : Tree → Stmt
  | .node .importName [k, names] =>
    .importNames k.line ((listParts .dottedAsNames names).map aliasOf)
  | .node .importFrom ts => importFromOf (Tree.node .importFrom ts).line ts
  | .node .assignment [target, .node .typing ts] =>
    let line := target.line
    match target.expr?, (ts[1]?).bind Tree.expr? with
    | some t, some h => .annotated line t h ((ts[3]?).bind Tree.expr?) target.tokenKind?.isSome
    | _, _ => .plain line
  | t => .plain t.line

end

def treeOf (g : Grammar) (text : String) : Except Nat Tree := readTree g (.rule .file) text

def statements (text : String) : Except Nat (List Stmt) :=
  (treeOf grammar text).map fun t =>
    match t with
    | .node .file ts => ts.flatMap fun s => if s.tokenKind?.isSome then [] else stmtsOf (depthFor 200) s
    | _ => []

end Vetted.Source
