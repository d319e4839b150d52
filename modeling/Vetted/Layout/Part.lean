import Vetted.Layout.Literal
import Vetted.Source.Module

namespace Vetted.Layout

open Source (Token TokenKind Kind Tree)

/-- A token of laid out code. A `hidden` bracket has the text it gets once it is shown. `line` is where the token
stood, or zero for one that was added. A `verbatim` one is a run of code that stays as it is written, `leads` being
its first word; one that is `apart` holds comments only and takes a line of its own. -/
structure Word where
  kind : TokenKind
  text : String
  before : String := ""
  hidden : Bool := false
  line : Nat := 0
  verbatim : Bool := false
  apart : Bool := false
  leads : String := ""
deriving Repr, Inhabited

namespace Word

def isName (w : Word) : Bool := (w.kind = .name || w.kind = .keyword) && !w.verbatim

def isNamed (text : String) (w : Word) : Bool := w.isName && w.text = text

def isOperator (text : String) (w : Word) : Bool := w.kind = .operator && w.text = text

def opens (w : Word) : Bool := w.kind = .operator && ["(", "[", "\x7b"].contains w.text

def closes (w : Word) : Bool := w.kind = .operator && [")", "]", "\x7d"].contains w.text

def isDots (w : Word) : Bool := w.isOperator "." || w.isOperator "..."

def bracket (text : String) (hidden : Bool) (before : String := "") : Word :=
  { kind := .operator, text, before, hidden }

end Word

inductive Part where
  | word (w : Word)
  | group (kind : Kind) (parts : List Part)
deriving Repr, Inhabited

namespace Part

mutual

def ofTree : Tree → Part
  | .leaf t => .word { kind := t.kind, text := t.text, before := t.before, line := t.line }
  | .node k ts => .group k (ofTrees ts)

def ofTrees : List Tree → List Part
  | [] => []
  | t :: ts => ofTree t :: ofTrees ts

end

def kind? : Part → Option Kind
  | .word _ => none
  | .group k _ => some k

def isKind (k : Kind) (p : Part) : Bool := p.kind? = some k

def parts : Part → List Part
  | .word _ => []
  | .group _ ps => ps

def word? : Part → Option Word
  | .word w => some w
  | .group _ _ => none

def isOperator (text : String) (p : Part) : Bool := p.word?.any (·.isOperator text)

def isNamed (text : String) (p : Part) : Bool := p.word?.any (·.isNamed text)

def isToken (kind : TokenKind) (p : Part) : Bool := p.word?.any (·.kind = kind)

mutual

def words : Part → List Word
  | .word w => [w]
  | .group _ ps => wordsOf ps

def wordsOf : List Part → List Word
  | [] => []
  | p :: ps => words p ++ wordsOf ps

end

mutual

def hasKind (kinds : List Kind) : Part → Bool
  | .word _ => false
  | .group k ps => kinds.contains k || anyHasKind kinds ps

def anyHasKind (kinds : List Kind) : List Part → Bool
  | [] => false
  | p :: ps => hasKind kinds p || anyHasKind kinds ps

end

def before (p : Part) : String := (p.words.head?.map Word.before).getD ""

mutual

def setBefore (text : String) : Part → Part
  | .word w => .word { w with before := text }
  | .group k ps => .group k (setBeforeFirst text ps)

def setBeforeFirst (text : String) : List Part → List Part
  | [] => []
  | p :: ps => setBefore text p :: ps

end

def wrap (hidden : Bool) (p : Part) : Part :=
  .group .atom [.word (.bracket "(" hidden p.before), p.setBefore "", .word (.bracket ")" hidden)]

def unbracketed? : Part → Option Part
  | .group .atom [.word o, p, .word c] => if o.isOperator "(" && c.isOperator ")" then some p else none
  | _ => none

end Part

def isBareTuple (k : Kind) : Bool := k = .starList || k = .exprList

def isOneTuple : Part → Bool
  | .group .atom ps =>
    match (Part.group .atom ps).unbracketed? with
    | some (.group .tupleItems [_, c]) => c.isOperator ","
    | _ => false
  | .group k [_, c] => isBareTuple k && c.isOperator ","
  | _ => false

def isEmptyTuple : Part → Bool
  | .group .atom [o, c] => o.isOperator "(" && c.isOperator ")"
  | _ => false

def holdsItems (p : Part) : Bool :=
  match p.unbracketed? with
  | some (.group .tupleItems ps) => ps.any fun q => q.isOperator "," || q.isKind .forClause
  | _ => false

def isComprehension (p : Part) : Bool :=
  match p.unbracketed? with
  | some (.group .tupleItems ps) => ps.any (·.isKind .forClause)
  | _ => false

def holdsFirmItems (p : Part) : Bool :=
  match p.unbracketed? with
  | some (.group .tupleItems ps) => ps.any fun q => q.isKind .starred || q.isKind .named
  | _ => false

def isBinding (p : Part) : Bool :=
  match p.unbracketed? with
  | some q => q.isKind .named
  | none => false

def isYield : (fuel : Nat) → Part → Bool
  | 0, _ => false
  | _ + 1, .group .yieldExpr _ => true
  | fuel + 1, p =>
    p.isNamed "yield" ||
      match p.unbracketed? with
      | some q => isYield fuel q
      | none => false

def keepsBinding (k : Kind) : Bool :=
  [Kind.typing, .assignment, .assertStatement, .returnStatement, .exceptClause, .function, .withStatement, .tupleItems,
    .typedName, .starTypedName, .forStatement, .deletion].contains k

/-- How much may stand between brackets that are to be hidden. -/
inductive Grouped where
  | single
  | items
  | targets
deriving DecidableEq

def isFirm (grouped : Grouped) (owner : Kind) (p : Part) : Bool :=
  !(p.isKind .atom || p.isKind .bitOr) || isEmptyTuple p || isOneTuple p || (isYield 50 p && owner ≠ .assignment) ||
    (match grouped with
    | .single => holdsItems p
    | .items => isComprehension p || holdsFirmItems p
    | .targets => isComprehension p) ||
    (isBinding p && keepsBinding owner)

/-- Takes a pair of hidden brackets off; comments next to them go to what is inside and to the bracket that follows. -/
def stripHidden (inner : Part) (closing : Word) : Part × Word :=
  let noted (text : String) : String := if (Text.strip text).isEmpty then "" else text
  match inner with
  | .group .atom [.word o, p, .word c] =>
    if o.hidden && c.hidden then
      (p.setBefore (noted o.before ++ p.before), { closing with before := noted c.before ++ closing.before })
    else (inner, closing)
  | _ => (inner, closing)

/-- Hides the round brackets of a part where they only group. The second result says whether hidden brackets have to
be put around the part instead. -/
def hideBrackets (grouped : Grouped) (owner : Kind) : (fuel : Nat) → Part → Part × Bool
  | 0, p => (p, false)
  | fuel + 1, p =>
    if isFirm grouped owner p then (p, false)
    else
      match p with
      | .group .atom [.word o, middle, .word c] =>
        if o.isOperator "(" && c.isOperator ")" then
          let hidden := !Text.startsWith (Text.strip middle.before) "# type: ignore"
          let (inner, c) := stripHidden (hideBrackets grouped owner fuel middle).1 c
          (.group .atom [.word { o with hidden := o.hidden || hidden }, inner,
            .word { c with hidden := c.hidden || hidden }], false)
        else (p, true)
      | _ => (p, true)

def settleAtom (grouped : Grouped) (owner : Kind) (p : Part) : Part :=
  match hideBrackets grouped owner 50 p with
  | (q, true) => q.wrap true
  | (q, false) => q

/-- Brackets around the items of a `with` statement are hidden at every level. -/
def settleContext (owner : Kind) : (fuel : Nat) → Part → Part
  | 0, p => p
  | fuel + 1, p =>
    match p with
    | .group .atom _ =>
      match settleAtom .items owner p with
      | .group .atom [o, middle, c] => .group .atom [o, settleContext .atom fuel middle, c]
      | q => q
    | .group .tupleItems ps => .group .tupleItems (ps.map (settleContext .tupleItems fuel))
    | .group .aliased (first :: rest) =>
      if p.words.any (·.isOperator ":=") then p else .group .aliased (settleAtom .items .aliased first :: rest)
    | _ => p

/-- All items of a `with` statement inside one pair of hidden brackets, unless brackets hold all of them already. -/
def gatherContexts (ps : List Part) : List Part :=
  match ps with
  | k :: first :: rest =>
    if first.isKind .atom && rest.head?.any (·.isOperator ":") then ps
    else
      let items := first :: rest.takeWhile (!·.isOperator ":")
      k :: .group .atom [.word (.bracket "(" true), .group .tupleItems items, .word (.bracket ")" true)] ::
        rest.dropWhile (!·.isOperator ":")
  | _ => ps

/-- What the versions of the language that a source runs on admit: brackets around the items of a `with` statement, and
handlers of several types without brackets. -/
structure Admitted where
  contexts : Bool := false
  handlers : Bool := false
deriving Inhabited

def settleHandler : List Part → List Part
  | [k, p] =>
    match p.unbracketed? with
    | some (.group .tupleItems ps) =>
      if (ps.any (·.isOperator ",")) && !isOneTuple p then [k, settleAtom .items .exceptClause p] else [k, p]
    | _ => [k, p]
  | ps => ps

/-- The target of an assignment needs no brackets, unless they hold it over several lines or end in a comma. -/
def settleTarget (p : Part) : Part :=
  match p with
  | .group .atom [.word o, middle, .word c] =>
    if o.isOperator "(" && (o.line ≠ c.line || middle.words.getLast?.any (·.isOperator ",")) then p
    else settleAtom .targets .assignment p
  | .group .atom _ => settleAtom .targets .assignment p
  | _ => p

/-- Puts hidden brackets around the parts that follow one of the words in `after`, or hides those that are there.
`check` says whether the part at hand is one of them. -/
def settleAfter (owner : Kind) (after : List String) (previous : Option Part) (check : Bool) : List Part → List Part
  | [] => []
  | p :: ps =>
    let settled : Part :=
      if !check then p
      else if p.isKind .atom && owner = .forStatement && previous.any (·.isNamed "for") then settleAtom .items owner p
      else if owner = .withStatement && p.word?.isNone then settleContext owner 50 p
      else if p.isKind .atom then settleAtom .single owner p
      else if isOneTuple p then p.wrap false
      else if p.word?.any (fun w => w.kind = .string && isMultiline w.text) then p
      else if p.word?.any (fun w => w.isOperator ":" || w.kind = .newline || w.isOperator ";") then p
      else p.wrap true
    if check && owner = .exceptClause && p.isOperator "*" then p :: settleAfter owner after (some p) true ps
    else settled :: settleAfter owner after (some p) (p.word?.any fun w => !w.hidden && after.contains w.text) ps

def settleImport : List Part → List Part
  | [] => []
  | p :: ps =>
    if p.isNamed "import" then
      match ps with
      | .word o :: rest =>
        if o.isOperator "(" then
          p :: .word { o with hidden := true } ::
            rest.map fun q =>
              match q with
              | .word c => if c.isOperator ")" then .word { c with hidden := true } else q
              | _ => q
        else if o.isOperator "*" then p :: ps
        else p :: .word (.bracket "(" true) :: ps ++ [.word (.bracket ")" true)]
      | _ => p :: .word (.bracket "(" true) :: ps ++ [.word (.bracket ")" true)]
    else p :: settleImport ps

def assignmentMarks : List String := "=" :: ":=" :: Source.augmentedMarks

def settleResult : List Part → List Part
  | arrow :: p :: rest =>
    if arrow.isOperator "->" then
      arrow :: (if p.isKind .atom && p.unbracketed?.isSome then settleAtom .single .function p else p.wrap true) :: rest
    else arrow :: settleResult (p :: rest)
  | ps => ps

def settleLine (fresh : Bool) : List Part → List Part
  | [] => []
  | p :: ps =>
    (if fresh && [Kind.sum, .shift, .bitXor, .bitAnd].any (p.isKind ·) then p.wrap true else p) ::
      settleLine (p.isOperator ";") ps

def isPlainDecimal (w : Word) : Bool :=
  w.kind = .number &&
    (let cs := w.text.toList.map Char.toLower
     !(cs.take 2 = ['0', 'x'] || cs.take 2 = ['0', 'b'] || cs.take 2 = ['0', 'o']) && !cs.contains 'j')

def settlePower : List Part → List Part
  | .word w :: .group .trailer (d :: ts) :: rest =>
    (if isPlainDecimal w && d.isOperator "." then (Part.word w).wrap false else .word w) ::
      .group .trailer (d :: ts) :: rest
  | ps => ps

def settleAwait : List Part → List Part
  | a :: p :: rest =>
    if a.isNamed "await" && p.isKind .atom && p.parts.head?.any (·.isOperator "(") then
      match settleAtom .items .power p with
      | .group .atom [.word o, middle, .word c] =>
        let firm : Bool :=
          match middle with
          | .group k ps => k ≠ .power || ps.head?.any (·.isNamed "await") || ps.any (·.isOperator "**")
          | .word _ => false
        let seen (w : Word) : Word := if firm then { w with hidden := false } else w
        a :: .group .atom [.word (seen o), middle, .word (seen c)] :: rest
      | q => a :: q :: rest
    else a :: p :: rest
  | ps => ps

def settleSigned : List Part → List Part
  | [sign, .group .power [a, .word op, b]] =>
    if op.isOperator "**" then
      let power := Part.group .power [a, .word op, b]
      [sign, .group .atom [.word (.bracket "(" false), power, .word (.bracket ")" false)]]
    else [sign, .group .power [a, .word op, b]]
  | ps => ps

def settleParts (admitted : Admitted) (previous : Option Part) (k : Kind) (ps : List Part) : List Part :=
  match k with
  | .assertStatement => settleAfter k ["assert", ","] none false ps
  | .ifStatement => settleAfter k ["if", "elif"] none false ps
  | .whileStatement => settleAfter k ["while"] none false ps
  | .forStatement => settleAfter k ["for", "in"] none false ps
  | .exceptClause => settleAfter k ["except"] none false (if admitted.handlers then settleHandler ps else ps)
  | .withStatement => settleAfter k ["with"] none false (if admitted.contexts then gatherContexts ps else ps)
  | .caseBlock => settleAfter k ["case"] none false ps
  | .returnStatement => settleAfter k ["return"] none false ps
  | .deletion => settleAfter k ["del"] none false ps
  | .guard => settleAfter k ["if"] none false ps
  | .assignment =>
    let ps :=
      match ps with
      | p :: rest => settleTarget p :: rest
      | [] => []
    settleAfter k assignmentMarks none (ps.head?.any (·.isKind .starList)) ps
  | .typing => settleAfter k [":", "="] none false ps
  | .importFrom => settleImport ps
  | .function => settleResult ps
  | .simpleLine => settleLine true ps
  | .power => settleAwait (settlePower ps)
  | .signed => settleSigned ps
  | .typedName =>
    match ps with
    | [n, c, p] => [n, c, settleAtom .single k p]
    | _ => ps
  | .atom =>
    match ps with
    | [o, p, c] => if o.isOperator "[" || o.isOperator "\x7b" then [o, settleAtom .single k p, c] else ps
    | _ => ps
  | .conditional =>
    if previous.any (·.isOperator "(") then ps
    else
      match ps with
      | p :: rest => .word (.bracket "(" true p.before) :: p.setBefore "" :: rest ++ [.word (.bracket ")" true)]
      | [] => ps
  | _ => ps

def settle (admitted : Admitted) : (fuel : Nat) → (previous : Option Part) → Part → Part
  | 0, _, p => p
  | _ + 1, _, .word w => .word w
  | fuel + 1, previous, .group k ps =>
    let ps := settleParts admitted previous k ps
    .group k ((ps.zip (none :: ps.map some)).map fun (p, prev) => settle admitted fuel prev p)

end Vetted.Layout
