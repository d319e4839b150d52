import Vetted.Layout.Comment
import Vetted.Layout.Line

namespace Vetted.Layout

open Source (TokenKind Kind)

/-- The lines found so far, latest first, and the one under way, its last leaf first. `brackets` holds the brackets that
are open in it, and `prior` is the last token of the tree that was passed. -/
structure Draft where
  lineLength : Nat
  depth : Nat := 0
  current : List Leaf := []
  brackets : List Nat := []
  lines : List Line := []
  prior : Option Placed := none
  next : Nat := 0
deriving Inhabited

namespace Draft

def holdsAsync (d : Draft) : Bool :=
  match d.current with
  | [x] => x.isNamed "async" && x.parent?.any fun k => k = .asyncFunction || k = .asyncStatement
  | _ => false

def endLine (d : Draft) (move : Int) : Draft :=
  let depth := ((d.depth : Int) + move).toNat
  if d.current.isEmpty then { d with depth }
  else if d.holdsAsync then d
  else
    { d with
      depth, current := [], brackets := []
      lines := { depth := d.depth, leaves := withLevels d.current.reverse } :: d.lines }

def pushLeaf (d : Draft) (l : Leaf) : Draft :=
  { d with current := { l with number := d.next } :: d.current, next := d.next + 1 }

def pushRemark (d : Draft) (r : Remark) (blanks : Blanks) : Draft :=
  d.pushLeaf { word := { kind := .name, text := r.text }, comment := true, blanks }

/-- A comment at the end of the line under way. Behind hidden brackets around a single token it belongs to the token,
unless it tells a type. -/
def addNote (d : Draft) (r : Remark) : Draft :=
  let note (l : Leaf) : Leaf := { l with notes := l.notes ++ [r.text] }
  match d.current with
  | [] => d.pushRemark r {}
  | l :: rest =>
    if l.word.hidden && l.closes && l.alone && !Text.startsWith r.text "# type:" then
      match rest with
      | [] => d.pushRemark r {}
      | m :: further => { d with current := l :: note m :: further }
    else { d with current := note l :: rest }

def addRemark (d : Draft) (r : Remark) : Draft :=
  if !d.brackets.isEmpty then
    if r.trailing then d.addNote r else d.pushRemark r {}
  else if r.trailing then (d.addNote r).endLine 0
  else ((d.endLine 0).pushRemark r r.blanks).endLine 0

def dropEmptyBases (d : Draft) (w : Word) : Draft :=
  match d.current with
  | [c, o, _, k] =>
    if w.isOperator ":" && k.isNamed "class" && o.isOperator "(" && c.isOperator ")" then
      { d with current := d.current.drop 2 }
    else d
  | _ => d

def mayDocument (w : Word) : Bool :=
  w.kind = .string && !((splitMark w.text.toList).1.any fun c => "bBfFtT".toList.contains c)

def addWord (d : Draft) (place : Place) (alone documents : Bool) (blanks : Blanks) (w : Word) : Draft :=
  let d := d.dropEmptyBases w
  let documents := documents && mayDocument w
  let gap := if d.current.isEmpty then "" else gapBefore w place d.prior
  let w :=
    if w.kind = .string then
      { w with text := if documents then documentation d.lineLength d.depth w.text else normalString w.text }
    else if w.kind = .number then { w with text := normalNumber w.text }
    else w
  let opening := if w.closes then d.brackets.head? else none
  let brackets := if w.opens then d.next :: d.brackets else if w.closes then d.brackets.tail else d.brackets
  let leaf : Leaf := {
    word := w, gap, blanks := if d.brackets.isEmpty then blanks else {}, around := place.around,
    rank := rankBefore w place (d.prior.map Placed.word), opening, alone, documents
    unpacks := isUnpacking [.argumentList, .argument] w place
    gathers := isUnpacking [.parameterList] w place }
  { d.pushLeaf leaf with brackets, prior := some ⟨w, place, gap⟩ }

def visitVerbatim (d : Draft) (remarks : List Remark) (blanks : Blanks) (w : Word) : Draft :=
  let outside := d.brackets.isEmpty
  let d := if outside then d.endLine 0 else d
  let leaf (blanks : Blanks) : Leaf := { word := w, comment := true, blanks := if outside then blanks else {} }
  if w.apart then
    let d := remarks.foldl (fun d r => ((d.endLine 0).pushRemark r r.blanks).endLine 0) d
    let d := d.pushLeaf (leaf (if remarks.isEmpty then blanks else {}))
    if outside then d.endLine 0 else d
  else (remarks.foldl addRemark d).pushLeaf (leaf blanks)

def visitWord (d : Draft) (place : Place) (alone documents : Bool) (w : Word) : Draft :=
  let (remarks, blanks) := remarksBefore (w.kind = .finish) w.before
  let noted (d : Draft) : Draft := remarks.foldl addRemark d
  if w.verbatim then d.visitVerbatim remarks blanks w
  else
  match w.kind with
  | .indent => noted (d.endLine 1)
  | .dedent => (noted (d.endLine 0)).endLine (-1)
  | .finish => (noted d).endLine 0
  | .newline => noted d
  | _ =>
    if w.isOperator ";" then d.endLine 0
    else (noted d).addWord place alone documents blanks w

end Draft

def lineWords : Kind → List String
  | .assertStatement => ["assert"]
  | .ifStatement => ["if", "else", "elif"]
  | .whileStatement => ["while", "else"]
  | .forStatement => ["for", "else"]
  | .tryStatement => ["try", "except", "else", "finally"]
  | .exceptClause => ["except"]
  | .withStatement => ["with"]
  | .classDef => ["class"]
  | .returnStatement => ["return"]
  | .deletion => ["del"]
  | _ => []

def hasBody (k : Kind) : Bool :=
  [Kind.ifStatement, .whileStatement, .forStatement, .tryStatement, .withStatement, .exceptClause, .function, .classDef,
    .matchStatement, .caseBlock].contains k

def sliceOperands : List Kind :=
  [.conditional, .lambda, .disjunction, .conjunction, .negation, .comparison, .starred, .bitOr, .bitXor, .bitAnd,
    .shift, .sum, .trailer, .product, .power, .named]

def isEllipsis : Part → Bool
  | .group .simpleLine [p, n] => p.isOperator "..." && n.isToken .newline && (Text.strip p.before).isEmpty
  | _ => false

def isEllipsisBlock (owner : Option Kind) : Part → Bool
  | .group .block [n, i, s, e] =>
    owner.any (fun k => k = .function || k = .classDef) && n.isToken .newline && i.isToken .indent && e.isToken .dedent
      && (Text.strip n.before).isEmpty && (Text.strip e.before).isEmpty && isEllipsis s
  | _ => false

def documentationIndex (k : Kind) (ps : List Part) : Option Nat :=
  match k with
  | .file => some 0
  | .block => some 2
  | .function =>
    match ps.reverse with
    | _ :: c :: p :: _ => if c.isOperator ":" && p.isKind .parameters then some (ps.length - 1) else none
    | _ => none
  | _ => none

def childSlice (k : Kind) (ps : List Part) (inherited : Bool) (child : Part) : Bool :=
  match k with
  | .trailer => ps.head?.any (·.isOperator "[") && !(child.isKind .subscriptList) && child.hasKind sliceOperands
  | .subscriptList => child.hasKind sliceOperands
  | .atom | .parameters => inherited && child.word?.any Word.opens
  | _ => inherited

mutual

/-- Adds the lines of a part; `documents` says that the part stands where documentation does. -/
def visit (place : Place) (documents : Bool) : Part → Draft → Draft
  | .word w, d => d.visitWord place false documents w
  | .group k ps, d =>
    let inner : Place := { around := k :: place.around, complexSlice := place.complexSlice }
    let whole := Part.group k ps
    let alone := (whole.words.length ≤ 3 : Bool)
    let owner := place.parent?
    match k with
    | .simpleLine =>
      if owner.any hasBody then
        if owner.any (fun o => o = .function || o = .classDef) && isEllipsis whole then
          visitAll inner ps alone documents none none ps d
        else (visitAll inner ps alone documents none none ps (d.endLine 1)).endLine (-1)
      else visitAll inner ps alone documents none none ps (d.endLine 0)
    | .block =>
      if isEllipsisBlock owner whole then visitStub inner ps d
      else visitAll inner ps alone documents (documentationIndex k ps) none ps d
    | .function | .asyncFunction | .asyncStatement | .matchStatement | .caseBlock =>
      visitAll inner ps alone false (documentationIndex k ps) none ps (d.endLine 0)
    | _ => visitAll inner ps alone false (documentationIndex k ps) none ps d

/-- Adds the parts of a group in order. `all` are all its parts and `doc` counts down to the one that may be
documentation. -/
def visitAll (place : Place) (all : List Part) (alone documents : Bool) (doc : Option Nat) (previous : Option Part) :
    List Part → Draft → Draft
  | [], d => d
  | p :: ps, d =>
    let k := place.parent?.getD .file
    let own : Place := { place with previous, complexSlice := childSlice k all place.complexSlice p }
    let starts := (k = .decorators || k = .decorated) || p.word?.any fun w => w.isName && (lineWords k).contains w.text
    let d := if starts then d.endLine 0 else d
    let d :=
      match p with
      | .word w => d.visitWord own alone (documents && k = .simpleLine) w
      | .group _ _ => visit own (doc = some 0) p d
    visitAll place all alone documents (doc.bind fun n => if n = 0 then none else some (n - 1)) (some p) ps d

def visitStub (place : Place) : List Part → Draft → Draft
  | [_, _, .group k ps, _], d =>
    visitAll { around := k :: place.around } ps false false none none ps d
  | _, d => d

end

def draftLines (lineLength : Nat) (p : Part) : List Line := (visit {} false p { lineLength }).lines.reverse

end Vetted.Layout
