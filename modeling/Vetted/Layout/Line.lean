import Vetted.Layout.Comment
import Vetted.Layout.Spacing
import Vetted.Text.Width

namespace Vetted.Layout

open Source (TokenKind Kind)

/-- A token of a line, or a comment that takes a line of its own. `opening` is the number of the bracket that it
closes, `rank` that of a break before it, `blanks` the blank lines before it in the source; `alone` says that its
brackets hold a single token, `level` is the number of brackets around it in its line, `unpacks` that it is the star
of an argument and `gathers` that it is the star of a parameter. -/
structure Leaf where
  number : Nat := 0
  word : Word
  level : Nat := 0
  comment : Bool := false
  gap : String := ""
  blanks : Blanks := {}
  around : List Kind := []
  rank : Rank := 0
  opening : Option Nat := none
  alone : Bool := false
  documents : Bool := false
  unpacks : Bool := false
  gathers : Bool := false
  notes : List String := []
deriving Inhabited

abbrev Shown := List Nat

namespace Leaf

def opens (l : Leaf) : Bool := !l.comment && l.word.opens

def closes (l : Leaf) : Bool := !l.comment && l.word.closes

def isOperator (text : String) (l : Leaf) : Bool := !l.comment && l.word.isOperator text

def isNamed (text : String) (l : Leaf) : Bool := !l.comment && l.word.isNamed text

def isHidden (shown : Shown) (l : Leaf) : Bool := l.word.hidden && !shown.contains l.number

def text (shown : Shown) (l : Leaf) : String := if l.isHidden shown then "" else l.word.text

def parent? (l : Leaf) : Option Kind := l.around.head?

def isComma (l : Leaf) : Bool := l.isOperator ","

def isString (l : Leaf) : Bool := !l.comment && l.word.kind = .string

end Leaf

/-- The state of a walk over a line with a text that runs over several lines: the number of commas on each level,
outermost first, the level of the text once it has been met, and the level that has been left since. -/
structure TextWalk where
  commas : List Nat := []
  text : Option Nat := none
  limit : Option Nat := none
deriving Inhabited

def TextWalk.moveTo (w : TextWalk) (level : Nat) : Option TextWalk :=
  if w.limit.isSome then some w
  else if w.commas.length < level + 1 then some { w with commas := w.commas ++ [0] }
  else if level + 1 < w.commas.length then
    let left := { w with commas := w.commas.dropLast }
    if w.text = some (level + 1) then
      if w.commas.getLastD 0 = 0 then some { left with limit := some level } else none
    else some left
  else some w

def Leaf.isMultilineText (l : Leaf) : Bool := !l.comment && l.word.kind = .string && isMultiline l.word.text

/-- Whether a line has at most one text that runs over several lines, and no commas around it. A comma right after the
text at the end of the line does not count; texts in a choice or in part of a value of a mapping do not stay on the
line. -/
def holdsOneText (inside : Bool) (w : TextWalk) : List Leaf → Bool
  | [] => w.text.isNone || w.commas.all (· = 0)
  | l :: ls =>
    match w.moveTo l.level with
    | none => false
    | some w =>
      let trailing := ls.isEmpty && (l.number ≥ 1000000000 || w.text.isSome)
      let counts := l.isOperator "," && w.limit.all (l.level ≤ ·) && (inside || 0 < l.level) && !trailing
      let commas := if counts then w.commas.modify l.level (· + 1) else w.commas
      let w := { w with commas, limit := w.limit.map (min · l.level) }
      if l.isMultilineText then
        if w.text.isSome || l.around.head? = some .conditional || l.around[1]? = some .dictOrSet then false
        else holdsOneText inside { w with text := some l.level } ls
      else holdsOneText inside w ls

inductive Follow where
  | all
  | matched
  | nothing
deriving DecidableEq, Inhabited

structure Line where
  depth : Nat
  leaves : List Leaf
  inside : Bool := false
  follow : Follow := .all
  breakAll : Bool := false
deriving Inhabited

structure Ranked where
  leaf : Leaf
  depth : Nat
  rankAfter : Rank := 0
deriving Inhabited

/-- What is open at some place of a line. Loop variables and the parameters of a lambda count as a level of their own.
-/
structure Nesting where
  depth : Nat := 0
  loops : List Nat := []
  lambdas : List Nat := []
deriving Inhabited

namespace Nesting

def leave (n : Nesting) (l : Leaf) : Nesting :=
  let n := if l.isNamed "in" && n.loops.head? = some n.depth then ⟨n.depth - 1, n.loops.tail, n.lambdas⟩ else n
  let n := if l.isOperator ":" && n.lambdas.head? = some n.depth then ⟨n.depth - 1, n.loops, n.lambdas.tail⟩ else n
  if l.closes then { n with depth := n.depth - 1 } else n

def enter (n : Nesting) (l : Leaf) : Nesting :=
  let n := if l.opens then { n with depth := n.depth + 1 } else n
  let n := if l.isNamed "lambda" then ⟨n.depth + 1, n.loops, (n.depth + 1) :: n.lambdas⟩ else n
  if l.isNamed "for" then ⟨n.depth + 1, (n.depth + 1) :: n.loops, n.lambdas⟩ else n

end Nesting

def rankLeaves (n : Nesting) : List Leaf → List Ranked
  | [] => []
  | l :: ls =>
    let n := n.leave l
    let rest := rankLeaves (n.enter l) ls
    let own : Rank := if n.depth = 0 && l.isComma then commaRank else 0
    let next : Rank :=
      match rest with
      | r :: _ => if r.depth = 0 then r.leaf.rank else 0
      | [] => 0
    ⟨l, n.depth, max own next⟩ :: rest

def withLevels (leaves : List Leaf) : List Leaf := (rankLeaves {} leaves).map fun r => { r.leaf with level := r.depth }

/-- The numbers of the leaves inside brackets that are closed again, with the brackets. `stack` holds the open brackets,
each with the leaves since. -/
def matchedNumbers (stack : List (Leaf × List Nat)) : List Leaf → List Nat
  | [] => []
  | l :: ls =>
    if l.opens then matchedNumbers ((l, [l.number]) :: stack) ls
    else if l.closes then
      match stack with
      | [] => matchedNumbers [] ls
      | (o, inner) :: outer =>
        if l.opening = some o.number then
          let run := l.number :: inner
          match outer with
          | [] => run ++ matchedNumbers [] ls
          | (p, before) :: further => run ++ matchedNumbers ((p, run ++ before) :: further) ls
        else []
    else
      match stack with
      | [] => matchedNumbers [] ls
      | (o, inner) :: outer => matchedNumbers ((o, l.number :: inner) :: outer) ls

namespace Line

def followed (l : Line) : List Leaf :=
  match l.follow with
  | .all => l.leaves
  | .matched =>
    let numbers := matchedNumbers [] l.leaves
    l.leaves.filter fun x => numbers.contains x.number
  | .nothing => []

def ranked (l : Line) : List Ranked := rankLeaves {} l.followed

def text (shown : Shown) (l : Line) : String :=
  match l.leaves with
  | [] => ""
  | first :: rest =>
    Text.repeated (4 * l.depth) ' ' ++ first.text shown ++
      String.join (rest.map fun x => x.gap ++ x.text shown) ++
      String.join (l.leaves.flatMap fun x => x.notes.map ("  " ++ ·))

def hasComment (l : Line) : Bool := l.leaves.any Leaf.comment

def fits (lineLength : Nat) (shown : Shown) (l : Line) : Bool :=
  if l.hasComment then false
  else
    match Text.pieces '\n' (l.text shown).toList with
    | [] => true
    | [t] => Text.width (String.ofList t) ≤ lineLength
    | first :: rest =>
      Text.width (String.ofList first) ≤ lineLength && Text.width (String.ofList (rest.getLastD [])) ≤ lineLength &&
        holdsOneText l.inside {} l.leaves

def isPinned (l : Line) : Bool :=
  let places := (l.leaves.map (·.word.line)).filter (· ≠ 0)
  places.head? = places.getLast? &&
    (l.leaves.reverse.take 2).any fun x => x.notes.any (Text.startsWith · "# type: ignore")

def notedStrings (run : Nat) (noted : Bool) : List Leaf → Bool
  | [] => 1 < run && noted
  | l :: ls =>
    if l.word.kind = .string then notedStrings (run + 1) (noted || !l.notes.isEmpty) ls
    else (1 < run && noted) || notedStrings 0 false ls

def hasNotedStrings (l : Line) : Bool := notedStrings 0 false l.leaves

/-- Whether notes on types would be lost or change their meaning if the line were joined: one follows another note, or
stands at a leaf that is not the last. -/
def isUncollapsable (shown : Shown) (l : Line) : Bool :=
  let closing (x : Leaf) : Bool := x.isComma || (x.isOperator ")" && x.isHidden shown)
  let last :=
    match l.leaves.reverse with
    | x :: y :: _ => if closing x then [x.number, y.number] else [x.number]
    | [x] => [x.number]
    | [] => []
  match l.leaves.flatMap fun x => x.notes.map fun n => (x.number, n) with
  | [] => false
  | first :: rest =>
    let isType (n : Nat × String) : Bool := Text.startsWith n.2 "# type:"
    let isElsewhere (n : Nat × String) : Bool :=
      isType n && !Text.startsWith n.2 "# type: ignore" && !last.contains n.1
    isElsewhere first || rest.any isType

def startsWith (text : String) (l : Line) : Bool := l.leaves.head?.any (·.isNamed text)

def isComment (l : Line) : Bool :=
  match l.leaves with
  | [x] => x.comment
  | _ => false

def isDecorator (l : Line) : Bool := l.leaves.head?.any (·.isOperator "@")

def isImport (l : Line) : Bool :=
  match l.leaves with
  | x :: _ =>
    (x.isNamed "import" && x.parent? = some .importName) || (x.isNamed "from" && x.parent? = some .importFrom)
  | [] => false

def isKeptImport (l : Line) : Bool := l.leaves.head?.any fun x => ["import", "from"].contains x.word.leads

def isClass (l : Line) : Bool := l.startsWith "class"

def isFunction (l : Line) : Bool :=
  match l.leaves with
  | x :: y :: _ => x.isNamed "def" || (x.isNamed "async" && y.isNamed "def")
  | [x] => x.isNamed "def"
  | [] => false

def isWith (l : Line) : Bool :=
  match l.leaves with
  | x :: y :: _ => x.isNamed "with" || (x.isNamed "async" && y.isNamed "with")
  | _ => false

def opensBlock (l : Line) : Bool := l.leaves.getLast?.any (·.isOperator ":")

def isStub (l : Line) : Bool :=
  l.isFunction &&
    match l.leaves.reverse with
    | d :: c :: _ => d.isOperator "..." && c.isOperator ":"
    | _ => false

def isDocumentation (l : Line) : Bool := l.leaves.head?.any Leaf.documents

def hasMultiline (l : Line) : Bool := l.leaves.any fun x => x.isString && isMultiline x.word.text

def isChain (l : Line) : Bool := 1 < (l.leaves.filter (·.isOperator "=")).length

def ranks (l : Line) (without : List Nat) : List Rank :=
  (l.ranked.filter fun r => r.rankAfter ≠ 0 && !without.contains r.leaf.number).map Ranked.rankAfter

def maxRank? (l : Line) (without : List Nat) : Option Rank := (l.ranks without).max?

def countRank (l : Line) (rank : Rank) : Nat := (l.ranks []).count rank

end Line

/-- Whether the leaves between a bracket and the one that closes it are at most one item with a comma. Commas in the
arguments of a call and in parameters always make more than one. `before` are the leaves in front, nearest first. -/
def isSingleItem (before : List Ranked) (closing : Ranked) : Bool :=
  let between := before.takeWhile fun r => closing.leaf.opening ≠ some r.leaf.number
  match before.drop between.length with
  | [] => false
  | o :: _ =>
    if (o.leaf.isOperator "(" && closing.leaf.isOperator ")") ||
      (o.leaf.isOperator "[" && closing.leaf.isOperator "]") then
      let commas := between.filter fun r => r.depth = closing.depth + 1 && r.leaf.isComma
      commas.length < 2 &&
        !(commas.any fun r => r.leaf.parent?.any fun k => k = .argumentList || k = .parameterList)
    else false

/-- A comma before a closing bracket asks for one item a line, unless it only makes a tuple of one item. `before` are
the leaves in front of the bracket, nearest first. -/
def isMagicClosing (takesNames : Bool) (before : List Ranked) (closing : Ranked) : Bool :=
  let l := closing.leaf
  if !(l.closes && before.head?.any (·.leaf.isComma)) then false
  else if l.isOperator "\x7d" then true
  else if l.isOperator "]" then !(l.parent? = some .trailer && isSingleItem before closing)
  else if takesNames then true
  else before.any (fun r => l.opening = some r.leaf.number) && !isSingleItem before closing

def anyMagic (takesNames : Bool) (before : List Ranked) : List Ranked → Bool
  | [] => false
  | r :: rs => isMagicClosing takesNames before r || anyMagic takesNames (r :: before) rs

def Line.hasMagicComma (l : Line) : Bool := anyMagic l.isImport [] l.ranked

def Line.hasMagicParameters (l : Line) : Bool :=
  anyMagic false [] (l.ranked.takeWhile fun r => !(r.depth = 0 && r.leaf.isOperator "->"))

end Vetted.Layout
