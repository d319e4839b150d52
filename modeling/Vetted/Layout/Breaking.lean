import Vetted.Layout.Line

namespace Vetted.Layout

open Source (TokenKind Kind)

/-- How lines are broken. `forced` breaks at hidden brackets even where they could stay hidden; the other two say
whether a comma may follow the last of starred arguments or parameters. -/
structure Style where
  lineLength : Nat
  forced : Bool := false
  callCommas : Bool := false
  parameterCommas : Bool := false
deriving Inhabited

abbrev Breaking := ExceptT Unit (StateM Shown)

def cannotBreak {α : Type} : Breaking α := throw ()

def addedComma (after : Nat) : Leaf := { number := 1000000000 + after, word := { kind := .operator, text := "," } }

def Leaf.isAdded (l : Leaf) : Bool := 1000000000 ≤ l.number

def trimFirst : List Leaf → List Leaf
  | [] => []
  | l :: ls => { l with gap := "" } :: ls

structure Cut where
  head : Line
  body : Line
  tail : Line
  opening : Leaf
  closing : Leaf
deriving Inhabited

def closeWithComma (leaves : List Leaf) : List Leaf :=
  let comments := (leaves.reverse.takeWhile Leaf.comment).reverse
  let rest := leaves.take (leaves.length - comments.length)
  match rest.getLast? with
  | none => leaves
  | some l => if l.isComma then leaves else rest ++ addedComma l.number :: comments

def startsBroken (opening : Leaf) (body : Line) : Bool :=
  match body.leaves.getLast? with
  | none => false
  | some last =>
    let trailing := last.isComma
    body.maxRank? (if trailing then [last.number] else []) = some commaRank
      && (trailing || opening.parent?.any fun k => k = .atom || k = .importFrom)

def cutBody (l : Line) (opening : Leaf) (leaves : List Leaf) : Line :=
  let wantsComma := l.isImport ||
    (l.isFunction && opening.parent?.any (fun k => k = .parameters || k = .typeParameters) &&
      !(leaves.any fun x => x.isComma && !x.around.contains .typedName))
  let leaves := if wantsComma then closeWithComma leaves else leaves
  let body : Line := { depth := l.depth + 1, leaves := withLevels (trimFirst leaves), inside := true }
  { body with breakAll := startsBroken opening body }

def cutAt (l : Line) (opening closing : Leaf) (head body tail : List Leaf) : Cut where
  head := { depth := l.depth, leaves := head, follow := .matched }
  body := cutBody l opening body
  tail := { depth := l.depth, leaves := trimFirst tail, follow := if l.isFunction then .matched else .nothing }
  opening := opening
  closing := closing

/-- Looks from the end of a line for the last pair of brackets with something inside; brackets in `kept` do not count.
Leaves come latest first; `tail` are those passed. -/
def lastPair (kept : List Nat) (tail : List Leaf) : List Leaf → Option (Leaf × List Leaf × List Leaf)
  | [] => none
  | l :: ls =>
    if l.closes && !kept.contains l.number then
      match ls with
      | o :: rest => if l.opening = some o.number then lastPair kept (o :: l :: tail) rest else some (l, l :: tail, ls)
      | [] => none
    else lastPair kept (l :: tail) ls

def lastCut (kept : List Nat) (l : Line) : Option Cut := do
  let (closing, tail, front) ← lastPair kept [] l.leaves.reverse
  let body := front.takeWhile fun x => closing.opening ≠ some x.number
  let head := front.drop body.length
  let opening ← head.head?
  some (cutAt l opening closing head.reverse body.reverse tail)

def untilClosed (opening : Leaf) (leaves : List Leaf) : List Leaf × List Leaf :=
  (leaves.takeWhile fun x => x.opening ≠ some opening.number, leaves.dropWhile fun x => x.opening ≠ some opening.number)

/-- The cut of a line at its first brackets of the given kind that hold something; brackets inside the square brackets
right after a name do not count. -/
def firstPair (bracket : String) (index level : Nat) (head : List Leaf) :
    List Leaf → Option (Leaf × List Leaf × List Leaf × List Leaf)
  | [] => none
  | l :: ls =>
    let level :=
      if index = 2 && l.isOperator "[" then level + 1
      else if 0 < level then (if l.isOperator "[" then level + 1 else if l.isOperator "]" then level - 1 else level)
      else level
    if l.isOperator bracket && !(bracket = "(" && 0 < level) then
      let (body, tail) := untilClosed l ls
      if body.isEmpty then firstPair bracket (index + 1) level (l :: head) ls
      else if tail.isEmpty then none
      else some (l, (l :: head).reverse, body, tail)
    else firstPair bracket (index + 1) level (l :: head) ls

def firstCut (l : Line) : Option Cut := do
  let (opening, head, body, tail) ← (firstPair "(" 0 0 [] l.leaves).or (firstPair "[" 0 0 [] l.leaves)
  let closing ← tail.head?
  some (cutAt l opening closing head body tail)

def reveal (c : Cut) : Breaking Unit := modify fun shown => c.opening.number :: c.closing.number :: shown

def Cut.lines (c : Cut) : List Line := [c.head, c.body, c.tail].filter fun l => !l.leaves.isEmpty

def breakHeader (l : Line) : Breaking (List Line) :=
  match firstCut l with
  | none => cannotBreak
  | some c => do
    reveal c
    pure c.lines

/-- Some lines cannot be broken for sure: a single token, or calls on attributes of a string. Leaves come latest first
and `next` is the one after them. -/
def onlyStringCalls (next : Leaf) (calls dots : Nat) : List Leaf → Bool
  | [] => false
  | l :: ls =>
    if l.opens then
      if !next.closes then true else goOn l (calls + 1) dots ls
    else if l.isOperator "." then goOn l calls (dots + 1) ls
    else if !l.comment && l.word.isName then
      if !(next.isOperator "." || next.opens) then true else goOn l calls dots ls
    else if !l.closes then true
    else goOn l calls dots ls
where
  goOn (l : Leaf) (calls dots : Nat) (ls : List Leaf) : Bool :=
    (1 < dots && 1 < calls) || onlyStringCalls l calls dots ls

def canBreak (l : Line) : Bool :=
  match l.leaves with
  | [] => false
  | [_] => false
  | first :: second :: _ =>
    if first.isString && second.isOperator "." then
      match l.leaves.reverse with
      | [] => false
      | last :: before => !onlyStringCalls last 0 0 before
    else true

def leafWidth (shown : Shown) (l : Leaf) : Option Nat :=
  let t := l.text shown
  if t.contains '\n' then none
  else some (l.gap.length + t.length + Text.total (l.notes.map String.length))

def hasOuterComment (shown : Shown) (within : Option Nat) : List Leaf → Bool
  | [] => false
  | l :: ls =>
    let within := if within = some l.number then none else within
    (l.comment && within.isNone) ||
      hasOuterComment shown (if within.isNone && l.closes && !l.isHidden shown then l.opening else within) ls

def fitsAfter (lineLength : Nat) (shown : Shown) (first : Nat) (length : Nat) (after : Bool) : List Leaf → Bool
  | [] => true
  | l :: ls =>
    match leafWidth shown l with
    | none => false
    | some w =>
      let after := after || (l.closes && l.opening = some first)
      if after then
        let length := length + w
        if lineLength < length then false else fitsAfter lineLength shown first length (!l.opens) ls
      else fitsAfter lineLength shown first length after ls

def fitsUpTo (lineLength : Nat) (shown : Shown) (opening : Option Nat) (length : Nat) (others : Bool) :
    List Leaf → Bool
  | [] => false
  | l :: ls =>
    match leafWidth shown l with
    | none => false
    | some w =>
      let length := length + w
      if opening = some l.number then
        others || length ≤ lineLength || fitsUpTo lineLength shown opening length others ls
      else fitsUpTo lineLength shown opening length (others || l.opens) ls

/-- Whether the hidden brackets of a cut may stay hidden. With several breaks of one rank inside them they read better;
with none they are of no use. -/
def mayStayHidden (style : Style) (shown : Shown) (c : Cut) : Bool :=
  let body := c.body
  if hasOuterComment shown none body.leaves.reverse then false
  else
    match body.maxRank? [] with
    | none => true
    | some rank =>
      let count := body.countRank rank
      if 1 < count then false
      else if count = 1 && rank = commaRank && c.head.isWith then false
      else if rank = attributeRank then true
      else
        match body.leaves, body.leaves.reverse with
        | first :: second :: _, last :: penultimate :: _ =>
          let start := 4 * body.depth
          (first.opens && !second.closes && fitsAfter style.lineLength shown first.number start false body.leaves) ||
            ((last.isOperator ")" || last.isOperator "\x7d" || (last.isOperator "]" && last.parent? ≠ some .trailer)) &&
              !penultimate.opens &&
              ((first.isString && isMultiline first.word.text) ||
                fitsUpTo style.lineLength shown last.opening start false body.leaves))
        | _, _ => false

/-- Whether a break without the hidden brackets is to be preferred to the one with them: it is, unless the hidden
brackets follow an assignment whose target has brackets of its own and fits. -/
def prefersHidden (style : Style) (shown : Shown) (without revealed : Cut) : Bool :=
  let equals (l : Line) : Nat := (l.leaves.filter (·.isOperator "=")).length
  match revealed.head.leaves.reverse with
  | _ :: e :: target =>
    if [without.head, without.body, without.tail].any Line.isPinned then true
    else if !e.isOperator "=" then true
    else if !(target.any fun x => x.opens || x.closes) then true
    else if !revealed.head.fits (style.lineLength - 1) shown then true
    else if revealed.head.hasMagicComma then true
    else if 1 < equals revealed.head && equals without.head < equals revealed.head then false
    else
      let afterEquals := without.head.leaves.reverse.takeWhile fun x => !x.isOperator "="
      afterEquals.any Leaf.closes ||
        (0 < equals without.head && without.head.fits style.lineLength shown)
  | _ => true

def breakCut (style : Style) (l : Line) : (fuel : Nat) → (kept : List Nat) → Cut → Breaking (List Line)
  | 0, _, _ => cannotBreak
  | fuel + 1, kept, c => do
    let shown ← get
    let optional := c.opening.isOperator "(" && c.opening.isHidden shown && c.closing.isHidden shown
    let finish : Breaking (List Line) := do
      reveal c
      pure c.lines
    let useless : Bool := (!canBreak c.body && !c.body.fits style.lineLength shown)
      || c.head.hasMultiline || c.tail.hasMultiline
    if !style.forced && optional && !l.isImport && mayStayHidden style shown c then
      let kept := c.closing.number :: kept
      match lastCut kept l with
      | none => if !l.isChain && useless then cannotBreak else finish
      | some d =>
        if prefersHidden style shown d c then
          tryCatch (breakCut style l fuel kept d) fun _ => if !l.isChain && useless then cannotBreak else finish
        else finish
    else finish

def breakLast (style : Style) (l : Line) (kept : List Nat) : Breaking (List Line) :=
  match lastCut kept l with
  | none => cannotBreak
  | some c => breakCut style l (l.leaves.length + 1) kept c

structure Trail where
  length : Nat
  opening : Option Nat := none
  closing : Option Nat := none
  inner : List Nat := []
  kept : List Nat := []
deriving Inhabited

def Trail.take (shown : Shown) (t : Trail) (r : Ranked) (before : List Ranked) : Option Trail :=
  if before.head?.any (·.leaf.isComma) && !(r.leaf.isOperator ")" && isSingleItem before r) then none
  else if r.leaf.isHidden shown then some t
  else some { t with opening := r.leaf.opening, closing := some r.leaf.number }

/-- The next set of brackets to leave whole, with what is needed to go on. Leaves come latest first; the search ends
at a comment of its own, since brackets around one cannot stay whole. -/
def Trail.next (lineLength : Nat) (shown : Shown) (t : Trail) :
    List Ranked → Option (Trail × Ranked × List Ranked)
  | [] => none
  | r :: before =>
    match if r.leaf.comment then none else leafWidth shown r.leaf with
    | none => none
    | some w =>
      let t := { t with length := t.length + w }
      if lineLength < t.length then none
      else
        match t.opening with
        | some o =>
          if o = r.leaf.number then Trail.next lineLength shown { t with opening := none } before
          else if r.leaf.closes then Trail.next lineLength shown { t with inner := r.leaf.number :: t.inner } before
          else Trail.next lineLength shown t before
        | none =>
          if !r.leaf.closes then Trail.next lineLength shown t before
          else if before.head?.any (·.leaf.opens) then
            Trail.next lineLength shown { t with inner := r.leaf.number :: t.inner } before
          else
            match t.closing with
            | some c => some ({ t with kept := c :: t.inner ++ t.kept, inner := [] }, r, before)
            | none =>
              match t.take shown r before with
              | none => none
              | some t => Trail.next lineLength shown t before

def breakTrails (style : Style) (l : Line) : (fuel : Nat) → Trail → List Ranked → Breaking (List Line)
  | 0, _, _ => breakLast style l []
  | fuel + 1, t, leaves => do
    match t.next style.lineLength (← get) leaves with
    | none => breakLast style l []
    | some (t, r, before) =>
      let lines ← breakLast style l t.kept
      let shown ← get
      if lines.head?.any (·.fits style.lineLength shown) then pure lines
      else
        match t.take shown r before with
        | none => breakLast style l []
        | some t => breakTrails style l fuel t before

def breakRight (style : Style) (l : Line) : Breaking (List Line) := do
  let leaves := (rankLeaves {} l.leaves).reverse
  let start : Trail := { length := 4 * l.depth }
  if l.hasMagicComma then breakTrails style l (l.leaves.length + 1) start leaves
  else
    let lines ← breakLast style l []
    if lines.head?.any (·.fits style.lineLength (← get)) then pure lines
    else breakTrails style l (l.leaves.length + 1) start leaves

structure Stack where
  lines : List Line := []
  current : List Leaf := []
  nesting : Nesting := {}
deriving Inhabited

namespace Stack

def flush (s : Stack) (l : Line) : Stack :=
  if s.current.isEmpty then s
  else
    { s with
      lines := { depth := l.depth, leaves := withLevels (trimFirst s.current.reverse), inside := l.inside } :: s.lines
      current := []
      nesting := {} }

def add (s : Stack) (l : Line) (x : Leaf) : Stack :=
  let outer := s.nesting.depth = 0 || !s.nesting.loops.isEmpty || !s.nesting.lambdas.isEmpty
  let clash := outer && ((match s.current with | [y] => y.comment | _ => false) || (x.comment && !s.current.isEmpty))
  let s := if clash then s.flush l else s
  { s with current := x :: s.current, nesting := (s.nesting.leave x).enter x }

end Stack

def Style.admitsComma (style : Style) (x : Leaf) : Bool :=
  !(x.gathers && !style.parameterCommas) && !(x.unpacks && !style.callCommas)

/-- Puts the leaves on lines that end at breaks of the given rank. `lowest` is the least depth so far, `safe` whether
a comma may be added, and `last` the number of the last leaf that is no comment. Comments at an operator go to the end
of the line in front of it. -/
def stackLeaves (style : Style) (l : Line) (rank : Rank) (last : Nat) :
    Stack → (lowest : Option Nat) → (safe : Bool) → (taken : Bool) → List Ranked → Stack × Bool
  | s, _, safe, _, [] => (s, safe)
  | s, lowest, safe, taken, r :: rs =>
    let x := if taken then { r.leaf with notes := [] } else r.leaf
    let s := s.add l x
    let lowest := min (lowest.getD r.depth) r.depth
    let safe := safe && (r.depth ≠ lowest || style.admitsComma r.leaf)
    let endsInComments := rs.any (·.leaf.comment) && r.leaf.number = last
    let s :=
      if endsInComments && safe && rank = commaRank && !r.leaf.isComma then s.add l (addedComma r.leaf.number) else s
    if r.rankAfter = rank then
      let moves := rank ≠ commaRank && rank ≠ stringRank
      let s :=
        if moves then
          match rs, s.current with
          | n :: _, y :: ys => { s with current := { y with notes := y.notes ++ n.leaf.notes } :: ys }
          | _, _ => s
        else s
      stackLeaves style l rank last (s.flush l) (some lowest) safe (moves && !rs.isEmpty) rs
    else stackLeaves style l rank last s (some lowest) safe false rs

def breakItems (style : Style) (l : Line) : Breaking (List Line) :=
  match l.leaves.getLast? with
  | none => cannotBreak
  | some last =>
    match l.maxRank? [last.number] with
    | none => cannotBreak
    | some rank =>
      if rank = attributeRank && l.countRank rank = 1 then cannotBreak
      else
        let lastToken := ((l.leaves.filter fun x => !x.comment).getLast?.map Leaf.number).getD 0
        let (s, safe) := stackLeaves style l rank lastToken {} none true false l.ranked
        let s :=
          if safe && rank = commaRank && !last.isComma && !last.comment && !s.current.isEmpty then
            s.add l (addedComma last.number)
          else s
        pure (s.flush l).lines.reverse

def breakComments (l : Line) : Breaking (List Line) :=
  if !l.hasComment then cannotBreak
  else pure ((l.leaves.foldl (fun s x => s.add l x) ({} : Stack)).flush l).lines.reverse

def isNameOrNumber (l : Leaf) : Bool := !l.comment && (l.word.isName || l.word.kind = .number)

def endsSimply (before : List Leaf) : Bool :=
  let notClosed (rest : List Leaf) : Bool := !(rest.head?.any fun x => x.isOperator ")" || x.isOperator "]")
  match before with
  | l :: rest =>
    isNameOrNumber l && !l.isNamed "lambda" &&
      (match rest with
      | d :: more => if l.word.isName && d.isOperator "." then notClosed more else notClosed rest
      | [] => true)
  | [] => false

def isPlainPath : List Leaf → Bool
  | [] => true
  | l :: ls =>
    if l.isOperator "(" || l.isOperator "[" then false
    else if l.isOperator "." then isPlainPath ls
    else if !l.comment && l.word.isName && !(["for", "async", "await"].contains l.word.text) then isPlainPath ls
    else true

def startsSimply (after : List Leaf) : Bool :=
  match after with
  | s :: rest =>
    if s.isOperator "+" || s.isOperator "-" || s.isOperator "~" then rest.head?.any isNameOrNumber && isPlainPath rest
    else isNameOrNumber s && isPlainPath after
  | [] => false

def hugLeaves (before : List Leaf) (hug : Bool) : List Leaf → List Leaf
  | [] => []
  | l :: ls =>
    let now := l.isOperator "**" && endsSimply before && startsSimply ls
    (if hug || now then { l with gap := "" } else l) :: hugLeaves (l :: before) now ls

def hugPowers (l : Line) : Line := { l with leaves := hugLeaves [] false l.leaves }

def breakPowers (l : Line) : Breaking (List Line) :=
  if l.leaves.any (·.isOperator "**") then pure [hugPowers l] else cannotBreak

inductive Way where
  | header
  | items
  | comments
  | right
  | powers
deriving DecidableEq

def Way.run (style : Style) (l : Line) : Way → Breaking (List Line)
  | .header => breakHeader l
  | .items => breakItems style l
  | .comments => breakComments l
  | .right => breakRight style l
  | .powers => breakPowers l

def waysFor (style : Style) (shown : Shown) (l : Line) : List Way :=
  let whole := !l.isUncollapsable shown && !l.breakAll && !l.hasMagicComma &&
    ((hugPowers l).fits style.lineLength shown || l.isPinned) && !(l.inside && l.hasComment) && !l.hasNotedStrings
  (if whole then []
   else if l.isFunction && !(l.hasMagicComma && !l.hasMagicParameters) then [.header]
   else if l.inside then [.items, .comments, .right]
   else [.right]) ++ [.powers]

mutual

def breakLine (style : Style) : (fuel : Nat) → Line → StateM Shown (List Line)
  | 0, l => pure [l]
  | fuel + 1, l => do breakBy style fuel l (waysFor style (← get) l)

def breakBy (style : Style) : (fuel : Nat) → Line → List Way → StateM Shown (List Line)
  | 0, l, _ => pure [l]
  | _ + 1, l, [] => pure [l]
  | fuel + 1, l, w :: ws => do
    match ← (breakWay style fuel l w).run with
    | .ok lines => pure lines
    | .error _ => breakBy style fuel l ws

/-- Breaks a line in one way and then its parts. If the first part is still too long and hidden brackets stayed
hidden, a break that shows them is taken when all of its parts fit. -/
def breakWay (style : Style) : (fuel : Nat) → Line → Way → Breaking (List Line)
  | 0, _, _ => cannotBreak
  | fuel + 1, l, w => do
    let text := l.text (← get)
    let parts ← w.run style l
    let lines ← breakParts style fuel text parts
    let shown ← get
    let hidden := l.followed.filter (·.word.hidden)
    if style.forced || w ≠ .right || hidden.isEmpty || hidden.any (fun x => !x.isHidden shown) || l.hasMultiline
        || lines.head?.any (fun x => x.isUncollapsable shown || x.isPinned || x.fits style.lineLength shown)
        || l.leaves.any (fun x => x.comment || x.isAdded) then pure lines
    else
      let other ← breakWay { style with forced := true } fuel { l with follow := .all } w
      let after ← get
      if other.all (·.fits style.lineLength after) then pure other
      else
        set shown
        pure lines

def breakParts (style : Style) : (fuel : Nat) → (whole : String) → List Line → Breaking (List Line)
  | 0, _, _ => cannotBreak
  | _ + 1, _, [] => pure []
  | fuel + 1, whole, p :: ps => do
    if p.text (← get) = whole then cannotBreak
    else
      let lines ← breakLine style fuel p
      let rest ← breakParts style fuel whole ps
      pure (lines ++ rest)

end

def brokenTexts (style : Style) (l : Line) : List String :=
  let (lines, shown) := (breakLine style (8 * l.leaves.length + 40) l).run []
  lines.map (·.text shown)

end Vetted.Layout
