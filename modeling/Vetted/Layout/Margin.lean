import Vetted.Layout.Line

namespace Vetted.Layout

/-- A line with the number of blank lines before and after it, and whether a form feed stands before it. -/
structure Block where
  line : Line
  before : Nat
  after : Nat
  formFeed : Bool := false
deriving Inhabited

/-- The blocks so far, latest first, the depths of the definitions that are open, innermost first, and the place of the
comment that leads what follows, counted from the first block. -/
structure Margin where
  blocks : List Block := []
  definitions : List Nat := []
  leading : Option Nat := none
deriving Inhabited

def isDefinition (l : Line) : Bool := l.isDecorator || l.isFunction || l.isClass

def continues (l : Line) : Bool :=
  l.opensBlock && !(["with", "try", "for", "while", "if", "match"].any (l.startsWith ·))

def closeDefinitions (l : Line) (before : Nat) : List Nat → Nat × List Nat
  | [] => (before, [])
  | d :: ds =>
    if l.depth ≤ d then
      let before := if 0 < l.depth then 1 else if 0 < d && continues l then 1 else 2
      closeDefinitions l before ds
    else (before, d :: ds)

namespace Margin

def previous? (m : Margin) : Option Block := m.blocks.head?

def blockAt? (m : Margin) (place : Nat) : Option Block :=
  if place < m.blocks.length then m.blocks[m.blocks.length - 1 - place]? else none

def setBefore (m : Margin) (place before : Nat) : Margin :=
  { m with
    blocks := m.blocks.mapIdx fun i b => if i + place + 1 = m.blocks.length then { b with before } else b }

def leadingComment? (m : Margin) : Option Nat := do
  let place ← m.leading
  let own ← m.blockAt? place
  let prior ← if place = 0 then none else m.blockAt? (place - 1)
  if prior.line.isClass || prior.line.opensBlock || 1 < own.before then none else some place

def beforeDefinition (m : Margin) (l : Line) (before : Nat) (spaced : Bool) : Nat × Margin :=
  match m.previous? with
  | none => (0, m)
  | some p =>
    if p.line.isDecorator then (0, m)
    else if p.line.depth < l.depth && (p.line.isClass || p.line.isFunction) then (if spaced then 1 else 0, m)
    else
      let wanted := if 0 < l.depth then 1 else 2
      if p.line.isComment && p.line.depth = l.depth && before = 0 then
        match m.leadingComment? with
        | none => (0, m)
        | some place =>
          let own := ((m.blockAt? place).map Block.before).getD 0
          let prior := ((m.blockAt? (place - 1)).map Block.after).getD 0
          (0, m.setBefore place (max own wanted - prior))
      else if p.line.isStub && !spaced then (0, m)
      else (wanted, m)

def aroundPlain (m : Margin) (l : Line) (before : Nat) : Nat × Nat :=
  match m.previous? with
  | none => (before, 0)
  | some p =>
    if p.line.isImport && !l.isImport && !l.isKeptImport && p.line.depth = l.depth then
      (if l.isComment then max before 1 else 1, 0)
    else if p.line.isClass && l.isDocumentation then (0, 1)
    else if p.line.opensBlock && l.isDocumentation && (p.line.isFunction || p.line.isClass) then (0, 0)
    else (before, 0)

def followsHeading (m : Margin) (l : Line) : Bool :=
  match m.blocks with
  | b :: bs => b.line.isDocumentation && b.line.depth = 0 && bs.all (·.line.isComment) && !(l.isClass || l.isFunction)
  | [] => false

def add (m : Margin) (l : Line) : Margin :=
  let limit := if l.depth = 0 then 2 else 1
  let blanks := (l.leaves.head?.map Leaf.blanks).getD {}
  let own := min blanks.count limit
  let (before, definitions) := closeDefinitions l own m.definitions
  let priorAfter := (m.previous?.map Block.after).getD 0
  let m := { m with definitions }
  let (before, after, m) :=
    if isDefinition l then
      let (before, m) := m.beforeDefinition l before (0 < own)
      (before, 0, { m with definitions := if l.isDecorator then m.definitions else l.depth :: m.definitions })
    else
      let (before, after) := m.aroundPlain l before
      (before, after, m)
  let before := if m.blocks.isEmpty then 0 else if m.followsHeading l then 1 else before - priorAfter
  let leading :=
    if l.isComment then
      match m.previous? with
      | none => some m.blocks.length
      | some p => if !p.line.isDecorator && (m.leading.isNone || 0 < before) then some m.blocks.length else m.leading
    else if l.isDecorator then m.leading
    else none
  { m with blocks := ⟨l, before, after, l.depth = 0 && blanks.formFeed⟩ :: m.blocks, leading }

def finish (m : Margin) : List Block :=
  match m.blocks with
  | [] => []
  | b :: bs => ({ b with after := 0 } :: bs).reverse

end Margin

def Block.margin (b : Block) : String :=
  if b.formFeed then Text.repeated (b.before - 1) '\n' ++ "\x0c\n" else Text.repeated b.before '\n'

def withMargins (lines : List Line) : List Block := (lines.foldl Margin.add {}).finish

end Vetted.Layout
