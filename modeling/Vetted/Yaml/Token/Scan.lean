import Vetted.Yaml.Supply
import Vetted.Yaml.Token.Property

namespace Vetted.Yaml

/-- What may turn out to be a key: the number of its token, where it starts, and whether it has to be one. -/
structure PossibleKey where
  place : Nat
  required : Bool
  index : Nat
  line : Nat
  column : Nat
deriving Repr, Inhabited

/-- The state of reading. `waiting` are the tokens that are read and not taken, `taken` the number of those before
them. `indents` holds the columns of the blocks around the innermost, whose column is `indent`. A bracket too many
takes the level of flow collections below zero. -/
structure Scan where
  cursor : Cursor
  waiting : List Token := []
  taken : Nat := 0
  ended : Bool := false
  flowLevel : Int := 0
  indent : Int := -1
  indents : List Int := []
  allowKey : Bool := true
  keys : List (Int × PossibleKey) := []
deriving Inhabited

abbrev Scanner := StateT Scan (Except Fault)

namespace Scanner

def fail {α : Type} : Scanner α := fun _ => .error .malformed

def read {α : Type} (r : Reader α) : Scanner α := fun s => do
  let (a, cursor) ← r s.cursor
  return (a, { s with cursor })

def peek (count : Nat := 0) : Scanner Char := read (Reader.peek count)

def push (t : Token) : Scanner Unit := modify fun s => { s with waiting := s.waiting ++ [t] }

def insert (place : Nat) (ts : List Token) : Scanner Unit :=
  modify fun s =>
    { s with waiting := s.waiting.take (place - s.taken) ++ ts ++ s.waiting.drop (place - s.taken) }

def allowKey (b : Bool) : Scanner Unit := modify fun s => { s with allowKey := b }

def inFlow : Scanner Bool := return (← get).flowLevel ≠ 0

def column : Scanner Nat := return (← get).cursor.column

def longestKey : Nat := 1024

def dropStaleKeys : Scanner Unit := do
  let s ← get
  let isStale (k : PossibleKey) : Bool := k.line ≠ s.cursor.line || longestKey < s.cursor.index - k.index
  if s.keys.any fun k => isStale k.2 && k.2.required then fail
  set { s with keys := s.keys.filter fun k => !isStale k.2 }

def dropKey : Scanner Unit := do
  let s ← get
  if s.keys.any fun k => k.1 = s.flowLevel && k.2.required then fail
  set { s with keys := s.keys.filter fun k => k.1 ≠ s.flowLevel }

def saveKey : Scanner Unit := do
  if (← get).allowKey then
    dropKey
    let s ← get
    let key : PossibleKey :=
      { place := s.taken + s.waiting.length
        required := s.flowLevel = 0 && s.indent = s.cursor.column
        index := s.cursor.index
        line := s.cursor.line
        column := s.cursor.column }
    set { s with keys := (s.flowLevel, key) :: s.keys }

/-- Ends the blocks that start right of a column, `fuel` being at least their number. -/
def unwindTo (column : Int) : Nat → Scanner Unit
  | 0 => return
  | fuel + 1 => do
    let s ← get
    if column < s.indent then
      set { s with indent := s.indents.headD (-1), indents := s.indents.tail }
      push .blockEnd
      unwindTo column fuel

def unwind (column : Int) : Scanner Unit := do
  if !(← inFlow) then unwindTo column ((← get).indents.length + 1)

/-- Starts a block at a column right of the innermost one; tells whether it did. -/
def indentTo (column : Nat) : Scanner Bool := do
  let s ← get
  if s.indent < column then
    set { s with indents := s.indent :: s.indents, indent := column }
    return true
  else return false

def skipOrderMark : Scanner Unit := do
  if (← get).cursor.index = 0 then
    if (← peek) = '\ufeff' then read Reader.skip

def skipToToken : Nat → Scanner Unit
  | 0 => return
  | fuel + 1 => do
    read Reader.skipSpaces
    read Reader.skipComment
    if (← read Reader.lineBreak) ≠ [] then
      if !(← inFlow) then allowKey true
      skipToToken fuel

def indicator (t : Token) : Scanner Unit := do
  read Reader.skip
  push t

/-- A token that may start a key and allows none right behind it. -/
def keyed (r : Reader Token) : Scanner Unit := do
  saveKey
  allowKey false
  push (← read r)

def outside (r : Reader Token) : Scanner Unit := do
  unwind (-1)
  dropKey
  allowKey false
  push (← read r)

def separator (t : Token) : Scanner Unit :=
  outside do
    Reader.skip 3
    return t

def openFlow (t : Token) : Scanner Unit := do
  saveKey
  modify fun s => { s with flowLevel := s.flowLevel + 1 }
  allowKey true
  indicator t

def closeFlow (t : Token) : Scanner Unit := do
  dropKey
  modify fun s => { s with flowLevel := s.flowLevel - 1 }
  allowKey false
  indicator t

def flowEntry : Scanner Unit := do
  allowKey true
  dropKey
  indicator .flowEntry

def openBlock (start : Token) : Scanner Unit := do
  if !(← inFlow) then
    if !(← get).allowKey then fail
    if ← indentTo (← column) then push start

def blockEntry : Scanner Unit := do
  openBlock .blockSequenceStart
  allowKey true
  dropKey
  indicator .blockEntry

def explicitKey : Scanner Unit := do
  openBlock .blockMappingStart
  allowKey (!(← inFlow))
  dropKey
  indicator .key

/-- The colon after a key: the possible key is one. Without one, the key is empty or was marked as such. -/
def value : Scanner Unit := do
  let s ← get
  match s.keys.lookup s.flowLevel with
  | some key =>
    set { s with keys := s.keys.filter fun k => k.1 ≠ s.flowLevel }
    let opens ← if ← inFlow then pure false else indentTo key.column
    insert key.place (if opens then [.blockMappingStart, .key] else [.key])
    allowKey false
  | none =>
    openBlock .blockMappingStart
    allowKey (!(← inFlow))
    dropKey
  indicator .value

def blockScalar (foldedStyle : Bool) : Scanner Unit := do
  allowKey true
  dropKey
  let outer := (← get).indent
  push (.scalar (← read (Reader.block foldedStyle outer)) false)

def plain : Scanner Unit := do
  saveKey
  let s ← get
  let (text, broken) ← read (Reader.plain (s.flowLevel ≠ 0) (s.indent + 1))
  allowKey broken
  push (.scalar text true)

def indicators : List Char := "-?:,[]\x7b\x7d#&*!|>'\"%@\x60".toList

def beforeGap : Scanner Bool := return isGap (← peek 1)

def atKeyIndicator (c indicator : Char) : Scanner Bool := do
  if c ≠ indicator then return false
  else if ← inFlow then return true
  else beforeGap

def atDocumentMark (c mark : Char) : Scanner Bool := do
  if c = mark && (← column) = 0 then read (Reader.atMark mark) else return false

def atPlain (c : Char) : Scanner Bool := do
  if !(isGap c || indicators.contains c) then return true
  else if ← beforeGap then return false
  else return c = '-' || (!(← inFlow) && (c = '?' || c = ':'))

def finish : Scanner Unit := do
  unwind (-1)
  dropKey
  modify fun s => { s with allowKey := false, keys := [], ended := true }

def token : Scanner Unit := do
  skipOrderMark
  skipToToken ((← get).cursor.rest.length + 1)
  dropStaleKeys
  unwind (← column)
  let c ← peek
  let flow ← inFlow
  if c = '\x00' then finish
  else if c = '%' && (← column) = 0 then outside (return .directive (← Reader.directive))
  else if ← atDocumentMark c '-' then separator .documentStart
  else if ← atDocumentMark c '.' then separator .documentEnd
  else if c = '[' then openFlow .flowSequenceStart
  else if c = '\x7b' then openFlow .flowMappingStart
  else if c = ']' then closeFlow .flowSequenceEnd
  else if c = '\x7d' then closeFlow .flowMappingEnd
  else if c = ',' then flowEntry
  else if ← (if c = '-' then beforeGap else return false) then blockEntry
  else if ← atKeyIndicator c '?' then explicitKey
  else if ← atKeyIndicator c ':' then value
  else if c = '*' then keyed (return .alias (← Reader.anchorName))
  else if c = '&' then keyed (return .anchor (← Reader.anchorName))
  else if c = '!' then keyed Reader.tag
  else if c = '|' && !flow then blockScalar false
  else if c = '>' && !flow then blockScalar true
  else if c = '\'' then keyed (return .scalar (← Reader.quoted false) false)
  else if c = '"' then keyed (return .scalar (← Reader.quoted true) false)
  else if ← atPlain c then plain
  else fail

/-- Whether the next token is not read, or may still turn out to be a key. -/
def needsMore : Scanner Bool := do
  let s ← get
  if s.ended then return false
  if s.waiting.isEmpty then return true
  dropStaleKeys
  let s ← get
  return (s.keys.map (·.2.place)).min? = some s.taken

def fill : Nat → Scanner Unit
  | 0 => return
  | fuel + 1 => do
    if ← needsMore then
      token
      fill fuel

def next? : Scanner (Option Token) := do
  if ← needsMore then fill ((← get).cursor.rest.length + 2)
  return (← get).waiting.head?

def drop : Scanner Unit := modify fun s => { s with waiting := s.waiting.tail, taken := s.taken + 1 }

end Scanner

def Scan.ofSupply (supply : Supply) : Scan := { cursor := { rest := supply.ready, whole := supply.obstacle?.isNone } }

end Vetted.Yaml
