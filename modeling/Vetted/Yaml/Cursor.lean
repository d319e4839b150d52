import Vetted.Text.Basic
import Vetted.Yaml.Fault

namespace Vetted.Yaml

def isBreak (c : Char) : Bool := c = '\n' || c = '\x85' || c = '\u2028' || c = '\u2029'

def isLineEnd (c : Char) : Bool := c = '\x00' || isBreak c

def isWordEnd (c : Char) : Bool := c = ' ' || isLineEnd c

def isGap (c : Char) : Bool := c = '\t' || isWordEnd c

structure Cursor where
  rest : List Char
  whole : Bool := true
  index : Nat := 0
  line : Nat := 0
  column : Nat := 0
deriving Repr, Inhabited

namespace Cursor

/-- Moves over one character; a byte order mark takes no column. -/
def step (k : Cursor) : Cursor :=
  match k.rest with
  | [] => k
  | c :: cs =>
    if isBreak c then { k with rest := cs, index := k.index + 1, line := k.line + 1, column := 0 }
    else { k with rest := cs, index := k.index + 1, column := if c = '\ufeff' then k.column else k.column + 1 }

def steps : Nat → Cursor → Cursor
  | 0, k => k
  | n + 1, k => steps n k.step

end Cursor

abbrev Reader := StateT Cursor (Except Fault)

namespace Reader

def fail {α : Type} (fault : Fault := .malformed) : Reader α := fun _ => .error fault

def ahead (count : Nat) : Reader (List Char) := do
  let here ← get
  let cs := here.rest.drop count
  if cs.isEmpty && !here.whole then fail .unread
  return cs

def peek (count : Nat := 0) : Reader Char := return (← ahead count).headD '\x00'

def skip (count : Nat := 1) : Reader Unit := do
  let _ ← ahead count
  modify (Cursor.steps count)

def takeWhile (p : Char → Bool) : Reader (List Char) := do
  let taken := (← get).rest.takeWhile p
  skip taken.length
  return taken

def skipWhile (p : Char → Bool) : Reader Unit := do
  let _ ← takeWhile p
  return

def skipSpaces : Reader Unit := skipWhile (· = ' ')

def require (b : Bool) : Reader Unit := if b then return else fail

/-- Reads a line break, if one is there. Breaks that only part lines read as a line feed. -/
def lineBreak : Reader (List Char) := do
  let c ← peek
  if !isBreak c then return []
  skip
  return [if c = '\x85' then '\n' else c]

def skipComment : Reader Unit := do
  if (← peek) = '#' then skipWhile (!isLineEnd ·)

def endLine : Reader Unit := do
  skipSpaces
  skipComment
  require (isLineEnd (← peek))
  let _ ← lineBreak
  return

/-- Whether three characters of a kind start here, with a gap behind them. -/
def atMark (c : Char) : Reader Bool := do
  let _ ← ahead 2
  if (← get).rest.take 3 = [c, c, c] then return isGap (← peek 3) else return false

def atSeparator : Reader Bool := do
  if ← atMark '-' then return true else atMark '.'

end Reader

end Vetted.Yaml
