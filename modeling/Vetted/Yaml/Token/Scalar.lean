import Vetted.Yaml.Cursor
import Vetted.Text.Half
import Vetted.Text.Utf8

namespace Vetted.Yaml.Reader

def isDoubtful (c : Char) : Bool := c = '\'' || c = '"' || c = '\\' || isGap c

def escaped? : Char → Option Char
  | '0' => some '\x00'
  | 'a' => some '\x07'
  | 'b' => some '\x08'
  | 't' | '\t' => some '\t'
  | 'n' => some '\n'
  | 'v' => some '\x0b'
  | 'f' => some '\x0c'
  | 'r' => some '\r'
  | 'e' => some '\x1b'
  | ' ' => some ' '
  | '"' => some '"'
  | '\\' => some '\\'
  | '/' => some '/'
  | 'N' => some '\x85'
  | '_' => some '\xa0'
  | 'L' => some '\u2028'
  | 'P' => some '\u2029'
  | _ => none

def escapeLength? : Char → Option Nat
  | 'x' => some 2
  | 'u' => some 4
  | 'U' => some 8
  | _ => none

def hexValue? (c : Char) : Option Nat :=
  if '0' ≤ c && c ≤ '9' then some (c.toNat - 48)
  else if 'a' ≤ c && c ≤ 'f' then some (c.toNat - 87)
  else if 'A' ≤ c && c ≤ 'F' then some (c.toNat - 55)
  else none

def hexNumber (length : Nat) : Reader Nat :=
  (List.range length).foldlM (fun n place => do
    match hexValue? (← peek place) with
    | some digit => return 16 * n + digit
    | none => fail) 0

def codedCharacter (length : Nat) : Reader Char := do
  let code ← hexNumber length
  if 0x80000000 ≤ code then fail .hugeCharacter
  if 0x110000 ≤ code then fail .noCharacter
  skip length
  return Text.characterOf code

def quotedBreaks : Nat → Reader (List Char)
  | 0 => return []
  | fuel + 1 => do
    if ← atSeparator then fail
    skipWhile fun c => c = ' ' || c = '\t'
    match ← lineBreak with
    | [] => return []
    | b => return b ++ (← quotedBreaks fuel)

def folded (first breaks : List Char) : List Char :=
  if first ≠ ['\n'] then first ++ breaks else if breaks.isEmpty then [' '] else breaks

def quotedSpaces (fuel : Nat) : Reader (List Char) := do
  let blanks ← takeWhile fun c => c = ' ' || c = '\t'
  let c ← peek
  if c = '\x00' then fail
  else if isBreak c then return folded (← lineBreak) (← quotedBreaks fuel)
  else return blanks

def escape (fuel : Nat) : Reader (List Char) := do
  let c ← peek
  match escaped? c, escapeLength? c with
  | some d, _ =>
    skip
    return [d]
  | none, some length =>
    skip
    return [← codedCharacter length]
  | none, none =>
    require (isBreak c)
    let _ ← lineBreak
    quotedBreaks fuel

def atQuotedQuote (double : Bool) : Reader Bool := do
  if double || (← peek) ≠ '\'' then return false else return (← peek 1) = '\''

def quotedText (double : Bool) : Nat → Reader (List Char)
  | 0 => fail
  | fuel + 1 => do
    let front ← takeWhile (!isDoubtful ·)
    let c ← peek
    if ← atQuotedQuote double then
      skip 2
      return front ++ '\'' :: (← quotedText double fuel)
    else if c = (if double then '"' else '\'') then return front
    else if double && c = '\\' then
      skip
      let text ← escape fuel
      return front ++ text ++ (← quotedText double fuel)
    else if isGap c then
      let text ← quotedSpaces fuel
      return front ++ text ++ (← quotedText double fuel)
    else
      skip
      return front ++ c :: (← quotedText double fuel)

def quoted (double : Bool) : Reader String := do
  skip
  let text ← quotedText double ((← get).rest.length + 1)
  skip
  return String.ofList text

/-- Where a plain scalar stops: at a blank, at the colon after a key, and in a flow collection at its indicators. -/
def stopsPlain (inFlow : Bool) (c next : Char) : Bool :=
  isGap c || (c = ':' && (isGap next || (inFlow && [',', '[', ']', '\x7b', '\x7d'].contains next))) ||
    (inFlow && [',', '?', '[', ']', '\x7b', '\x7d'].contains c)

def plainRun (inFlow : Bool) : List Char → Nat
  | [] => 0
  | c :: cs => if stopsPlain inFlow c (cs.headD '\x00') then 0 else plainRun inFlow cs + 1

/-- The length of the run of a plain scalar that starts here. What follows a colon tells whether the run stops at it. -/
def plainLength (inFlow : Bool) : Reader Nat := do
  let length := plainRun inFlow (← get).rest
  if (← peek length) = ':' then
    let _ ← ahead (length + 1)
  return length

def plainBreaks : Nat → Reader (Option (List Char))
  | 0 => return some []
  | fuel + 1 => do
    if ← atSeparator then return none
    skipSpaces
    match ← lineBreak with
    | [] => return some []
    | b => return (← plainBreaks fuel).map (b ++ ·)

/-- Blanks inside a plain scalar, and whether they part lines; empty if the scalar ends here. -/
def plainSpaces (fuel : Nat) : Reader (List Char × Bool) := do
  let blanks ← takeWhile (· = ' ')
  match ← lineBreak with
  | [] => return (blanks, false)
  | b =>
    match ← plainBreaks fuel with
    | none => return ([], true)
    | some breaks => return (folded b breaks, true)

def plainText (inFlow : Bool) (indent : Int) (spaces : List Char) (broken : Bool) :
    Nat → Reader (List Char × Bool)
  | 0 => return ([], broken)
  | fuel + 1 => do
    if (← peek) = '#' then return ([], broken)
    let length ← plainLength inFlow
    if length = 0 then return ([], broken)
    let run := (← get).rest.take length
    skip length
    let (next, parted) ← plainSpaces fuel
    if next.isEmpty || (← peek) = '#' || (!inFlow && (← get).column < indent) then return (spaces ++ run, parted)
    let (more, last) ← plainText inFlow indent next parted fuel
    return (spaces ++ run ++ more, last)

def plain (inFlow : Bool) (indent : Int) : Reader (String × Bool) := do
  let (text, broken) ← plainText inFlow indent [] false ((← get).rest.length + 1)
  return (String.ofList text, broken)

/-- What becomes of the line breaks at the end of a block scalar. -/
inductive Chomping where
  | strip
  | clip
  | keep
deriving DecidableEq

def chomping? : Char → Option Chomping
  | '+' => some .keep
  | '-' => some .strip
  | _ => none

def givenIndent : Reader (Option Nat) := do
  let c ← peek
  if !c.isDigit then return none
  require (c ≠ '0')
  skip
  return some (c.toNat - 48)

def givenChomping : Reader Chomping := do
  match chomping? (← peek) with
  | some chomping =>
    skip
    return chomping
  | none => return .clip

def blockHeader : Reader (Chomping × Option Nat) := do
  match chomping? (← peek) with
  | some chomping =>
    skip
    return (chomping, ← givenIndent)
  | none =>
    match ← givenIndent with
    | some width => return (← givenChomping, some width)
    | none => return (.clip, none)

def blockStart (widest : Nat) : Nat → Reader (List Char × Nat)
  | 0 => return ([], widest)
  | fuel + 1 => do
    skipSpaces
    let widest := max widest (← get).column
    match ← lineBreak with
    | [] => return ([], widest)
    | b =>
      let (breaks, widest) ← blockStart widest fuel
      return (b ++ breaks, widest)

def skipIndent (indent : Nat) : Reader Unit := do
  let here ← get
  let spaces := (here.rest.takeWhile (· = ' ')).length
  skip (min spaces (indent - here.column))

def blockBreaks (indent : Nat) : Nat → Reader (List Char)
  | 0 => return []
  | fuel + 1 => do
    skipIndent indent
    match ← lineBreak with
    | [] => return []
    | b => return b ++ (← blockBreaks indent fuel)

def isBlankMark (c : Char) : Bool := c = ' ' || c = '\t'

/-- The lines of a block scalar from one of them on, and the breaks at its end: that of its last line and those of the
blank lines after it. -/
def blockLines (foldedStyle : Bool) (indent : Nat) (breaks : List Char) :
    Nat → Reader (List Char × List Char × List Char)
  | 0 => return ([], [], breaks)
  | fuel + 1 => do
    let full := !isBlankMark (← peek)
    let line ← takeWhile (!isLineEnd ·)
    let b ← lineBreak
    let after ← blockBreaks indent fuel
    if (← get).column = indent && (← peek) ≠ '\x00' then
      let joint :=
        if foldedStyle && b = ['\n'] && full && !isBlankMark (← peek) then (if after.isEmpty then [' '] else []) else b
      let (text, last, trailing) ← blockLines foldedStyle indent after fuel
      return (breaks ++ line ++ joint ++ text, last, trailing)
    else return (breaks ++ line, b, after)

def block (foldedStyle : Bool) (outer : Int) : Reader String := do
  skip
  let (chomping, given) ← blockHeader
  require (isWordEnd (← peek))
  endLine
  let fuel := (← get).rest.length + 1
  let least := max 1 (outer + 1).toNat
  let (breaks, indent) ←
    match given with
    | some width => do
      let indent := least + width - 1
      pure (← blockBreaks indent fuel, indent)
    | none => do
      let (breaks, widest) ← blockStart 0 fuel
      pure (breaks, max least widest)
  let (text, last, trailing) ←
    if (← get).column = indent && (← peek) ≠ '\x00' then blockLines foldedStyle indent breaks fuel
    else pure ([], [], breaks)
  return String.ofList
    (match chomping with
    | .strip => text
    | .clip => text ++ last
    | .keep => text ++ last ++ trailing)

end Vetted.Yaml.Reader
