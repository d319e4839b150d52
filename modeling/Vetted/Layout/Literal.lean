import Vetted.Layout.Nested
import Vetted.Text.Case

namespace Vetted.Layout

open Text

def isMarkLetter (c : Char) : Bool := "furbtFURBT".toList.contains c

def splitMark (cs : List Char) : List Char × List Char := (cs.takeWhile isMarkLetter, cs.dropWhile isMarkLetter)

/-- A mark is written in lower case, except for the one of raw strings, which goes first, and without the one that has
no effect. -/
def normalMark (mark : List Char) : List Char :=
  let plain (c : Char) : Char := if c = 'F' || c = 'B' || c = 'T' then c.toLower else c
  match (mark.map plain).filter fun c => c ≠ 'U' && c ≠ 'u' with
  | [a, b] => if a = 'r' || a = 'R' then [a, b] else [b, a]
  | other => other

def onBackslashRuns (quote : List Char) (change : Nat → Nat) (run : Nat) : List Char → List Char
  | [] => List.replicate run '\\'
  | c :: cs =>
    if c = '\\' then onBackslashRuns quote change (run + 1) cs
    else if quote.isPrefixOf (c :: cs) then
      List.replicate (change run) '\\' ++ c :: onBackslashRuns quote change 0 cs
    else List.replicate run '\\' ++ c :: onBackslashRuns quote change 0 cs

def dropEscape (run : Nat) : Nat := if run % 2 = 1 then run - 1 else run

def addEscape (run : Nat) : Nat := if run % 2 = 0 then run + 1 else run

def hasBareQuote (quote : List Char) (run : Nat) : List Char → Bool
  | [] => false
  | c :: cs =>
    if c = '\\' then hasBareQuote quote (run + 1) cs
    else run % 2 = 0 && quote.isPrefixOf (c :: cs) || hasBareQuote quote 0 cs

def fieldContent? (taken : List Char) : List Char → Option (List Char)
  | [] => none
  | '\x7d' :: cs => if cs.head? = some '\x7d' then fieldContent? ('\x7d' :: taken) cs else some taken.reverse
  | c :: cs => if c = '\n' then none else fieldContent? (c :: taken) cs

/-- Whether a backslash stands in a replacement field of a formatted string; `prior` is the character before and
`skip` the number of characters that belong to a field already found. -/
def fieldHasBackslash (prior : Option Char) (skip : Nat) : List Char → Bool
  | [] => false
  | c :: cs =>
    if skip ≠ 0 then fieldHasBackslash (some c) (skip - 1) cs
    else
      match cs with
      | d :: rest =>
        if c = '\x7b' && prior ≠ some '\x7b' && d ≠ '\x7b' then
          match fieldContent? [d] rest with
          | some content => content.contains '\\' || fieldHasBackslash (some c) (content.length + 1) cs
          | none => fieldHasBackslash (some c) 0 cs
        else fieldHasBackslash (some c) 0 cs
      | [] => false

def quotePair : List Char → Option (List Char × List Char)
  | '"' :: '"' :: '"' :: _ => none
  | '\'' :: '\'' :: '\'' :: _ => some (['\'', '\'', '\''], ['"', '"', '"'])
  | '"' :: _ => some (['"'], ['\''])
  | '\'' :: _ => some (['\''], ['"'])
  | _ => none

def normalQuotes (cs : List Char) : List Char :=
  let (mark, quoted) := splitMark cs
  match quotePair quoted with
  | none => cs
  | some (old, new) =>
    let inner := (quoted.drop old.length).take (quoted.length - 2 * old.length)
    let raw := mark.any fun c => c = 'r' || c = 'R'
    if raw && hasBareQuote new 0 inner then cs
    else
      let body := if raw then inner else onBackslashRuns new dropEscape 0 inner
      let swapped :=
        if raw then inner
        else onBackslashRuns new addEscape 0 (onBackslashRuns old dropEscape 0 body)
      let kept := mark ++ old ++ body ++ old
      if (mark.any fun c => c = 'f' || c = 'F') && fieldHasBackslash none 0 swapped then kept
      else
        let swapped :=
          if new.length = 3 && swapped.getLast? = some '"' then swapped.dropLast ++ ['\\', '"'] else swapped
        let more := swapped.count '\\'
        let fewer := body.count '\\'
        if fewer < more || (fewer = more && old = ['"']) then kept else mark ++ new ++ swapped ++ new

/-- Escapes of characters by number are written with lower-case digits and those by name in capitals; in byte strings
only the shortest ones are escapes. -/
def normalEscapes (bytes : Bool) (run : Nat) : List Char → List Char
  | [] => []
  | '\\' :: cs => '\\' :: normalEscapes bytes (run + 1) cs
  | c :: cs =>
    let digits := if c = 'x' then 2 else if bytes then 0 else if c = 'u' then 4 else if c = 'U' then 8 else 0
    let number := cs.take digits
    if run % 2 = 1 && digits ≠ 0 && number.length = digits && number.all (fun d => (hexValue? d).isSome) then
      c :: number.map Char.toLower ++ normalEscapes bytes 0 (cs.drop digits)
    else if run % 2 = 1 && !bytes && c = 'N' && cs.head? = some '\x7b' then
      let name := (cs.drop 1).takeWhile (· ≠ '\x7d')
      if name.isEmpty || name.length + 1 = cs.length then c :: normalEscapes bytes 0 cs
      else c :: '\x7b' :: (upper (String.ofList name)).toList ++ normalEscapes bytes 0 (cs.drop (name.length + 1))
    else c :: normalEscapes bytes 0 cs
termination_by cs => cs.length
decreasing_by all_goals (simp only [List.length_cons, List.length_drop]; omega)

def withNormalEscapes (cs : List Char) : List Char :=
  let mark := (splitMark cs).1
  if marksRaw mark then cs else normalEscapes (mark.any fun c => c = 'b' || c = 'B') 0 cs

def normalString (text : String) : String :=
  if (fieldTexts text).any (·.contains '\\') then text
  else
    let cs := withNormalEscapes text.toList
    let (mark, quoted) := splitMark cs
    String.ofList (normalQuotes (normalMark mark ++ quoted))

def isLongQuoted (text : String) : Bool :=
  let quoted := (splitMark text.toList).2
  ['"', '"', '"'].isPrefixOf quoted || ['\'', '\'', '\''].isPrefixOf quoted

def isMultiline (text : String) : Bool := isLongQuoted text && text.contains '\n'

def expandTabs (column : Nat) : List Char → List Char
  | [] => []
  | '\t' :: cs => List.replicate (4 - column % 4) ' ' ++ expandTabs (column + (4 - column % 4)) cs
  | c :: cs => c :: expandTabs (column + 1) cs

def expandIndent (line : List Char) : List Char :=
  let rest := trimLeft line
  if rest.isEmpty then line else expandTabs 0 (line.takeWhile isBlank) ++ rest

def endsTextLine (c : Char) : Bool :=
  c = '\n' || c = '\x0b' || c = '\x0c' || ('\x1c' ≤ c && c ≤ '\x1e') || c = '\x85' || c = '\u2028' || c = '\u2029'

def textLines : List Char → List (List Char)
  | [] => [[]]
  | [c] => if c = '\n' then [[], []] else if endsTextLine c then [[]] else [[c]]
  | c :: cs =>
    if endsTextLine c then [] :: textLines cs
    else
      match textLines cs with
      | [] => [[c]]
      | line :: rest => (c :: line) :: rest

def indentDocumentation (indent : List Char) (text : List Char) : List Char :=
  match (textLines text).map expandIndent with
  | [] => []
  | first :: rest =>
    let widths := (rest.filter fun l => !(trimLeft l).isEmpty).map fun l => l.length - (trimLeft l).length
    match widths.min? with
    | none => trim first
    | some common =>
      let moved := rest.map fun l => trimRight (l.drop common)
      let last := moved.length - 1
      let lines := (moved.zip (List.range moved.length)).map fun (l, i) =>
        if l.isEmpty && i ≠ last then [] else indent ++ l
      List.intercalate ['\n'] (trim first :: lines)

def padDocumentation (quote : Char) (wasEmpty : Bool) (text : List Char) : List Char :=
  match text with
  | [] => if wasEmpty then [] else [' ']
  | c :: _ =>
    let text := if c = quote then ' ' :: text else text
    let text := if text.getLast? = some quote then text ++ [' '] else text
    if (text.reverse.takeWhile (· = '\\')).length % 2 = 1 then text ++ [' '] else text

def joinsLines : List Char → Bool
  | [] => false
  | '\\' :: cs => (cs.dropWhile fun c => isBlank c && c ≠ '\n').head? = some '\n' || joinsLines cs
  | _ :: cs => joinsLines cs

/-- A documentation string at the given depth; its closing quotes take a line of their own if they would not fit. -/
def documentation (lineLength depth : Nat) (text : String) : String :=
  if joinsLines text.toList then normalString text
  else
    let normal := (normalString text).toList
    let (mark, quoted) := splitMark normal
    let quote := quoted.headD '"'
    let size := if quoted[1]? = some quote then 3 else 1
    let quotes := List.replicate size quote
    let inner := (quoted.drop size).take (quoted.length - 2 * size)
    let indent := List.replicate (4 * depth) ' '
    let body := if isMultiline text then indentDocumentation indent inner else trim inner
    let body := padDocumentation quote inner.isEmpty body
    let lines := pieces '\n' body
    let lastLine := lines.getLastD []
    let breaks := size = 3 && 1 < lines.length && lineLength < lastLine.length + size &&
      indent.length + size ≤ lineLength
      && !(trim lastLine).isEmpty
    String.ofList (mark ++ quotes ++ body ++ (if breaks then '\n' :: indent else []) ++ quotes)

def normalPoint (cs : List Char) : List Char :=
  match cut '.' cs with
  | (whole, some fraction) =>
    (if whole.isEmpty then ['0'] else whole) ++ '.' :: (if fraction.isEmpty then ['0'] else fraction)
  | (whole, none) => whole

def normalNumber (text : String) : String :=
  let cs := text.toList.map Char.toLower
  String.ofList <|
    match cs with
    | '0' :: 'b' :: _ => cs
    | '0' :: 'o' :: _ => cs
    | '0' :: 'x' :: digits => '0' :: 'x' :: digits.map Char.toUpper
    | _ =>
      match cut 'e' cs with
      | (front, some exponent) =>
        let (sign, digits) :=
          match exponent with
          | '-' :: ds => (['-'], ds)
          | '+' :: ds => ([], ds)
          | ds => ([], ds)
        normalPoint front ++ 'e' :: sign ++ digits
      | (_, none) =>
        if cs.getLast? = some 'j' then normalPoint cs.dropLast ++ ['j'] else normalPoint cs

end Vetted.Layout
