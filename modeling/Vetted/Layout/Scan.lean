import Vetted.Layout.Nested

namespace Vetted.Layout

open Source (Token TokenKind Scan LexState isNamePart isNameOpening isSpaceChar isHexDigit takeQuoted takeOperator
  takeComment isOpenBracket isCloseBracket)

def takeDigits (p : Char → Bool) (cs : List Char) : List Char := cs.takeWhile fun c => p c || c = '_'

def takeExponent (cs : List Char) : List Char :=
  match cs with
  | e :: s :: rest =>
    if e ≠ 'e' && e ≠ 'E' then []
    else if s.isDigit then e :: takeDigits Char.isDigit (s :: rest)
    else if (s = '+' || s = '-') && rest.head?.any Char.isDigit then e :: s :: takeDigits Char.isDigit rest
    else []
  | _ => []

def takeLooseNumber (cs : List Char) : List Char :=
  let based (p : Char → Bool) : List Char := cs.take 2 ++ takeDigits p (cs.drop 2)
  match cs.take 2 |>.map Char.toLower with
  | ['0', 'x'] => based isHexDigit
  | ['0', 'o'] => based fun c => '0' ≤ c && c ≤ '7'
  | ['0', 'b'] => based fun c => c = '0' || c = '1'
  | _ =>
    let whole := takeDigits Char.isDigit cs
    let rest := cs.drop whole.length
    let fraction :=
      match rest with
      | '.' :: more => '.' :: takeDigits Char.isDigit more
      | _ => []
    let rest := rest.drop fraction.length
    let exponent := takeExponent rest
    let rest := rest.drop exponent.length
    whole ++ fraction ++ exponent ++ (rest.take 1).filter fun c => c = 'j' || c = 'J'

/-- Where the scan stands: the state it shares with that of declarations, the indentations that are open, innermost
first, whether a line starts here, whether nothing but blanks stands on the line yet, and whether the last token was a
line end. -/
structure CodeScan where
  state : LexState := {}
  indents : List (List Char) := []
  lineStart : Bool := true
  blankLine : Bool := true
  afterEnd : Bool := true
deriving Inhabited

namespace CodeScan

def skip (s : CodeScan) (cs : List Char) : CodeScan := { s with state := s.state.skip cs }

def skipEnd (s : CodeScan) : CodeScan :=
  { s with state := s.state.skipLine, lineStart := true, blankLine := true, afterEnd := true }

/-- Passes over a line end after a backslash. The backslash is kept where a token stands before it; else the blanks in
front of it are dropped too. -/
def skipJoin (s : CodeScan) : CodeScan :=
  let state :=
    if s.afterEnd then { s.state with before := s.state.before.dropWhile (· ≠ '\n') } else s.state.skip ['\\']
  { s with state := state.skipLine, lineStart := false, afterEnd := true }

def emit (s : CodeScan) (kind : TokenKind) (text : List Char) : CodeScan :=
  { s with state := s.state.emit kind text, lineStart := false, blankLine := false, afterEnd := false }

def closeIndents (s : CodeScan) (length : Nat) : CodeScan :=
  let closed := s.indents.takeWhile fun i => length < i.length
  { s with
    state := closed.foldl (fun st i => st.emitMark .dedent i.length) s.state
    indents := s.indents.drop closed.length }

def placeIndent (s : CodeScan) (indent : List Char) : Option CodeScan :=
  let current := s.indents.headD []
  if indent.length = current.length then (if indent = current then some s else none)
  else if current.length < indent.length then
    if Text.occursIn current indent then
      some { s with state := s.state.emitMark .indent indent.length, indents := indent :: s.indents }
    else none
  else
    let s := s.closeIndents indent.length
    match s.indents with
    | [] => some s
    | i :: _ => if Text.occursIn i indent then some s else none

def bracket (s : CodeScan) (c : Char) : Option CodeScan :=
  if isOpenBracket c then
    some ({ s with state := { s.state with brackets := (c, s.state.line) :: s.state.brackets } }.emit .operator [c])
  else
    match s.state.brackets with
    | (o, _) :: outer =>
      if Source.closes o c then some ({ s with state := { s.state with brackets := outer } }.emit .operator [c])
      else none
    | [] => none

end CodeScan

def scanToken (s : CodeScan) (c : Char) (rest : List Char) : Option (CodeScan × List Char) :=
  let cs := c :: rest
  match markAt? cs with
  | some mark =>
    let quoted := cs.drop mark.length
    if marksFields mark then (takeFormatted mark quoted).map fun (text, _, rest) => (s.emit .string text, rest)
    else (takeQuoted quoted).map fun (text, rest) => (s.emit .string (mark ++ text), rest)
  | none =>
    if isNameOpening c then
      let word := cs.takeWhile isNamePart
      some (s.emit (if Naming.isKeyword (String.ofList word) then .keyword else .name) word, cs.drop word.length)
    else if c.isDigit || (c = '.' && rest.head?.any Char.isDigit) then
      let number := takeLooseNumber cs
      some (s.emit .number number, cs.drop number.length)
    else if isOpenBracket c || isCloseBracket c then (s.bracket c).map fun s => (s, rest)
    else if !Text.isPrintable c then none
    else
      let op := takeOperator cs
      some (s.emit .operator op, cs.drop op.length)

def CodeScan.finish (s : CodeScan) : Option (List Token) :=
  if !s.state.brackets.isEmpty then none
  else
    let s := s.closeIndents 0
    let last : Token := ⟨.finish, "", s.state.line, 0, 0, String.ofList s.state.before.reverse⟩
    some (last :: s.state.tokens).reverse

def scanFrom : (fuel : Nat) → CodeScan → List Char → Option (List Token)
  | 0, _, _ => none
  | _ + 1, s, [] => s.finish
  | fuel + 1, s, c :: rest =>
    let open? := !s.state.brackets.isEmpty
    if isSpaceChar c && !(s.lineStart && !open?) then scanFrom fuel (s.skip [c]) rest
    else if s.lineStart && !open? then
      let indent := (c :: rest).takeWhile isSpaceChar
      let after := (c :: rest).drop indent.length
      match after with
      | [] => (s.skip indent).finish
      | d :: more =>
        if d = '\n' then scanFrom fuel (s.skip indent).skipEnd more
        else if d = '#' || d = '\\' then scanFrom fuel { s.skip indent with lineStart := false } after
        else
          match (s.skip indent).placeIndent (indent.filter (· ≠ '\x0c')) with
          | none => none
          | some s =>
            match scanToken s d more with
            | some (s, more) => scanFrom fuel s more
            | none => none
    else if c = '#' then
      let (comment, after) := takeComment (c :: rest)
      scanFrom fuel { s.skip comment with lineStart := false, afterEnd := false } after
    else if c = '\n' then
      if open? || s.blankLine then scanFrom fuel s.skipEnd rest
      else
        let s := s.emit .newline ['\n']
        scanFrom fuel { s with lineStart := true, blankLine := true, afterEnd := true } rest
    else if c = '\\' then
      match rest with
      | '\n' :: more => scanFrom fuel s.skipJoin more
      | _ => none
    else
      match scanToken s c rest with
      | some (s, more) => scanFrom fuel s more
      | none => none

def scanCode (text : List Char) : Option (List Token) :=
  let cs := Source.closeLastLine text
  scanFrom (2 * cs.length + 2) {} cs

end Vetted.Layout
