import Vetted.Naming
import Vetted.Text.Printable
import Vetted.Source.Token

namespace Vetted.Source

/-- A character that may belong to a name; what lies beyond ASCII is examined once the name is complete. -/
def isNamePart (c : Char) : Bool := c.isAlphanum || c = '_' || 128 ≤ c.toNat

def isNameOpening (c : Char) : Bool := c.isAlpha || c = '_' || 128 ≤ c.toNat

def isSpaceChar (c : Char) : Bool := c = ' ' || c = '\t' || c = '\x0c'

def digitRun (p : Char → Bool) : List Char → Option (List Char × List Char)
  | [] => some ([], [])
  | '_' :: rest =>
    match rest with
    | d :: _ => if p d then (digitRun p rest).map fun r => ('_' :: r.1, r.2) else none
    | [] => none
  | c :: rest => if p c then (digitRun p rest).map fun r => (c :: r.1, r.2) else some ([], c :: rest)

def wordsAfterNumber : List (List Char) :=
  ["and", "else", "for", "if", "in", "is", "or", "not"].map String.toList

def endsNumber (rest : List Char) : Bool :=
  wordsAfterNumber.any (·.isPrefixOf rest) || !(rest.head?.any isNamePart)

def finishNumber (taken rest : List Char) : Option (List Char × List Char) :=
  if endsNumber rest then some (taken, rest) else none

def imaginaryTail (taken : List Char) : List Char → Option (List Char × List Char)
  | 'j' :: rest => finishNumber (taken ++ ['j']) rest
  | 'J' :: rest => finishNumber (taken ++ ['J']) rest
  | rest => finishNumber taken rest

def exponentTail (taken : List Char) (cs : List Char) : Option (List Char × List Char) :=
  match cs with
  | e :: rest =>
    if e = 'e' || e = 'E' then
      match rest with
      | s :: d :: _ =>
        if s = '+' || s = '-' then
          if d.isDigit then do
            let (ds, rest') ← digitRun Char.isDigit (rest.drop 1)
            imaginaryTail (taken ++ e :: s :: ds) rest'
          else none
        else if s.isDigit then do
          let (ds, rest') ← digitRun Char.isDigit rest
          imaginaryTail (taken ++ e :: ds) rest'
        else finishNumber taken cs
      | [s] =>
        if s = '+' || s = '-' then none
        else if s.isDigit then imaginaryTail (taken ++ [e, s]) []
        else finishNumber taken cs
      | [] => finishNumber taken cs
    else imaginaryTail taken cs
  | [] => imaginaryTail taken cs

def fractionTail (taken : List Char) (rest : List Char) : Option (List Char × List Char) :=
  if rest.head?.any Char.isDigit then do
    let (ds, rest') ← digitRun Char.isDigit rest
    exponentTail (taken ++ ds) rest'
  else exponentTail taken rest

def basedTail (taken : List Char) (p : Char → Bool) (rest : List Char) : Option (List Char × List Char) := do
  let (ds, rest') ← digitRun p rest
  if ds.isEmpty || rest'.head?.any Char.isDigit then none else finishNumber (taken ++ ds) rest'

def isHexDigit (c : Char) : Bool := (Text.hexValue? c).isSome

def takeNumber (cs : List Char) : Option (List Char × List Char) :=
  match cs with
  | '.' :: rest => fractionTail ['.'] rest
  | '0' :: m :: rest =>
    if m = 'x' || m = 'X' then basedTail ['0', m] isHexDigit rest
    else if m = 'o' || m = 'O' then basedTail ['0', m] (fun c => '0' ≤ c && c ≤ '7') rest
    else if m = 'b' || m = 'B' then basedTail ['0', m] (fun c => c = '0' || c = '1') rest
    else do
      let (ds, rest') ← digitRun Char.isDigit (m :: rest)
      let taken := '0' :: ds
      match rest' with
      | '.' :: tail => fractionTail (taken ++ ['.']) tail
      | c :: _ =>
        if c = 'e' || c = 'E' then exponentTail taken rest'
        else if c = 'j' || c = 'J' then imaginaryTail taken rest'
        else if ds.any fun d => d ≠ '0' && d ≠ '_' then none
        else finishNumber taken rest'
      | [] => if ds.any fun d => d ≠ '0' && d ≠ '_' then none else some (taken, [])
  | _ => do
    let (ds, rest) ← digitRun Char.isDigit cs
    match rest with
    | '.' :: rest' => fractionTail (ds ++ ['.']) rest'
    | _ => exponentTail ds rest

/-- The rest of a string after its opening quotes, up to and with the closing ones; `run` counts the quotes seen in a
row. A short string ends at the latest with its line. -/
def takeString (quote : Char) (long : Bool) : (run : Nat) → List Char → Option (List Char × List Char)
  | _, [] => none
  | run, c :: rest =>
    if c = quote then
      if !long || run = 2 then some ([c], rest)
      else (takeString quote long (run + 1) rest).map fun r => (c :: r.1, r.2)
    else if c = '\n' && !long then none
    else if c = '\\' then
      match rest with
      | [] => none
      | d :: rest' => (takeString quote long 0 rest').map fun r => (c :: d :: r.1, r.2)
    else (takeString quote long 0 rest).map fun r => (c :: r.1, r.2)

def takeQuoted : List Char → Option (List Char × List Char)
  | q :: r :: s :: rest =>
    if q = r && r = s then (takeString q true 0 rest).map fun t => (q :: q :: q :: t.1, t.2)
    else (takeString q false 0 (r :: s :: rest)).map fun t => (q :: t.1, t.2)
  | q :: rest => (takeString q false 0 rest).map fun t => (q :: t.1, t.2)
  | [] => none

def stringMarks : List (List Char) := ["b", "u", "r", "f", "br", "rb", "fr", "rf"].map String.toList

def stringMark? (cs : List Char) : Option (List Char) :=
  let word := cs.takeWhile isNamePart
  match cs.drop word.length with
  | q :: _ =>
    if (q = '"' || q = '\'') && (word.isEmpty || stringMarks.contains (word.map Char.toLower)) then some word else none
  | [] => none

def longOperators : List (List Char) :=
  ["**=", "//=", ">>=", "<<=", "...", "!=", "%=", "&=", "**", "*=", "+=", "-=", "->", "//", "/=", ":=", "<<", "<=",
    "<>", "==", ">=", ">>", "@=", "^=", "|="].map String.toList

def takeOperator (cs : List Char) : List Char :=
  match longOperators.find? (·.isPrefixOf cs) with
  | some op => op
  | none => cs.take 1

def isOpenBracket (c : Char) : Bool := c = '(' || c = '[' || c = '\x7b'

def isCloseBracket (c : Char) : Bool := c = ')' || c = ']' || c = '\x7d'

def closes (opening closing : Char) : Bool :=
  (opening = '(' && closing = ')') || (opening = '[' && closing = ']') || (opening = '\x7b' && closing = '\x7d')

/-- Where the lexer stands. `indents` holds the open indentations, innermost first, each measured with tabs to eight
and with tabs to one; `brackets` holds the open brackets with their lines. -/
structure LexState where
  line : Nat := 1
  column : Nat := 0
  indents : List (Nat × Nat) := []
  brackets : List (Char × Nat) := []
  lineStart : Bool := true
  before : List Char := []
  tokens : List Token := []
deriving Inhabited

namespace LexState

def openLine (s : LexState) : Option Nat := s.brackets.head?.map Prod.snd

def soft (s : LexState) : LexFault := ⟨s.line, .soft, s.openLine⟩

def firm (s : LexState) : LexFault := ⟨s.line, .firm, s.openLine⟩

def ended (s : LexState) : LexFault := ⟨s.line, .ended, s.openLine⟩

def skip (s : LexState) (cs : List Char) : LexState :=
  { s with before := cs.reverse ++ s.before, column := s.column + (String.ofList cs).utf8ByteSize }

def skipLine (s : LexState) : LexState :=
  { s with before := '\n' :: s.before, line := s.line + 1, column := 0 }

def emit (s : LexState) (kind : TokenKind) (text : List Char) : LexState :=
  let str := String.ofList text
  let token : Token := ⟨kind, str, s.line, s.column, s.brackets.length, String.ofList s.before.reverse⟩
  let newLines := text.count '\n'
  let lastLine := (text.reverse.takeWhile (· ≠ '\n')).reverse
  { s with
    tokens := token :: s.tokens
    before := []
    line := s.line + newLines
    column := if newLines = 0 then s.column + str.utf8ByteSize else (String.ofList lastLine).utf8ByteSize }

/-- A token that takes no text; the text before it is left for the next one. -/
def emitMark (s : LexState) (kind : TokenKind) (column : Nat) : LexState :=
  { s with tokens := ⟨kind, "", s.line, column, s.brackets.length, ""⟩ :: s.tokens }

end LexState

/-- The white space at the start of a line: its width with tabs to eight and with tabs to one, the text taken, and the
rest. A backslash at a line end joins the next line; the width is then that before the first of them. -/
def lineIndent (s : LexState) (wide narrow : Nat) (joined : Option Nat) :
    List Char → Except LexFault (Nat × Nat × LexState × List Char)
  | ' ' :: rest => lineIndent (s.skip [' ']) (wide + 1) (narrow + 1) joined rest
  | '\t' :: rest => lineIndent (s.skip ['\t']) ((wide / 8 + 1) * 8) (narrow + 1) joined rest
  | '\x0c' :: rest => lineIndent (s.skip ['\x0c']) 0 0 joined rest
  | '\\' :: '\n' :: rest =>
    match rest with
    | [] => .error s.ended
    | _ => lineIndent (s.skip ['\\']).skipLine 0 0 (some (joined.getD wide)) rest
  | '\\' :: _ => .error s.soft
  | rest => .ok (joined.getD wide, narrow, s, rest)

def closeIndents (s : LexState) (wide : Nat) : List (Nat × Nat) → LexState
  | [] => { s with indents := [] }
  | (w, n) :: rest =>
    if wide < w then closeIndents (s.emitMark .dedent w) wide rest else { s with indents := (w, n) :: rest }

def placeIndent (s : LexState) (wide narrow : Nat) : Except LexFault LexState :=
  let (w, n) := s.indents.headD (0, 0)
  if wide = w then
    if narrow = n then .ok s else .error s.soft
  else if w < wide then
    if s.indents.length + 1 ≥ 100 || narrow ≤ n then .error s.soft
    else .ok { s.emitMark .indent wide with indents := (wide, narrow) :: s.indents }
  else
    let s' := closeIndents s wide s.indents
    if s'.indents.headD (0, 0) = (wide, narrow) then .ok s' else .error s'.soft

def takeComment (cs : List Char) : List Char × List Char := (cs.takeWhile (· ≠ '\n'), cs.dropWhile (· ≠ '\n'))

def lexName (s : LexState) (cs : List Char) : Except LexFault (LexState × List Char) :=
  let word := cs.takeWhile isNamePart
  let text := String.ofList word
  if word.any (128 ≤ ·.toNat) && !Text.isName text then .error s.firm
  else .ok (s.emit (if Naming.isKeyword text then .keyword else .name) word, cs.drop word.length)

def lexBracket (s : LexState) (c : Char) (rest : List Char) : Except LexFault (LexState × List Char) :=
  if isOpenBracket c then
    if s.brackets.length ≥ 200 then .error s.firm
    else .ok ({ s with brackets := (c, s.line) :: s.brackets }.emit .operator [c], rest)
  else
    match s.brackets with
    | [] => .error s.firm
    | (o, _) :: outer =>
      if closes o c then .ok ({ s with brackets := outer }.emit .operator [c], rest) else .error s.firm

def lexToken (s : LexState) (c : Char) (rest : List Char) : Except LexFault (LexState × List Char) :=
  match stringMark? (c :: rest) with
  | some mark =>
    match takeQuoted ((c :: rest).drop mark.length) with
    | some (text, rest') => .ok (s.emit .string (mark ++ text), rest')
    | none => .error s.firm
  | none =>
    if isNameOpening c then lexName s (c :: rest)
    else if c.isDigit || (c = '.' && rest.head?.any Char.isDigit) then
      match takeNumber (c :: rest) with
      | some (text, rest') => .ok (s.emit .number text, rest')
      | none => .error s.firm
    else if isOpenBracket c || isCloseBracket c then lexBracket s c rest
    else if !Text.isPrintable c then .error s.firm
    else
      let op := takeOperator (c :: rest)
      .ok (s.emit .operator op, (c :: rest).drop op.length)

def lexFinish (s : LexState) : Scan :=
  let s := { s with line := if s.column = 0 then s.line - 1 else s.line }
  match s.brackets with
  | [] =>
    let s' := closeIndents s 0 s.indents
    let last : Token := ⟨.finish, "", s'.line, 0, 0, String.ofList s'.before.reverse⟩
    ⟨(last :: s'.tokens).reverse, none⟩
  | _ => ⟨s.tokens.reverse, some s.ended⟩

/-- Cuts the text into tokens; `fuel` bounds the number of steps, each of which takes at least one character. -/
def lexFrom : (fuel : Nat) → LexState → List Char → Scan
  | 0, s, _ => lexFinish s
  | _ + 1, s, [] => lexFinish s
  | fuel + 1, s, c :: rest =>
    if s.lineStart then
      match lineIndent { s with lineStart := false } 0 0 none (c :: rest) with
      | .error f => ⟨s.tokens.reverse, some f⟩
      | .ok (wide, narrow, s', rest') =>
        match rest' with
        | [] => lexFinish s'
        | d :: tail =>
          if d = '\n' then lexFrom fuel { s'.skipLine with lineStart := true } tail
          else if d = '#' then
            let (comment, after) := takeComment rest'
            lexFrom fuel { (s'.skip comment).skipLine with lineStart := true } (after.drop 1)
          else
            match placeIndent s' wide narrow with
            | .error f => ⟨s'.tokens.reverse, some f⟩
            | .ok placed =>
              match lexToken placed d tail with
              | .error f => ⟨placed.tokens.reverse, some f⟩
              | .ok (next, more) => lexFrom fuel next more
    else if isSpaceChar c then lexFrom fuel (s.skip [c]) rest
    else if c = '#' then
      let (comment, after) := takeComment (c :: rest)
      lexFrom fuel (s.skip comment) after
    else if c = '\n' then
      if s.brackets.isEmpty then
        lexFrom fuel { s.emit .newline ['\n'] with lineStart := true } rest
      else lexFrom fuel s.skipLine rest
    else if c = '\\' then
      match rest with
      | '\n' :: [] => ⟨s.tokens.reverse, some s.ended⟩
      | '\n' :: rest' => lexFrom fuel (s.skip ['\\']).skipLine rest'
      | _ => ⟨s.tokens.reverse, some s.soft⟩
    else
      match lexToken s c rest with
      | .error f => ⟨s.tokens.reverse, some f⟩
      | .ok (s', more) => lexFrom fuel s' more

def closeLastLine (cs : List Char) : List Char :=
  if cs.getLast? = some '\n' then cs else cs ++ ['\n']

def scan (text : String) : Scan :=
  let cs := closeLastLine (Text.unifyLineEnds text.toList)
  lexFrom (cs.length + 1) {} cs

end Vetted.Source
