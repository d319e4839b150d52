import Vetted.Source.Expr
import Vetted.Text.Quoted

namespace Vetted.Source

namespace Level

def named : Nat := 1
def tuple : Nat := 2
def yield : Nat := 3
def test : Nat := 4
def or : Nat := 5
def and : Nat := 6
def not : Nat := 7
def compare : Nat := 8
def bitOr : Nat := 9
def bitXor : Nat := 10
def bitAnd : Nat := 11
def shift : Nat := 12
def sum : Nat := 13
def product : Nat := 14
def sign : Nat := 15
def power : Nat := 16
def await : Nat := 17
def atom : Nat := 18

def next (n : Nat) : Nat := min (n + 1) atom

end Level

def UnaryOp.text : UnaryOp → String
  | .not => "not "
  | .invert => "~"
  | .plus => "+"
  | .minus => "-"

def UnaryOp.level : UnaryOp → Nat
  | .not => Level.not
  | _ => Level.sign

def BinaryOp.text : BinaryOp → String
  | .add => "+"
  | .sub => "-"
  | .mul => "*"
  | .matMul => "@"
  | .div => "/"
  | .mod => "%"
  | .shiftLeft => "<<"
  | .shiftRight => ">>"
  | .bitOr => "|"
  | .bitXor => "^"
  | .bitAnd => "&"
  | .floorDiv => "//"
  | .pow => "**"

def BinaryOp.level : BinaryOp → Nat
  | .add | .sub => Level.sum
  | .mul | .matMul | .div | .mod | .floorDiv => Level.product
  | .shiftLeft | .shiftRight => Level.shift
  | .bitOr => Level.bitOr
  | .bitXor => Level.bitXor
  | .bitAnd => Level.bitAnd
  | .pow => Level.power

/-- The levels at which the two operands stand; a power groups to the right. -/
def BinaryOp.sides (op : BinaryOp) : Nat × Nat :=
  if op = .pow then (Level.next op.level, op.level) else (op.level, Level.next op.level)

def CompareOp.text : CompareOp → String
  | .eq => "=="
  | .ne => "!="
  | .lt => "<"
  | .le => "<="
  | .gt => ">"
  | .ge => ">="
  | .is => "is"
  | .isNot => "is not"
  | .member => "in"
  | .notMember => "not in"

def NumberValue.text : NumberValue → String
  | .integer n => toString n
  | .float (some s) => s.text .float
  | .float none => "1e309"
  | .imaginary (some s) => s.text .imaginary ++ "j"
  | .imaginary none => "1e309j"

/-- An escaped character of a string inside a formatted one; line ends and tabs stay unless `strict`. -/
def escapeInner (strict : Bool) (c : Char) : List Char :=
  if !strict && (c = '\n' || c = '\t') then [c]
  else if c = '\\' || !Text.isPrintable c then Text.escapeChar '\\' c
  else [c]

def allQuotes : List String := ["'", "\"", "\"\"\"", "'''"]

def isLongQuote (q : String) : Bool := q.length = 3

def lastChar? (s : String) : Option Char := s.toList.getLast?

def firstChar? (s : String) : Option Char := s.toList.head?

/-- The body of a string that needs as few escapes as possible, and the quotes that may stand around it, best first. -/
def escapeBody (s : String) (quotes : List String) (strict : Bool) : String × List String :=
  let escaped := String.ofList (s.toList.flatMap (escapeInner strict))
  let possible := if escaped.toList.contains '\n' then quotes.filter isLongQuote else quotes
  let possible := possible.filter fun q => !Text.containsText escaped q
  match possible with
  | [] =>
    let quoted := Text.quote s
    let mark := quoted.toList.headD '\''
    let body := String.ofList (quoted.toList.drop 1).dropLast
    (body, [(quotes.find? fun q => q.toList.contains mark).getD (String.ofList [mark])])
  | _ =>
    match lastChar? escaped with
    | none => (escaped, possible)
    | some last =>
      let sorted := possible.filter (fun q => firstChar? q ≠ some last) ++
        possible.filter (fun q => firstChar? q = some last)
      if (sorted.head?.bind firstChar?) = some last then
        (String.ofList (escaped.toList.dropLast ++ ['\\', last]), sorted)
      else (escaped, sorted)

def plainString (s : String) : String :=
  let (body, quotes) := escapeBody s allQuotes false
  let q := quotes.headD "'"
  q ++ body ++ q

/-- Parts of a formatted string under common quotes; `none` if no quotes suit all of them. -/
def joinParts (quotes : List String) : List (String × Bool) → Option (String × List String)
  | [] => some ("", quotes)
  | (s, constant) :: rest =>
    let (body, quotes') := escapeBody s quotes constant
    if quotes'.any quotes.contains then (joinParts quotes' rest).map fun r => (body ++ r.1, r.2) else none

def formattedString (parts : List (String × Bool)) : String :=
  match joinParts allQuotes parts with
  | some (body, quotes) =>
    let q := quotes.headD "'"
    "f" ++ q ++ body ++ q
  | none =>
    let inner (s : String) : String := String.ofList ((Text.quote ("\"" ++ s)).toList.drop 2).dropLast
    "f'''" ++ String.join (parts.map fun p => inner p.1) ++ "'''"

def doubleBraces (s : String) : String :=
  String.ofList (s.toList.flatMap fun c => if c = '\x7b' || c = '\x7d' then [c, c] else [c])

def Constant.render (plain : Bool) : Constant → String
  | .none => "None"
  | .bool true => "True"
  | .bool false => "False"
  | .ellipsis => "..."
  | .number v => v.text
  | .text s marked => (if marked then "u" else "") ++ (if plain then plainString s else Text.quote s)
  | .bytes b => Text.quoteBytes b

def bracketIf (b : Bool) (s : String) : String := if b then "(" ++ s ++ ")" else s

def tupleText (items : List String) : String :=
  match items with
  | [a] => a ++ ","
  | _ => Text.commaJoin items

def parameterText (role : ParameterRole) (name : String) (value : Option String) : String :=
  let mark :=
    match role with
    | .rest => "*"
    | .keywordRest => "**"
    | _ => ""
  mark ++ name ++ (match value with | some v => "=" ++ v | none => "")

def parameterTexts (params : List (ParameterRole × String)) : List String :=
  let only := params.filter (·.1 = .positionalOnly)
  let plain := params.filter (·.1 = .positional)
  let rest := params.filter (·.1 = .rest)
  let keyword := params.filter (·.1 = .keywordOnly)
  let last := params.filter (·.1 = .keywordRest)
  only.map (·.2) ++ (if only.isEmpty then [] else ["/"]) ++ plain.map (·.2) ++
    (if rest.isEmpty && !keyword.isEmpty then ["*"] else rest.map (·.2)) ++ keyword.map (·.2) ++ last.map (·.2)

def fieldText (inner : String) (conversion : Option Char) (spec : Option String) : String :=
  "\x7b" ++ (if inner.startsWith "\x7b" then " " else "") ++ inner ++
    (match conversion with | some c => "!" ++ String.ofList [c] | none => "") ++
    (match spec with | some s => ":" ++ s | none => "") ++ "\x7d"

mutual

/-- The text of an expression at a place that binds as tight as `level`; `plain` avoids backslashes, as inside a
formatted string. -/
def Expr.textAt (plain : Bool) (level : Nat) : Expr → String
  | .name id => id
  | .constant c => c.render plain
  | .attribute object field =>
    let isInteger :=
      match object with
      | .constant (.number (.integer _)) => true
      | .constant (.bool _) => true
      | _ => false
    object.textAt plain Level.atom ++ (if isInteger then " ." else ".") ++ field
  | .subscript object index =>
    let inner :=
      match index with
      | .tuple (i :: is) => tupleText (textsAt plain Level.test (i :: is))
      | i => i.textAt plain Level.test
    object.textAt plain Level.atom ++ "[" ++ inner ++ "]"
  | .slice lower upper step =>
    optionText plain lower ++ ":" ++ optionText plain upper ++
      (match step with | some s => ":" ++ s.textAt plain Level.test | none => "")
  | .tuple items => bracketIf (items.isEmpty || Level.tuple < level) (tupleText (textsAt plain Level.test items))
  | .list items => "[" ++ Text.commaJoin (textsAt plain Level.test items) ++ "]"
  | .set items =>
    if items.isEmpty then "\x7b*()\x7d" else "\x7b" ++ Text.commaJoin (textsAt plain Level.test items) ++ "\x7d"
  | .dict items => "\x7b" ++ Text.commaJoin (itemTexts plain items) ++ "\x7d"
  | .starred value => "*" ++ value.textAt plain Level.bitOr
  | .call function arguments keywords =>
    function.textAt plain Level.atom ++ "(" ++
      Text.commaJoin (textsAt plain Level.test arguments ++ keywordTexts plain keywords) ++ ")"
  | .unary op operand => bracketIf (op.level < level) (op.text ++ operand.textAt plain op.level)
  | .binary op left right =>
    let (l, r) := op.sides
    bracketIf (op.level < level) (left.textAt plain l ++ " " ++ op.text ++ " " ++ right.textAt plain r)
  | .boolean isOr first second others =>
    let own := if isOr then Level.or else Level.and
    let word := if isOr then " or " else " and "
    bracketIf (own < level)
      (first.textAt plain (Level.next own) ++ word ++
        word.intercalate
          (second.textAt plain (Level.next (Level.next own)) ::
            risingTexts plain (Level.next (Level.next (Level.next own))) others))
  | .compare left op right others =>
    bracketIf (Level.compare < level)
      (left.textAt plain (Level.next Level.compare) ++ " " ++ op.text ++ " " ++
        right.textAt plain (Level.next Level.compare) ++ String.join (compareTexts plain others))
  | .conditional test body other =>
    bracketIf (Level.test < level)
      (body.textAt plain Level.or ++ " if " ++ test.textAt plain Level.or ++ " else " ++ other.textAt plain Level.test)
  | .lambda parameters body =>
    let params := parameterTexts (lambdaTexts plain parameters)
    bracketIf (Level.test < level)
      ("lambda" ++ (if params.isEmpty then "" else " " ++ Text.commaJoin params) ++ ": " ++
        body.textAt plain Level.test)
  | .listOf item clauses =>
    "[" ++ item.textAt plain Level.test ++ String.join (clauseTexts plain clauses) ++ "]"
  | .setOf item clauses =>
    "\x7b" ++ item.textAt plain Level.test ++ String.join (clauseTexts plain clauses) ++ "\x7d"
  | .generator item clauses =>
    "(" ++ item.textAt plain Level.test ++ String.join (clauseTexts plain clauses) ++ ")"
  | .dictOf key value clauses =>
    "\x7b" ++ key.textAt plain Level.test ++ ": " ++ value.textAt plain Level.test ++
      String.join (clauseTexts plain clauses) ++ "\x7d"
  | .await value => bracketIf (Level.await < level) ("await " ++ value.textAt plain Level.atom)
  | .yield value =>
    bracketIf (Level.yield < level)
      ("yield" ++ (match value with | some v => " " ++ v.textAt plain Level.atom | none => ""))
  | .yieldFrom value => bracketIf (Level.yield < level) ("yield from " ++ value.textAt plain Level.atom)
  | .named target value =>
    bracketIf (Level.named < level) (target.textAt plain Level.atom ++ " := " ++ value.textAt plain Level.atom)
  | .joined parts =>
    if plain then "f" ++ plainString (String.join ((partTexts parts).map (·.1)))
    else formattedString (partTexts parts)
  | .formatted value conversion spec => fieldText (value.textAt true Level.or) conversion (specText spec)

def textsAt (plain : Bool) (level : Nat) : List Expr → List String
  | [] => []
  | e :: rest => e.textAt plain level :: textsAt plain level rest

/-- Operands of one operator, each at a tighter level than the one before. -/
def risingTexts (plain : Bool) (level : Nat) : List Expr → List String
  | [] => []
  | e :: rest => e.textAt plain level :: risingTexts plain (Level.next level) rest

def optionText (plain : Bool) : Option Expr → String
  | none => ""
  | some e => e.textAt plain Level.test

def itemTexts (plain : Bool) : List (Option Expr × Nat × Expr) → List String
  | [] => []
  | (none, _, v) :: rest => ("**" ++ v.textAt plain Level.bitOr) :: itemTexts plain rest
  | (some k, _, v) :: rest =>
    (k.textAt plain Level.test ++ ": " ++ v.textAt plain Level.test) :: itemTexts plain rest

def keywordTexts (plain : Bool) : List (Option String × Expr) → List String
  | [] => []
  | (none, v) :: rest => ("**" ++ v.textAt plain Level.test) :: keywordTexts plain rest
  | (some k, v) :: rest => (k ++ "=" ++ v.textAt plain Level.test) :: keywordTexts plain rest

def compareTexts (plain : Bool) : List (CompareOp × Expr) → List String
  | [] => []
  | (op, e) :: rest =>
    (" " ++ op.text ++ " " ++ e.textAt plain (Level.next Level.compare)) :: compareTexts plain rest

def lambdaTexts (plain : Bool) : List (ParameterRole × String × Option Expr) → List (ParameterRole × String)
  | [] => []
  | (role, name, none) :: rest => (role, parameterText role name none) :: lambdaTexts plain rest
  | (role, name, some v) :: rest =>
    (role, parameterText role name (some (v.textAt plain Level.test))) :: lambdaTexts plain rest

def clauseTexts (plain : Bool) : List (Bool × Expr × Expr × List Expr) → List String
  | [] => []
  | (isAsync, target, source, conditions) :: rest =>
    ((if isAsync then " async for " else " for ") ++ target.textAt plain Level.tuple ++ " in " ++
      source.textAt plain Level.or ++ String.join ((textsAt plain Level.or conditions).map (" if " ++ ·))) ::
      clauseTexts plain rest

/-- The format given to a replacement field, which is itself a formatted string. -/
def specText : Option Expr → Option String
  | none => none
  | some (.joined parts) => some (String.join ((partTexts parts).map (·.1)))
  | some e => some (e.textAt true Level.test)

/-- The parts of a formatted string; the flag marks plain text. -/
def partTexts : List Expr → List (String × Bool)
  | [] => []
  | .constant (.text s _) :: rest => (doubleBraces s, true) :: partTexts rest
  | .formatted value conversion spec :: rest =>
    (fieldText (value.textAt true Level.or) conversion (specText spec), false) :: partTexts rest
  | .joined parts :: rest => (String.join ((partTexts parts).map (·.1)), false) :: partTexts rest
  | _ :: rest => partTexts rest

end

def Expr.text (e : Expr) : String := e.textAt false Level.test

end Vetted.Source
