import Vetted.Source.Pattern

namespace Vetted.Source

open Pattern

def name : Pattern := .token .name

def optionalElse : Pattern := .opt (.seq [.word "else", .word ":", .rule .block])

def finallyPart : Pattern := .seq [.word "finally", .word ":", .rule .block]

def augmentedMarks : List String :=
  ["+=", "-=", "*=", "@=", "/=", "%=", "&=", "|=", "^=", "<<=", ">>=", "**=", "//="]

/-- An item of a list, a tuple or the subject of a match. -/
def namedOrStarred : Pattern := .alt [.rule .starred, .rule .named]

def itemsOrComprehension : Pattern :=
  .seq [namedOrStarred,
    .alt [.rule .forClause, .seq [.many (.seq [.word ",", namedOrStarred]), .opt (.word ",")]]]

def dictOrSetItem : Pattern :=
  .alt [.seq [.word "**", .rule .bitOr], .rule .starred,
    .seq [.rule .conditional,
      .opt (.alt [.seq [.word ":", .rule .conditional], .seq [.word ":=", .rule .conditional]])]]

def valueOfAssignment : Pattern := .alt [.rule .yieldExpr, .rule .starList]

def clauseAfter : Pattern := .opt (.alt [.rule .forClause, .rule .ifClause])

/-- Parameters of a function, with `nm` for a plain one and `starNm` for the one that takes the rest. -/
def parameterItems (nm starNm : Pattern) : Pattern :=
  commas (.alt [.seq [.word "**", nm], .seq [.word "*", .opt starNm], .word "/",
    .seq [nm, .opt (.seq [.word "=", .rule .conditional])]])

def withItem (loose : Bool) : Pattern :=
  if loose then .rule .aliased
  else .seq [.rule .conditional, .opt (.seq [.word "as", .alt [.rule .starred, .rule .bitOr]])]

def withPattern (loose : Bool) : Pattern :=
  let plain := Pattern.seq [.word "with", .rule .aliased, .many (.seq [.word ",", .rule .aliased]), .word ":",
    .rule .block]
  if loose then plain
  else .alt [.seq [.word "with", .word "(", commas (.rule .aliased), .word ")", .word ":", .rule .block], plain]

def sequenceItem : Pattern := .alt [.seq [.word "*", name], .rule .pattern]

/-- A sequence in a case that stands without square brackets has a comma. -/
def openSequence : Pattern := .seq [sequenceItem, .word ",", .opt (commas sequenceItem)]

def literalPatterns : List Pattern :=
  [.seq [.opt (.word "-"), .token .number, .opt (.seq [words ["+", "-"], .token .number])],
    some1 (.token .string), words ["None", "True", "False"]]

def mappingItems : Pattern :=
  let rest := Pattern.seq [.word "**", name]
  let key := Pattern.alt (literalPatterns ++ [.seq [name, some1 (.seq [.word ".", name])]])
  let item := Pattern.seq [key, .word ":", .rule .pattern]
  .seq [.alt [rest, .seq [chain item (.word ","), .opt (.seq [.word ",", rest])]], .opt (.word ",")]

def closedPattern : Pattern :=
  .alt (literalPatterns ++ [
    .seq [.rule .dottedName,
      .opt (.seq [.word "(",
        .opt (commas (.alt [.seq [name, .word "=", .rule .pattern], .rule .pattern])), .word ")"])],
    .seq [.word "(", .rule .pattern, .word ")"],
    .seq [.word "(", .opt openSequence, .word ")"],
    .seq [.word "[", .opt (commas sequenceItem), .word "]"],
    .seq [.word "\x7b", .opt mappingItems, .word "\x7d"]])

def rules (loose : Bool) : Kind → Pattern
  | .file => .seq [.many (.rule .statement), .token .finish]
  | .statement =>
    .alt [.rule .ifStatement, .rule .whileStatement, .rule .forStatement, .rule .tryStatement, .rule .withStatement,
      .rule .function, .rule .classDef, .rule .decorated, .rule .asyncStatement, .rule .matchStatement,
      .rule .simpleLine]
  | .simpleLine =>
    .seq [.rule .smallStatement, .many (.seq [.word ";", .rule .smallStatement]), .opt (.word ";"), .token .newline]
  | .smallStatement =>
    .alt ([.rule .deletion, .word "pass", .word "break", .word "continue", .rule .returnStatement,
      .rule .raiseStatement, .rule .importName, .rule .importFrom, .rule .globalStatement, .rule .assertStatement,
      .rule .yieldExpr] ++ (if loose then [.rule .typeStatement] else []) ++ [.rule .assignment])
  | .block => .alt [.seq [.token .newline, .token .indent, some1 (.rule .statement), .token .dedent], .rule .simpleLine]
  | .decorator => .seq [.word "@", .rule .named, .token .newline]
  | .decorators => some1 (.rule .decorator)
  | .decorated => .seq [.rule .decorators, .alt [.rule .classDef, .rule .function, .rule .asyncFunction]]
  | .asyncFunction => .seq [.word "async", .rule .function]
  | .asyncStatement => .seq [.word "async", .alt [.rule .function, .rule .withStatement, .rule .forStatement]]
  | .function =>
    .seq ([.word "def", name] ++ (if loose then [.opt (.rule .typeParameters)] else []) ++
      [.rule .parameters, .opt (.seq [.word "->", .rule .conditional]), .word ":", .rule .block])
  | .parameters => .seq [.word "(", .opt (.rule .parameterList), .word ")"]
  | .parameterList => parameterItems (.rule .typedName) (.rule .starTypedName)
  | .typedName => .seq [name, .opt (.seq [.word ":", .rule .conditional])]
  | .starTypedName => .seq [name, .opt (.seq [.word ":", .alt [.rule .starred, .rule .conditional]])]
  | .lambdaParameterList => parameterItems name name
  | .typeParameters => .seq [.word "[", commas (.rule .typeParameter), .word "]"]
  | .typeParameter =>
    .alt [.seq [.word "**", name, .opt (.seq [.word "=", .rule .conditional])],
      .seq [.word "*", name, .opt (.seq [.word "=", .alt [.rule .starred, .rule .conditional]])],
      .seq [name, .opt (.seq [.word ":", .rule .conditional]), .opt (.seq [.word "=", .rule .conditional])]]
  | .typeStatement => .seq [.soft "type", name, .opt (.rule .typeParameters), .word "=", .rule .conditional]
  | .classDef =>
    .seq ([.word "class", name] ++ (if loose then [.opt (.rule .typeParameters)] else []) ++
      [.opt (.seq [.word "(", .opt (.rule .argumentList), .word ")"]), .word ":", .rule .block])
  | .assignment =>
    .seq [.rule .starList,
      .opt (.alt [.rule .typing, .seq [.rule .augmented, valueOfAssignment],
        some1 (.seq [.word "=", valueOfAssignment])])]
  | .augmented => words augmentedMarks
  | .typing => .seq [.word ":", .rule .conditional, .opt (.seq [.word "=", valueOfAssignment])]
  | .deletion => .seq [.word "del", .rule .exprList]
  | .returnStatement => .seq [.word "return", .opt (.rule .starList)]
  | .raiseStatement =>
    let cause := Pattern.seq [.word "from", .rule .conditional]
    let values := Pattern.seq [.word ",", .rule .conditional, .opt (.seq [.word ",", .rule .conditional])]
    .seq [.word "raise", .opt (.seq [.rule .conditional, .opt (if loose then .alt [cause, values] else cause)])]
  | .assertStatement => .seq [.word "assert", .rule .conditional, .opt (.seq [.word ",", .rule .conditional])]
  | .importName => .seq [.word "import", .rule .dottedAsNames]
  | .importFrom =>
    .seq [.word "from",
      .alt [.rule .dottedName, .seq [some1 (words [".", "..."]), .opt (.rule .dottedName)]],
      .word "import",
      .alt [.word "*", .seq [.word "(", .rule .importAsNames, .word ")"], .rule .importAsNames]]
  | .importAsName => .seq [name, .opt (.seq [.word "as", name])]
  | .dottedAsName => .seq [.rule .dottedName, .opt (.seq [.word "as", name])]
  | .importAsNames => commas (.rule .importAsName)
  | .dottedAsNames => chain (.rule .dottedAsName) (.word ",")
  | .dottedName => chain name (.word ".")
  | .globalStatement => .seq [words ["global", "nonlocal"], chain name (.word ",")]
  | .ifStatement =>
    .seq [.word "if", .rule .named, .word ":", .rule .block,
      .many (.seq [.word "elif", .rule .named, .word ":", .rule .block]), optionalElse]
  | .whileStatement => .seq [.word "while", .rule .named, .word ":", .rule .block, optionalElse]
  | .forStatement =>
    .seq [.word "for", .rule .exprList, .word "in", .rule .starList, .word ":", .rule .block, optionalElse]
  | .tryStatement =>
    .seq [.word "try", .word ":", .rule .block,
      .alt [.seq [some1 (.seq [.rule .exceptClause, .word ":", .rule .block]), optionalElse, .opt finallyPart],
        finallyPart]]
  | .withStatement => withPattern loose
  | .exceptClause =>
    let types := if loose then Pattern.rule .starList else .rule .conditional
    .seq [.word "except", .opt (.word "*"), .opt (.seq [types, .opt (.seq [.word "as", name])])]
  | .matchStatement =>
    .seq [.soft "match", .rule .subjectList, .word ":", .token .newline, .token .indent, some1 (.rule .caseBlock),
      .token .dedent]
  | .subjectList => commas namedOrStarred
  | .caseBlock => .seq [.soft "case", .rule .patterns, .opt (.rule .guard), .word ":", .rule .block]
  | .guard => .seq [.word "if", .rule .named]
  | .patterns => if loose then commas (.rule .pattern) else .alt [openSequence, .rule .pattern]
  | .pattern =>
    if loose then .seq [.alt [.rule .starred, .rule .bitOr], .opt (.seq [.word "as", .rule .bitOr])]
    else .seq [chain (.rule .closedPattern) (.word "|"), .opt (.seq [.word "as", name])]
  | .closedPattern => closedPattern
  | .starList => commas (.alt [.rule .starred, .rule .conditional])
  | .exprList => commas (.alt [.rule .starred, .rule .bitOr])
  | .yieldExpr => .seq [.word "yield", .opt (.rule .yieldArg)]
  | .yieldArg => .alt [.seq [.word "from", .rule .conditional], .rule .starList]
  | .named =>
    let part := if loose then Pattern.rule .aliased else .rule .conditional
    .seq [part, .opt (.seq [.word ":=", part])]
  | .aliased =>
    if loose then .seq [.rule .conditional, .opt (.seq [.word "as", .rule .conditional])] else withItem loose
  | .conditional =>
    .alt [.rule .lambda,
      .seq [.rule .disjunction,
        .opt (.seq [.word "if", .rule .disjunction, .word "else", .rule .conditional])]]
  | .lambda => .seq [.word "lambda", .opt (.rule .lambdaParameterList), .word ":", .rule .conditional]
  | .disjunction => chain (.rule .conjunction) (.word "or")
  | .conjunction => chain (.rule .negation) (.word "and")
  | .negation => .alt [.seq [.word "not", .rule .negation], .rule .comparison]
  | .comparison => chain (.rule .bitOr) (.rule .compareOp)
  | .compareOp =>
    .alt [words (["<", ">", "==", ">=", "<=", "!=", "in"] ++ (if loose then ["<>"] else [])),
      .seq [.word "not", .word "in"], .seq [.word "is", .opt (.word "not")]]
  | .starred => .seq [.word "*", .rule .bitOr]
  | .bitOr => chain (.rule .bitXor) (.word "|")
  | .bitXor => chain (.rule .bitAnd) (.word "^")
  | .bitAnd => chain (.rule .shift) (.word "&")
  | .shift => chain (.rule .sum) (words ["<<", ">>"])
  | .sum => chain (.rule .product) (words ["+", "-"])
  | .product => chain (.rule .signed) (words ["*", "/", "%", "//", "@"])
  | .signed => .alt [.seq [words ["+", "-", "~"], .rule .signed], .rule .power]
  | .power =>
    .seq [.opt (.word "await"), .rule .atom, .many (.rule .trailer), .opt (.seq [.word "**", .rule .signed])]
  | .atom =>
    .alt [name, .token .number, some1 (.token .string),
      .seq [.word "(", .opt (.alt [.rule .yieldExpr, .rule .tupleItems]), .word ")"],
      .seq [.word "[", .opt (.rule .listItems), .word "]"],
      .seq [.word "\x7b", .opt (.rule .dictOrSet), .word "\x7d"],
      words ["None", "True", "False", "..."],
      if loose then .seq [.word "\x60", chain (.rule .conditional) (.word ","), .word "\x60"] else .alt []]
  | .tupleItems => itemsOrComprehension
  | .listItems => itemsOrComprehension
  | .dictOrSet =>
    .seq [dictOrSetItem,
      .alt [.rule .forClause, .seq [.many (.seq [.word ",", dictOrSetItem]), .opt (.word ",")]]]
  | .trailer =>
    .alt [.seq [.word ".", name], .seq [.word "[", .rule .subscriptList, .word "]"],
      .seq [.word "(", .opt (.rule .argumentList), .word ")"]]
  | .subscriptList => commas (.alt [.rule .starred, .rule .subscript])
  | .subscript =>
    let sliceTail := Pattern.seq [.word ":", .opt (.rule .conditional), .opt (.rule .stepClause)]
    .alt [sliceTail,
      .seq [.rule .conditional, .opt (.alt [.seq [.word ":=", .rule .conditional], sliceTail])]]
  | .stepClause => .seq [.word ":", .opt (.rule .conditional)]
  | .argumentList => commas (.rule .argument)
  | .argument =>
    .alt [.seq [.word "**", .rule .conditional], .seq [.word "*", .rule .conditional],
      .seq [.rule .conditional,
        .opt (.alt ([.rule .forClause, .seq [.word ":=", .rule .conditional, .opt (.rule .forClause)],
          .seq [.word "=", if loose then .rule .aliased else .rule .conditional]] ++
          (if loose then [.seq [.word "as", .rule .conditional]] else [])))]]
  | .forClause =>
    .seq [.opt (.word "async"), .word "for", .rule .exprList, .word "in", .rule .disjunction, clauseAfter]
  | .ifClause => .seq [.word "if", .rule .disjunction, clauseAfter]

end Vetted.Source
