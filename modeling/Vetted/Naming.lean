import Vetted.Text.Basic
import Vetted.Text.Case
import Vetted.Text.Identifier

namespace Vetted.Naming

/-- Puts an underscore before each capital followed by small letters. `taken` says that the small letters of such a word
are being passed: none of them can be the character before the next word. -/
def markWords (taken : Bool) : List Char → List Char
  | [] => []
  | [c] => [c]
  | c :: d :: rest =>
    if taken && c.isLower then c :: markWords true (d :: rest)
    else if c ≠ '\n' && d.isUpper && (rest.head?.any Char.isLower) then
      c :: '_' :: d :: markWords true rest
    else c :: markWords false (d :: rest)

def mergeMarks : List Char → List Char
  | '_' :: '_' :: c :: rest =>
    if c.isUpper then '_' :: c :: mergeMarks rest else '_' :: mergeMarks ('_' :: c :: rest)
  | c :: rest => c :: mergeMarks rest
  | [] => []

def markCapitals : List Char → List Char
  | c :: d :: rest =>
    if (c.isLower || c.isDigit) && d.isUpper then c :: '_' :: markCapitals (d :: rest)
    else c :: markCapitals (d :: rest)
  | cs => cs

def snakeChars (cs : List Char) : List Char :=
  Text.lowerChars (markCapitals (mergeMarks (markWords false cs)))

/-- `ProductInputValidated` becomes `product_input_validated`, `XMLHttpRequest` becomes `xml_http_request`. -/
def snakeCase (name : String) : String := String.ofList (snakeChars name.toList)

def capitalise : List Char → List Char
  | [] => []
  | c :: rest => Text.upperChar c ++ rest

def pascalChars (cs : List Char) : List Char := (Text.pieces '_' cs).flatMap capitalise

def pascalCase (name : String) : String := String.ofList (pascalChars name.toList)

def conversionName (domainName : String) : String := "to_" ++ snakeCase domainName

/-- The name of the wrapper type of a domain field; `scope` stands in front where records of one module differ on the
wrapped type. -/
def wrapperName (fieldName : String) (scope : String := "") : String :=
  scope ++ pascalCase fieldName ++ "Valid"

def keywords : List String :=
  ["False", "None", "True", "and", "as", "assert", "async", "await", "break", "class", "continue", "def", "del", "elif",
    "else", "except", "finally", "for", "from", "global", "if", "import", "in", "is", "lambda", "nonlocal", "not", "or",
    "pass", "raise", "return", "try", "while", "with", "yield"]

def isKeyword (s : String) : Bool := keywords.contains s

def isIdentifier (s : String) : Bool := Text.isName s && !isKeyword s

def splitLast (path : String) : String × String :=
  match (Text.pieces '.' path.toList).reverse with
  | [] => ("", path)
  | last :: before => (".".intercalate (before.reverse.map String.ofList), String.ofList last)

def importLine (modulePath : String) : String :=
  let (package, name) := splitLast modulePath
  if package = "" then "import " ++ name else "from " ++ package ++ " import " ++ name

def isAsciiNameRest (c : Char) : Bool := c.isAlphanum || c = '_'

def qualifierRoot (typeName : String) : String :=
  let cs := typeName.toList
  let root := cs.takeWhile isAsciiNameRest
  match root, cs.dropWhile isAsciiNameRest with
  | c :: _, '.' :: _ => if c.isDigit then "" else String.ofList root
  | _, _ => ""

end Vetted.Naming
