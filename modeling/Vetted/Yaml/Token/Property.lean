import Vetted.Yaml.Cursor
import Vetted.Yaml.Token.Scalar
import Vetted.Yaml.Token

namespace Vetted.Yaml.Reader

def isNameChar (c : Char) : Bool := c.isAlphanum || c = '-' || c = '_'

def isUriChar (c : Char) : Bool := c.isAlphanum || "-;/?:@&=+$,_.!~*'()[]%".toList.contains c

def name : Reader String := do
  let cs ← takeWhile isNameChar
  require (!cs.isEmpty)
  return String.ofList cs

def anchorName : Reader String := do
  skip
  let name ← name
  let c ← peek
  require (isGap c || ['?', ':', ',', ']', '\x7d', '%', '@', '\x60'].contains c)
  return name

def percentBytes : Nat → Reader (List UInt8)
  | 0 => return []
  | fuel + 1 => do
    if (← peek) ≠ '%' then return []
    skip
    let code ← hexNumber 2
    skip 2
    return code.toUInt8 :: (← percentBytes fuel)

def uriText : Nat → Reader (List Char)
  | 0 => return []
  | fuel + 1 => do
    let c ← peek
    if !isUriChar c then return []
    else if c = '%' then
      match Text.decodeUtf8 (← percentBytes (fuel + 1)) with
      | .ok s => return s.toList ++ (← uriText fuel)
      | .error _ => fail
    else
      skip
      return c :: (← uriText fuel)

def uri : Reader String := do
  require (isUriChar (← peek))
  return String.ofList (← uriText (← get).rest.length)

/-- A handle: an exclamation mark alone, or two of them around a name that may be empty. -/
def handle : Reader String := do
  require ((← peek) = '!')
  skip
  if (← peek) = ' ' then return "!"
  let cs ← takeWhile isNameChar
  require ((← peek) = '!')
  skip
  return "!" ++ String.ofList cs ++ "!"

/-- Whether another exclamation mark comes before the next blank. -/
def hasHandle : Reader Bool := do
  let run := ((← get).rest.drop 1).takeWhile fun c => !isWordEnd c && c ≠ '!'
  return (← peek (run.length + 1)) = '!'

def tag : Reader Token := do
  let next ← peek 1
  let token ←
    if next = '<' then do
      skip 2
      let suffix ← uri
      require ((← peek) = '>')
      skip
      pure (Token.tag none suffix)
    else if isGap next then do
      skip
      pure (Token.tag none "!")
    else if ← hasHandle then do
      let handle ← handle
      pure (Token.tag (some handle) (← uri))
    else do
      skip
      pure (Token.tag (some "!") (← uri))
  require (isWordEnd (← peek))
  return token

def number : Reader Nat := do
  let digits ← takeWhile Char.isDigit
  require (!digits.isEmpty)
  match Number.Numeral.read 10 (String.ofList digits) with
  | .ok n => return n.toNat
  | .error fault => fail (.noInteger fault)

def versionDirective : Reader Directive := do
  skipSpaces
  let major ← number
  require ((← peek) = '.')
  skip
  let minor ← number
  require (isWordEnd (← peek))
  return .version major minor

def handleDirective : Reader Directive := do
  skipSpaces
  let handle ← handle
  require ((← peek) = ' ')
  skipSpaces
  let start ← uri
  require (isWordEnd (← peek))
  return .handle handle start

def directive : Reader Directive := do
  skip
  let name ← name
  require (isWordEnd (← peek))
  let d ←
    if name = "YAML" then versionDirective
    else if name = "TAG" then handleDirective
    else do
      skipWhile (!isLineEnd ·)
      pure Directive.other
  endLine
  return d

end Vetted.Yaml.Reader
