import Vetted.Text.Digit
import Vetted.Text.Quoted

namespace Vetted.Command

inductive Flag where
  | help
  | config
  | variant
  | outputSuffix
  | noFormat
  | check
  | stdout
  | verbose
  | noColor
deriving Repr, DecidableEq, Inhabited

namespace Flag

def all : List Flag := [help, config, variant, outputSuffix, noFormat, check, stdout, verbose, noColor]

def names : Flag → List String
  | help => ["-h", "--help"]
  | config => ["-c", "--config"]
  | variant => ["--variant"]
  | outputSuffix => ["--output-suffix"]
  | noFormat => ["--no-format"]
  | check => ["--check"]
  | stdout => ["--stdout"]
  | verbose => ["-v", "--verbose"]
  | noColor => ["--no-color"]

def takesValue : Flag → Bool
  | config | variant | outputSuffix => true
  | _ => false

def choices : Flag → List String
  | variant => ["direct", "newtype"]
  | _ => []

def ofName? (name : String) : Option Flag := all.find? (·.names.contains name)

end Flag

def allNames : List String := Flag.all.flatMap Flag.names

/-- What is wrong with a command line. -/
inductive UsageFault where
  | ambiguous (word : String) (candidates : List String)
  | missingValue (flag : Flag)
  | ignoredValue (flag : Flag) (value : String)
  | badChoice (flag : Flag) (value : String)
  | unrecognized (words : List String)
deriving Repr, DecidableEq, Inhabited

def UsageFault.message : UsageFault → String
  | .ambiguous word candidates => "ambiguous option: " ++ word ++ " could match " ++ Text.commaJoin candidates
  | .missingValue flag => about flag ++ "expected one argument"
  | .ignoredValue flag value => about flag ++ "ignored explicit argument " ++ Text.quote value
  | .badChoice flag value =>
    about flag ++ "invalid choice: " ++ Text.quote value ++ " (choose from " ++
      Text.commaJoin (flag.choices.map (Text.quote ·)) ++ ")"
  | .unrecognized words => "unrecognized arguments: " ++ " ".intercalate words
where
  about (flag : Flag) : String := "argument " ++ "/".intercalate flag.names ++ ": "

/-- A flag that a word names, under which name, and what follows it in the same word, if anything does. -/
structure Hit where
  flag : Flag
  name : String
  value : Option String := none
deriving Repr, Inhabited

inductive Word where
  | separator
  | plain (text : String)
  | unknown (text : String)
  | hit (h : Hit)
deriving Repr, Inhabited

def withoutLineEnd (cs : List Char) : List Char := if cs.getLast? = some '\n' then cs.dropLast else cs

def isNegativeNumber (cs : List Char) : Bool :=
  let areDigits (ds : List Char) : Bool := !ds.isEmpty && ds.all fun c => (Text.digitValue? c).isSome
  match cs with
  | '-' :: rest =>
    match Text.cut '.' (withoutLineEnd rest) with
    | (whole, none) => areDigits whole
    | (whole, some fraction) => (whole.isEmpty || areDigits whole) && areDigits fraction
  | _ => false

def atEquals (word : String) : String × Option String :=
  let (name, value) := Text.cut '=' word.toList
  (String.ofList name, value.map String.ofList)

def hitOf (name : String) (value : Option String) : Option Hit :=
  (Flag.ofName? name).map fun flag => { flag, name, value }

/-- The flags that a word may mean though it is not the name of one. -/
def candidates (word : String) : List Hit :=
  if Text.startsWith word "--" then
    let (name, value) := atEquals word
    (allNames.filter (Text.startsWith · name)).filterMap fun n => hitOf n value
  else
    let name := String.ofList (word.toList.take 2)
    let rest := String.ofList (word.toList.drop 2)
    allNames.filterMap fun n =>
      if n = name then hitOf n (some rest)
      else if Text.startsWith n word then hitOf n none
      else none

def wordOf (word : String) : Except UsageFault Word :=
  if !Text.startsWith word "-" || word = "-" then .ok (.plain word)
  else
    match hitOf word none with
    | some h => .ok (.hit h)
    | none =>
      let (name, value) := atEquals word
      match value.bind fun v => hitOf name (some v) with
      | some h => .ok (.hit h)
      | none =>
        match candidates word with
        | [h] => .ok (.hit h)
        | [] =>
          if isNegativeNumber word.toList || word.toList.contains ' ' then .ok (.plain word) else .ok (.unknown word)
        | several => .error (.ambiguous word (several.map Hit.name))

def wordsOf : List String → Except UsageFault (List Word)
  | [] => .ok []
  | w :: rest =>
    if w = "--" then .ok (.separator :: rest.map .plain)
    else do return (← wordOf w) :: (← wordsOf rest)

end Vetted.Command
