import Vetted.Text.Basic

namespace Vetted

inductive Topic where
  | general
  | configuration
  | declaration
  | template
  | generation
  | output
deriving Repr, DecidableEq, Inhabited

namespace Topic

def code : Topic → Option String
  | .general => none
  | .configuration => some "CONFIG_ERROR"
  | .declaration => some "PARSE_ERROR"
  | .template => some "TEMPLATE_ERROR"
  | .generation => some "CODE_GENERATION_ERROR"
  | .output => some "OUTPUT_ERROR"

def suggestions : Topic → List String
  | .general => []
  | .configuration =>
    ["Check the configuration file syntax", "Verify all required fields are present",
      "Check the README for configuration examples"]
  | .declaration =>
    ["Check the declaration file is valid Python", "Make sure each input class name is declared only once"]
  | .template =>
    ["Check the template for syntax errors", "Verify every variable the template uses is passed in",
      "Report this as a generator bug"]
  | .generation =>
    ["Check the input declarations for clashing field names",
      "Check custom transform rules for clashing target fields",
      "Run with --stdout --verbose to inspect the rendered module"]
  | .output =>
    ["Check write permissions on the output directory", "Move hand-written code out of the generated file path",
      "Set overwrite_unmarked: true to replace the file anyway"]

end Topic

inductive Detail where
  | none
  | bool (b : Bool)
  | int (n : Int)
  | text (s : String)
deriving Repr, DecidableEq, Inhabited

def Detail.show : Detail → String
  | .none => "None"
  | .bool true => "True"
  | .bool false => "False"
  | .int n => toString n
  | .text s => s

abbrev Context := List (String × Detail)

def Context.put (c : Context) (key : String) (d : Detail) : Context :=
  match c with
  | [] => [(key, d)]
  | (k, v) :: rest => if k = key then (k, d) :: rest else (k, v) :: Context.put rest key d

def Context.putAll (c : Context) (own : List (String × Option Detail)) : Context :=
  own.foldl (fun c (k, d) => match d with | some d => c.put k d | none => c) c

structure Report where
  topic : Topic
  message : String
  code : Option String
  context : Context
  suggestions : List String
deriving Repr, DecidableEq, Inhabited

namespace Report

/-- A report with what its topic adds to it. Absent values are left out of the context, and an empty list of suggestions
stands for those of the topic. -/
def make (topic : Topic) (message : String) (own : List (String × Option Detail)) (context : Context := [])
    (suggestions : List String := []) (code : Option String := none) : Report :=
  { topic, message
    code := code.or topic.code
    context := context.putAll own
    suggestions := if suggestions.isEmpty then topic.suggestions else suggestions }

/-- The lines of a report: message, code, context and suggestions, each part only if there is one. -/
def lines (r : Report) : List String :=
  [r.message] ++
    (match r.code with
    | some c => if c.isEmpty then [] else ["Error Code: " ++ c]
    | none => []) ++
    (if r.context.isEmpty then [] else "Context:" :: r.context.map fun (k, d) => "  " ++ k ++ ": " ++ d.show) ++
    (if r.suggestions.isEmpty then [] else "Suggestions:" :: r.suggestions.map ("  • " ++ ·))

def text (r : Report) : String := "\n".intercalate r.lines

end Report

end Vetted
