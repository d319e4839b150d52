import Vetted.Declaration
import Vetted.FileFault
import Vetted.Report
import Vetted.Text.Half
import Vetted.Text.Utf8
import Vetted.Yaml.Fault

namespace Vetted

inductive Failure where
  | duplicateRule (typeName : String)
  | invalidSettings (problems : List String) (file : Option String)
  | unreadableYaml (file : String)
  | badScalar (fault : Yaml.Fault)
  | settingsNotMapping (file : String)
  | invalidSource (file : String) (line : Nat)
  | repeatedClass (file : String) (repeated : Declaration.Repeated)
  | unwritableExpression (fault : Source.TextFault)
  | unreadableSource (file : String) (fault : FileFault)
  | template (name reason : String) (record : Option String)
  | fieldClash (field record first second : String)
  | wrapperClash (name first second record : String)
  | invalidCode (path : String)
  | unmarkedOutput (path : String)
  | unwritableOutput (path : String) (fault : FileFault)
  | undecodable (fault : Text.Utf8Fault)
  | unencodable (fault : Text.HalfFault)
  | nullCharacter
  | badPath (fault : PathFault)
  | packageRoot (path : String)
  | separatorValue
  | fileFault (fault : FileFault)
deriving Repr, Inhabited

namespace Failure

def report? : Failure → Option Report
  | .duplicateRule t =>
    some (.make .configuration ("Duplicate transform rule for type '" ++ t ++ "'") [("config_file", none)]
      [("source_type_name", .text t)])
  | .invalidSettings problems file =>
    some (.make .configuration ("Configuration validation failed: " ++ "; ".intercalate problems)
      [("config_file", file.map .text)] [("errors", .int problems.length)])
  | .unreadableYaml file =>
    some (.make .configuration ("Error parsing YAML file " ++ file ++ ": " ++ Yaml.Fault.malformed.message)
      [("config_file", some (.text file))])
  | .settingsNotMapping file =>
    some (.make .configuration ("Content in config file " ++ file ++ " is not a mapping.")
      [("config_file", some (.text file))])
  | .invalidSource file line =>
    some (.make .declaration "Invalid declaration syntax: <syntax>"
      [("file", some (.text file)), ("line", some (.int line))])
  | .repeatedClass file r =>
    some (.make .declaration
      ("Input class '" ++ r.name ++ "' is declared more than once (first at line " ++ toString r.firstLine ++ ")")
      [("file", some (.text file)), ("line", some (.int r.line)), ("column", some (.int r.column))])
  | .unreadableSource file fault =>
    some (.make .declaration ("Cannot read declaration file: " ++ fault.message) [("file", some (.text file))])
  | .template name reason record =>
    some (.make .template ("Template '" ++ name ++ "' failed to render: " ++ reason)
      [("template", some (.text name)), ("record", record.map .text)])
  | .fieldClash field record first second =>
    some (.make .generation
      ("Domain field '" ++ field ++ "' of " ++ record ++ " is produced by both '" ++ first ++ "' and '" ++ second ++
        "'")
      [("component", some (.text "emitter")), ("record", some (.text record))])
  | .wrapperClash name first second record =>
    some (.make .generation
      ("Wrapper type '" ++ name ++ "' would wrap both '" ++ first ++ "' and '" ++ second ++ "'")
      [("component", some (.text "emitter")), ("record", some (.text record))])
  | .invalidCode path =>
    some (.make .generation ("Generated code for " ++ path ++ " is not valid Python: <black>")
      [("component", some (.text "formatter"))])
  | .unmarkedOutput path =>
    some (.make .output ("Refusing to overwrite " ++ path ++ ": it was not generated by validgen")
      [("path", some (.text path))])
  | .unwritableOutput path fault =>
    some (.make .output ("Could not write " ++ path ++ ": " ++ fault.message) [("path", some (.text path))])
  | .unwritableExpression _ | .badScalar _ | .undecodable _ | .unencodable _ | .nullCharacter | .badPath _
  | .packageRoot _ | .separatorValue | .fileFault _ => none

def plainMessage : Failure → String
  | .unwritableExpression fault => fault.message
  | .badScalar fault => fault.message
  | .undecodable fault => fault.message
  | .unencodable fault => fault.message
  | .nullCharacter => "source code string cannot contain null bytes"
  | .badPath fault => fault.message
  | .packageRoot path => "The packages above " ++ Text.quote path ++ " have no end"
  | .separatorValue => "not enough values to unpack (expected 1, got 0)"
  | .fileFault fault => fault.message
  | _ => ""

end Failure

namespace Declaration

def Fault.failure (file : String) : Fault → Failure
  | .repeated r => .repeatedClass file r
  | .unwritable fault => .unwritableExpression fault

def hasNull (text : String) : Bool := text.toList.contains '\x00'

def statementsOf (file text : String) : Except Failure (List Source.Stmt) :=
  if hasNull text then .error .nullCharacter
  else (Source.statements text).mapError (.invalidSource file)

def parse (text : String) (file : String := "<string>") (suffix : String := "Input") :
    Except Failure (List Record) := do
  let body ← statementsOf file text
  (recordsOf suffix body).mapError (Fault.failure file)

/-- The records and imports among the statements of a source that is imported under the given name. -/
def moduleOf (body : List Source.Stmt) (name file : String) (path : Option Path) (suffix : String) :
    Except Failure Module := do
  let records ← (recordsOf suffix body).mapError (Fault.failure file)
  return { name, path, imports := importsOf body, records }

def parseModule (text name : String) (path : Option Path := none) (suffix : String := "Input") :
    Except Failure Module := do
  let file := (path.map Path.text).getD "<string>"
  let body ← statementsOf file text
  moduleOf body name file path suffix

end Declaration

end Vetted
