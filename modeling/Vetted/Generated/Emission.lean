import Vetted.Generated.Template

namespace Vetted.Generated

open Domain (Record)

def unlines (lines : List String) : String := String.join (lines.map (· ++ "\n"))

def Field.line (f : Field) : String :=
  "    " ++ f.name ++ ": " ++ f.typing ++ (if f.comment.isEmpty then "" else "  # " ++ f.comment)

def Field.argument (f : Field) : String := "            " ++ f.name ++ "=" ++ f.value.text ++ ","

def classLines (record : Record) (fields : List Field) : List String :=
  ["", "", "@dataclass(frozen=True)", "class " ++ record.name ++ ":",
    "    \"\"\"Validated counterpart of " ++ record.inputName ++ ".", "",
    "    Only built by " ++ Naming.conversionName record.name ++ "(); holding one means the source",
    "    " ++ record.inputName ++ " passed every declared validation rule.", "    \"\"\"", ""] ++
    fields.map Field.line

def functionLines (record : Record) (fields : List Field) : List String :=
  ["", "",
    "def " ++ Naming.conversionName record.name ++ "(value: " ++ record.inputName ++ ") -> " ++ record.name ++ ":",
    "    \"\"\"Validate a " ++ record.inputName ++ " and convert it into a " ++ record.name ++ ".", "",
    "    Raises:", "        ConversionError: If a validation rule or a field transform fails.",
    "            No " ++ record.name ++ " is constructed in that case.", "    \"\"\"", "    try:",
    "        validate_struct(value)", "        return " ++ record.name ++ "("] ++
    fields.map Field.argument ++
    ["        )", "    except StructValidationError as err:",
      "        raise ConversionError(" ++ Text.quote record.inputName ++ ", err) from err"]

def recordText (record : Record) (fields : List Field) (wrappers : List Wrapper) : String :=
  unlines (wrappers.map Wrapper.line ++ classLines record fields ++ functionLines record fields)

/-- The first line of a generated module, by which it is known again. -/
def marker : String := "# Code generated by validgen"

def header (module : Declaration.Module) : String := marker ++ " from " ++ module.label ++ "; DO NOT EDIT."

def moduleText (module : Declaration.Module) (imports : List String) (wrappers : List Wrapper)
    (records : List String) : String :=
  unlines
    ([header module, "\"\"\"Validated domain records for the input classes in " ++ module.label ++ ".\"\"\"", ""] ++
      imports ++ (if wrappers.isEmpty then [] else ["", ""] ++ wrappers.map Wrapper.line) ++ records)

def defaultSuffix : String := "_validation_gen"

/-- Where the module for a source goes: beside it, with a suffix to its name. -/
def outputPath (input : Path) (suffix : String := defaultSuffix) : Except PathFault Path :=
  input.withName (input.stem ++ suffix ++ ".py")

def recordTemplate : String := "validated_record.py.j2"

def moduleTemplate : String := "validated_module.py.j2"

def Texts.record (texts : Texts) (record : Record) (fields : List Field) (wrappers : List Wrapper)
    (standalone : Bool) : Except Failure String :=
  match texts with
  | .standard => .ok (recordText record fields wrappers)
  | .custom templates =>
    fillNamed templates recordTemplate
      [("domain_name", record.name), ("input_name", record.inputName),
        ("function_name", Naming.conversionName record.name), ("fields", listText (fields.map Field.text)),
        ("wrappers", listText (wrappers.map Wrapper.text)),
        ("include_wrappers", if standalone then "True" else "False")]
      (some record.name)

def Texts.module (texts : Texts) (module : Declaration.Module) (imports : List String) (wrappers : List Wrapper)
    (records : List String) : Except Failure String :=
  match texts with
  | .standard => .ok (moduleText module imports wrappers records)
  | .custom templates =>
    fillNamed templates moduleTemplate
      [("header", header module), ("source", module.label), ("imports", listText (imports.map Text.quote)),
        ("wrappers", listText (wrappers.map Wrapper.text)), ("records", listText (records.map Text.quote))]
      none

/-- The code of one record on its own, with its wrapper types. -/
def emit (record : Record) (variant : Variant := .direct) (texts : Texts := .standard) : Except Failure String := do
  let fields ← fieldsOf record variant
  let wrappers ← wrappersOf [record] variant
  texts.record record fields wrappers true

def emitRecord (variant : Variant) (texts : Texts) (shared : List String) (record : Record) :
    Except Failure String := do
  let fields ← fieldsOf record variant shared
  texts.record record fields [] false

def emitModule (module : Declaration.Module) (records : List Record) (variant : Variant := .direct)
    (texts : Texts := .standard) : Except Failure String := do
  let shared := scopedNames records
  let bodies ← records.mapM (emitRecord variant texts shared)
  let wrappers ← wrappersOf records variant shared
  texts.module module (importsOf module records variant) wrappers bodies

end Vetted.Generated
