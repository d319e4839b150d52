import Vetted.Generated.Emission
import Vetted.Generated.Formatted
import Vetted.Settings.Raw
import Vetted.Text.Alphanumeric

namespace Vetted

open Generated (Variant)

structure Settings where
  inputFiles : List String
  variant : Variant := .direct
  inputSuffix : String := "Input"
  domainSuffix : String := "Validated"
  outputSuffix : String := Generated.defaultSuffix
  passwordField : String := "password"
  passwordDomain : Option String := none
  sourceModule : Option String := none
  formatOutput : Bool := true
  lineLength : Nat := Generated.defaultLineLength
  overwriteUnmarked : Bool := false
  rules : List TransformRule := []
deriving Repr, DecidableEq, Inhabited

namespace Settings

def lineLengthBound : Nat := 40

def name (v : Value) : Checked String :=
  match text v with
  | .ok s => if Naming.isIdentifier s then .ok s else refuse (.badName s)
  | r => r

def variantOf : Value → Checked Variant
  | .text s =>
    match Variant.ofName? s with
    | some v => .ok v
    | none => refuse .notVariant
  | _ => refuse .notVariant

def isSuffix (s : String) : Bool :=
  !s.isEmpty && s.toList.all fun c => c = '_' || Text.isAlphanumeric c

def suffix (v : Value) : Checked String :=
  match text v with
  | .ok s => if isSuffix s then .ok s else refuse (.badSuffix s)
  | r => r

/-- The first file name that cannot be one, `index` being that of the first. -/
def badFile? (index : Nat) : List String → Option Cause
  | [] => none
  | f :: fs =>
    if (Text.strip f).isEmpty then some (.blankFile index)
    else if !Text.endsWith f ".py" then some (.otherFile f)
    else badFile? (index + 1) fs

def files (v : Value) : Checked (List String) :=
  match items text v with
  | .ok [] => refuse .emptyList
  | .ok fs =>
    match badFile? 0 fs with
    | some cause => refuse cause
    | none => .ok fs
  | r => r

def lineLengthOf (v : Value) : Checked Nat :=
  match integer v with
  | .ok n => if (lineLengthBound : Int) < n then .ok n.toNat else refuse (.notAbove lineLengthBound)
  | .error ps => .error ps

def fieldName (v : Value) : Checked String :=
  match filledText v with
  | .ok s => if Naming.isIdentifier s then .ok s else refuse (.badName s)
  | r => r

def isModulePath (s : String) : Bool := (Text.splitOnChar '.' s).all Naming.isIdentifier

def modulePath (v : Value) : Checked String :=
  match text v with
  | .ok s => if isModulePath s then .ok s else refuse (.badModule s)
  | r => r

def ruleKeys : List String := ["source_type_name", "target_field_name", "target_field_type", "required_capability"]

def keyText : Value → String
  | .text s => s
  | .bool b => if b then "1" else "0"
  | v => (v.nestedText?).getD ""

def strayEntries (entries : List (Value × Value)) : List Problem :=
  entries.filterMap fun (k, _) =>
    match k with
    | .text s => if ruleKeys.contains s then none else some ⟨[s], .unknownKey⟩
    | _ => some ⟨[keyText k], .keyNotText⟩

def ruleFrom : Value → Checked TransformRule
  | .dict entries =>
    let source := required entries "source_type_name" filledText
    let field := required entries "target_field_name" fieldName
    let target := required entries "target_field_type" filledText
    let capability := given entries "required_capability" none (optional modulePath)
    match source, field, target, capability, strayEntries entries with
    | .ok s, .ok f, .ok t, .ok c, [] => .ok ⟨s, f, t, c⟩
    | s, f, t, c, stray => .error (problemsOf s ++ problemsOf f ++ problemsOf t ++ problemsOf c ++ stray)
  | _ => refuse .notRule

def fromEntries (entries : List (Value × Value)) : Checked Settings :=
  let standard : Settings := { inputFiles := [] }
  let inputFiles := required entries "input_files" files
  let variant := given entries "template_variant" standard.variant variantOf
  let inputSuffix := given entries "input_suffix" standard.inputSuffix name
  let domainSuffix := given entries "domain_suffix" standard.domainSuffix name
  let outputSuffix := given entries "output_suffix" standard.outputSuffix suffix
  let passwordField := given entries "password_field_name" standard.passwordField name
  let passwordDomain := given entries "password_domain_name" none (optional name)
  let sourceModule := given entries "source_module" none (optional text)
  let formatOutput := given entries "format_output" standard.formatOutput flag
  let lineLength := given entries "line_length" standard.lineLength lineLengthOf
  let overwriteUnmarked := given entries "overwrite_unmarked" standard.overwriteUnmarked flag
  let rules := given entries "transform_rules" [] (items ruleFrom)
  match inputFiles, variant, inputSuffix, domainSuffix, outputSuffix, passwordField, passwordDomain, sourceModule,
    formatOutput, lineLength, overwriteUnmarked, rules with
  | .ok inputFiles, .ok variant, .ok inputSuffix, .ok domainSuffix, .ok outputSuffix, .ok passwordField,
    .ok passwordDomain, .ok sourceModule, .ok formatOutput, .ok lineLength, .ok overwriteUnmarked, .ok rules =>
    .ok { inputFiles, variant, inputSuffix, domainSuffix, outputSuffix, passwordField, passwordDomain, sourceModule,
          formatOutput, lineLength, overwriteUnmarked, rules }
  | _, _, _, _, _, _, _, _, _, _, _, _ =>
    .error (problemsOf inputFiles ++ problemsOf variant ++ problemsOf inputSuffix ++ problemsOf domainSuffix ++
      problemsOf outputSuffix ++ problemsOf passwordField ++ problemsOf passwordDomain ++ problemsOf sourceModule ++
      problemsOf formatOutput ++ problemsOf lineLength ++ problemsOf overwriteUnmarked ++ problemsOf rules)

def ofValue : Value → Checked Settings
  | .dict entries => fromEntries entries
  | _ => refuse .notSettings

/-- The failure that problems amount to; they must be encodable to be told. -/
def refusal (file : Option String) (problems : List Problem) : Failure :=
  match problems.findSome? Problem.unencodable? with
  | some fault => .unencodable fault
  | none => .invalidSettings (problems.map Problem.text) file

/-- The settings in a raw value that comes from the named file, if it comes from one. -/
def parse (v : Value) (file : Option String := none) : Except Failure Settings :=
  (ofValue v).mapError (refusal file)

def conventions (s : Settings) : Conventions where
  inputSuffix := s.inputSuffix
  domainSuffix := s.domainSuffix
  passwordField := s.passwordField
  passwordDomain := s.passwordDomain

def registry (s : Settings) : Except Failure Registry :=
  if s.rules.isEmpty then .ok .standard else Registry.standard.merge s.rules

end Settings

end Vetted
