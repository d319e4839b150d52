import Vetted.FileSystem.Text
import Vetted.Logged
import Vetted.Settings.Basic
import Vetted.Yaml.Value

namespace Vetted.Settings

abbrev Entries := List (Value × Value)

def keys : List String :=
  ["input_files", "template_variant", "input_suffix", "domain_suffix", "output_suffix", "password_field_name",
    "password_domain_name", "source_module", "format_output", "line_length", "overwrite_unmarked", "transform_rules"]

def absolute (fs : FileSystem) (directory : Path) : Value → Except FileFault Value
  | .text s => do return .text (← fs.resolve (directory.join (Path.ofText s))).text
  | v => .ok v

def absoluteInputs (fs : FileSystem) (directory : Path) : Value → Except FileFault Value
  | .list items => do return .list (← items.mapM (absolute fs directory))
  | v => .ok v

def entriesOf (fs : FileSystem) (file : Path) (entries : Entries) : Except FileFault Entries :=
  entries.mapM fun (k, v) =>
    match k with
    | .text "input_files" => do return (k, ← absoluteInputs fs file.parent v)
    | _ => .ok (k, v)

/-- Why a settings file gives no value. A character that no YAML text may hold counts as its form. -/
def fileFailure (file : String) (supply : Yaml.Supply) : Yaml.Fault → Failure
  | .malformed => .unreadableYaml file
  | .unread =>
    match supply.obstacle? with
    | some (.undecodable fault) => .undecodable fault
    | _ => .unreadableYaml file
  | fault => .badScalar fault

def readFile (fs : FileSystem) (file : String) : Logged Entries := do
  let path := Path.ofText file
  let present ← .of ((fs.isFile path).mapError .fileFault)
  if !present then
    .note ⟨Log.warning, "Config file not found at " ++ file ++ ". Using defaults and CLI arguments."⟩
    return []
  let supply := Yaml.Supply.ofBytes (← .of ((fs.read path).mapError .fileFault))
  match Yaml.read supply with
  | .ok .none => return []
  | .ok (.dict entries) =>
    let entries ← .of ((entriesOf fs path entries).mapError .fileFault)
    .note ⟨Log.debug, "Loaded configuration from " ++ file⟩
    return entries
  | .ok _ => .fail (.settingsNotMapping file)
  | .error fault => .fail (fileFailure file supply fault)

def counts (given : String × Value) : Bool :=
  keys.contains given.1 &&
    match given.2 with
    | .none => false
    | .list [] => false
    | _ => true

/-- Entries with a value that is given besides; input files are then named from the working directory. -/
def override (fs : FileSystem) (entries : Entries) (given : String × Value) : Except FileFault Entries := do
  let value ← if given.1 = "input_files" then absoluteInputs fs ⟨"", []⟩ given.2 else .ok given.2
  return Value.putEntry (.text given.1) value entries

def checked (file : Option String) (entries : Entries) : Logged Settings := do
  .note ⟨Log.info, "Validating final configuration..."⟩
  match ofValue (.dict entries) with
  | .error problems =>
    if problems.all (·.unencodable?.isNone) then .noteAll (problems.map fun p => ⟨Log.error, p.note⟩)
    .fail (refusal file problems)
  | .ok settings =>
    .noteAll [⟨Log.debug, "Configuration dictionary parsed and validated successfully."⟩,
      ⟨Log.info, "Configuration loaded and validated successfully."⟩]
    return settings

def load (fs : FileSystem) (file : Option String) (given : List (String × Value)) : Logged Settings := do
  let entries ← match file.filter (!·.isEmpty) with
    | some file => readFile fs file
    | none => pure []
  let given := given.filter counts
  let entries ← .of ((given.foldlM (override fs) entries).mapError .fileFault)
  if !given.isEmpty then
    let names := Text.sortTexts (Text.distinct (given.map Prod.fst))
    .note ⟨Log.debug,
      "Overridden config keys from CLI arguments: [" ++ Text.commaJoin (names.map (Text.quote ·)) ++ "]"⟩
  checked file entries

end Vetted.Settings
