import Vetted.Command.Line
import Vetted.Command.Usage
import Vetted.Generation
import Vetted.Settings.Loading

namespace Vetted.Command

open Generated (System)
open Generation (Outcome)

/-- What a run writes, and the code with which it ends. -/
structure Finish where
  exit : Nat
  stdout : String := ""
  stderr : String := ""
deriving Repr, DecidableEq, Inhabited

def Request.given (r : Request) : List (String × Value) :=
  [("input_files", .list (r.files.map .text)), ("template_variant", optional r.variant),
    ("output_suffix", optional r.outputSuffix), ("format_output", if r.noFormat then .bool false else .none)]
where
  optional : Option String → Value
    | some s => .text s
    | none => .none

def prepare (fs : FileSystem) (r : Request) : Logged (Settings × Registry) := do
  .note (Log.progress "Loading configuration...")
  let settings ← Settings.load fs r.config r.given
  let registry ← Generation.registry settings
  .note (Log.highlight
    ("Found " ++ toString settings.inputFiles.length ++ " declaration file(s), " ++ toString registry.size ++
      " transform rule(s)"))
  return (settings, registry)

def checkRun (fs : FileSystem) (s : Settings) (g : Registry) : Logged Finish := do
  .noteAll (Log.heading "Checking generated files")
  let stale ← Generation.check fs s g
  if stale.isEmpty then
    .note (Log.success "All generated files are up to date.")
    return { exit := 0 }
  else
    .note ⟨Log.error, toString stale.length ++ " generated file(s) are out of date. Re-run validgen."⟩
    return { exit := 1 }

def printRun (fs : FileSystem) (s : Settings) (g : Registry) : Logged Finish := do
  let modules ← Generation.renderAll fs s g
  match modules.findSome? fun m => Text.halfFault? Text.isHalf m.content with
  | some fault => .fail (.unencodable fault)
  | none => return { exit := 0, stdout := String.join (modules.map (·.content)) }

def writeRun (sys : Nat → System) (fs : FileSystem) (s : Settings) (g : Registry) : Outcome Finish :=
  let run := Generation.generate sys fs s g
  ⟨run.files, do
    .noteAll (Log.heading "Code generation")
    let modules ← run.outcome
    .note (Log.success
      ("Generation completed successfully: " ++ toString modules.length ++ " file(s) written."))
    return { exit := 0 }⟩

def perform (sys : Nat → System) (fs : FileSystem) (r : Request) : Outcome Finish :=
  let prepared := prepare fs r
  match prepared.result with
  | .error failure => ⟨fs, ⟨prepared.log, .error failure⟩⟩
  | .ok (s, g) =>
    let run : Outcome Finish :=
      if r.check then ⟨fs, checkRun fs s g⟩
      else if r.stdout then ⟨fs, printRun fs s g⟩
      else writeRun sys fs s g
    ⟨run.files, ⟨prepared.log ++ run.outcome.log, run.outcome.result⟩⟩

def verboseNote (r : Request) : List Log.Entry :=
  if r.verbose then [⟨Log.debug, "Verbose mode enabled. DEBUG level logging activated."⟩] else []

/-- How a run ends whose log is shown on a console. A failure that has a report is logged; any other is passed on. -/
def finish (console : Log.Console) (log : List Log.Entry) (result : Except Failure Finish) : Except Failure Finish :=
  match result with
  | .ok f => .ok { f with stderr := console.writeAll log }
  | .error failure =>
    match failure.report? with
    | some report => .ok { exit := 1, stderr := console.writeAll (log ++ [⟨Log.error, report.text⟩]) }
    | none => .error failure

def run (sys : Nat → System) (fs : FileSystem) (args : List String) (colored : Bool := false) :
    FileSystem × Except Failure Finish :=
  match parse args with
  | .error .help => (fs, .ok { exit := 0, stdout := help })
  | .error (.usage fault) =>
    (fs, .ok { exit := 2, stderr := usage ++ programName ++ ": error: " ++ fault.message ++ "\n" })
  | .error .separatorValue => (fs, .error .separatorValue)
  | .ok r =>
    let console : Log.Console :=
      { level := if r.verbose then Log.debug else Log.info, colored := colored && !r.noColor }
    let done := perform sys fs r
    (done.files, finish console (verboseNote r ++ done.outcome.log) done.outcome.result)

end Vetted.Command
