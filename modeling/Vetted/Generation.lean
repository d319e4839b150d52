import Vetted.Domain
import Vetted.FileSystem.ImportName
import Vetted.Generated.Installation
import Vetted.Logged
import Vetted.Settings.Basic

namespace Vetted.Generation

structure Rendered where
  input : Path
  output : Path
  records : List Domain.Record
  content : String
deriving Repr, Inhabited

def debugEntry (message : String) : Log.Entry := ⟨Log.debug, message⟩

def registry (s : Settings) : Logged Registry := do
  let registry ← .of s.registry
  let added ← .of (Registry.ofRules s.rules)
  .noteAll ((Registry.standard.overridden added).map fun name =>
    ⟨Log.info, "Transform rule for '" ++ name ++ "' overridden by configuration"⟩)
  .note (debugEntry ("Transform registry: " ++ registry.text))
  return registry

def statements (fs : FileSystem) (p : Path) : Except Failure (List Source.Stmt) :=
  match fs.readText p with
  | .ok text => Declaration.statementsOf p.text text
  | .error (.fileFault fault) =>
    .error (if fault.kind.isReported then .unreadableSource p.text fault else .fileFault fault)
  | .error failure => .error failure

def importName (fs : FileSystem) (s : Settings) (p : Path) : Except Failure String :=
  match s.sourceModule with
  | some name => .ok name
  | none => fs.importName p

def declarations (fs : FileSystem) (s : Settings) (p : Path) : Logged Declaration.Module := do
  .note (Log.progress ("Processing declarations in " ++ p.text))
  let body ← .of (statements fs p)
  .noteAll ((Declaration.notes s.inputSuffix body).map debugEntry)
  let module ← .of (Declaration.moduleOf body "" p.text (some p) s.inputSuffix)
  let name ← .of (importName fs s p)
  .note ⟨Log.info, "Parsed " ++ toString module.records.length ++ " input class(es) from " ++ p.text⟩
  if module.records.isEmpty then
    .note ⟨Log.warning, "No classes ending in '" ++ s.inputSuffix ++ "' found in " ++ p.text⟩
  return { module with name }

def laidOut (s : Settings) (output : Path) (code : String) : Logged String :=
  if !s.formatOutput then return code
  else
    match Generated.formatted output s.lineLength code with
    | .ok text => do
      .note (debugEntry ("Formatted code using Black: " ++ output.text))
      return text
    | .error failure => do
      .note ⟨Log.error, (failure.report?.map Report.message).getD ""⟩
      .fail failure

def render (fs : FileSystem) (s : Settings) (g : Registry) (p : Path) : Logged Rendered := do
  let module ← declarations fs s p
  .noteAll ((module.records.flatMap (Domain.notes g s.conventions)).map debugEntry)
  let records := module.records.map (Domain.resolve g s.conventions)
  let code ← .of (Generated.emitModule module records s.variant)
  .note (debugEntry ("Rendering module for " ++ module.name ++ " with " ++ toString records.length ++ " record(s)"))
  let output ← .of ((Generated.outputPath p s.outputSuffix).mapError .badPath)
  let content ← laidOut s output code
  return { input := p, output, records, content }

def inputs (s : Settings) : List Path := (s.inputFiles.map Path.ofText).mergeSort Path.atMost

/-- The files that a run may read for one declaration file: the file itself, its module, and the marks of packages. -/
def readsFor (fs : FileSystem) (s : Settings) (p : Path) : List Path :=
  let marks := (FileSystem.placesTo (fs.absolute p).parent.parts).map fun place =>
    Path.mk "/" (place ++ ["__init__.py"])
  match Generated.outputPath p s.outputSuffix with
  | .ok output => p :: output :: marks
  | .error _ => p :: marks

def reads (fs : FileSystem) (s : Settings) : List Path := (inputs s).flatMap (readsFor fs s)

def renderAll (fs : FileSystem) (s : Settings) (g : Registry) : Logged (List Rendered) :=
  (inputs s).mapM (render fs s g)

/-- What a run leaves behind: the files, the log, and the result. -/
structure Outcome (α : Type) where
  files : FileSystem
  outcome : Logged α

/-- Installs modules one after another until one cannot be installed. What the system does may be another with each of
them. -/
def writeAll (sys : Nat → Generated.System) (overwrite : Bool) (fs : FileSystem) : List Rendered → Outcome Unit
  | [] => ⟨fs, pure ()⟩
  | r :: rest =>
    match Generated.install (sys 0) fs r.output r.content overwrite with
    | ⟨left, some failure⟩ => ⟨left, .fail failure⟩
    | ⟨written, none⟩ =>
      let after := writeAll (fun n => sys (n + 1)) overwrite written rest
      ⟨after.files, do
        .note (debugEntry ("Generated file: " ++ r.output.text))
        .note (Log.success
          ("Generated " ++ r.output.text ++ " (" ++ toString r.records.length ++ " record(s))"))
        after.outcome⟩

def generate (sys : Nat → Generated.System) (fs : FileSystem) (s : Settings) (g : Registry) : Outcome (List Rendered) :=
  let rendered := renderAll fs s g
  match rendered.result with
  | .error _ => ⟨fs, rendered⟩
  | .ok modules =>
    let after := writeAll sys s.overwriteUnmarked fs modules
    ⟨after.files, do
      let modules ← rendered
      after.outcome
      return modules⟩

def isStale (fs : FileSystem) (r : Rendered) : Except Failure Bool := do
  if ← (fs.isFile r.output).mapError .fileFault then (fs.readText r.output).map (· ≠ r.content) else return true

def staleOne (fs : FileSystem) (r : Rendered) : Logged (Option Path) := do
  if ← .of (isStale fs r) then
    .note ⟨Log.warning, "Out of date: " ++ r.output.text⟩
    return some r.output
  else
    .note (debugEntry ("Up to date: " ++ r.output.text))
    return none

def check (fs : FileSystem) (s : Settings) (g : Registry) : Logged (List Path) := do
  let modules ← renderAll fs s g
  let stale ← modules.mapM (staleOne fs)
  return stale.filterMap id

end Vetted.Generation
