import Vetted.Conversion
import Vetted.Generated.Emission
import Vetted.Source.Binding

namespace Vetted.Generated

open Domain (Record)
open Source (Exports Origin)

structure Routine where
  record : Record
  fields : List Field
deriving Repr, DecidableEq, Inhabited

namespace Routine

def name (r : Routine) : String := Naming.conversionName r.record.name

def make (variant : Variant) (shared : List String) (record : Record) : Except Failure Routine := do
  return ⟨record, ← fieldsOf record variant shared⟩

def text (r : Routine) : String := recordText r.record r.fields []

end Routine

structure Program where
  imports : List String
  wrappers : List Wrapper
  routines : List Routine
deriving Repr, DecidableEq, Inhabited

inductive Global where
  | imported (o : Origin)
  | wrapper (w : Wrapper)
  | record (r : Record)
  | routine (r : Routine)
deriving Repr, DecidableEq, Inhabited

/-- What generated code takes from elsewhere: the mark of record classes, and the library of conversions. -/
inductive Library where
  | recordMark
  | validate
  | transform
  | converter (c : Converter)
  | invalid
  | failed
deriving Repr, DecidableEq, Inhabited

def Library.ofPath? : List String → Option Library
  | ["dataclasses", "dataclass"] => some .recordMark
  | ["validgen", "runtime", "validate_struct"] => some .validate
  | ["validgen", "runtime", "transform_field"] => some .transform
  | ["validgen", "runtime", "to_text"] => some (.converter .text)
  | ["validgen", "runtime", "StructValidationError"] => some .invalid
  | ["validgen", "runtime", "ConversionError"] => some .failed
  | ["validgen", "runtime", "fieldtypes", "DateOfBirthString", "to_validated"] => some (.converter .dateOfBirth)
  | ["validgen", "runtime", "fieldtypes", "PlainPassword", "to_validated"] => some (.converter .password)
  | _ => none

/-- Why a call gives no record. A name is foreign if it does not stand for what the generated code takes it for; what
happens then is not known. -/
inductive CallFault where
  | foreign (name : String)
  | conversion (f : ConversionFault)
deriving Repr, Inhabited

namespace Program

def definitions (p : Program) : List (String × Global) :=
  p.wrappers.map (fun w => (w.name, .wrapper w)) ++
    p.routines.flatMap fun r => [(r.record.name, .record r.record), (r.name, .routine r)]

def definedNames (p : Program) : List String := p.definitions.map Prod.fst

def lookup (exports : Exports) (p : Program) (name : String) : Option Global :=
  (p.definitions.reverse.lookup name).or ((Source.originAfter exports p.imports name).map .imported)

def library? (exports : Exports) (p : Program) (expr : String) : Option Library :=
  match Source.dotted expr with
  | root :: rest =>
    match p.lookup exports root with
    | some (.imported ⟨0, path⟩) => Library.ofPath? (path ++ rest)
    | _ => none
  | [] => none

def relyOn (exports : Exports) (p : Program) (name : String) (l : Library) : Except CallFault Unit :=
  if p.library? exports name = some l then .ok () else .error (.foreign name)

def converter (exports : Exports) (p : Program) (expr : String) : Except CallFault Converter :=
  match p.library? exports expr with
  | some (.converter c) => .ok c
  | _ => .error (.foreign expr)

/-- The value of an expression on an input of the given type. A wrapper gives back what it is applied to. -/
def eval (exports : Exports) (p : Program) (c : Circumstances) (inputType : String) (values : List (String × Value)) :
    ValueExpr → Except CallFault Value
  | .copy source => .ok (Conversion.valueOf values source)
  | .transform source expr => do
    p.relyOn exports "transform_field" .transform
    let k ← p.converter exports expr
    (transformField k.typeName source (k.run c) (Conversion.valueOf values source)).mapError fun f =>
      .conversion (f.conversion inputType)
  | .wrap name inner =>
    match p.lookup exports name with
    | some (.wrapper _) => p.eval exports c inputType values inner
    | _ => .error (.foreign name)

def fill (exports : Exports) (p : Program) (c : Circumstances) (inputType : String) (values : List (String × Value))
    (f : Field) : Except CallFault (String × Value) := do
  return (f.name, ← p.eval exports c inputType values f.value)

def run (exports : Exports) (p : Program) (c : Circumstances) (input : InputClass) (values : List (String × Value))
    (r : Routine) : Except CallFault (List (String × Value)) := do
  p.relyOn exports "dataclass" .recordMark
  p.relyOn exports "validate_struct" .validate
  p.relyOn exports "StructValidationError" .invalid
  p.relyOn exports "ConversionError" .failed
  (Conversion.validated r.record.inputName input values).mapError .conversion
  if p.lookup exports r.record.name = some (.record r.record) then
    r.fields.mapM (p.fill exports c r.record.inputName values)
  else .error (.foreign r.record.name)

def call (exports : Exports) (p : Program) (c : Circumstances) (input : InputClass) (values : List (String × Value))
    (name : String) : Except CallFault (String × List (String × Value)) :=
  match p.lookup exports name with
  | some (.routine r) => do return (r.record.name, ← p.run exports c input values r)
  | _ => .error (.foreign name)

def text (module : Declaration.Module) (p : Program) : String :=
  moduleText module p.imports p.wrappers (p.routines.map Routine.text)

end Program

def program (module : Declaration.Module) (records : List Record) (variant : Variant := .direct) :
    Except Failure Program := do
  let shared := scopedNames records
  let routines ← records.mapM (Routine.make variant shared)
  let wrappers ← wrappersOf records variant shared
  return ⟨importsOf module records variant, wrappers, routines⟩

end Vetted.Generated
