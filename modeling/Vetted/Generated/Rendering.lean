import Vetted.Domain
import Vetted.Naming

namespace Vetted.Generated

open Domain (Record TransformKind)

/-- How domain fields are typed: with their resolved types, or each with a wrapper type of its own. -/
inductive Variant where
  | direct
  | newtype
deriving Repr, DecidableEq, Inhabited

def Variant.name : Variant → String
  | .direct => "direct"
  | .newtype => "newtype"

def Variant.ofName? : String → Option Variant
  | "direct" => some .direct
  | "newtype" => some .newtype
  | _ => none

structure Wrapper where
  name : String
  base : String
deriving Repr, DecidableEq, Inhabited

def Wrapper.line (w : Wrapper) : String := w.name ++ " = NewType(" ++ Text.quote w.name ++ ", " ++ w.base ++ ")"

/-- What generated code computes for a field from the input `value`. -/
inductive ValueExpr where
  | copy (source : String)
  | transform (source converter : String)
  | wrap (wrapper : String) (inner : ValueExpr)
deriving Repr, DecidableEq, Inhabited

def ValueExpr.text : ValueExpr → String
  | .copy source => "value." ++ source
  | .transform source converter =>
    "transform_field(" ++ Text.quote source ++ ", " ++ converter ++ ", value." ++ source ++ ")"
  | .wrap wrapper inner => wrapper ++ "(" ++ inner.text ++ ")"

structure Field where
  name : String
  typing : String
  value : ValueExpr
  kind : TransformKind
  wrapper : Option Wrapper := none
  comment : String := ""
deriving Repr, DecidableEq, Inhabited

def sourceValue (f : Domain.Field) : ValueExpr :=
  match f.kind, f.rule with
  | .custom, some rule => .transform f.source rule.converter
  | _, _ => if f.coerceText then .transform f.source "to_text" else .copy f.source

def commentOf (f : Domain.Field) : String := if f.needsHashing then "hash before persisting" else ""

def fieldOf (f : Domain.Field) (scope : String) : Variant → Field
  | .direct =>
    { name := f.name, typing := f.typeName, value := sourceValue f, kind := f.kind, comment := commentOf f }
  | .newtype =>
    let wrapper : Wrapper := ⟨Naming.wrapperName f.name scope, f.typeName⟩
    { name := f.name
      typing := wrapper.name
      value := .wrap wrapper.name (sourceValue f)
      kind := if f.kind = .copy then .cast else f.kind
      wrapper := some wrapper
      comment := commentOf f }

def wrapperUses (records : List Record) : List Wrapper :=
  records.flatMap fun r => r.fields.map fun f => ⟨Naming.wrapperName f.name, f.typeName⟩

def scopedNames (records : List Record) : List String :=
  let uses := wrapperUses records
  (Text.distinct (uses.map Wrapper.name)).filter fun name =>
    uses.any fun a => a.name = name && uses.any fun b => b.name = name && a.base ≠ b.base

/-- The scope of a field's wrapper: the input record where its bare name is one of `shared`. -/
def scopeOf (record : Record) (shared : List String) (f : Domain.Field) : String :=
  if shared.contains (Naming.wrapperName f.name) then record.inputName else ""

def printFields (record : Record) (variant : Variant) (shared : List String) (seen : List (String × String)) :
    List Domain.Field → Except Failure (List Field)
  | [] => .ok []
  | f :: rest =>
    match seen.lookup f.name with
    | some first => .error (.fieldClash f.name record.name first f.source)
    | none => do
      let others ← printFields record variant shared ((f.name, f.source) :: seen) rest
      return fieldOf f (scopeOf record shared f) variant :: others

def fieldsOf (record : Record) (variant : Variant) (shared : List String := []) : Except Failure (List Field) :=
  printFields record variant shared [] record.fields

/-- Adds the wrappers of a record's fields to those already declared; one name wraps one type. -/
def addWrappers (record : String) (declared : List Wrapper) : List Wrapper → Except Failure (List Wrapper)
  | [] => .ok declared
  | w :: rest =>
    match declared.find? (·.name = w.name) with
    | none => addWrappers record (declared ++ [w]) rest
    | some d =>
      if d.base = w.base then addWrappers record declared rest
      else .error (.wrapperClash w.name d.base w.base record)

def collectWrappers (variant : Variant) (shared : List String) (declared : List Wrapper) :
    List Record → Except Failure (List Wrapper)
  | [] => .ok declared
  | r :: rest => do
    let fields ← fieldsOf r variant shared
    let declared ← addWrappers r.name declared (fields.filterMap Field.wrapper)
    collectWrappers variant shared declared rest

def wrappersOf (records : List Record) (variant : Variant) (shared : List String := []) :
    Except Failure (List Wrapper) :=
  collectWrappers variant shared [] records

def libraryNames (records : List Record) : List String :=
  ["ConversionError", "StructValidationError"] ++
    (if records.any Record.hasCoercions then ["to_text"] else []) ++
    (if records.any fun r => r.hasTransforms || r.hasCoercions then ["transform_field"] else []) ++
    ["validate_struct"]

def typeImport? (f : Domain.Field) : Option String :=
  if f.kind = .custom && Naming.qualifierRoot f.typeName ≠ "" then some ("import " ++ Naming.qualifierRoot f.typeName)
  else none

def recordImports (r : Record) : List String := r.capabilities.map Naming.importLine ++ r.fields.filterMap typeImport?

def ownImports (module : Declaration.Module) (records : List Record) (variant : Variant) : List String :=
  ["from dataclasses import dataclass", "from validgen.runtime import " ++ Text.commaJoin (libraryNames records)] ++
    (if variant = .newtype then ["from typing import NewType"] else []) ++
    (if records.isEmpty then []
    else ["from " ++ module.name ++ " import " ++ Text.commaJoin (records.map Record.inputName)]) ++
    records.flatMap recordImports

def importsOf (module : Declaration.Module) (records : List Record) (variant : Variant) : List String :=
  Text.sortTexts (Text.distinct (ownImports module records variant ++ module.imports))

end Vetted.Generated
