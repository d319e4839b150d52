import Vetted.Layout.Breaking
import Vetted.Layout.Draft
import Vetted.Layout.Margin
import Vetted.Layout.Scan
import Vetted.Layout.Untouched
import Vetted.Layout.Version

namespace Vetted.Layout

open Source (Token TokenKind Kind Tree matchAt stepsFor)

def looseGrammar : Source.Grammar := { rules := Source.rules true, check := fun _ _ _ => none }

def isReadableField (field : List Char) : Bool :=
  match fieldExpression? field with
  | none => field.contains '\\' || field.contains '#'
  | some (source, _) =>
    match scanCode ('(' :: source ++ [')']) with
    | none => false
    | some tokens =>
      match matchAt looseGrammar tokens.toArray (stepsFor tokens.toArray) Source.loneExpression 0 [] {} with
      | .hit _ _ _ => !source.all Source.isFieldBlank
      | _ => false

def partOf? (text : List Char) : Option Part := do
  let tokens ← scanCode text
  if tokens.all fun t => t.kind ≠ .string || (fieldTexts t.text).all isReadableField then
    let tokens := (placeRemarks [] tokens).toArray
    match matchAt looseGrammar tokens (stepsFor tokens) (.rule .file) 0 [] {} with
    | .hit _ (t :: _) _ =>
      match Part.ofTree t with
      | .word w => some (.group .file [.word w])
      | part => some part
    | _ => none
  else none

def styleFor (lineLength version : Nat) : Style where
  lineLength := lineLength
  callCommas := 5 ≤ version
  parameterCommas := 6 ≤ version

def admittedFrom (version : Nat) : Admitted := ⟨9 ≤ version, 14 ≤ version⟩

def lineEndOf (text : List Char) : List Char :=
  let first := text.takeWhile (· ≠ '\n')
  if first.length = text.length then (if first.contains '\r' then ['\r'] else ['\n'])
  else
    match first.reverse with
    | '\r' :: front => if front.contains '\r' then ['\r'] else ['\r', '\n']
    | front => if front.contains '\r' then ['\r'] else ['\n']

def withLineEnd (lineEnd : List Char) (text : String) : String :=
  if lineEnd = ['\n'] then text
  else String.ofList (text.toList.flatMap fun c => if c = '\n' then lineEnd else [c])

def formatOnce (lineLength : Nat) (text : String) : Option String := do
  let cs := match text.toList with
    | '\ufeff' :: rest => rest
    | cs => cs
  let lineEnd := lineEndOf cs
  let cs := Text.unifyLineEnds cs
  let part ← partOf? (Text.trimLeft cs)
  let version := sourceVersion part
  let style := styleFor lineLength version
  let part := untouch (part.words.length + 1) part
  let lines := draftLines lineLength (settle (admittedFrom version) 1000 none part)
  let blocks := withMargins lines
  if blocks.isEmpty then some (if cs.contains '\n' then String.ofList lineEnd else "")
  else
    some <| withLineEnd lineEnd <| String.join <| blocks.map fun b =>
      b.margin ++ String.join ((brokenTexts style b.line).map (· ++ "\n")) ++ Text.repeated b.after '\n'

/-- Lays out a source; `none` if it does not parse. A second pass follows where the first changed something, since
commas that it added ask for one item a line. -/
def format (lineLength : Nat) (text : String) : Option String := do
  let once ← formatOnce lineLength text
  if once = text then some once else formatOnce lineLength once

end Vetted.Layout
