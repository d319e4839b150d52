import Vetted.Source.Reading

namespace Vetted.Source

open Pattern (commas)

def endOf (tokens : Array Token) (p : Pattern) (place : Nat) : Option Nat :=
  match matchAt plainGrammar tokens (stepsFor tokens) p place [] {} with
  | .hit stop _ _ => some stop
  | _ => none

def wordAt (tokens : Array Token) (place : Nat) (w : String) : Bool :=
  (tokens[place]?).any fun t => t.text = w && (t.kind = .operator || t.kind = .keyword)

def lineAt (tokens : Array Token) (place : Nat) : Nat := ((tokens[place]?).map Token.line).getD 0

def missingCommaLine (tokens : Array Token) (progress : Progress) : Option Nat :=
  let k := progress.reach
  let starts := (progress.starts.filter (· < k)).mergeSort (fun a b => b ≤ a)
  match starts.find? fun s => endOf tokens (.rule .disjunction) s = some k, endOf tokens (.rule .conditional) k with
  | some s, some stop =>
    match tokens[s]?, tokens[stop - 1]? with
    | some first, some last =>
      let nextIsString := (tokens[s + 1]?).any (·.kind = .string)
      let excluded := first.kind = .name &&
        (nextIsString || ["match", "case", "_"].contains first.text ||
          (k = s + 1 && ["print", "exec"].contains first.text))
      if last.depth = 0 || excluded then none else some first.line
    | _, _ => none
  | _, _ => none

def halfChoiceLine (tokens : Array Token) (progress : Progress) : Option Nat :=
  let k := progress.reach
  let starts := (progress.starts.filter (· < k)).mergeSort (fun a b => b ≤ a)
  let half := starts.find? fun s =>
    match endOf tokens (.rule .disjunction) s with
    | some j =>
      wordAt tokens j "if" &&
        (match endOf tokens (.rule .disjunction) (j + 1) with
        | some m => !(wordAt tokens m "else" || wordAt tokens m ":")
        | none => false)
    | none => false
  half.map (lineAt tokens)

def openBefore (tokens : Array Token) (place : Nat) : Option (Nat × String) :=
  let step (acc : List (Nat × String)) (k : Nat) : List (Nat × String) :=
    match tokens[k]? with
    | some t =>
      if t.kind ≠ .operator then acc
      else if ["(", "[", "\x7b"].contains t.text then (k, t.text) :: acc
      else if [")", "]", "\x7d"].contains t.text then acc.drop 1
      else acc
    | none => acc
  ((List.range place).foldl step []).head?

def crowdedComprehensionLine (tokens : Array Token) (progress : Progress) : Option Nat :=
  let k := progress.reach
  match openBefore tokens k with
  | some (o, mark) =>
    if mark ≠ "(" && endOf tokens (.seq [commas namedOrStarred, .rule .forClause]) (o + 1) ≠ none then
      some (lineAt tokens (o + 1))
    else none
  | none => none

def missingValueLine (tokens : Array Token) (progress : Progress) : Option Nat :=
  let k := progress.reach
  if (wordAt tokens k "\x7d" || wordAt tokens k ",") && wordAt tokens (k - 1) ":" &&
      (openBefore tokens k).any (·.2 = "\x7b") then some (lineAt tokens (k - 1))
  else none

def stuckLine (tokens : Array Token) (progress : Progress) : Nat :=
  let reasons := [missingCommaLine, halfChoiceLine, crowdedComprehensionLine, missingValueLine]
  (reasons.findSome? fun reason => reason tokens progress).getD (lineAt tokens progress.reach)

def LexFault.reportLine (f : LexFault) : Nat :=
  match f.kind with
  | .ended => f.openLine.getD f.line
  | _ => f.line

/-- A firm fault further on is reported instead of one in the tokens before it, and so is a bracket that was opened on
an earlier line and never closed. -/
def overrideLine (fault : Option LexFault) (lookedAt line : Nat) : Nat :=
  match fault with
  | none => line
  | some f =>
    if f.kind = .firm then f.line
    else
      match f.openLine with
      | some b => if b < lookedAt then b else line
      | none => line

/-- The tree of a text, or the line of the first fault. Faults that only rule a construct out are reported once no
reading is left. -/
def readTree (g : Grammar) (start : Pattern) (text : String) : Except Nat Tree :=
  let s := scan text
  let tokens := s.tokens.toArray
  let attempt (g : Grammar) : Outcome := matchAt g tokens (stepsFor tokens) start 0 [] {}
  match attempt g with
  | .hit _ trees _ =>
    match trees.getLast? with
    | some t => .ok t
    | none => .error 0
  | .refused line pr => .error (overrideLine s.fault (lineAt tokens pr.reach) line)
  | .miss pr =>
    let looked := lineAt tokens pr.reach
    if pr.reach < tokens.size then
      match attempt { g with strict := true } with
      | .refused line _ => .error (overrideLine s.fault looked line)
      | _ => .error (overrideLine s.fault looked (stuckLine tokens pr))
    else .error ((s.fault.map LexFault.reportLine).getD 0)

end Vetted.Source
