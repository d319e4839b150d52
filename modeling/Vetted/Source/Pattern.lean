import Vetted.Source.Tree

namespace Vetted.Source

inductive Pattern where
  | word (text : String)
  | soft (text : String)
  | token (kind : TokenKind)
  | rule (kind : Kind)
  | seq (parts : List Pattern)
  | alt (choices : List Pattern)
  | opt (part : Pattern)
  | many (part : Pattern)
  | ahead (part : Pattern)
  | notAhead (part : Pattern)
deriving Repr, Inhabited

namespace Pattern

def some1 (p : Pattern) : Pattern := .seq [p, .many p]

def commas (p : Pattern) : Pattern := .seq [p, .many (.seq [.word ",", p]), .opt (.word ",")]

def chain (operand : Pattern) (operator : Pattern) : Pattern := .seq [operand, .many (.seq [operator, operand])]

def words (ws : List String) : Pattern := .alt (ws.map .word)

end Pattern

structure Progress where
  reach : Nat := 0
  starts : List Nat := []
deriving Repr, Inhabited

namespace Progress

def look (p : Progress) (place : Nat) : Progress := if p.reach < place then { p with reach := place } else p

def begin (p : Progress) (place : Nat) : Progress := { p with starts := place :: p.starts }

end Progress

inductive Outcome where
  | hit (place : Nat) (trees : List Tree) (progress : Progress)
  | miss (progress : Progress)
  | refused (line : Nat) (progress : Progress)
deriving Repr, Inhabited

/-- A fault in a finished construct. An `urgent` one ends the reading at once; any other rules the construct out as
long as the tokens may still be read in another way. -/
structure Fault where
  line : Nat
  urgent : Bool := false
deriving Repr, DecidableEq, Inhabited

/-- A grammar: a pattern for each kind of construct, and a check of each finished construct. The check also sees the
line of the token after the construct. With `strict` every fault ends the reading. -/
structure Grammar where
  rules : Kind → Pattern
  check : (nextLine : Nat) → Kind → List Tree → Option Fault
  strict : Bool := false

def fits (p : Token → Bool) (tokens : Array Token) (place : Nat) (acc : List Tree) (pr : Progress) : Outcome :=
  let pr := pr.look place
  match tokens[place]? with
  | none => .miss pr
  | some t => if p t then .hit (place + 1) (.leaf t :: acc) pr else .miss pr

def matchAt (g : Grammar) (tokens : Array Token) :
    (fuel : Nat) → Pattern → Nat → List Tree → Progress → Outcome
  | 0, _, _, _, pr => .miss pr
  | fuel + 1, p, place, acc, pr =>
    match p with
    | .word w => fits (fun t => t.text = w && (t.kind = .operator || t.kind = .keyword)) tokens place acc pr
    | .soft w => fits (fun t => t.text = w && t.kind = .name) tokens place acc pr
    | .token k => fits (fun t => t.kind = k) tokens place acc pr
    | .rule k =>
      let pr := if k = .conditional then pr.begin place else pr
      match matchAt g tokens fuel (g.rules k) place [] pr with
      | .hit place' trees pr' =>
        let parts := trees.reverse
        let next := ((tokens[place']?).map Token.line).getD 0
        match g.check next k parts with
        | some f => if f.urgent || g.strict then .refused f.line pr' else .miss pr'
        | none => .hit place' (Tree.build k parts :: acc) pr'
      | other => other
    | .seq [] => .hit place acc pr
    | .seq [q] => matchAt g tokens fuel q place acc pr
    | .seq (q :: qs) =>
      match matchAt g tokens fuel q place acc pr with
      | .hit place' acc' pr' => matchAt g tokens fuel (.seq qs) place' acc' pr'
      | other => other
    | .alt [] => .miss pr
    | .alt [q] => matchAt g tokens fuel q place acc pr
    | .alt (q :: qs) =>
      match matchAt g tokens fuel q place acc pr with
      | .miss pr' => matchAt g tokens fuel (.alt qs) place acc pr'
      | other => other
    | .opt q =>
      match matchAt g tokens fuel q place acc pr with
      | .miss pr' => .hit place acc pr'
      | other => other
    | .many q =>
      match matchAt g tokens fuel q place acc pr with
      | .hit place' acc' pr' =>
        if place' ≤ place then .hit place' acc' pr' else matchAt g tokens fuel (.many q) place' acc' pr'
      | .miss pr' => .hit place acc pr'
      | .refused line pr' => .refused line pr'
    | .ahead q =>
      match matchAt g tokens fuel q place acc pr with
      | .hit _ _ pr' => .hit place acc pr'
      | other => other
    | .notAhead q =>
      match matchAt g tokens fuel q place acc pr with
      | .hit _ _ pr' => .miss pr'
      | .miss pr' => .hit place acc pr'
      | .refused line pr' => .refused line pr'

def stepsFor (tokens : Array Token) : Nat := 200 * (tokens.size + 200)

end Vetted.Source
