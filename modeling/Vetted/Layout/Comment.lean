import Vetted.Text.Basic
import Vetted.Source.Token

namespace Vetted.Layout

open Text

structure Blanks where
  count : Nat := 0
  formFeed : Bool := false
deriving Repr, DecidableEq, Inhabited

structure Remark where
  text : String
  trailing : Bool
  blanks : Blanks
  indent : List Char := []
  reach : Nat := 0
deriving Repr, Inhabited

def normalTypeNote (content : List Char) : List Char :=
  let mark := "type:".toList
  let trimmed := trimLeft content
  if mark.isPrefixOf trimmed && !content.contains '\u00a0' then
    match trimLeft (trimmed.drop mark.length) with
    | [] => ' ' :: mark
    | value => ' ' :: mark ++ ' ' :: value
  else content

def normalComment (cs : List Char) : String :=
  let content := (trimRight cs).drop 1
  let content :=
    match content with
    | c :: rest => if c = '\u00a0' && !(("type:".toList).isPrefixOf (trimLeft content)) then ' ' :: rest else content
    | [] => []
  let content := normalTypeNote content
  match content with
  | [] => "#"
  | c :: _ => "#" ++ String.ofList (if [' ', '!', ':', '#', '\''].contains c then content else ' ' :: content)

def remarksIn (atEnd : Bool) (place joined passed : Nat) (blanks : Blanks) : List (List Char) → List Remark
  | [] => []
  | line :: rest =>
    let passed := passed + line.length + 1
    match trimLeft line with
    | [] => remarksIn atEnd (place + 1) joined passed ⟨blanks.count + 1, blanks.formFeed || line.contains '\x0c'⟩ rest
    | '#' :: cs =>
      { text := normalComment ('#' :: cs), trailing := place = joined && !atEnd, blanks,
        indent := line.takeWhile isBlank, reach := passed } :: remarksIn atEnd (place + 1) joined passed {} rest
    | cs =>
      let joined := if (trimRight cs).getLast? = some '\\' then joined + 1 else joined
      remarksIn atEnd (place + 1) joined passed blanks rest

def remarksBefore (atEnd : Bool) (before : String) : List Remark × Blanks :=
  let cs := before.toList
  let remarks := remarksIn atEnd 0 0 0 {} (pieces '\n' cs)
  let last := (pieces '#' cs).getLastD []
  let blanks : Blanks :=
    if (cs.takeWhile (· ≠ '#')).contains '\\' then {}
    else
      ⟨last.count '\n' - (if cs.contains '#' then 1 else 0), last.contains '\x0c' && last.getLast? = some '\n'⟩
  (remarks, blanks)

/-- Splits the text before the end of a block: lines up to the first comment that is indented less than the block belong
to the block. `taken` are whole lines that belong to it and `run` is what has been read since, both latest first. -/
def splitAtIndent (column : Nat) (taken run : List Char) (width : Nat) (started : Bool) :
    List Char → List Char × List Char
  | [] => (taken.reverse, run.reverse)
  | c :: cs =>
    let run' := c :: run
    if started then
      if c = '\n' then
        if width < column then (taken.reverse, run'.reverse ++ cs)
        else splitAtIndent column (run' ++ taken) [] 0 false cs
      else splitAtIndent column taken run' width true cs
    else if c = ' ' || c = '\t' then splitAtIndent column taken run' (width + 1) false cs
    else if c = '\n' || c = '\x0c' then splitAtIndent column taken run' 0 false cs
    else splitAtIndent column taken run' width true cs

open Source (Token)

def placeRemarks (ends : List Token) : List Token → List Token
  | [] => ends.reverse
  | t :: ts =>
    if t.kind = .dedent then placeRemarks (t :: ends) ts
    else
      let (placed, rest) := ends.reverse.foldl
        (fun (acc : List Token × List Char) e =>
          let (own, rest) := splitAtIndent e.column [] [] 0 false acc.2
          ({ e with before := String.ofList own } :: acc.1, rest))
        ([], t.before.toList)
      placed.reverse ++ { t with before := if ends.isEmpty then t.before else String.ofList rest } :: placeRemarks [] ts

end Vetted.Layout
