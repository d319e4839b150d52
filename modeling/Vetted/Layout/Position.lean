import Vetted.Layout.Part

namespace Vetted.Layout

abbrev Position := List Nat

namespace Part

def at? (root : Part) : Position → Option Part
  | [] => some root
  | i :: rest =>
    match root.parts[i]? with
    | some p => p.at? rest
    | none => none

mutual

/-- The tokens in order, each with its position; `way` leads to the part, its last step first. -/
def positioned (way : Position) : Part → List (Position × Word)
  | .word w => [(way.reverse, w)]
  | .group _ ps => positionedFrom way 0 ps

def positionedFrom (way : Position) (i : Nat) : List Part → List (Position × Word)
  | [] => []
  | p :: ps => positioned (i :: way) p ++ positionedFrom way (i + 1) ps

end

def modifyAt (f : Part → Part) : Position → Part → Part
  | [], p => f p
  | i :: rest, .group k ps => .group k (ps.modify i (modifyAt f rest))
  | _ :: _, .word w => .word w

mutual

/-- The tree without the parts at some positions, with `new` where the first of them was. -/
def collapse (gone : List Position) (new : Part) (way : Position) : Part → Part
  | .word w => .word w
  | .group k ps => .group k (collapseFrom gone new way 0 ps)

def collapseFrom (gone : List Position) (new : Part) (way : Position) (i : Nat) : List Part → List Part
  | [] => []
  | p :: ps =>
    let place := (i :: way).reverse
    let rest := collapseFrom gone new way (i + 1) ps
    if gone.head? = some place then new :: rest
    else if gone.contains place then rest
    else collapse gone new (i :: way) p :: rest

end

def insertBefore (new : Part) (place : Position) (root : Part) : Part :=
  match place.getLast? with
  | none => root
  | some i => root.modifyAt (fun p => .group (p.kind?.getD .file) (p.parts.insertIdx i new)) place.dropLast

end Part

namespace Position

def previous? (place : Position) : Option Position :=
  match place.getLast? with
  | some (i + 1) => some (place.dropLast ++ [i])
  | _ => none

def next (place : Position) : Position :=
  match place.getLast? with
  | some i => place.dropLast ++ [i + 1]
  | none => []

def before? : (fuel : Nat) → Position → Option Position
  | 0, _ => none
  | fuel + 1, place =>
    match place.previous? with
    | some q => some q
    | none => if place.isEmpty then none else before? fuel place.dropLast

end Position

end Vetted.Layout
