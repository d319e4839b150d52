import Vetted.Password.Sha256

namespace Vetted.Password

open Sha256

/-- A key that is ready for use: the states after its inner and its outer block. -/
structure Key where
  inner : State
  outer : State
deriving Repr, Inhabited

def keyBytes (key : List UInt8) : List UInt8 :=
  let k := if 64 < key.length then digest key else key
  k ++ List.replicate (64 - k.length) 0

def Key.ofBytes (key : List UInt8) : Key :=
  let k := keyBytes key
  ⟨absorb initial (wordsOf (k.map (· ^^^ 0x36))), absorb initial (wordsOf (k.map (· ^^^ 0x5c)))⟩

def tailWords : List UInt32 := [0x80000000, 0, 0, 0, 0, 0, 0, 768]

def State.block (s : State) : Array UInt32 := (s.words ++ tailWords).toArray

def Key.hash (k : Key) (message : List UInt8) : State := compress k.outer (State.block (finish k.inner 64 message))

def Key.again (k : Key) (s : State) : State := compress k.outer (State.block (compress k.inner (State.block s)))

def combine (s t : State) : State :=
  ⟨s.a ^^^ t.a, s.b ^^^ t.b, s.c ^^^ t.c, s.d ^^^ t.d, s.e ^^^ t.e, s.f ^^^ t.f, s.g ^^^ t.g, s.h ^^^ t.h⟩

/-- Applies the keyed hash so many times more, combining the results. -/
def Key.repeatHash (k : Key) (last total : State) : Nat → State
  | 0 => total
  | n + 1 =>
    let next := k.again last
    k.repeatHash next (combine total next) n

def derive (password salt : List UInt8) (rounds : Nat) : List UInt8 :=
  let key := Key.ofBytes password
  let first := key.hash (salt ++ [0, 0, 0, 1])
  (key.repeatHash first first (rounds - 1)).bytes

end Vetted.Password
