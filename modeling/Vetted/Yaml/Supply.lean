import Vetted.Number.Binary
import Vetted.Text.Utf8

namespace Vetted.Yaml

def isPrintable (c : Char) : Bool :=
  let n := c.toNat
  n = 9 || n = 10 || n = 13 || (0x20 ≤ n && n ≤ 0x7e) || n = 0x85 || (0xa0 ≤ n && n ≠ 0xfffe && n ≠ 0xffff)

def blockLength : Nat := 4096

/-- The state of decoding: bytes that begin a character, whether a carriage return is held back, and how many bytes a
character took in the last piece. -/
structure Decoding where
  left : List UInt8 := []
  held : Bool := false
  rate : Number.Binary := ⟨0, 0⟩

namespace Decoding

def pieceFor (d : Decoding) (wanted : Nat) : Nat :=
  let (num, den) := Number.scaleBy (d.rate.mantissa * wanted) 2 d.rate.exponent
  let product := (Number.Binary.nearest? num den).getD ⟨0, 0⟩
  let (num, den) := Number.scaleBy product.mantissa 2 product.exponent
  max Text.pieceLength (num / den)

def piece (d : Decoding) (bytes : List UInt8) : Except Text.Utf8Fault (List Char × Decoding) := do
  let (cs, left) ← Text.decodePiece (d.left ++ bytes)
  let cs := if d.held && !cs.isEmpty then '\r' :: cs else cs
  let held := if cs.isEmpty then d.held else cs.getLast? = some '\r'
  let cs := Text.unifyLineEnds (if held then cs.dropLast else cs)
  let rate? := if cs.isEmpty then none else Number.Binary.nearest? bytes.length cs.length
  return (cs, { left, held, rate := rate?.getD ⟨0, 0⟩ })

def last (d : Decoding) (ready : List Char) : Except Text.Utf8Fault (List Char) :=
  (Text.utf8From 0 d.left []).map fun cs => ready ++ cs ++ if d.held then ['\n'] else []

def blocks (d : Decoding) (ready : List Char) (bytes : List UInt8) : List (List Char) × Option Text.Utf8Fault :=
  if blockLength ≤ ready.length then
    let (later, fault?) := blocks d (ready.drop blockLength) bytes
    (ready.take blockLength :: later, fault?)
  else if bytes = [] then
    match d.last ready with
    | .ok block => (if block.isEmpty then [] else [block], none)
    | .error fault => ([], some fault)
  else
    let length := d.pieceFor (blockLength - ready.length)
    match d.piece (bytes.take length) with
    | .ok (cs, next) => blocks next (ready ++ cs) (bytes.drop length)
    | .error fault => ([], some fault)
termination_by (bytes.length, ready.length)
decreasing_by
  · simp_wf
    right
    simp [blockLength] at *
    omega
  · simp_wf
    left
    have hbytes := List.length_pos_iff.2 ‹¬bytes = []›
    have hpiece : Text.pieceLength ≤ d.pieceFor (blockLength - ready.length) := Nat.le_max_left _ _
    simp [Text.pieceLength] at hpiece
    omega

end Decoding

inductive Obstacle where
  | undecodable (fault : Text.Utf8Fault)
  | unprintable
deriving Repr, DecidableEq

structure Supply where
  ready : List Char
  obstacle? : Option Obstacle := none
deriving Repr

namespace Supply

def ofBlocks (obstacle? : Option Obstacle) : List (List Char) → Supply
  | [] => ⟨[], obstacle?⟩
  | block :: later =>
    if block.all isPrintable then
      let supply := ofBlocks obstacle? later
      ⟨block ++ supply.ready, supply.obstacle?⟩
    else ⟨[], some .unprintable⟩

/-- What a file supplies. The first two blocks are handed out before either is looked through. -/
def ofBytes (bytes : List UInt8) : Supply :=
  match Decoding.blocks {} [] bytes with
  | (first :: second :: later, fault?) => ofBlocks (fault?.map .undecodable) ((first ++ second) :: later)
  | (_, some fault) => ⟨[], some (.undecodable fault)⟩
  | (blocks, none) => ofBlocks none blocks

end Supply

end Vetted.Yaml
