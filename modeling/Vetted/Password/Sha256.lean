namespace Vetted.Password.Sha256

def roundConstants : Array UInt32 :=
  #[0x428a2f98, 0x71374491, 0xb5c0fbcf, 0xe9b5dba5, 0x3956c25b, 0x59f111f1, 0x923f82a4, 0xab1c5ed5,
    0xd807aa98, 0x12835b01, 0x243185be, 0x550c7dc3, 0x72be5d74, 0x80deb1fe, 0x9bdc06a7, 0xc19bf174,
    0xe49b69c1, 0xefbe4786, 0x0fc19dc6, 0x240ca1cc, 0x2de92c6f, 0x4a7484aa, 0x5cb0a9dc, 0x76f988da,
    0x983e5152, 0xa831c66d, 0xb00327c8, 0xbf597fc7, 0xc6e00bf3, 0xd5a79147, 0x06ca6351, 0x14292967,
    0x27b70a85, 0x2e1b2138, 0x4d2c6dfc, 0x53380d13, 0x650a7354, 0x766a0abb, 0x81c2c92e, 0x92722c85,
    0xa2bfe8a1, 0xa81a664b, 0xc24b8b70, 0xc76c51a3, 0xd192e819, 0xd6990624, 0xf40e3585, 0x106aa070,
    0x19a4c116, 0x1e376c08, 0x2748774c, 0x34b0bcb5, 0x391c0cb3, 0x4ed8aa4a, 0x5b9cca4f, 0x682e6ff3,
    0x748f82ee, 0x78a5636f, 0x84c87814, 0x8cc70208, 0x90befffa, 0xa4506ceb, 0xbef9a3f7, 0xc67178f2]

structure State where
  a : UInt32
  b : UInt32
  c : UInt32
  d : UInt32
  e : UInt32
  f : UInt32
  g : UInt32
  h : UInt32
deriving Repr, DecidableEq, Inhabited

def initial : State :=
  ⟨0x6a09e667, 0xbb67ae85, 0x3c6ef372, 0xa54ff53a,
    0x510e527f, 0x9b05688c, 0x1f83d9ab, 0x5be0cd19⟩

@[inline] def rotate (x n : UInt32) : UInt32 := (x >>> n) ||| (x <<< (32 - n))

@[inline] def wordAt (ws : Array UInt32) (i : Nat) : UInt32 := ws.getD i 0

def nextWord (ws : Array UInt32) : UInt32 :=
  let n := ws.size
  let x := wordAt ws (n - 15)
  let y := wordAt ws (n - 2)
  let small := rotate x 7 ^^^ rotate x 18 ^^^ (x >>> 3)
  let large := rotate y 17 ^^^ rotate y 19 ^^^ (y >>> 10)
  wordAt ws (n - 16) + small + wordAt ws (n - 7) + large

def grow : Nat → Array UInt32 → Array UInt32
  | 0, ws => ws
  | n + 1, ws => grow n (ws.push (nextWord ws))

def rounds (ws : Array UInt32) (a b c d e f g h : UInt32) : Nat → State
  | 0 => ⟨a, b, c, d, e, f, g, h⟩
  | n + 1 =>
    let i := 63 - n
    let s1 := rotate e 6 ^^^ rotate e 11 ^^^ rotate e 25
    let choice := (e &&& f) ^^^ ((~~~e) &&& g)
    let t1 := h + s1 + choice + wordAt roundConstants i + wordAt ws i
    let s0 := rotate a 2 ^^^ rotate a 13 ^^^ rotate a 22
    let majority := (a &&& b) ^^^ (a &&& c) ^^^ (b &&& c)
    rounds ws (t1 + (s0 + majority)) a b c (d + t1) e f g n

def compress (s : State) (block : Array UInt32) : State :=
  let r := rounds (grow 48 block) s.a s.b s.c s.d s.e s.f s.g s.h 64
  ⟨s.a + r.a, s.b + r.b, s.c + r.c, s.d + r.d, s.e + r.e, s.f + r.f, s.g + r.g, s.h + r.h⟩

def wordOf (a b c d : UInt8) : UInt32 :=
  (a.toUInt32 <<< 24) ||| (b.toUInt32 <<< 16) ||| (c.toUInt32 <<< 8) ||| d.toUInt32

/-- Bytes as words, the first byte being the highest; a rest of fewer than four bytes is left out. -/
def wordsOf : List UInt8 → List UInt32
  | a :: b :: c :: d :: rest => wordOf a b c d :: wordsOf rest
  | _ => []

def bytesOfWord (w : UInt32) : List UInt8 :=
  [(w >>> 24).toUInt8, (w >>> 16).toUInt8, (w >>> 8).toUInt8, w.toUInt8]

/-- The padding of a message of so many bytes: a one bit, zeros, and the length in bits as 64 bits. -/
def padding (length : Nat) : List UInt8 :=
  0x80 :: List.replicate ((119 - length % 64) % 64) 0 ++
    (bytesOfWord (8 * length / Nat.pow 2 32).toUInt32 ++ bytesOfWord (8 * length).toUInt32)

def absorb (s : State) (words : List UInt32) : State :=
  if words.isEmpty then s else absorb (compress s (words.take 16).toArray) (words.drop 16)
termination_by words.length
decreasing_by
  have h : words ≠ [] := by simp_all
  have := List.length_pos_iff.2 h
  rw [List.length_drop]
  omega

/-- The state after a message that follows `before` bytes already stirred in. -/
def finish (s : State) (before : Nat) (message : List UInt8) : State :=
  absorb s (wordsOf (message ++ padding (before + message.length)))

def State.words (s : State) : List UInt32 := [s.a, s.b, s.c, s.d, s.e, s.f, s.g, s.h]

def State.bytes (s : State) : List UInt8 := s.words.flatMap bytesOfWord

def digest (message : List UInt8) : List UInt8 := (finish initial 0 message).bytes

end Vetted.Password.Sha256
