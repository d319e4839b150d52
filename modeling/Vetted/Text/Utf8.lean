import Vetted.Text.Basic

namespace Vetted.Text

inductive Utf8Fault where
  | badStart (first : UInt8) (at_ : Nat)
  | badRest (first : UInt8) (at_ last : Nat)
  | cutShort (first : UInt8) (at_ last : Nat)
deriving Repr, DecidableEq

def utf8Shape (b : UInt8) : Option (Nat × UInt8 × UInt8) :=
  if 0xc2 ≤ b && b ≤ 0xdf then some (1, 0x80, 0xbf)
  else if b = 0xe0 then some (2, 0xa0, 0xbf)
  else if 0xe1 ≤ b && b ≤ 0xec then some (2, 0x80, 0xbf)
  else if b = 0xed then some (2, 0x80, 0x9f)
  else if 0xee ≤ b && b ≤ 0xef then some (2, 0x80, 0xbf)
  else if b = 0xf0 then some (3, 0x90, 0xbf)
  else if 0xf1 ≤ b && b ≤ 0xf3 then some (3, 0x80, 0xbf)
  else if b = 0xf4 then some (3, 0x80, 0x8f)
  else none

def utf8Lead (count : Nat) (b : UInt8) : Nat :=
  if count = 1 then b.toNat % 32 else if count = 2 then b.toNat % 16 else b.toNat % 8

/-- Reads `more` further bytes of one character, `value` being what is read so far and `place` the place of the next
byte. -/
def utf8Rest (first : UInt8) (start : Nat) (lo hi : UInt8) :
    (more value place : Nat) → List UInt8 → Except Utf8Fault (Nat × List UInt8)
  | 0, value, _, rest => .ok (value, rest)
  | _ + 1, _, place, [] => .error (.cutShort first start (place - 1))
  | more + 1, value, place, b :: rest =>
    if lo ≤ b && b ≤ hi then
      utf8Rest first start 0x80 0xbf more (value * 64 + b.toNat % 64) (place + 1) rest
    else .error (.badRest first start (place - 1))

theorem utf8Rest_length {first : UInt8} {start : Nat} {lo hi : UInt8} {more value place : Nat}
    {bytes rest : List UInt8} {n : Nat}
    (h : utf8Rest first start lo hi more value place bytes = .ok (n, rest)) : rest.length ≤ bytes.length := by
  induction more generalizing lo hi value place bytes with
  | zero => simp [utf8Rest] at h; simp [h.2]
  | succ k ih =>
    cases bytes with
    | nil => simp [utf8Rest] at h
    | cons b bs =>
      simp only [utf8Rest] at h
      split at h
      · exact Nat.le_succ_of_le (ih h)
      · simp at h

def utf8From (place : Nat) (bytes : List UInt8) (acc : List Char) : Except Utf8Fault (List Char) :=
  match bytes with
  | [] => .ok acc.reverse
  | b :: rest =>
    if b < 0x80 then utf8From (place + 1) rest (Char.ofNat b.toNat :: acc)
    else
      match utf8Shape b with
      | none => .error (.badStart b place)
      | some (count, lo, hi) =>
        match h : utf8Rest b place lo hi count (utf8Lead count b) (place + 1) rest with
        | .error e => .error e
        | .ok (n, rest') => utf8From (place + 1 + count) rest' (Char.ofNat n :: acc)
termination_by bytes.length
decreasing_by
  · simp
  · have := utf8Rest_length h
    simp
    omega

def decodeUtf8 (bytes : List UInt8) : Except Utf8Fault String := (utf8From 0 bytes []).map String.ofList

def decodePiece (bytes : List UInt8) : Except Utf8Fault (List Char × List UInt8) :=
  match utf8From 0 bytes [] with
  | .ok cs => .ok (cs, [])
  | .error (.cutShort _ start _) => (utf8From 0 (bytes.take start) []).map (·, bytes.drop start)
  | .error fault => .error fault

def pieceLength : Nat := 8192

def hasLineEnd (cs : List Char) : Bool := cs.contains '\n' || cs.dropLast.contains '\r'

/-- Decodes piece by piece until a line has come to its end, `read` being the characters read so far and `left` the
bytes that begin the next one. -/
def startFrom (read : List Char) (left bytes : List UInt8) : Except Utf8Fault (List Char) :=
  if _ : bytes = [] then (utf8From 0 left []).map (read ++ ·)
  else do
    let (more, left) ← decodePiece (left ++ bytes.take pieceLength)
    if hasLineEnd (read ++ more) then return read ++ more else startFrom (read ++ more) left (bytes.drop pieceLength)
termination_by bytes.length
decreasing_by
  have := List.length_pos_iff.2 ‹¬bytes = []›
  simp [pieceLength]
  omega

def decodeStart (bytes : List UInt8) : Except Utf8Fault String := (startFrom [] [] bytes).map String.ofList

def encodeUtf8 (s : String) : List UInt8 := s.toUTF8.data.toList

def byteText (b : UInt8) : String := "0x" ++ String.ofList (hexDigits b)
where
  hexDigits (b : UInt8) : List Char :=
    let digit (n : Nat) : Char := if n < 10 then Char.ofNat (48 + n) else Char.ofNat (87 + n)
    [digit (b.toNat / 16), digit (b.toNat % 16)]

def Utf8Fault.message : Utf8Fault → String
  | .badStart b p => s!"'utf-8' codec can't decode byte {byteText b} in position {p}: invalid start byte"
  | .badRest b p q =>
    if p = q then s!"'utf-8' codec can't decode byte {byteText b} in position {p}: invalid continuation byte"
    else s!"'utf-8' codec can't decode bytes in position {p}-{q}: invalid continuation byte"
  | .cutShort b p q =>
    if p = q then s!"'utf-8' codec can't decode byte {byteText b} in position {p}: unexpected end of data"
    else s!"'utf-8' codec can't decode bytes in position {p}-{q}: unexpected end of data"

end Vetted.Text
