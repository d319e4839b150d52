import Vetted.Text.Ranges

namespace Vetted.Text

/-- A text may hold one half of a surrogate pair alone, which is no character. It stands as the private character at this
distance, U+10D800 to U+10DFFF, so a text has none of those 2048 characters of its own. -/
def halfDistance : Nat := 0x100000

def isHalfCode (n : Nat) : Bool := 0xd800 ≤ n && n ≤ 0xdfff

def isHalf (c : Char) : Bool := halfDistance ≤ c.toNat && isHalfCode (c.toNat - halfDistance)

def characterOf (n : Nat) : Char := Char.ofNat (if isHalfCode n then halfDistance + n else n)

def codePoint (c : Char) : Nat := if isHalf c then c.toNat - halfDistance else c.toNat

theorem toNat_ofNat {n : Nat} (h : n.isValidChar) : (Char.ofNat n).toNat = n := by
  rw [Char.ofNat, dif_pos h]
  rfl

/-- Every other code point, a half or not, is held by a character that says which it is. -/
theorem codePoint_characterOf {n : Nat} (hn : n < 0x110000) (hown : isHalfCode (n - halfDistance) = false) :
    codePoint (characterOf n) = n := by
  cases hhalf : isHalfCode n with
  | true =>
      have hrange : 0xd800 ≤ n ∧ n ≤ 0xdfff := by simpa [isHalfCode] using hhalf
      have hvalid : (halfDistance + n).isValidChar := by
        unfold halfDistance Nat.isValidChar
        omega
      simp [characterOf, codePoint, isHalf, hhalf, toNat_ofNat hvalid]
  | false =>
      have hrange : ¬(0xd800 ≤ n ∧ n ≤ 0xdfff) := by simpa [isHalfCode] using hhalf
      have hvalid : n.isValidChar := by
        unfold Nat.isValidChar
        omega
      simp [characterOf, codePoint, isHalf, hhalf, toNat_ofNat hvalid, hown]

def hasHalf (s : String) : Bool := s.toList.any isHalf

/-- The first run of halves in a text: its place, its length and its first half. -/
structure HalfFault where
  place : Nat
  length : Nat
  first : Nat
deriving Repr, DecidableEq, Inhabited

/-- The first run of characters that cannot be encoded, `bad` telling which those are. -/
def halfFault? (bad : Char → Bool) (s : String) : Option HalfFault :=
  let rest := s.toList.dropWhile (!bad ·)
  match rest with
  | [] => none
  | c :: _ => some ⟨s.length - rest.length, (rest.takeWhile isHalf).length, codePoint c⟩

def hexDigitChar (n : Nat) : Char :=
  if n < 10 then Char.ofNat (48 + n) else Char.ofNat (87 + n)

def hexPadded (width n : Nat) : List Char :=
  match width with
  | 0 => []
  | w + 1 => hexPadded w (n / 16) ++ [hexDigitChar (n % 16)]

def HalfFault.message (f : HalfFault) : String :=
  let what :=
    if f.length = 1 then "character '\\u" ++ String.ofList (hexPadded 4 f.first) ++ "' in position " ++ toString f.place
    else "characters in position " ++ toString f.place ++ "-" ++ toString (f.place + f.length - 1)
  "'utf-8' codec can't encode " ++ what ++ ": surrogates not allowed"

end Vetted.Text
