import Vetted.Text.Basic
import Vetted.Text.Half
import Vetted.Text.Printable

namespace Vetted.Text

def chooseQuote (cs : List Char) : Char :=
  if cs.contains '\'' && !cs.contains '"' then '"' else '\''

def escapeChar (quote c : Char) : List Char :=
  let n := codePoint c
  if c = quote || c = '\\' then ['\\', c]
  else if c = '\t' then ['\\', 't']
  else if c = '\n' then ['\\', 'n']
  else if c = '\r' then ['\\', 'r']
  else if isPrintable c then [c]
  else if n < 256 then '\\' :: 'x' :: hexPadded 2 n
  else if n < 65536 then '\\' :: 'u' :: hexPadded 4 n
  else '\\' :: 'U' :: hexPadded 8 n

def quoteChars (cs : List Char) : List Char :=
  let q := chooseQuote cs
  q :: (cs.flatMap (escapeChar q) ++ [q])

def quote (s : String) : String := String.ofList (quoteChars s.toList)

def escapeByte (q : Char) (b : UInt8) : List Char :=
  let c := Char.ofNat b.toNat
  if c = q || c = '\\' then ['\\', c]
  else if c = '\t' then ['\\', 't']
  else if c = '\n' then ['\\', 'n']
  else if c = '\r' then ['\\', 'r']
  else if 32 ≤ b && b < 127 then [c]
  else '\\' :: 'x' :: hexPadded 2 b.toNat

/-- A string of bytes between quotes, with its mark in front. -/
def quoteBytes (bytes : List UInt8) : String :=
  let q := chooseQuote (bytes.map fun b => Char.ofNat b.toNat)
  String.ofList ('b' :: q :: (bytes.flatMap (escapeByte q) ++ [q]))

end Vetted.Text
