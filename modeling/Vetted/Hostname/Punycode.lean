namespace Vetted.Hostname.Punycode

def digitChar (n : Nat) : Char := if n < 26 then Char.ofNat (97 + n) else Char.ofNat (22 + n)

def digitValue? (c : Char) : Option Nat :=
  if c.isUpper then some (c.toNat - 65)
  else if c.isLower then some (c.toNat - 97)
  else if c.isDigit then some (c.toNat - 22)
  else none

def threshold (place bias : Nat) : Nat := min 26 (max 1 (36 * (place + 1) - bias))

theorem one_le_threshold (place bias : Nat) : 1 ≤ threshold place bias := by
  unfold threshold
  omega

/-- Divides by 35 until the value is at most 455, counting the divisions in steps of 36. -/
def shrink (delta count : Nat) : Nat × Nat :=
  if 455 < delta then shrink (delta / 35) (count + 36) else (delta, count)
termination_by delta
decreasing_by exact Nat.div_lt_self (by omega) (by omega)

def adapt (delta : Nat) (isFirst : Bool) (size : Nat) : Nat :=
  let delta := if isFirst then delta / 700 else delta / 2
  let (delta, count) := shrink (delta + delta / size) 0
  count + 36 * delta / (delta + 38)

def writeNumber (bias place n : Nat) : List Char :=
  if n < threshold place bias then [digitChar n]
  else
    let rest := n - threshold place bias
    digitChar (threshold place bias + rest % (36 - threshold place bias)) ::
      writeNumber bias (place + 1) (rest / (36 - threshold place bias))
termination_by n
decreasing_by
  have h := one_le_threshold place bias
  exact Nat.lt_of_le_of_lt (Nat.div_le_self _ _) (by omega)

structure Writer where
  out : List Char
  delta : Nat
  bias : Nat
  size : Nat

/-- Passes one character of the text while the characters with code point `n` are written. -/
def Writer.pass (basic n : Nat) (w : Writer) (c : Char) : Writer :=
  if c.toNat < n then { w with delta := w.delta + 1 }
  else if c.toNat = n then
    { out := w.out ++ writeNumber w.bias 0 w.delta
      delta := 0
      bias := adapt w.delta (w.size = basic) (w.size + 1)
      size := w.size + 1 }
  else w

/-- Writes the characters of the given code points, which are in order; `last` is the one before them. -/
def writeAll (text : List Char) (basic last : Nat) (w : Writer) : List Nat → Writer
  | [] => w
  | n :: rest =>
    let start := { w with delta := w.delta + (n - last) * (w.size + 1) }
    let done := text.foldl (Writer.pass basic n) start
    writeAll text basic (n + 1) { done with delta := done.delta + 1 } rest

def insertPoint (n : Nat) : List Nat → List Nat
  | [] => [n]
  | m :: rest => if n < m then n :: m :: rest else if n = m then m :: rest else m :: insertPoint n rest

def encode (text : List Char) : List Char :=
  let basic := text.filter (·.toNat < 128)
  let points := (text.filter (128 ≤ ·.toNat)).foldl (fun ns c => insertPoint c.toNat ns) []
  let w := writeAll text basic.length 128 ⟨[], 0, 72, basic.length⟩ points
  if basic.isEmpty then w.out else basic ++ '-' :: w.out

def readNumber (bias place weight total : Nat) : List Char → Option (Nat × List Char)
  | [] => none
  | c :: rest => do
    let digit ← digitValue? c
    let total := total + digit * weight
    let t := threshold place bias
    if digit < t then some (total, rest) else readNumber bias (place + 1) (weight * (36 - t)) total rest

theorem readNumber_length {bias place weight total : Nat} {cs rest : List Char} {n : Nat}
    (h : readNumber bias place weight total cs = some (n, rest)) : rest.length < cs.length := by
  induction cs generalizing place weight total with
  | nil => simp [readNumber] at h
  | cons c cs ih =>
    simp only [readNumber, Option.bind_eq_bind] at h
    cases hd : digitValue? c with
    | none => simp [hd] at h
    | some d =>
      simp only [hd, Option.bind_some] at h
      split at h
      · simp at h
        simp [h.2]
      · have := ih h
        simp
        omega

def insertAll (text : List Char) (point place bias : Nat) (isFirst : Bool) (digits : List Char) : Option (List Char) :=
  if digits.isEmpty then some text
  else
    match h : readNumber bias 0 1 0 digits with
    | none => none
    | some (delta, rest) =>
      let size := text.length + 1
      let point := point + (place + delta) / size
      let place := (place + delta) % size
      if 0x10ffff < point || (0xd800 ≤ point && point ≤ 0xdfff) then none
      else
        insertAll (text.take place ++ Char.ofNat point :: text.drop place) point (place + 1)
          (adapt delta isFirst size) false rest
termination_by digits.length
decreasing_by exact readNumber_length h

def decode? (cs : List Char) : Option (List Char) :=
  match (cs.reverse.span (· ≠ '-')) with
  | (_, []) => insertAll [] 128 0 72 true cs
  | (digits, _ :: basic) => insertAll basic.reverse 128 0 72 true digits.reverse

end Vetted.Hostname.Punycode
