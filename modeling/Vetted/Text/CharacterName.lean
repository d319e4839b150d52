import Vetted.Text.CharacterName.Alias
import Vetted.Text.CharacterName.Alphabets
import Vetted.Text.CharacterName.Ancient
import Vetted.Text.CharacterName.Listing
import Vetted.Text.CharacterName.Syllables
import Vetted.Text.CharacterName.Symbols

namespace Vetted.Text

namespace CharacterName

def listings : List (List String) := [alphabets, symbols, syllables, ancient, aliases]

def after? (opening : String) (name : List Char) : Option (List Char) :=
  if opening.toList.isPrefixOf name then some (name.drop opening.length) else none

def unifiedIdeographs : Ranges :=
  .ofLines ["3400-4dbf 4e00-9fff 20000-2a6df 2a700-2b738 2b740-2b81d 2b820-2cea1 2ceb0-2ebe0 30000-3134a"]

/-- Four or five hexadecimal digits, the letters being capitals. -/
def codeOf? (cs : List Char) : Option Nat :=
  if (cs.length = 4 || cs.length = 5) && cs.all fun c => c.isDigit || ('A' ≤ c && c ≤ 'F') then
    some (readHex (String.ofList cs))
  else none

def ideograph? (digits : List Char) : Option Nat := (codeOf? digits).filter unifiedIdeographs.contains

def coded? (name : List Char) : Option Nat :=
  codedNames.findSome? fun (opening, codes) => do
    let digits ← after? opening name
    let code ← (codeOf? digits).filter codes.contains
    if digits.head? = some '0' then none else some code

def leads : List String :=
  ["G", "GG", "N", "D", "DD", "R", "M", "B", "BB", "S", "SS", "", "J", "JJ", "C", "K", "T", "P", "H"]

def vowels : List String :=
  ["A", "AE", "YA", "YAE", "EO", "E", "YEO", "YE", "O", "WA", "WAE", "OE", "YO", "U", "WEO", "WE", "WI", "YU", "EU",
    "YI", "I"]

def tails : List String :=
  ["", "G", "GG", "GS", "N", "NJ", "NH", "D", "L", "LG", "LM", "LB", "LS", "LT", "LP", "LH", "M", "B", "BS", "S", "SS",
    "NG", "J", "C", "K", "T", "P", "H"]

/-- The place and the length of the longest of some texts that is in front, `place` being that of the first of them. -/
def longest? (cs : List Char) (place : Nat) : List String → Option (Nat × Nat)
  | [] => none
  | s :: rest =>
    let later := longest? cs (place + 1) rest
    if s.toList.isPrefixOf cs then
      match later with
      | some (p, n) => if s.length < n then some (p, n) else some (place, s.length)
      | none => some (place, s.length)
    else later

def syllable? (cs : List Char) : Option Nat := do
  let (lead, n) ← longest? cs 0 leads
  let cs := cs.drop n
  let (vowel, n) ← longest? cs 0 vowels
  let cs := cs.drop n
  let (tail, n) ← longest? cs 0 tails
  if (cs.drop n).isEmpty then some (0xac00 + (lead * vowels.length + vowel) * tails.length + tail) else none

def find? (name : List Char) : Option Nat :=
  match after? "HANGUL SYLLABLE " name, after? "CJK UNIFIED IDEOGRAPH-" name with
  | some syllable, _ => syllable? syllable
  | none, some digits => ideograph? digits
  | none, none =>
    let key := name.map Char.toUpper
    (coded? key).or (listings.findSome? (findIn? key))

end CharacterName

def characterNamed? (name : String) : Option Char := (CharacterName.find? name.toList).map Char.ofNat

end Vetted.Text
