import Mathlib.Data.List.TakeWhile
import Vetted.FileSystem.Text

namespace Vetted.Proofs.EncodedText

open Text

theorem encodeUtf8_eq (s : String) : encodeUtf8 s = s.toList.flatMap String.utf8EncodeChar := by
  rw [encodeUtf8, String.toUTF8, ← String.utf8Encode_toList, List.utf8Encode, List.toList_data_toByteArray]

theorem toNat_byte {n : Nat} (h : n < 256) : (UInt8.ofNat n).toNat = n := UInt8.toNat_ofNat_of_lt' h

theorem utf8Shape_two {n : Nat} (hlo : 0xc2 ≤ n) (hhi : n ≤ 0xdf) :
    utf8Shape (UInt8.ofNat n) = some (1, 0x80, 0xbf) := by
  have hlo' : 0xc2 ≤ UInt8.ofNat n := UInt8.le_iff_toNat_le.2 (by rw [toNat_byte (by omega)]; exact hlo)
  have hhi' : UInt8.ofNat n ≤ 0xdf := UInt8.le_iff_toNat_le.2 (by rw [toNat_byte (by omega)]; exact hhi)
  simp [utf8Shape, hlo', hhi']

/-- The second byte of three is bounded where a shorter form or a half would be spelled. -/
theorem utf8Shape_three {n : Nat} (hlo : 0xe0 ≤ n) (hhi : n ≤ 0xef) :
    utf8Shape (UInt8.ofNat n) = some (2, if n = 0xe0 then 0xa0 else 0x80, if n = 0xed then 0x9f else 0xbf) := by
  simp only [utf8Shape, Bool.and_eq_true, decide_eq_true_eq, UInt8.le_iff_toNat_le, ← UInt8.toNat_inj,
    toNat_byte (show n < 256 by omega), UInt8.reduceToNat]
  split_ifs <;> first | rfl | omega

/-- The second byte of four is bounded where a shorter form or too high a code point would be spelled. -/
theorem utf8Shape_four {n : Nat} (hlo : 0xf0 ≤ n) (hhi : n ≤ 0xf4) :
    utf8Shape (UInt8.ofNat n) = some (3, if n = 0xf0 then 0x90 else 0x80, if n = 0xf4 then 0x8f else 0xbf) := by
  simp only [utf8Shape, Bool.and_eq_true, decide_eq_true_eq, UInt8.le_iff_toNat_le, ← UInt8.toNat_inj,
    toNat_byte (show n < 256 by omega), UInt8.reduceToNat]
  split_ifs <;> first | rfl | omega

theorem utf8Rest_next {first lo hi : UInt8} {start more value place n : Nat} {rest : List UInt8} (h : n < 256)
    (hlo : lo.toNat ≤ n) (hhi : n ≤ hi.toNat) :
    utf8Rest first start lo hi (more + 1) value place (UInt8.ofNat n :: rest) =
      utf8Rest first start 0x80 0xbf more (value * 64 + n % 64) (place + 1) rest := by
  have hbounds : lo ≤ UInt8.ofNat n ∧ UInt8.ofNat n ≤ hi := by
    simp only [UInt8.le_iff_toNat_le, toNat_byte h, hlo, hhi, and_self]
  simp [utf8Rest, hbounds, toNat_byte h]

theorem utf8From_wide {b lo hi : UInt8} {place count value : Nat} {bytes rest : List UInt8} {acc : List Char}
    (hb : ¬b < 0x80)
    (hshape : utf8Shape b = some (count, lo, hi))
    (hrest : utf8Rest b place lo hi count (utf8Lead count b) (place + 1) bytes = .ok (value, rest)) :
    utf8From place (b :: bytes) acc = utf8From (place + 1 + count) rest (Char.ofNat value :: acc) := by
  rw [utf8From, if_neg hb, hshape]
  simp only
  split
  · simp_all
  · simp_all

theorem utf8From_lead {n place count value : Nat} {lo hi : UInt8} {bytes rest : List UInt8} {acc : List Char}
    (hlo : 0x80 ≤ n) (hhi : n < 256) (hshape : utf8Shape (UInt8.ofNat n) = some (count, lo, hi))
    (hrest : utf8Rest (UInt8.ofNat n) place lo hi count (utf8Lead count (UInt8.ofNat n)) (place + 1) bytes =
      .ok (value, rest)) :
    utf8From place (UInt8.ofNat n :: bytes) acc = utf8From (place + 1 + count) rest (Char.ofNat value :: acc) := by
  have hhigh : ¬UInt8.ofNat n < 0x80 := by
    rw [UInt8.lt_iff_toNat_lt, toNat_byte hhi]
    exact Nat.not_lt.2 hlo
  exact utf8From_wide hhigh hshape hrest

theorem utf8From_encodeChar (c : Char) (place : Nat) (rest : List UInt8) (acc : List Char) :
    utf8From place (String.utf8EncodeChar c ++ rest) acc =
      utf8From (place + (String.utf8EncodeChar c).length) rest (c :: acc) := by
  have hvalid : c.val.toNat < 0xd800 ∨ 0xdfff < c.val.toNat ∧ c.val.toNat < 0x110000 := c.valid
  have hchar : Char.ofNat c.val.toNat = c := Char.ofNat_toNat c
  unfold String.utf8EncodeChar
  generalize c.val.toNat = v at hvalid hchar ⊢
  simp only
  split_ifs with hone htwo hthree
  · have hlow : UInt8.ofNat v < 0x80 := by
      rw [UInt8.lt_iff_toNat_lt, toNat_byte (by omega)]
      exact Nat.lt_succ_of_le hone
    rw [List.singleton_append, utf8From, if_pos hlow, toNat_byte (by omega), hchar]
    rfl
  · simp only [List.cons_append, List.nil_append]
    refine (utf8From_lead (by omega) (by omega) (utf8Shape_two (by omega) (by omega)) ?_).trans (by rw [hchar]; rfl)
    rw [utf8Rest_next (by omega) (by simp) (by simp; omega), utf8Rest, utf8Lead, if_pos rfl, toNat_byte (by omega)]
    congr 2
    omega
  · have hleast : (if v / 4096 % 16 + 224 = 0xe0 then 0xa0 else 0x80 : UInt8).toNat ≤ v / 64 % 64 + 128 := by
      split_ifs
      · exact (by omega : 0xa0 ≤ v / 64 % 64 + 128)
      · exact Nat.le_add_left 128 _
    have hmost : v / 64 % 64 + 128 ≤ (if v / 4096 % 16 + 224 = 0xed then 0x9f else 0xbf : UInt8).toNat := by
      split_ifs
      · exact (by omega : v / 64 % 64 + 128 ≤ 0x9f)
      · exact (by omega : v / 64 % 64 + 128 ≤ 0xbf)
    simp only [List.cons_append, List.nil_append]
    refine (utf8From_lead (by omega) (by omega) (utf8Shape_three (by omega) (by omega)) ?_).trans (by rw [hchar]; rfl)
    rw [utf8Rest_next (by omega) hleast hmost,
      utf8Rest_next (by omega) (by simp) (by simp; omega), utf8Rest, utf8Lead, if_neg (by simp), if_pos rfl,
      toNat_byte (by omega)]
    congr 2
    omega
  · have hleast : (if v / 262144 % 8 + 240 = 0xf0 then 0x90 else 0x80 : UInt8).toNat ≤ v / 4096 % 64 + 128 := by
      split_ifs
      · exact (by omega : 0x90 ≤ v / 4096 % 64 + 128)
      · exact Nat.le_add_left 128 _
    have hmost : v / 4096 % 64 + 128 ≤ (if v / 262144 % 8 + 240 = 0xf4 then 0x8f else 0xbf : UInt8).toNat := by
      split_ifs
      · exact (by omega : v / 4096 % 64 + 128 ≤ 0x8f)
      · exact (by omega : v / 4096 % 64 + 128 ≤ 0xbf)
    simp only [List.cons_append, List.nil_append]
    refine (utf8From_lead (by omega) (by omega) (utf8Shape_four (by omega) (by omega)) ?_).trans (by rw [hchar]; rfl)
    rw [utf8Rest_next (by omega) hleast hmost,
      utf8Rest_next (by omega) (by simp) (by simp; omega), utf8Rest_next (by omega) (by simp) (by simp; omega),
      utf8Rest, utf8Lead, if_neg (by simp), if_neg (by simp), toNat_byte (by omega)]
    congr 2
    omega

theorem utf8From_encoded (cs : List Char) (place : Nat) (acc : List Char) :
    utf8From place (cs.flatMap String.utf8EncodeChar) acc = .ok (acc.reverse ++ cs) := by
  induction cs generalizing place acc with
  | nil =>
      rw [List.flatMap_nil, utf8From, List.append_nil]
  | cons c cs ih =>
      rw [List.flatMap_cons, utf8From_encodeChar, ih, List.reverse_cons, List.append_assoc, List.singleton_append]

theorem decodeUtf8_encodeUtf8 (s : String) : decodeUtf8 (encodeUtf8 s) = .ok s := by
  rw [decodeUtf8, encodeUtf8_eq, utf8From_encoded, List.reverse_nil, List.nil_append]
  exact congrArg Except.ok (String.ofList_toList)

theorem unifyLineEnds_eq_self {cs : List Char} (h : '\r' ∉ cs) : unifyLineEnds cs = cs := by
  fun_induction unifyLineEnds cs with
  | case1 rest ih => simp at h
  | case2 rest hend ih => simp at h
  | case3 c rest hboth hreturn ih => rw [ih (List.not_mem_of_not_mem_cons h)]
  | case4 => rfl

theorem halfFault?_eq_none_iff {bad : Char → Bool} {s : String} :
    halfFault? bad s = none ↔ ∀ c ∈ s.toList, bad c = false := by
  have hrest : halfFault? bad s = none ↔ s.toList.dropWhile (!bad ·) = [] := by
    rw [halfFault?]
    split <;> simp_all
  rw [hrest, List.dropWhile_eq_nil_iff]
  simp

/-- Whether a text has no carriage return and only characters of one byte, told by its bytes. -/
def isPlain (s : String) : Bool := (encodeUtf8 s).all fun b => b < 0x80 && b ≠ 0x0d

theorem lt_and_ne_of_isPlain {s : String} (h : isPlain s = true) {c : Char} (hc : c ∈ s.toList) :
    c.toNat < 0x80 ∧ c ≠ '\r' := by
  rw [isPlain, encodeUtf8_eq, List.all_eq_true] at h
  have hbytes : ∀ b ∈ String.utf8EncodeChar c, b.toNat < 0x80 ∧ b.toNat ≠ 0x0d := by
    intro b hb
    have hb := h b (List.mem_flatMap.2 ⟨c, hc, hb⟩)
    simpa [UInt8.lt_iff_toNat_lt, ← UInt8.toNat_inj] using hb
  have hnat : c.toNat = c.val.toNat := rfl
  unfold String.utf8EncodeChar at hbytes
  simp only at hbytes
  split_ifs at hbytes with hone htwo hthree
  · have hbyte := hbytes _ List.mem_cons_self
    rw [toNat_byte (by omega)] at hbyte
    refine ⟨by omega, ?_⟩
    rintro rfl
    exact hbyte.2 rfl
  -- More bytes than one start with a byte that is too high.
  all_goals
    have hbyte := (hbytes _ List.mem_cons_self).1
    rw [toNat_byte (by omega)] at hbyte
    omega

theorem not_mem_of_isPlain {s : String} (h : isPlain s = true) : '\r' ∉ s.toList :=
  fun hc => (lt_and_ne_of_isPlain h hc).2 rfl

theorem halfFault?_of_isPlain {s : String} (h : isPlain s = true) : halfFault? isHalf s = none := by
  refine halfFault?_eq_none_iff.2 fun c hc => ?_
  have hlow := (lt_and_ne_of_isPlain h hc).1
  have hdistance : ¬halfDistance ≤ c.toNat := by
    rw [halfDistance]
    omega
  simp [isHalf, hdistance]

theorem readText_encoded {fs : FileSystem} {p : Path} {place : Place} {content : String}
    (hlocate : fs.locate p = .ok place) (hnode : fs.node? place = some (.file (encodeUtf8 content)))
    (hreturn : '\r' ∉ content.toList) : fs.readText p = .ok content := by
  have hbytes : fs.read p = .ok (encodeUtf8 content) := by
    rw [FileSystem.read, hlocate]
    simp only [hnode]
  have htext : fs.readUtf8 p = .ok content := by
    rw [FileSystem.readUtf8, hbytes]
    change (decodeUtf8 (encodeUtf8 content)).mapError Failure.undecodable = _
    rw [decodeUtf8_encodeUtf8]
    rfl
  rw [FileSystem.readText, htext]
  change Except.ok (String.ofList (unifyLineEnds content.toList)) = _
  rw [unifyLineEnds_eq_self hreturn, String.ofList_toList]

end Vetted.Proofs.EncodedText
