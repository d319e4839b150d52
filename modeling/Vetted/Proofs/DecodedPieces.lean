import Vetted.Proofs.EncodedText
import Vetted.Proofs.Sequence

namespace Vetted.Proofs.DecodedPieces

open EncodedText Sequence Text

/-- Bytes spell characters, wherever they stand and whatever is read before them. -/
def Spells (bytes : List UInt8) (cs : List Char) : Prop :=
  ∀ place acc, utf8From place bytes acc = .ok (acc.reverse ++ cs)

variable {first lo hi : UInt8} {start place more value n : Nat} {bytes rest tail : List UInt8} {cs acc : List Char}

/-- The further bytes of a character are the same wherever they stand and whatever follows them. -/
theorem utf8Rest_eq_ok (h : utf8Rest first start lo hi more value place bytes = .ok (n, rest)) :
    ∃ own, bytes = own ++ rest ∧ own.length = more ∧
      ∀ first start place tail, utf8Rest first start lo hi more value place (own ++ tail) = .ok (n, tail) := by
  induction more generalizing lo hi value place bytes with
  | zero =>
      obtain ⟨rfl, rfl⟩ := Prod.mk.inj (Except.ok.inj h)
      exact ⟨[], rfl, rfl, fun _ _ _ _ => rfl⟩
  | succ more ih =>
      cases bytes with
      | nil => cases h
      | cons b bytes =>
          rw [utf8Rest] at h
          split at h
          · rename_i hb
            obtain ⟨own, rfl, hlength, hown⟩ := ih h
            refine ⟨b :: own, rfl, by rw [List.length_cons, hlength], fun first start place tail => ?_⟩
            rw [List.cons_append, utf8Rest, if_pos hb, hown]
          · cases h

theorem utf8Rest_of_append (h : utf8Rest first start lo hi more value place (bytes ++ tail) = .ok (n, rest)) :
    (∃ left, utf8Rest first start lo hi more value place bytes = .ok (n, left) ∧ rest = left ++ tail) ∨
      ∀ start place, ∃ last, utf8Rest first start lo hi more value place bytes =
        .error (.cutShort first start last) := by
  induction more generalizing lo hi value place bytes with
  | zero =>
      obtain ⟨rfl, rfl⟩ := Prod.mk.inj (Except.ok.inj h)
      exact .inl ⟨bytes, rfl, rfl⟩
  | succ more ih =>
      cases bytes with
      | nil => exact .inr fun start place => ⟨_, rfl⟩
      | cons b bytes =>
          rw [List.cons_append, utf8Rest] at h
          split at h
          · rename_i hb
            obtain ⟨left, hleft, hrest⟩ | hcut := ih h
            · exact .inl ⟨left, by rw [utf8Rest, if_pos hb, hleft], hrest⟩
            · refine .inr fun start place => ?_
              obtain ⟨last, hlast⟩ := hcut start (place + 1)
              exact ⟨last, by rw [utf8Rest, if_pos hb, hlast]⟩
          · cases h

theorem spells_nil : Spells [] [] := by
  intro place acc
  rw [utf8From, List.append_nil]

theorem Spells.ascii (h : Spells rest cs) {b : UInt8} (hb : b < 0x80) :
    Spells (b :: rest) (Char.ofNat b.toNat :: cs) := by
  intro place acc
  rw [utf8From, if_pos hb, h, List.reverse_cons, List.append_assoc, List.singleton_append]

theorem Spells.wide (h : Spells rest cs) {b : UInt8} {count : Nat} (hb : ¬b < 0x80)
    (hshape : utf8Shape b = some (count, lo, hi)) {own : List UInt8}
    (hown : ∀ first start place tail,
      utf8Rest first start lo hi count (utf8Lead count b) place (own ++ tail) = .ok (n, tail)) :
    Spells (b :: own ++ rest) (Char.ofNat n :: cs) := by
  intro place acc
  rw [List.cons_append, utf8From, if_neg hb, hshape]
  simp only
  split
  · rename_i herror
    rw [hown] at herror
    cases herror
  · rename_i hok
    rw [hown] at hok
    obtain ⟨rfl, rfl⟩ := Prod.mk.inj (Except.ok.inj hok)
    rw [h, List.reverse_cons, List.append_assoc, List.singleton_append]

theorem spells_of_utf8From (h : utf8From place bytes acc = .ok cs) :
    ∃ own, Spells bytes own ∧ cs = acc.reverse ++ own := by
  fun_induction utf8From place bytes acc with
  | case1 place acc =>
      obtain rfl := Except.ok.inj h
      exact ⟨[], spells_nil, by rw [List.append_nil]⟩
  | case2 place acc b rest hb ih =>
      obtain ⟨own, hown, rfl⟩ := ih h
      exact ⟨_, hown.ascii hb, by simp⟩
  | case3 => cases h
  | case4 => cases h
  | case5 place acc b rest hb count lo hi hshape n left hrest ih =>
      obtain ⟨own, hown, rfl⟩ := ih h
      obtain ⟨taken, rfl, -, htaken⟩ := utf8Rest_eq_ok hrest
      exact ⟨_, hown.wide hb hshape htaken, by simp⟩

theorem Spells.cases {b : UInt8} (h : Spells (b :: rest) cs) :
    (b < 0x80 ∧ ∃ later, cs = Char.ofNat b.toNat :: later ∧ Spells rest later) ∨
      ¬b < 0x80 ∧ ∃ count lo hi n left later, utf8Shape b = some (count, lo, hi) ∧
        utf8Rest b 0 lo hi count (utf8Lead count b) 1 rest = .ok (n, left) ∧ cs = Char.ofNat n :: later ∧
          Spells left later := by
  have hread := h 0 []
  rw [utf8From] at hread
  split at hread
  · rename_i hb
    obtain ⟨later, hlater, hcs⟩ := spells_of_utf8From hread
    exact .inl ⟨hb, later, by simpa using hcs, hlater⟩
  · rename_i hb
    split at hread
    · cases hread
    · rename_i count lo hi hshape
      split at hread
      · cases hread
      · rename_i n left hrest
        obtain ⟨later, hlater, hcs⟩ := spells_of_utf8From hread
        exact .inr ⟨hb, count, lo, hi, n, left, later, hshape, hrest, by simpa using hcs, hlater⟩

theorem utf8From_ascii {b : UInt8} (hb : b < 0x80) :
    utf8From place (b :: rest) acc = utf8From (place + 1) rest (Char.ofNat b.toNat :: acc) := by
  rw [utf8From, if_pos hb]

theorem utf8From_cut {b : UInt8} {count : Nat} {fault : Utf8Fault} (hb : ¬b < 0x80)
    (hshape : utf8Shape b = some (count, lo, hi))
    (hrest : utf8Rest b place lo hi count (utf8Lead count b) (place + 1) bytes = .error fault) :
    utf8From place (b :: bytes) acc = .error fault := by
  rw [utf8From, if_neg hb, hshape]
  simp only
  split
  · simp_all
  · simp_all

/-- The first bytes of a text spell a part of it, but for those at their end that begin a character. -/
theorem Spells.split (h : Spells (bytes ++ tail) cs) :
    ∃ whole left front back, bytes = whole ++ left ∧ cs = front ++ back ∧ Spells whole front ∧
      Spells (left ++ tail) back ∧
      (left = [] ∨ ∀ place acc, ∃ first last,
        utf8From place bytes acc = .error (.cutShort first (place + whole.length) last)) := by
  -- A character takes several bytes at once, so the induction is on the number of bytes.
  induction hlength : bytes.length using Nat.strongRecOn generalizing bytes cs with
  | ind length ih =>
      cases bytes with
      | nil => exact ⟨[], [], [], cs, rfl, rfl, spells_nil, h, .inl rfl⟩
      | cons b bytes =>
          rw [List.cons_append] at h
          obtain ⟨hb, later, rfl, hlater⟩ | ⟨hb, count, lo, hi, n, rest, later, hshape, hrest, rfl, hlater⟩ := h.cases
          · obtain ⟨whole, left, front, back, rfl, rfl, hfront, hback, hleft⟩ :=
              ih bytes.length (by rw [← hlength, List.length_cons]; omega) hlater rfl
            refine ⟨b :: whole, left, _ :: front, back, rfl, rfl, hfront.ascii hb, hback, hleft.imp_right ?_⟩
            intro hcut place acc
            obtain ⟨first, last, hlast⟩ := hcut (place + 1) (Char.ofNat b.toNat :: acc)
            refine ⟨first, last, ?_⟩
            rw [utf8From_ascii hb, hlast, List.length_cons]
            congr 2
            omega
          · obtain ⟨kept, hkept, rfl⟩ | hcut := utf8Rest_of_append hrest
            · obtain ⟨own, rfl, hown, htaken⟩ := utf8Rest_eq_ok hkept
              obtain ⟨whole, left, front, back, rfl, rfl, hfront, hback, hleft⟩ :=
                ih kept.length (by rw [← hlength, List.length_cons, List.length_append]; omega) hlater rfl
              refine ⟨b :: own ++ whole, left, _ :: front, back, by simp, rfl, hfront.wide hb hshape htaken, hback,
                hleft.imp_right ?_⟩
              intro hcut place acc
              obtain ⟨first, last, hlast⟩ := hcut (place + 1 + count) (Char.ofNat n :: acc)
              refine ⟨first, last, ?_⟩
              rw [utf8From_wide hb hshape (htaken b place (place + 1) _), hlast]
              simp only [List.cons_append, List.length_cons, List.length_append, hown]
              congr 2
              omega
            · refine ⟨[], b :: bytes, [], _, rfl, rfl, spells_nil, h, .inr fun place acc => ?_⟩
              obtain ⟨last, hlast⟩ := hcut place (place + 1)
              exact ⟨b, last, utf8From_cut hb hshape hlast⟩

theorem decodePiece_of_spells (h : Spells (bytes ++ tail) cs) :
    ∃ front left back, decodePiece bytes = .ok (front, left) ∧ Spells (left ++ tail) back ∧ cs = front ++ back := by
  obtain ⟨whole, left, front, back, rfl, rfl, hfront, hback, hleft⟩ := h.split
  refine ⟨front, left, back, ?_, hback, rfl⟩
  obtain rfl | hcut := hleft
  · rw [decodePiece, List.append_nil, hfront]
    rfl
  · obtain ⟨first, last, hlast⟩ := hcut 0 []
    rw [decodePiece, hlast]
    simp only [Nat.zero_add, List.take_left', List.drop_left']
    rw [hfront]
    rfl

theorem startFrom_of_spells (read : List Char) {left : List UInt8} (h : Spells (left ++ bytes) cs) :
    ∃ front back, startFrom read left bytes = .ok (read ++ front) ∧ cs = front ++ back ∧
      (back = [] ∨ hasLineEnd (read ++ front) = true) := by
  induction hlength : bytes.length using Nat.strongRecOn generalizing read left bytes cs with
  | ind length ih =>
      by_cases hempty : bytes = []
      · subst hempty
        rw [List.append_nil] at h
        refine ⟨cs, [], ?_, by rw [List.append_nil], .inl rfl⟩
        rw [startFrom, dif_pos rfl, h]
        rfl
      · have hpieces : Spells ((left ++ bytes.take pieceLength) ++ bytes.drop pieceLength) cs := by
          rwa [List.append_assoc, List.take_append_drop]
        obtain ⟨more, cut, later, hpiece, hlater, rfl⟩ := decodePiece_of_spells hpieces
        rw [startFrom, dif_neg hempty, hpiece]
        by_cases hend : hasLineEnd (read ++ more) = true
        · refine ⟨more, later, ?_, rfl, .inr hend⟩
          simp only [bind, Except.bind, if_pos hend]
          rfl
        · have hshorter : (bytes.drop pieceLength).length < length := by
            have hpos := List.length_pos_iff.2 hempty
            rw [List.length_drop, ← hlength, pieceLength]
            omega
          obtain ⟨front, back, hfront, rfl, hback⟩ := ih _ hshorter (read ++ more) hlater rfl
          refine ⟨more ++ front, back, ?_, by rw [List.append_assoc], by rwa [← List.append_assoc]⟩
          simp only [bind, Except.bind, if_neg hend, hfront, List.append_assoc]

theorem isPrefixOf_unifyLineEnds {words : List Char} (hwords : ∀ c ∈ words, c ≠ '\n' ∧ c ≠ '\r') (cs : List Char) :
    words.isPrefixOf (unifyLineEnds cs) = words.isPrefixOf cs := by
  induction words generalizing cs with
  | nil => simp
  | cons w words ih =>
      obtain ⟨⟨hn, hr⟩, hrest⟩ := List.forall_mem_cons.1 hwords
      have hline : ∀ rest other, (w :: words).isPrefixOf ('\n' :: rest) = (w :: words).isPrefixOf ('\r' :: other) := by
        intro rest other
        rw [List.isPrefixOf, List.isPrefixOf, beq_false_of_ne hn, beq_false_of_ne hr, Bool.false_and, Bool.false_and]
      fun_cases unifyLineEnds cs with
      | case1 rest => exact hline _ _
      | case2 rest => exact hline _ _
      | case3 c rest => rw [List.isPrefixOf, List.isPrefixOf, ih hrest]
      | case4 => rfl

theorem hasLineEnd_tail {c : Char} (hc : c ≠ '\n' ∧ c ≠ '\r') (h : hasLineEnd (c :: cs) = true) :
    hasLineEnd cs = true := by
  cases cs with
  | nil => simp [hasLineEnd, Ne.symm hc.1] at h
  | cons next later => simpa [hasLineEnd, Ne.symm hc.1, Ne.symm hc.2] using h

/-- Words without line ends that stand at the start of a text stand in any part of it that holds its first line. -/
theorem isPrefixOf_append {words front : List Char} (hwords : ∀ c ∈ words, c ≠ '\n' ∧ c ≠ '\r')
    (hend : hasLineEnd front = true) (back : List Char) :
    words.isPrefixOf (front ++ back) = words.isPrefixOf front := by
  induction words generalizing front with
  | nil => simp
  | cons w words ih =>
      obtain ⟨hw, hrest⟩ := List.forall_mem_cons.1 hwords
      cases front with
      | nil => cases hend
      | cons c front =>
          rw [List.cons_append, List.isPrefixOf, List.isPrefixOf]
          by_cases hc : w = c
          · subst hc
            rw [ih hrest (hasLineEnd_tail hw hend)]
          · rw [beq_false_of_ne hc, Bool.false_and, Bool.false_and]

theorem decodeStart_of_decodeUtf8 {text words : String} (h : decodeUtf8 bytes = .ok text)
    (hwords : ∀ c ∈ words.toList, c ≠ '\n' ∧ c ≠ '\r') :
    ∃ start, decodeStart bytes = .ok start ∧
      startsWith start words = startsWith (String.ofList (unifyLineEnds text.toList)) words := by
  obtain ⟨cs, hcs, rfl⟩ := map_eq_ok_iff.1 h
  obtain ⟨own, hspells, rfl⟩ := spells_of_utf8From hcs
  obtain ⟨front, back, hstart, rfl, hback⟩ := startFrom_of_spells [] (show Spells ([] ++ bytes) _ from hspells)
  refine ⟨String.ofList front, map_eq_ok_iff.2 ⟨front, hstart, rfl⟩, ?_⟩
  simp only [startsWith, String.toList_ofList]
  rw [isPrefixOf_unifyLineEnds hwords]
  obtain rfl | hend := hback
  · rw [List.append_nil]
  · rw [List.nil_append] at hend
    rw [isPrefixOf_append hwords hend]

theorem spells_nil_iff : Spells [] cs ↔ cs = [] := by
  constructor
  · intro h
    have hread := h 0 []
    rw [utf8From] at hread
    exact (Except.ok.inj hread).symm
  · rintro rfl
    exact spells_nil

theorem Spells.append {later : List Char} (h : Spells bytes cs) (hlater : Spells tail later) :
    Spells (bytes ++ tail) (cs ++ later) := by
  induction hlength : bytes.length using Nat.strongRecOn generalizing bytes cs with
  | ind length ih =>
      cases bytes with
      | nil =>
          obtain rfl := spells_nil_iff.1 h
          exact hlater
      | cons b bytes =>
          rw [List.length_cons] at hlength
          obtain ⟨hb, cs, rfl, hcs⟩ | ⟨hb, count, lo, hi, n, left, cs, hshape, hrest, rfl, hcs⟩ := h.cases
          · exact (ih bytes.length (by omega) hcs rfl).ascii hb
          · obtain ⟨own, rfl, -, hown⟩ := utf8Rest_eq_ok hrest
            rw [List.length_append] at hlength
            have hall := (ih left.length (by omega) hcs rfl).wide hb hshape hown
            simpa only [List.cons_append, List.append_assoc] using hall

theorem spells_of_decodePiece {left : List UInt8} (h : decodePiece bytes = .ok (cs, left)) :
    ∃ whole, bytes = whole ++ left ∧ Spells whole cs := by
  rw [decodePiece] at h
  split at h
  · rename_i own hown
    obtain ⟨rfl, rfl⟩ := Prod.mk.inj (Except.ok.inj h)
    obtain ⟨own', hspells, heq⟩ := spells_of_utf8From hown
    exact ⟨bytes, by rw [List.append_nil], by simpa [heq] using hspells⟩
  · rename_i start _ _
    obtain ⟨own, hown, heq⟩ := map_eq_ok_iff.1 h
    obtain ⟨rfl, rfl⟩ := Prod.mk.inj heq
    obtain ⟨own', hspells, heq⟩ := spells_of_utf8From hown
    exact ⟨bytes.take start, (List.take_append_drop start bytes).symm, by simpa [heq] using hspells⟩
  · cases h

theorem spells_of_startFrom {read : List Char} {left : List UInt8} (h : startFrom read left bytes = .ok cs) :
    ∃ own used rest, cs = read ++ own ∧ left ++ bytes = used ++ rest ∧ Spells used own := by
  fun_induction startFrom read left bytes with
  | case1 read left =>
      obtain ⟨own, hown, rfl⟩ := map_eq_ok_iff.1 h
      obtain ⟨own', hspells, heq⟩ := spells_of_utf8From hown
      exact ⟨own, left, [], rfl, rfl, by simpa [heq] using hspells⟩
  | case2 read left bytes hbytes ih =>
      obtain ⟨⟨more, cut⟩, hpiece, h⟩ := bind_eq_ok_iff.1 h
      obtain ⟨whole, hwhole, hmore⟩ := spells_of_decodePiece hpiece
      have hall : left ++ bytes = whole ++ (cut ++ bytes.drop pieceLength) := by
        rw [← List.append_assoc, ← hwhole, List.append_assoc, List.take_append_drop]
      simp only at h
      split at h
      · obtain rfl := pure_eq_ok_iff.1 h
        exact ⟨more, whole, _, rfl, hall, hmore⟩
      · obtain ⟨own, used, rest, rfl, hused, hown⟩ := ih more cut h
        refine ⟨more ++ own, whole ++ used, rest, by rw [List.append_assoc], ?_, hmore.append hown⟩
        rw [hall, hused, List.append_assoc]

theorem le_of_utf8Rest (h : utf8Rest first start lo hi more value place bytes = .ok (n, rest)) :
    value <<< (6 * more) ≤ n := by
  induction more generalizing lo hi value place bytes with
  | zero =>
      obtain ⟨rfl, -⟩ := Prod.mk.inj (Except.ok.inj h)
      exact Nat.le_refl value
  | succ more ih =>
      cases bytes with
      | nil => cases h
      | cons b bytes =>
          rw [utf8Rest] at h
          split at h
          · calc value <<< (6 * (more + 1))
                = (value * 64) <<< (6 * more) := by
                  rw [Nat.mul_succ, Nat.add_comm, Nat.shiftLeft_add, Nat.shiftLeft_eq value]
              _ ≤ (value * 64 + b.toNat % 64) <<< (6 * more) := by
                  rw [Nat.shiftLeft_eq, Nat.shiftLeft_eq]
                  exact Nat.mul_le_mul_right _ (Nat.le_add_right _ _)
              _ ≤ n := ih h
          · cases h

theorem second_of_utf8Rest (h : utf8Rest first start lo hi (more + 1) value place bytes = .ok (n, rest)) :
    ∃ second : UInt8, lo.toNat ≤ second.toNat ∧ second.toNat ≤ hi.toNat ∧
      (value * 64 + second.toNat % 64) <<< (6 * more) ≤ n := by
  cases bytes with
  | nil => cases h
  | cons b bytes =>
      rw [utf8Rest] at h
      split at h
      · rename_i hb
        simp only [Bool.and_eq_true, decide_eq_true_eq, UInt8.le_iff_toNat_le] at hb
        exact ⟨b, hb.1, hb.2, le_of_utf8Rest h⟩
      · cases h

theorem le_of_utf8Shape {b : UInt8} {count : Nat} (hshape : utf8Shape b = some (count, lo, hi))
    (hrest : utf8Rest b start lo hi count (utf8Lead count b) place bytes = .ok (n, rest)) : 0x80 ≤ n := by
  simp only [utf8Shape, Bool.and_eq_true, decide_eq_true_eq, UInt8.le_iff_toNat_le, ← UInt8.toNat_inj,
    UInt8.reduceToNat] at hshape
  split_ifs at hshape
  -- Either the first byte counts for something, or the second one is bounded from below.
  all_goals
    obtain ⟨rfl, rfl, rfl⟩ := Option.some.inj hshape
    obtain ⟨second, hlo, hhi, hle⟩ := second_of_utf8Rest hrest
    simp [utf8Lead, Nat.shiftLeft_eq] at hlo hhi hle
    omega

theorem Spells.words {words later : List Char} (hwords : ∀ c ∈ words, c.toNat < 0x80 ∧ c ≠ '\x00')
    (h : Spells bytes (words ++ later)) : words.map (fun c => UInt8.ofNat c.toNat) <+: bytes := by
  induction words generalizing bytes with
  | nil => exact List.nil_prefix
  | cons w words ih =>
      obtain ⟨⟨hascii, hnull⟩, hrest⟩ := List.forall_mem_cons.1 hwords
      cases bytes with
      | nil => cases spells_nil_iff.1 h
      | cons b bytes =>
          obtain ⟨hb, cs, hcs, hlater⟩ | ⟨hb, count, lo, hi, n, left, cs, hshape, hbytes, hcs, -⟩ := h.cases
          · obtain ⟨rfl, rfl⟩ := List.cons.inj hcs
            have hvalid : b.toNat.isValidChar := .inl (by have := b.toNat_lt; omega)
            rw [List.map_cons, toNat_ofNat hvalid, UInt8.ofNat_toNat, List.cons_prefix_cons]
            exact ⟨rfl, ih hrest hlater⟩
          · obtain ⟨rfl, rfl⟩ := List.cons.inj hcs
            have hwide := le_of_utf8Shape hshape hbytes
            by_cases hvalid : n.isValidChar
            · rw [toNat_ofNat hvalid] at hascii
              omega
            · exact absurd (by rw [Char.ofNat, dif_neg hvalid]; rfl) hnull

theorem prefix_of_decodeStart {words text : String} (hwords : ∀ c ∈ words.toList, c.toNat < 0x80 ∧ c ≠ '\x00')
    (h : decodeStart bytes = .ok text) (hstart : startsWith text words = true) :
    words.toList.map (fun c => UInt8.ofNat c.toNat) <+: bytes := by
  obtain ⟨cs, hcs, rfl⟩ := map_eq_ok_iff.1 h
  obtain ⟨own, used, rest, rfl, hused, hown⟩ := spells_of_startFrom hcs
  rw [startsWith, String.toList_ofList, List.isPrefixOf_iff_prefix] at hstart
  obtain ⟨later, rfl⟩ := hstart
  rw [List.nil_append] at hused
  exact hused ▸ (hown.words hwords).trans (List.prefix_append used rest)

end Vetted.Proofs.DecodedPieces
