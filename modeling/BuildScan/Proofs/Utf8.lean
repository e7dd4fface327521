import BuildScan.Text.Utf8

/-!
# Decoding inverts encoding

`decode_eq_ok_iff` says that a byte sequence decodes to a text exactly if it is the UTF-8 form of
that text.  Both sides meet in `Encodes`, the table of well-formed sequences: the ranges of their
bytes and the code point that these stand for.
-/

namespace BuildScan.Text

/-! ### Bytes of a string -/

/-- With `n` bytes to go the loop puts these behind what it has. -/
theorem toList_loop_of_add_eq {bs : ByteArray} {n i : Nat} (h : i + n = bs.size)
    (seen : List UInt8) :
    ByteArray.toList.loop bs i seen = seen.reverse ++ bs.data.toList.drop i := by
  have hLength : bs.data.toList.length = bs.size := by rw [Array.length_toList, ByteArray.size_data]
  induction n generalizing i seen with
  | zero =>
    rw [ByteArray.toList.loop, if_neg (by omega), List.drop_eq_nil_of_le (by omega),
      List.append_nil]
  | succ n ih =>
    have hIndex : i < bs.data.toList.length := by omega
    have hByte : bs.get! i = bs.data.toList[i] := by
      rw [Array.getElem_toList]
      exact getElem!_pos bs.data i (by rwa [Array.length_toList] at hIndex)
    rw [ByteArray.toList.loop, if_pos (by omega), ih (by omega), hByte, List.reverse_cons,
      List.append_assoc, List.singleton_append, ← List.drop_eq_getElem_cons]

theorem bytesOf_ofList (cs : List Char) :
    bytesOf (String.ofList cs) = cs.flatMap String.utf8EncodeChar := by
  rw [bytesOf, ByteArray.toList, toList_loop_of_add_eq (Nat.zero_add _), List.reverse_nil,
    List.nil_append, List.drop_zero, String.toUTF8, String.toByteArray_ofList, List.utf8Encode,
    List.toList_data_toByteArray]

theorem bytesOf_empty : bytesOf "" = [] := bytesOf_ofList []

theorem bytesOf_append (s t : String) : bytesOf (s ++ t) = bytesOf s ++ bytesOf t := by
  have hChars (s : String) : bytesOf s = s.toList.flatMap String.utf8EncodeChar := by
    rw [← bytesOf_ofList, String.ofList_toList]
  rw [hChars, hChars s, hChars t, String.toList_append, List.flatMap_append]

/-! ### The table of well-formed sequences -/

/-- A byte that continues a sequence. -/
def Continues (b : UInt8) : Prop := 128 ≤ b.toNat ∧ b.toNat ≤ 191

/-- A second byte behind a first one: overlong forms, surrogates and what lies beyond the last plane
are excluded. -/
def ContinuesFirst (first b : UInt8) : Prop :=
  Continues b ∧ (first.toNat = 0xE0 → 160 ≤ b.toNat) ∧ (first.toNat = 0xED → b.toNat ≤ 159) ∧
    (first.toNat = 0xF0 → 144 ≤ b.toNat) ∧ (first.toNat = 0xF4 → b.toNat ≤ 143)

/-- A byte that opens a sequence of this many. -/
def Opens (first : UInt8) (size : Nat) : Prop :=
  size = 1 ∧ first.toNat < 0x80 ∨ size = 2 ∧ 0xC2 ≤ first.toNat ∧ first.toNat ≤ 0xDF ∨
    size = 3 ∧ 0xE0 ≤ first.toNat ∧ first.toNat ≤ 0xEF ∨
    size = 4 ∧ 0xF0 ≤ first.toNat ∧ first.toNat ≤ 0xF4

/-- A character is written as a first byte and some more. -/
inductive Encodes (c : Char) (first : UInt8) : List UInt8 → Prop
  | one : Opens first 1 → c.toNat = first.toNat → Encodes c first []
  | two {b : UInt8} : Opens first 2 → Continues b →
      c.toNat = (first.toNat - 0xC0) * 64 + b.toNat % 64 → Encodes c first [b]
  | three {b d : UInt8} : Opens first 3 → ContinuesFirst first b → Continues d →
      c.toNat = ((first.toNat - 0xE0) * 64 + b.toNat % 64) * 64 + d.toNat % 64 →
      Encodes c first [b, d]
  | four {b d e : UInt8} : Opens first 4 → ContinuesFirst first b → Continues d → Continues e →
      c.toNat =
        (((first.toNat - 0xF0) * 64 + b.toNat % 64) * 64 + d.toNat % 64) * 64 + e.toNat % 64 →
      Encodes c first [b, d, e]

theorem isContinuation_iff {b : UInt8} : isContinuation b = true ↔ Continues b := by
  simp [isContinuation, Continues, UInt8.le_iff_toNat_le]

theorem inSecondByteRange_iff {first b : UInt8} :
    ((secondByteRange first).1 ≤ b && b ≤ (secondByteRange first).2) = true ↔
      ContinuesFirst first b := by
  rw [secondByteRange, ContinuesFirst, Continues, Bool.and_eq_true, decide_eq_true_eq,
    decide_eq_true_eq, UInt8.le_iff_toNat_le, UInt8.le_iff_toNat_le]
  simp only [← UInt8.toNat_inj, UInt8.reduceToNat]
  repeat' split
  all_goals
    simp only [UInt8.reduceToNat]
    omega

theorem payload_eq (b : UInt8) : payload b = b.toNat % 64 := by
  rw [payload, UInt8.toNat_and]
  exact Nat.and_two_pow_sub_one_eq_mod b.toNat 6

theorem announcedSize_eq_iff {first : UInt8} {size : Nat} (hSize : 0 < size) :
    announcedSize first = size ↔ Opens first size := by
  simp only [announcedSize, Bool.and_eq_true, decide_eq_true_eq, UInt8.lt_iff_toNat_lt,
    UInt8.le_iff_toNat_le, UInt8.reduceToNat, Opens]
  repeat' split
  all_goals omega

/-! ### Reading follows the table -/

/-- A character that is read from a sequence has the table's code point. -/
theorem toNat_ofNat {n : Nat} (h : n < 0xD800 ∨ 0xDFFF < n ∧ n < 0x110000) :
    (Char.ofNat n).toNat = n := by
  rw [Char.ofNat, dif_pos h]
  rfl

/-- What stands in the table is read. -/
theorem front_of_encodes {c : Char} {first : UInt8} {more : List UInt8} (h : Encodes c first more)
    (rest : List UInt8) : front first (more ++ rest) = .char c (more.length + 1) := by
  have hChar {n : Nat} (hn : c.toNat = n) : Char.ofNat n = c := by rw [← hn, Char.ofNat_toNat]
  cases h with
  | one hOpens hCode =>
    simp only [front, (announcedSize_eq_iff (by decide)).mpr hOpens, hChar hCode]
    rfl
  | two hOpens hb hCode =>
    simp only [front, (announcedSize_eq_iff (by decide)).mpr hOpens, List.cons_append,
      isContinuation_iff.mpr hb, payload_eq, hChar hCode]
    rfl
  | three hOpens hb hd hCode =>
    simp only [front, (announcedSize_eq_iff (by decide)).mpr hOpens, List.cons_append,
      inSecondByteRange_iff.mpr hb, isContinuation_iff.mpr hd, payload_eq, hChar hCode]
    rfl
  | four hOpens hb hd he hCode =>
    simp only [front, (announcedSize_eq_iff (by decide)).mpr hOpens, List.cons_append,
      inSecondByteRange_iff.mpr hb, isContinuation_iff.mpr hd, isContinuation_iff.mpr he,
      payload_eq,
      hChar hCode]
    rfl

/-- What is read stands in the table. -/
theorem encodes_of_front {first : UInt8} {rest : List UInt8} {c : Char} {size : Nat}
    (h : front first rest = .char c size) :
    ∃ more behind, rest = more ++ behind ∧ Encodes c first more ∧ size = more.length + 1 := by
  revert h
  fun_cases front first rest
  case case1 hSize =>
    rintro ⟨⟩
    have hOpens := (announcedSize_eq_iff (by decide)).mp hSize
    refine ⟨[], rest, rfl, .one hOpens ?_, rfl⟩
    simp only [Opens] at hOpens
    rw [toNat_ofNat (by omega)]
  case case3 hSize b behind hb =>
    rintro ⟨⟩
    have hOpens := (announcedSize_eq_iff (by decide)).mp hSize
    rw [isContinuation_iff] at hb
    refine ⟨[b], behind, rfl, .two hOpens hb ?_, rfl⟩
    simp only [Opens] at hOpens
    rw [payload_eq, toNat_ofNat (by omega)]
  case case8 inSecondRange hSize b hb d behind hd =>
    rintro ⟨⟩
    have hOpens := (announcedSize_eq_iff (by decide)).mp hSize
    rw [Bool.not_eq_true, Bool.not_eq_false', inSecondByteRange_iff] at hb
    rw [isContinuation_iff] at hd
    refine ⟨[b, d], behind, rfl, .three hOpens hb hd ?_, rfl⟩
    simp only [Opens, ContinuesFirst, Continues] at hOpens hb
    rw [payload_eq, payload_eq, toNat_ofNat (by omega)]
  case case15 inSecondRange hSize b hb d hd e behind he =>
    rintro ⟨⟩
    have hOpens := (announcedSize_eq_iff (by decide)).mp hSize
    rw [Bool.not_eq_true, Bool.not_eq_false', inSecondByteRange_iff] at hb
    rw [Bool.not_eq_true, Bool.not_eq_false', isContinuation_iff] at hd
    rw [isContinuation_iff] at he
    refine ⟨[b, d, e], behind, rfl, .four hOpens hb hd he ?_, rfl⟩
    simp only [Opens, ContinuesFirst, Continues] at hOpens hb
    rw [payload_eq, payload_eq, payload_eq, toNat_ofNat (by omega)]
  all_goals exact nofun

/-! ### Writing follows the table -/

theorem encodes_utf8EncodeChar (c : Char) :
    ∃ first more, String.utf8EncodeChar c = first :: more ∧ Encodes c first more := by
  have hValid : c.toNat < 0xD800 ∨ 0xDFFF < c.toNat ∧ c.toNat < 0x110000 := c.valid
  fun_cases String.utf8EncodeChar c with
  | case1 v hOne =>
    have hCode : c.toNat = v := rfl
    refine ⟨_, _, rfl, .one ?_ ?_⟩
    all_goals
      simp only [Opens, UInt8.toNat_ofNat', true_and]
      omega
  | case2 v hOne hTwo =>
    have hCode : c.toNat = v := rfl
    refine ⟨_, _, rfl, .two ?_ ?_ ?_⟩
    all_goals
      simp only [Opens, Continues, UInt8.toNat_ofNat', true_and]
      omega
  | case3 v hOne hTwo hThree =>
    have hCode : c.toNat = v := rfl
    refine ⟨_, _, rfl, .three ?_ ?_ ?_ ?_⟩
    all_goals
      simp only [Opens, ContinuesFirst, Continues, UInt8.toNat_ofNat', true_and]
      omega
  | case4 v hOne hTwo hThree =>
    have hCode : c.toNat = v := rfl
    refine ⟨_, _, rfl, .four ?_ ?_ ?_ ?_ ?_⟩
    all_goals
      simp only [Opens, ContinuesFirst, Continues, UInt8.toNat_ofNat', true_and]
      omega

theorem utf8EncodeChar_of_encodes {c : Char} {first : UInt8} {more : List UInt8}
    (h : Encodes c first more) : String.utf8EncodeChar c = first :: more := by
  rw [String.utf8EncodeChar]
  cases h with
  | one hOpens hCode =>
    change c.val.toNat = _ at hCode
    simp only [Opens] at hOpens
    rw [if_pos (by omega)]
    simp only [List.cons.injEq, ← UInt8.toNat_inj, UInt8.toNat_ofNat', and_true]
    omega
  | two hOpens hb hCode =>
    change c.val.toNat = _ at hCode
    simp only [Opens, Continues] at hOpens hb
    rw [if_neg (by omega), if_pos (by omega)]
    simp only [List.cons.injEq, ← UInt8.toNat_inj, UInt8.toNat_ofNat', and_true]
    omega
  | three hOpens hb hd hCode =>
    change c.val.toNat = _ at hCode
    simp only [Opens, ContinuesFirst, Continues] at hOpens hb hd
    rw [if_neg (by omega), if_neg (by omega), if_pos (by omega)]
    simp only [List.cons.injEq, ← UInt8.toNat_inj, UInt8.toNat_ofNat', and_true]
    omega
  | four hOpens hb hd he hCode =>
    change c.val.toNat = _ at hCode
    simp only [Opens, ContinuesFirst, Continues] at hOpens hb hd he
    rw [if_neg (by omega), if_neg (by omega), if_neg (by omega)]
    simp only [List.cons.injEq, ← UInt8.toNat_inj, UInt8.toNat_ofNat', and_true]
    omega

/-! ### Decoding -/

/-- Bytes that belong to the character read last are passed over. -/
theorem decodeFrom_append (offset : Nat) (more rest : Bytes) :
    decodeFrom offset more.length (more ++ rest) = decodeFrom (offset + more.length) 0 rest := by
  induction more generalizing offset with
  | nil => rfl
  | cons b more ih =>
    rw [List.length_cons, List.cons_append, decodeFrom, ih, Nat.add_assoc, Nat.add_comm 1]

/-- A character at the front is read, and then what is behind it. -/
theorem decodeFrom_of_encodes {c : Char} {first : UInt8} {more : List UInt8}
    (h : Encodes c first more) (offset : Nat) (rest : Bytes) :
    decodeFrom offset 0 (first :: (more ++ rest)) =
      (decodeFrom (offset + 1 + more.length) 0 rest).map (c :: ·) := by
  simp only [decodeFrom, front_of_encodes h, Nat.add_sub_cancel, decodeFrom_append]

/-- The bytes of characters decode to these. -/
theorem decodeFrom_flatMap (offset : Nat) (cs : List Char) :
    decodeFrom offset 0 (cs.flatMap String.utf8EncodeChar) = .ok cs := by
  induction cs generalizing offset with
  | nil => rfl
  | cons c cs ih =>
    obtain ⟨first, more, hBytes, hEncodes⟩ := encodes_utf8EncodeChar c
    rw [List.flatMap_cons, hBytes, List.cons_append, decodeFrom_of_encodes hEncodes, ih]
    rfl

/-- Where reading succeeds, a character stands at the front. -/
theorem encodes_of_decodeFrom {offset : Nat} {first : UInt8} {rest : Bytes} {cs : List Char}
    (h : decodeFrom offset 0 (first :: rest) = .ok cs) :
    ∃ c more behind others, rest = more ++ behind ∧ Encodes c first more ∧
      decodeFrom (offset + 1 + more.length) 0 behind = .ok others ∧ cs = c :: others := by
  rw [decodeFrom] at h
  cases hFront : front first rest with
  | char c size =>
    obtain ⟨more, behind, rfl, hEncodes, rfl⟩ := encodes_of_front hFront
    simp only [hFront, Nat.add_sub_cancel, decodeFrom_append] at h
    cases hRest : decodeFrom (offset + 1 + more.length) 0 behind with
    | ok others =>
      rw [hRest] at h
      exact ⟨c, more, behind, others, rfl, hEncodes, hRest, (Except.ok.inj h).symm⟩
    | error fault =>
      rw [hRest] at h
      cases h
  | invalid size => simp [hFront] at h
  | incomplete size => simp [hFront] at h

/-- Bytes that decode to characters are theirs. -/
theorem eq_flatMap_of_decodeFrom {offset : Nat} {bs : Bytes} {cs : List Char}
    (h : decodeFrom offset 0 bs = .ok cs) : bs = cs.flatMap String.utf8EncodeChar := by
  induction cs generalizing offset bs with
  | nil =>
    cases bs with
    | nil => rfl
    | cons first rest =>
      obtain ⟨_, _, _, _, _, _, _, hNil⟩ := encodes_of_decodeFrom h
      cases hNil
  | cons c cs ih =>
    cases bs with
    | nil => cases h
    | cons first rest =>
      obtain ⟨c', more, behind, others, rfl, hEncodes, hRest, hCons⟩ := encodes_of_decodeFrom h
      obtain ⟨rfl, rfl⟩ := List.cons.inj hCons
      rw [List.flatMap_cons, utf8EncodeChar_of_encodes hEncodes, ih hRest, List.cons_append]

/-- A byte sequence decodes to a text exactly if it is its UTF-8 form. -/
theorem decode_eq_ok_iff {bs : Bytes} {s : String} : decode bs = .ok s ↔ bs = bytesOf s := by
  rw [← String.ofList_toList (s := s), bytesOf_ofList, decode]
  constructor
  · intro h
    cases hChars : decodeFrom 0 0 bs with
    | error fault =>
      rw [hChars] at h
      cases h
    | ok cs =>
      rw [hChars] at h
      rw [eq_flatMap_of_decodeFrom hChars, ← String.ofList_injective (Except.ok.inj h)]
  · rintro rfl
    rw [decodeFrom_flatMap]
    rfl

end BuildScan.Text
