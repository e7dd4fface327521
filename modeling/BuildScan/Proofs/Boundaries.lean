import BuildScan.Proofs.Seams
import BuildScan.Proofs.Utf8

/-!
# Cuts at byte offsets

The bytes of a text tell where its characters start: a byte that continues a sequence is inside one.
`isBoundary_iff_seam` says that the offsets found in this way are the seams of the text, the sizes
of its beginnings.

`cut` takes a part out of a text by the offsets of its ends and fails unless these fit the text.
Offsets fit exactly if some part stands between them (`offsetsFit_iff`), and then it is this part
that is cut out (`cut_eq_ok_iff`).
-/

namespace BuildScan.Text

/-! ### Boundaries -/

/-- The offset is the end of a text, or the byte there starts a character. -/
def isBoundary (text : List Char) (offset : Nat) : Bool :=
  let bytes := text.flatMap String.utf8EncodeChar
  match bytes[offset]? with
  | some b => !isContinuation b
  | none => offset = bytes.length

/-- A character is written as a byte that starts it and bytes that continue it. -/
theorem exists_utf8EncodeChar_eq_cons (c : Char) :
    ∃ first more, String.utf8EncodeChar c = first :: more ∧ more.length + 1 = c.utf8Size ∧
      isContinuation first = false ∧ ∀ b ∈ more, isContinuation b = true := by
  obtain ⟨first, more, hBytes, hEncodes⟩ := encodes_utf8EncodeChar c
  have hSize : more.length + 1 = c.utf8Size := by
    rw [← List.length_cons, ← hBytes, String.length_utf8EncodeChar]
  have hFirst {size : Nat} (h : Opens first size) : isContinuation first = false := by
    rw [← Bool.not_eq_true, isContinuation_iff, Continues]
    rw [Opens] at h
    omega
  refine ⟨first, more, hBytes, hSize, ?_⟩
  simp only [isContinuation_iff]
  cases hEncodes with
  | one hOpens _ => exact ⟨hFirst hOpens, List.forall_mem_nil _⟩
  | two hOpens hb _ => exact ⟨hFirst hOpens, by simpa using hb⟩
  | three hOpens hb hd _ => exact ⟨hFirst hOpens, by simpa using ⟨hb.1, hd⟩⟩
  | four hOpens hb hd he _ => exact ⟨hFirst hOpens, by simpa using ⟨hb.1, hd, he⟩⟩

variable {text part : List Char} {offset start stop : Nat}

/-- The boundaries of a text are its start and those behind its first character. -/
theorem isBoundary_cons_iff {c : Char} {cs : List Char} :
    isBoundary (c :: cs) offset = true ↔
      offset = 0 ∨ ∃ behind, offset = c.utf8Size + behind ∧ isBoundary cs behind = true := by
  obtain ⟨first, more, hBytes, hSize, hFirst, hMore⟩ := exists_utf8EncodeChar_eq_cons c
  rw [isBoundary, List.flatMap_cons, hBytes, List.cons_append]
  rcases offset with _ | offset
  · simp [hFirst]
  rw [List.getElem?_cons_succ, List.length_cons, List.length_append]
  by_cases hInside : offset < more.length
  · -- a byte of the first character that does not start it
    rw [List.getElem?_append_left hInside, List.getElem?_eq_getElem hInside]
    have hByte := hMore _ (List.getElem_mem hInside)
    simp only [hByte, Bool.not_true, Bool.false_eq_true, Nat.add_one_ne_zero, false_or, false_iff]
    rintro ⟨behind, hOffset, -⟩
    omega
  · obtain ⟨behind, rfl⟩ := Nat.exists_eq_add_of_le (Nat.not_lt.mp hInside)
    have hSame (n : Nat) : more.length + behind + 1 = c.utf8Size + n ↔ n = behind := by omega
    have hLength (n : Nat) : more.length + behind + 1 = more.length + n + 1 ↔ behind = n := by omega
    rw [List.getElem?_append_right (Nat.le_add_right _ _), Nat.add_sub_cancel_left]
    simp only [hLength, hSame, Nat.add_one_ne_zero, false_or, exists_eq_left, isBoundary]

theorem seam_cons_iff {c : Char} {cs : List Char} :
    Seam (c :: cs) offset ↔
      offset = 0 ∨ ∃ behind, offset = c.utf8Size + behind ∧ Seam cs behind := by
  constructor
  · rintro ⟨before, rest, hText, rfl⟩
    cases before with
    | nil => exact .inl rfl
    | cons d before =>
      obtain ⟨rfl, rfl⟩ := List.cons.inj hText
      exact .inr ⟨byteSize before, rfl, before, rest, rfl, rfl⟩
  · rintro (rfl | ⟨_, rfl, before, rest, rfl, rfl⟩)
    · exact seam_zero _
    · exact ⟨c :: before, rest, rfl, rfl⟩

/-- **The boundaries of a text are its seams.** -/
theorem isBoundary_iff_seam : isBoundary text offset = true ↔ Seam text offset := by
  induction text generalizing offset with
  | nil =>
    have hNil : isBoundary [] offset = decide (offset = 0) := rfl
    rw [hNil, decide_eq_true_eq]
    constructor
    · rintro rfl
      exact seam_zero _
    · rintro ⟨before, rest, hText, rfl⟩
      rw [(List.append_eq_nil_iff.mp hText.symm).1]
      rfl
  | cons c cs ih =>
    rw [isBoundary_cons_iff, seam_cons_iff]
    simp only [ih]

/-! ### Cuts -/

/-- The offsets stand in a text in their order, and none of them divides a character. -/
structure OffsetsFit (text : List Char) (start stop : Nat) : Prop where
  ordered : start ≤ stop
  inRange : stop ≤ byteSize text
  starts : isBoundary text start = true
  stops : isBoundary text stop = true

instance (text : List Char) (start stop : Nat) : Decidable (OffsetsFit text start stop) :=
  decidable_of_iff
    (start ≤ stop ∧ stop ≤ byteSize text ∧ isBoundary text start = true ∧
      isBoundary text stop = true)
    ⟨fun ⟨hOrdered, hRange, hStart, hStop⟩ => ⟨hOrdered, hRange, hStart, hStop⟩,
      fun h => ⟨h.ordered, h.inRange, h.starts, h.stops⟩⟩

/-- Offsets that do not fit their text. -/
structure Misfit where
  text : List Char
  start : Nat
  stop : Nat
  deriving Repr, DecidableEq

/-- Takes out what stands between two byte offsets, and fails where they do not fit. -/
def cut (text : List Char) (start stop : Nat) : Except Misfit (List Char) :=
  if OffsetsFit text start stop then .ok (slice text start stop) else .error ⟨text, start, stop⟩

/-- The part stands in the text between the offsets. -/
def StandsBetween (text part : List Char) (start stop : Nat) : Prop :=
  ∃ before behind, text = before ++ (part ++ behind) ∧ start = byteSize before ∧
    stop = start + byteSize part

/-- **Offsets fit a text exactly if a part of it stands between them.** -/
theorem offsetsFit_iff :
    OffsetsFit text start stop ↔ ∃ part, StandsBetween text part start stop := by
  constructor
  · intro h
    obtain ⟨before, rest, hBefore, hStart⟩ := isBoundary_iff_seam.mp h.starts
    obtain ⟨upTo, behind, hUpTo, hStop⟩ := isBoundary_iff_seam.mp h.stops
    have hOrdered : byteSize before ≤ byteSize upTo := by
      rw [← hStart, ← hStop]
      exact h.ordered
    obtain ⟨part, rfl⟩ := prefix_of_byteSize_le hBefore hUpTo hOrdered
    exact ⟨part, before, behind, by rw [hUpTo, List.append_assoc], hStart,
      by rw [hStop, hStart, byteSize_append]⟩
  · rintro ⟨part, before, behind, hText, rfl, rfl⟩
    have hRange : byteSize before + byteSize part ≤ byteSize text := by
      rw [hText, byteSize_append, byteSize_append]
      omega
    exact ⟨Nat.le_add_right _ _, hRange, isBoundary_iff_seam.mpr ⟨before, _, hText, rfl⟩,
      isBoundary_iff_seam.mpr (seam_of_eq hText)⟩

/-- **A cut gives the part between its offsets**, and fails if there is none. -/
theorem cut_eq_ok_iff : cut text start stop = .ok part ↔ StandsBetween text part start stop := by
  have hSlice {p : List Char} : StandsBetween text p start stop → slice text start stop = p := by
    rintro ⟨before, behind, hText, hStart, hStop⟩
    exact slice_of_eq hText hStart hStop
  rw [cut]
  split
  next hFits =>
    obtain ⟨p, hStands⟩ := offsetsFit_iff.mp hFits
    rw [hSlice hStands, Except.ok.injEq]
    constructor
    · rintro rfl
      exact hStands
    · intro hPart
      rw [← hSlice hStands, hSlice hPart]
  next hMisfit =>
    constructor
    · exact nofun
    · intro hPart
      exact absurd (offsetsFit_iff.mpr ⟨part, hPart⟩) hMisfit

/-- An offset in the middle of a character of two bytes. -/
example : cut ['é', 'a'] 1 3 = .error ⟨['é', 'a'], 1, 3⟩ := rfl

end BuildScan.Text
