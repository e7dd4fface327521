import BuildScan.Text.Blank
import BuildScan.Text.Lines

/-!
# Places, lines and words of composed texts

A text that is put together from parts is cut at the seams: `takeBytes_byteSize` and
`dropBytes_byteSize` give the parts back by their sizes, and `slice_of_eq` a part in the middle.
The line of a place counts the line ends before it (`after_line`), so behind a line end a new line
starts at its first column (`after_lineEnd`).  In the other direction `lines_append` splits off the
first line of a text.
-/

namespace BuildScan.Text

/-! ### Bytes -/

theorem takeBytes_byteSize (xs ys : List Char) : takeBytes (byteSize xs) (xs ++ ys) = xs := by
  induction xs with
  | nil =>
    cases ys with
    | nil => rfl
    | cons c cs => rw [List.nil_append, byteSize, takeBytes, if_pos rfl]
  | cons c cs ih =>
    have hPos := c.utf8Size_pos
    have hRest : c.utf8Size + byteSize cs - c.utf8Size = byteSize cs := by omega
    rw [List.cons_append, byteSize, takeBytes, if_neg (by omega), hRest, ih]

theorem dropBytes_byteSize (xs ys : List Char) : dropBytes (byteSize xs) (xs ++ ys) = ys := by
  induction xs with
  | nil =>
    cases ys with
    | nil => rfl
    | cons c cs => rw [List.nil_append, byteSize, dropBytes, if_pos rfl]
  | cons c cs ih =>
    have hPos := c.utf8Size_pos
    have hRest : c.utf8Size + byteSize cs - c.utf8Size = byteSize cs := by omega
    rw [List.cons_append, byteSize, dropBytes, if_neg (by omega), hRest, ih]

/-- A part of a text is what stands between its ends. -/
theorem slice_of_eq {source before part rest : List Char} (h : source = before ++ (part ++ rest))
    {start stop : Nat} (hStart : start = byteSize before) (hStop : stop = start + byteSize part) :
    slice source start stop = part := by
  have hSize : stop - start = byteSize part := by omega
  rw [slice, hSize, h, hStart, dropBytes_byteSize, takeBytes_byteSize]

/-! ### Positions -/

theorem count_lineEnd_of_forall {cs : List Char} (h : ∀ c ∈ cs, c ≠ '\n') : cs.count '\n' = 0 :=
  List.count_eq_zero.mpr fun hMem => h _ hMem rfl

namespace Position

theorem after_append (p : Position) (xs ys : List Char) :
    p.after (xs ++ ys) = (p.after xs).after ys := List.foldl_append

/-- The place at a seam of a text is the one behind its first part. -/
theorem ofOffset_of_eq {source before rest : List Char} (h : source = before ++ rest) :
    ofOffset source (byteSize before) = origin.after before := by
  rw [ofOffset, h, takeBytes_byteSize]

theorem after_line (p : Position) (cs : List Char) :
    (p.after cs).line = p.line + cs.count '\n' := by
  induction cs generalizing p with
  | nil => rfl
  | cons c cs ih =>
    have hStep : p.after (c :: cs) = (p.next c).after cs := rfl
    rw [hStep, ih, next]
    by_cases hEnd : c = '\n'
    · rw [if_pos hEnd, hEnd, List.count_cons_self]
      exact Nat.add_right_comm _ _ _
    · rw [if_neg hEnd, List.count_cons_of_ne hEnd]

theorem after_lineEnd (p : Position) (cs : List Char) :
    p.after (cs ++ ['\n']) = ⟨p.line + cs.count '\n' + 1, 1⟩ := by
  have hLast : (p.after cs).after ['\n'] = ⟨(p.after cs).line + 1, 1⟩ := rfl
  rw [after_append, hLast, after_line]

end Position

/-! ### Lines -/

/-- No character of the text belongs to the ending of a line. -/
def OneLine (cs : List Char) : Prop := ∀ c ∈ cs, c ≠ '\n' ∧ c ≠ '\r'

theorem oneLine_iff (cs : List Char) :
    cs.all (fun c => c != '\n' && c != '\r') = true ↔ OneLine cs := by
  simp only [List.all_eq_true, Bool.and_eq_true, bne_iff_ne, OneLine]

instance (cs : List Char) : Decidable (OneLine cs) := decidable_of_iff _ (oneLine_iff cs)

theorem OneLine.tail {c : Char} {cs : List Char} (h : OneLine (c :: cs)) : OneLine cs :=
  fun d hd => h d (List.mem_cons_of_mem _ hd)

theorem lines_cons {c : Char} {cs : List Char} (hLine : c ≠ '\n') (hReturn : c ≠ '\r') :
    lines (c :: cs) = extendFirst c (lines cs) := by
  rw [lines] <;> simp_all

theorem lines_append {l : List Char} (h : OneLine l) (cs : List Char) :
    lines (l ++ '\n' :: cs) = l :: lines cs := by
  induction l with
  | nil => rw [List.nil_append, lines]
  | cons c l ih =>
    obtain ⟨hLine, hReturn⟩ := h c List.mem_cons_self
    rw [List.cons_append, lines_cons hLine hReturn, ih h.tail, extendFirst]

theorem lines_of_oneLine {l : List Char} (h : OneLine l) (hNil : l ≠ []) : lines l = [l] := by
  induction l with
  | nil => exact absurd rfl hNil
  | cons c l ih =>
    obtain ⟨hLine, hReturn⟩ := h c List.mem_cons_self
    rw [lines_cons hLine hReturn]
    cases l with
    | nil => rfl
    | cons d l => rw [ih h.tail (List.cons_ne_nil _ _), extendFirst]

/-! ### Words -/

theorem words_of_forall {w : List Char} (h : ∀ c ∈ w, isBlank c = false) (hNil : w ≠ []) :
    words w = [w] := by
  induction w with
  | nil => exact absurd rfl hNil
  | cons c w ih =>
    have hFirst : ¬ isBlank c = true := by
      rw [h c List.mem_cons_self]
      exact Bool.false_ne_true
    rw [words, if_neg hFirst]
    cases w with
    | nil => rfl
    | cons d w =>
      have hSecond : ¬ opensBlank (d :: w) = true := by
        rw [opensBlank, h d (List.mem_cons_of_mem _ List.mem_cons_self)]
        exact Bool.false_ne_true
      rw [if_neg hSecond, ih (fun e he => h e (List.mem_cons_of_mem _ he)) (List.cons_ne_nil _ _)]

theorem mem_words {w cs : List Char} (h : w ∈ words cs) : w ≠ [] ∧ ∀ c ∈ w, isBlank c = false := by
  induction cs generalizing w with
  | nil => cases h
  | cons c cs ih =>
    rw [words] at h
    by_cases hBlank : isBlank c = true
    · rw [if_pos hBlank] at h
      exact ih h
    rw [if_neg hBlank] at h
    have hFirst : isBlank c = false := Bool.not_eq_true _ ▸ hBlank
    have hLetter : ∀ d ∈ [c], isBlank d = false := by simpa using hFirst
    by_cases hOpens : opensBlank cs = true
    · rw [if_pos hOpens] at h
      rcases List.mem_cons.mp h with rfl | hRest
      · exact ⟨List.cons_ne_nil _ _, hLetter⟩
      · exact ih hRest
    -- the character joins the word behind it
    rw [if_neg hOpens] at h
    cases hWords : words cs with
    | nil =>
      rw [hWords] at h
      rw [List.mem_singleton.mp h]
      exact ⟨List.cons_ne_nil _ _, hLetter⟩
    | cons first others =>
      rw [hWords] at h ih
      rcases List.mem_cons.mp h with rfl | hRest
      · exact ⟨List.cons_ne_nil _ _, List.forall_mem_cons.mpr ⟨hFirst, (ih List.mem_cons_self).2⟩⟩
      · exact ih (List.mem_cons_of_mem _ hRest)

theorem wordsOf_of_mem {word s : String} (h : word ∈ wordsOf s) : wordsOf word = [word] := by
  obtain ⟨w, hw, rfl⟩ := List.mem_map.mp h
  rw [wordsOf, String.toList_ofList, words_of_forall (mem_words hw).2 (mem_words hw).1,
    List.map_singleton]

theorem words_cons_of_blank {c : Char} (h : isBlank c = true) (cs : List Char) :
    words (c :: cs) = words cs := by
  rw [words, if_pos h]

theorem trimEnd_append {w : List Char} (h : ∀ c ∈ w, isBlank c = false) (hNil : w ≠ [])
    (cs : List Char) : trimEnd (cs ++ w) = cs ++ w := by
  have hReverse : ((cs ++ w).reverse.dropWhile isBlank) = (cs ++ w).reverse := by
    rw [List.reverse_append]
    cases hw : w.reverse with
    | nil => exact absurd (List.reverse_eq_nil_iff.mp hw) hNil
    | cons c rest =>
      have hMem : c ∈ w := by
        rw [← List.mem_reverse, hw]
        exact List.mem_cons_self
      rw [List.cons_append, List.dropWhile_cons_of_neg]
      rw [h c hMem]
      exact Bool.false_ne_true
  rw [trimEnd, hReverse, List.reverse_reverse]

end BuildScan.Text
