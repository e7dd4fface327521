import BuildScan.Proofs.Places
import BuildScan.Proofs.Seams
import BuildScan.Tags

/-!
# Lines and positions of parts of a text

The lines of a text, which end at `\n` only, are its parts between the line ends, `splitAt '\n'`.  A
part of a text lies on lines of the whole: the line `i` of the part is inside the line that has as
many line ends before it more (`exists_line_of_isInfix`).  A recognizer drops the `\r` in front of a
line end, so its lines are the beginnings of such lines (`exists_line_of_mem_lines`).

Positions are ordered by line and column (`Position.Before`).  A stretch of text leads forward
(`Position.before_after`), so of two offsets that divide no character the smaller one has the
earlier position (`Position.ofOffset_before`).
-/

namespace BuildScan

open BuildScan.Text

/-! ### Lines -/

theorem splitAt_ne_nil (c : Char) (cs : List Char) : splitAt c cs ≠ [] := by
  cases cs with
  | nil => exact List.cons_ne_nil _ _
  | cons d cs =>
    rw [splitAt]
    split
    · exact List.cons_ne_nil _ _
    · split
      · exact List.cons_ne_nil _ _
      · exact List.cons_ne_nil _ _

theorem splitAt_self (c : Char) (cs : List Char) : splitAt c (c :: cs) = [] :: splitAt c cs := by
  rw [splitAt, if_pos rfl]

theorem splitAt_of_ne {c d : Char} (h : d ≠ c) (cs : List Char) :
    ∃ part parts, splitAt c cs = part :: parts ∧ splitAt c (d :: cs) = (d :: part) :: parts := by
  cases hParts : splitAt c cs with
  | nil => exact absurd hParts (splitAt_ne_nil c cs)
  | cons part parts => exact ⟨part, parts, rfl, by rw [splitAt, if_neg h, hParts]⟩

theorem length_splitAt (c : Char) (cs : List Char) : (splitAt c cs).length = cs.count c + 1 := by
  induction cs with
  | nil => rfl
  | cons d cs ih =>
    by_cases hEq : d = c
    · subst hEq
      rw [splitAt_self, List.length_cons, ih, List.count_cons_self]
    · obtain ⟨part, parts, hParts, hCons⟩ := splitAt_of_ne hEq cs
      rw [hParts, List.length_cons] at ih
      rw [hCons, List.length_cons, ih, List.count_cons_of_ne hEq]

theorem splitAt_of_notMem {c : Char} {cs : List Char} (h : c ∉ cs) : splitAt c cs = [cs] := by
  induction cs with
  | nil => rfl
  | cons d cs ih =>
    rw [List.mem_cons, not_or] at h
    rw [splitAt, if_neg (Ne.symm h.1), ih h.2]

theorem getElem?_count_splitAt (c : Char) (cs : List Char) :
    (splitAt c cs)[cs.count c]? = some ((splitAt c cs).getLastD []) := by
  have hLength := length_splitAt c cs
  have hLast : (splitAt c cs).getLast? = (splitAt c cs)[cs.count c]? := by
    rw [List.getLast?_eq_getElem?, hLength, Nat.add_sub_cancel]
  obtain ⟨line, hLine⟩ : ∃ line, (splitAt c cs)[cs.count c]? = some line :=
    ⟨_, List.getElem?_eq_getElem (by omega)⟩
  rw [List.getLastD_eq_getLast?, hLast, hLine]
  rfl

/-- What follows a text lengthens its last line only. -/
theorem exists_line_append_right {c : Char} {xs part : List Char} {i : Nat}
    (h : (splitAt c xs)[i]? = some part) (ys : List Char) :
    ∃ line, (splitAt c (xs ++ ys))[i]? = some line ∧ part <+: line := by
  induction xs generalizing i part with
  | nil =>
    cases i with
    | zero =>
      obtain rfl : [] = part := Option.some.inj h
      obtain ⟨line, lines, hLines⟩ := List.exists_cons_of_ne_nil (splitAt_ne_nil c ([] ++ ys))
      exact ⟨line, by rw [hLines]; rfl, List.nil_prefix⟩
    | succ i => cases h
  | cons d xs ih =>
    rw [List.cons_append]
    by_cases hEq : d = c
    · subst hEq
      rw [splitAt_self] at h ⊢
      cases i with
      | zero => exact ⟨[], rfl, Option.some.inj h ▸ List.prefix_rfl⟩
      | succ i => exact ih h
    · obtain ⟨first, others, hOld, hOldCons⟩ := splitAt_of_ne hEq xs
      obtain ⟨first', others', hNew, hNewCons⟩ := splitAt_of_ne hEq (xs ++ ys)
      rw [hOldCons] at h
      rw [hNewCons]
      cases i with
      | zero =>
        obtain rfl : d :: first = part := Option.some.inj h
        have hFirst : (splitAt c xs)[0]? = some first := by rw [hOld]; rfl
        obtain ⟨line, hLine, hPrefix⟩ := ih hFirst
        rw [hNew] at hLine
        obtain rfl : first' = line := Option.some.inj hLine
        exact ⟨d :: first', rfl, (List.prefix_cons_inj d).mpr hPrefix⟩
      | succ i =>
        have hPart : (splitAt c xs)[i + 1]? = some part := by rw [hOld]; exact h
        obtain ⟨line, hLine, hPrefix⟩ := ih hPart
        rw [hNew] at hLine
        exact ⟨line, hLine, hPrefix⟩

/-- What precedes a text shifts its lines, and lengthens the first one. -/
theorem exists_line_append_left {c : Char} (xs : List Char) {ys part : List Char} {i : Nat}
    (h : (splitAt c ys)[i]? = some part) :
    ∃ line, (splitAt c (xs ++ ys))[xs.count c + i]? = some line ∧ part <:+ line := by
  induction xs with
  | nil => exact ⟨part, by rw [List.count_nil, Nat.zero_add]; exact h, List.suffix_rfl⟩
  | cons d xs ih =>
    obtain ⟨line, hLine, hSuffix⟩ := ih
    rw [List.cons_append]
    by_cases hEq : d = c
    · subst hEq
      refine ⟨line, ?_, hSuffix⟩
      rw [splitAt_self, List.count_cons_self, Nat.add_right_comm]
      exact hLine
    · obtain ⟨first, others, hOld, hCons⟩ := splitAt_of_ne hEq (xs ++ ys)
      rw [hOld] at hLine
      rw [hCons, List.count_cons_of_ne hEq]
      cases hIndex : xs.count c + i with
      | zero =>
        rw [hIndex] at hLine
        obtain rfl : first = line := Option.some.inj hLine
        exact ⟨d :: first, rfl, hSuffix.trans (List.suffix_cons d first)⟩
      | succ k =>
        rw [hIndex] at hLine
        exact ⟨line, hLine, hSuffix⟩

/-- **A line of a part of a text is inside a line of the text.** -/
theorem exists_line_of_isInfix {c : Char} (xs : List Char) {ys part : List Char} {i : Nat}
    (h : (splitAt c ys)[i]? = some part) (zs : List Char) :
    ∃ line, (splitAt c (xs ++ (ys ++ zs)))[xs.count c + i]? = some line ∧ part <:+: line := by
  obtain ⟨middle, hMiddle, hPrefix⟩ := exists_line_append_right h zs
  obtain ⟨line, hLine, hSuffix⟩ := exists_line_append_left xs hMiddle
  exact ⟨line, hLine, hPrefix.isInfix.trans hSuffix.isInfix⟩

/-- A recognizer's lines are those between line ends, without a `\r` in front of them. -/
theorem exists_line_of_mem_lines {cs l : List Char} {i : Nat} (h : (lines cs)[i]? = some l) :
    ∃ line, (splitAt '\n' cs)[i]? = some line ∧ l <+: line := by
  induction cs using lines.induct generalizing i l with
  | case1 => cases h
  | case2 cs ih =>
    rw [lines] at h
    rw [splitAt_self]
    cases i with
    | zero => exact ⟨[], rfl, Option.some.inj h ▸ List.prefix_rfl⟩
    | succ i => exact ih h
  | case3 cs ih =>
    rw [lines] at h
    have hReturn : '\r' ≠ '\n' := by decide
    obtain ⟨first, others, hRest, hCons⟩ := splitAt_of_ne hReturn ('\n' :: cs)
    rw [splitAt_self] at hRest
    obtain ⟨rfl, rfl⟩ := List.cons.inj hRest
    rw [hCons]
    cases i with
    | zero => exact ⟨['\r'], rfl, Option.some.inj h ▸ List.nil_prefix⟩
    | succ i => exact ih h
  | case4 c cs hEnd hReturn ih =>
    rw [lines] at h
    · obtain ⟨first, others, hRest, hCons⟩ := splitAt_of_ne hEnd cs
      rw [hCons]
      cases hLines : lines cs with
      | nil =>
        rw [hLines] at h
        cases i with
        | zero =>
          obtain rfl : [c] = l := Option.some.inj h
          exact ⟨c :: first, rfl, (List.prefix_cons_inj c).mpr List.nil_prefix⟩
        | succ i => cases h
      | cons k ks =>
        rw [hLines] at h ih
        rw [hRest] at ih
        cases i with
        | zero =>
          obtain rfl : c :: k = l := Option.some.inj h
          obtain ⟨line, hLine, hPrefix⟩ := ih (i := 0) rfl
          obtain rfl : first = line := Option.some.inj hLine
          exact ⟨c :: first, rfl, (List.prefix_cons_inj c).mpr hPrefix⟩
        | succ i => exact ih (i := i + 1) h
    · exact hEnd
    · exact hReturn

theorem notMem_of_mem_splitAt {c : Char} {cs part : List Char} (h : part ∈ splitAt c cs) :
    c ∉ part := by
  induction cs generalizing part with
  | nil =>
    obtain rfl := List.mem_singleton.mp h
    exact List.not_mem_nil
  | cons d cs ih =>
    by_cases hEq : d = c
    · subst hEq
      rw [splitAt_self] at h
      rcases List.mem_cons.mp h with rfl | h
      · exact List.not_mem_nil
      · exact ih h
    · obtain ⟨first, others, hParts, hCons⟩ := splitAt_of_ne hEq cs
      rw [hCons] at h
      rw [hParts] at ih
      rcases List.mem_cons.mp h with rfl | h
      · intro hMem
        rcases List.mem_cons.mp hMem with hSame | hMem
        · exact hEq hSame.symm
        · exact ih List.mem_cons_self hMem
      · exact ih (List.mem_cons_of_mem _ h)

/-! ### Positions -/

namespace Text.Position

/-- The position comes earlier: on an earlier line, or on the same line farther to the left. -/
def Before (p q : Position) : Prop := p.line < q.line ∨ (p.line = q.line ∧ p.column < q.column)

instance (p q : Position) : Decidable (p.Before q) :=
  inferInstanceAs (Decidable (p.line < q.line ∨ (p.line = q.line ∧ p.column < q.column)))

variable {p q r : Position}

theorem Before.irrefl (p : Position) : ¬ p.Before p := by
  rintro (hLine | ⟨-, hColumn⟩)
  · omega
  · omega

theorem Before.trans (hpq : p.Before q) (hqr : q.Before r) : p.Before r := by
  rw [Before] at hpq hqr ⊢
  omega

theorem Before.trans_not (hpq : p.Before q) (hrq : ¬ r.Before q) : p.Before r := by
  rw [Before] at hpq hrq ⊢
  omega

theorem before_next (p : Position) (c : Char) : p.Before (p.next c) := by
  rw [next]
  split
  · exact .inl (Nat.lt_succ_self _)
  · exact .inr ⟨rfl, Nat.lt_add_of_pos_right c.utf8Size_pos⟩

/-- **Text leads forward.** -/
theorem before_after {cs : List Char} (h : cs ≠ []) (p : Position) : p.Before (p.after cs) := by
  induction cs generalizing p with
  | nil => exact absurd rfl h
  | cons c cs ih =>
    have hStep : p.after (c :: cs) = (p.next c).after cs := rfl
    rw [hStep]
    by_cases hNil : cs = []
    · subst hNil
      exact before_next p c
    · exact (before_next p c).trans (ih hNil _)

/-- Where a text ends: behind its last line, which the first one of them has something in front
of. -/
theorem after_eq (p : Position) {cs last : List Char}
    (h : (splitAt '\n' cs)[cs.count '\n']? = some last) :
    p.after cs = ⟨p.line + cs.count '\n',
      (if cs.count '\n' = 0 then p.column else 1) + byteSize last⟩ := by
  induction cs generalizing p last with
  | nil =>
    obtain rfl : [] = last := Option.some.inj h
    rfl
  | cons c cs ih =>
    have hStep : p.after (c :: cs) = (p.next c).after cs := rfl
    rw [hStep]
    by_cases hEnd : c = '\n'
    · subst hEnd
      rw [splitAt_self, List.count_cons_self] at h
      have hNext : p.next '\n' = ⟨p.line + 1, 1⟩ := rfl
      rw [ih _ h, hNext, List.count_cons_self, if_neg (Nat.succ_ne_zero _), ite_self]
      simp only [Nat.add_right_comm, Nat.add_assoc]
    · obtain ⟨first, others, hParts, hCons⟩ := splitAt_of_ne hEnd cs
      have hNext : p.next c = ⟨p.line, p.column + c.utf8Size⟩ := if_neg hEnd
      rw [hCons, List.count_cons_of_ne hEnd] at h
      rw [List.count_cons_of_ne hEnd]
      rw [hParts] at ih
      cases hCount : cs.count '\n' with
      | zero =>
        rw [hCount] at h ih
        obtain rfl : c :: first = last := Option.some.inj h
        rw [ih (p.next c) rfl, hNext, if_pos rfl, if_pos rfl, byteSize, Nat.add_assoc]
      | succ k =>
        rw [hCount] at h ih
        rw [ih (p.next c) h, hNext, if_neg (Nat.succ_ne_zero k), if_neg (Nat.succ_ne_zero k)]

/-- The position behind some text counts its lines, and the bytes of the last one. -/
theorem after_origin (before : List Char) : origin.after before =
    ⟨(splitAt '\n' before).length, byteSize ((splitAt '\n' before).getLastD []) + 1⟩ := by
  have hLast := getElem?_count_splitAt '\n' before
  have hColumn : (if before.count '\n' = 0 then origin.column else 1) = 1 := ite_self 1
  have hLine : origin.line + before.count '\n' = before.count '\n' + 1 := Nat.add_comm 1 _
  rw [after_eq origin hLast, length_splitAt, hColumn, hLine, Nat.add_comm 1]

/-- Of two offsets that divide no character the smaller one has the earlier position. -/
theorem ofOffset_before {source : List Char} {m n : Nat} (hm : Seam source m) (hn : Seam source n)
    (h : m < n) : (ofOffset source m).Before (ofOffset source n) := by
  obtain ⟨left, leftRest, hLeft, rfl⟩ := hm
  obtain ⟨right, rightRest, hRight, rfl⟩ := hn
  obtain ⟨between, rfl⟩ := prefix_of_byteSize_le hLeft hRight (Nat.le_of_lt h)
  have hNil : between ≠ [] := by
    rintro rfl
    rw [List.append_nil] at h
    omega
  rw [ofOffset_of_eq hLeft, ofOffset_of_eq hRight, after_append]
  exact before_after hNil _

theorem not_ofOffset_before {source : List Char} {m n : Nat} (hm : Seam source m)
    (hn : Seam source n) (h : m ≤ n) : ¬ (ofOffset source n).Before (ofOffset source m) := by
  rcases Nat.lt_or_eq_of_le h with hLess | rfl
  · intro hBack
    exact Before.irrefl _ (hBack.trans (ofOffset_before hm hn hLess))
  · exact Before.irrefl _

end Text.Position

end BuildScan
