import BuildScan.Proofs.Recognizing

/-!
# Blanks at the seams of a text

Trimming takes away the blanks at the two ends of a text, so it undoes putting some there
(`trim_blanks_append`, `trim_append_blanks`), and it stops at the first character that is not blank
(`trim_append_of_trimmed`).  Every text is its trimmed part with blanks around it
(`exists_blanks_around`).

The first word of a text goes on to the next blank, and where a blank comes the words part
(`words_append_of_opensBlank`).  So a word in front of a text that opens with a blank is its first
word (`words_append`), and a text that does not open with a blank is its first word and such a text
(`exists_word_append`, `Trimmed.exists_append_of_words`).
-/

namespace BuildScan.Text

/-- Blanks and nothing else. -/
def Blanks (cs : List Char) : Prop := ∀ c ∈ cs, isBlank c = true

instance (cs : List Char) : Decidable (Blanks cs) :=
  decidable_of_iff (cs.all isBlank = true) List.all_eq_true

/-- Some characters, none of them blank. -/
def IsWord (cs : List Char) : Prop := cs ≠ [] ∧ ∀ c ∈ cs, isBlank c = false

theorem isWord_iff (cs : List Char) :
    (!cs.isEmpty && cs.all fun c => !isBlank c) = true ↔ IsWord cs := by
  simp only [Bool.and_eq_true, Bool.not_eq_true', List.isEmpty_eq_false_iff, List.all_eq_true,
    IsWord]

instance (cs : List Char) : Decidable (IsWord cs) := decidable_of_iff _ (isWord_iff cs)

theorem IsWord.trimmed {w : List Char} (h : IsWord w) : Trimmed w :=
  ⟨fun c hc => h.2 c (List.mem_of_mem_head? hc), fun c hc => h.2 c (List.mem_of_getLast? hc)⟩

variable {w xs cs : List Char}

/-! ### Trimming -/

theorem trimStart_blanks_append (h : Blanks w) (cs : List Char) :
    trimStart (w ++ cs) = trimStart cs := List.dropWhile_append_of_pos h

theorem trimEnd_append_blanks (h : Blanks w) (cs : List Char) : trimEnd (cs ++ w) = trimEnd cs := by
  have hReverse : ∀ c ∈ w.reverse, isBlank c = true := fun c hc => h c (List.mem_reverse.mp hc)
  rw [trimEnd, List.reverse_append, List.dropWhile_append_of_pos hReverse, trimEnd]

theorem trimStart_eq_nil_of_blanks (h : Blanks w) : trimStart w = [] := by
  have hAll := trimStart_blanks_append h []
  rwa [List.append_nil] at hAll

theorem trimStart_append_of_trimmed (h : Trimmed xs) (hNil : xs ≠ []) (cs : List Char) :
    trimStart (xs ++ cs) = xs ++ cs := by
  obtain ⟨c, rest, rfl⟩ := List.exists_cons_of_ne_nil hNil
  have hFirst : isBlank c = false := h.1 c rfl
  rw [trimStart, List.cons_append, List.dropWhile_cons_of_neg (by simp [hFirst])]

theorem trimEnd_append_of_trimmed (h : Trimmed xs) (hNil : xs ≠ []) (cs : List Char) :
    trimEnd (xs ++ cs) = xs ++ trimEnd cs := by
  have hLast : xs.reverse.dropWhile isBlank = xs.reverse := by
    obtain ⟨front, c, rfl⟩ := (List.eq_nil_or_concat' xs).resolve_left hNil
    have hBlank : isBlank c = false := h.2 c List.getLast?_concat
    rw [List.reverse_append, List.reverse_singleton, List.singleton_append,
      List.dropWhile_cons_of_neg (by simp [hBlank])]
  rw [trimEnd, trimEnd, List.reverse_append, List.dropWhile_append]
  split
  next hEmpty =>
    rw [List.isEmpty_iff.mp hEmpty, hLast, List.reverse_reverse, List.reverse_nil, List.append_nil]
  next => rw [List.reverse_append, List.reverse_reverse]

theorem trim_append_of_trimmed (h : Trimmed xs) (hNil : xs ≠ []) (cs : List Char) :
    trim (xs ++ cs) = xs ++ trimEnd cs := by
  rw [trim, trimStart_append_of_trimmed h hNil, trimEnd_append_of_trimmed h hNil]

/-- Only the ends of a text count for its being trimmed. -/
theorem Trimmed.append {ys : List Char} (hLeft : Trimmed xs) (hNil : xs ≠ []) (cs : List Char)
    (hRight : Trimmed ys) (hNil' : ys ≠ []) : Trimmed (xs ++ (cs ++ ys)) := by
  constructor
  · intro c hc
    refine hLeft.1 c ?_
    rwa [List.head?_append_of_ne_nil _ hNil] at hc
  · intro c hc
    refine hRight.2 c ?_
    rwa [← List.append_assoc, List.getLast?_append_of_ne_nil _ hNil'] at hc

theorem Trimmed.trim_eq (h : Trimmed cs) : trim cs = cs := by
  by_cases hNil : cs = []
  · rw [hNil]
    rfl
  · have hAll := trim_append_of_trimmed h hNil []
    rwa [List.append_nil, show trimEnd [] = [] from rfl, List.append_nil] at hAll

instance (cs : List Char) : Decidable (Trimmed cs) :=
  decidable_of_iff (trim cs = cs) ⟨fun h => h ▸ trimmed_trim cs, Trimmed.trim_eq⟩

theorem trim_blanks_append (h : Blanks w) (cs : List Char) : trim (w ++ cs) = trim cs := by
  rw [trim, trimStart_blanks_append h, trim]

theorem trim_append_blanks (h : Blanks w) (cs : List Char) : trim (cs ++ w) = trim cs := by
  have hStart : trimStart (cs ++ w) = trimStart cs ++ w ∨
      trimStart (cs ++ w) = [] ∧ trimStart cs = [] := by
    rw [trimStart, List.dropWhile_append]
    split
    next hEmpty => exact .inr ⟨trimStart_eq_nil_of_blanks h, List.isEmpty_iff.mp hEmpty⟩
    next => exact .inl rfl
  rw [trim, trim]
  rcases hStart with hKept | ⟨hAll, hLess⟩
  · rw [hKept, trimEnd_append_blanks h]
  · rw [hAll, hLess]

theorem exists_blanks_behind (cs : List Char) :
    ∃ behind, Blanks behind ∧ cs = trimEnd cs ++ behind := by
  refine ⟨(cs.reverse.takeWhile isBlank).reverse, ?_, ?_⟩
  · intro c hc
    exact List.mem_takeWhile_imp (List.mem_reverse.mp hc)
  · rw [trimEnd, ← List.reverse_append, List.takeWhile_append_dropWhile, List.reverse_reverse]

theorem exists_blanks_around (cs : List Char) :
    ∃ before behind, Blanks before ∧ Blanks behind ∧ cs = before ++ (trim cs ++ behind) := by
  obtain ⟨behind, hBehind, hTrim⟩ := exists_blanks_behind (trimStart cs)
  refine ⟨cs.takeWhile isBlank, behind, fun c hc => List.mem_takeWhile_imp hc, hBehind, ?_⟩
  rw [trim, ← hTrim, trimStart, List.takeWhile_append_dropWhile]

theorem trim_trimEnd (cs : List Char) : trim (trimEnd cs) = trim cs := by
  obtain ⟨behind, hBlanks, hText⟩ := exists_blanks_behind cs
  calc trim (trimEnd cs) = trim (trimEnd cs ++ behind) := (trim_append_blanks hBlanks _).symm
    _ = trim cs := by rw [← hText]

/-! ### Words -/

theorem opensBlank_append_blanks (h : Blanks w) (cs : List Char) :
    opensBlank (cs ++ w) = opensBlank cs := by
  cases cs with
  | nil =>
    cases w with
    | nil => rfl
    | cons c w => exact h c List.mem_cons_self
  | cons c cs => rfl

theorem opensBlank_of_blanks (h : Blanks w) : opensBlank w = true := opensBlank_append_blanks h []

theorem Trimmed.not_opensBlank (h : Trimmed xs) (hNil : xs ≠ []) (cs : List Char) :
    ¬ opensBlank (xs ++ cs) = true := by
  obtain ⟨c, rest, rfl⟩ := List.exists_cons_of_ne_nil hNil
  have hFirst : isBlank c = false := h.1 c rfl
  simp [opensBlank, hFirst]

theorem opensBlank_blanks_append (h : Blanks w) (hNil : w ≠ []) (cs : List Char) :
    opensBlank (w ++ cs) = true := by
  obtain ⟨c, rest, rfl⟩ := List.exists_cons_of_ne_nil hNil
  exact h c List.mem_cons_self

theorem takeWhile_isBlank_ne_nil (hOpens : opensBlank cs = true) (hNil : cs ≠ []) :
    cs.takeWhile isBlank ≠ [] := by
  obtain ⟨c, rest, rfl⟩ := List.exists_cons_of_ne_nil hNil
  have hFirst : isBlank c = true := hOpens
  rw [List.takeWhile_cons_of_pos hFirst]
  exact List.cons_ne_nil _ _

theorem words_blanks_append (h : Blanks w) (cs : List Char) : words (w ++ cs) = words cs := by
  induction w with
  | nil => rfl
  | cons c w ih =>
    obtain ⟨hFirst, hRest⟩ := List.forall_mem_cons.mp h
    rw [List.cons_append, words_cons_of_blank hFirst, ih hRest]

theorem words_ne_nil (h : ¬ opensBlank cs = true) : words cs ≠ [] := by
  cases cs with
  | nil => exact absurd rfl h
  | cons c cs =>
    have hFirst : ¬ isBlank c = true := h
    rw [words, if_neg hFirst]
    split
    · exact List.cons_ne_nil _ _
    · split <;> exact List.cons_ne_nil _ _

/-- No word goes on over a blank. -/
theorem words_append_of_opensBlank (xs : List Char) (hOpens : opensBlank cs = true) :
    words (xs ++ cs) = words xs ++ words cs := by
  induction xs with
  | nil => rfl
  | cons c xs ih =>
    rw [List.cons_append, words, words]
    by_cases hBlank : isBlank c = true
    · rw [if_pos hBlank, if_pos hBlank, ih]
    · have hSame : opensBlank (xs ++ cs) = opensBlank xs := by
        cases xs with
        | nil => exact hOpens
        | cons d xs => rfl
      rw [if_neg hBlank, if_neg hBlank, hSame]
      by_cases hNext : opensBlank xs = true
      · rw [if_pos hNext, if_pos hNext, ih, List.cons_append]
      · obtain ⟨v, vs, hWords⟩ := List.exists_cons_of_ne_nil (words_ne_nil hNext)
        rw [if_neg hNext, if_neg hNext, ih, hWords, List.cons_append, List.cons_append]

theorem words_append_blanks (h : Blanks w) (cs : List Char) : words (cs ++ w) = words cs := by
  have hNone := words_blanks_append h []
  rw [List.append_nil] at hNone
  rw [words_append_of_opensBlank cs (opensBlank_of_blanks h), hNone]
  exact List.append_nil _

theorem words_trimEnd (cs : List Char) : words (trimEnd cs) = words cs := by
  obtain ⟨behind, hBlanks, hText⟩ := exists_blanks_behind cs
  calc words (trimEnd cs) = words (trimEnd cs ++ behind) := (words_append_blanks hBlanks _).symm
    _ = words cs := by rw [← hText]

/-- A word that a blank or nothing follows is the first word. -/
theorem words_append (h : IsWord w) (hOpens : opensBlank cs = true) :
    words (w ++ cs) = w :: words cs := by
  rw [words_append_of_opensBlank w hOpens, words_of_forall h.2 h.1, List.singleton_append]

/-- A text that does not open with a blank is its first word and what follows it. -/
theorem exists_word_append (h : ¬ opensBlank cs = true) :
    ∃ w rest, IsWord w ∧ opensBlank rest = true ∧ cs = w ++ rest := by
  have hSplit := List.takeWhile_append_dropWhile (p := fun c => !isBlank c) (l := cs)
  refine ⟨cs.takeWhile fun c => !isBlank c, cs.dropWhile fun c => !isBlank c, ⟨?_, ?_⟩, ?_,
    hSplit.symm⟩
  · obtain ⟨c, rest, rfl⟩ : ∃ c rest, cs = c :: rest := by
      cases cs with
      | nil => exact absurd rfl h
      | cons c rest => exact ⟨c, rest, rfl⟩
    have hFirst : isBlank c = false := by simpa [opensBlank] using h
    simp [hFirst]
  · intro c hc
    simpa using List.mem_takeWhile_imp hc
  · have hHead := List.head?_dropWhile_not (fun c => !isBlank c) cs
    cases hRest : cs.dropWhile fun c => !isBlank c with
    | nil => rfl
    | cons c rest =>
      rw [hRest] at hHead
      simpa [opensBlank] using hHead

theorem Trimmed.exists_append_of_words {ws : List (List Char)} (h : Trimmed cs)
    (hWords : words cs = w :: ws) :
    ∃ rest, IsWord w ∧ opensBlank rest = true ∧ cs = w ++ rest := by
  have hNil : cs ≠ [] := by
    rintro rfl
    cases hWords
  obtain ⟨v, rest, hWord, hOpens, rfl⟩ :=
    exists_word_append (List.append_nil cs ▸ h.not_opensBlank hNil [])
  rw [words_append hWord hOpens] at hWords
  obtain ⟨rfl, -⟩ := List.cons.inj hWords
  exact ⟨rest, hWord, hOpens, rfl⟩

theorem IsWord.prefix_of_append_eq {v rest : List Char} (hv : IsWord v)
    (hOpens : opensBlank cs = true) (h : v ++ rest = w ++ cs) : v <+: w := by
  rcases List.append_eq_append_iff.mp h with ⟨more, rfl, -⟩ | ⟨more, rfl, rfl⟩
  · exact List.prefix_append _ _
  · cases more with
    | nil => exact ⟨[], by rw [List.append_nil, List.append_nil]⟩
    | cons c more =>
      have hBlank : isBlank c = true := hOpens
      have hLetter := hv.2 c (List.mem_append_right _ List.mem_cons_self)
      rw [hBlank] at hLetter
      cases hLetter

/-! ### Words of strings -/

section

variable {s t gap : String}

theorem isWord_of_mem_wordsOf (h : t ∈ wordsOf s) : IsWord t.toList := by
  obtain ⟨w, hw, rfl⟩ := List.mem_map.mp h
  rw [String.toList_ofList]
  exact mem_words hw

theorem wordsOf_of_isWord (h : IsWord s.toList) : wordsOf s = [s] := by
  rw [wordsOf, words_of_forall h.2 h.1, List.map_singleton, String.ofList_toList]

/-- Blanks between two texts part their words. -/
theorem wordsOf_append_gap (hNil : gap ≠ "") (hGap : Blanks gap.toList) (s t : String) :
    wordsOf (s ++ gap ++ t) = wordsOf s ++ wordsOf t := by
  have hOpens : opensBlank (gap.toList ++ t.toList) = true :=
    opensBlank_blanks_append hGap (mt String.toList_eq_nil_iff.mp hNil) _
  rw [wordsOf, String.toList_append, String.toList_append, List.append_assoc,
    words_append_of_opensBlank _ hOpens, words_blanks_append hGap, List.map_append]
  rfl

end

end BuildScan.Text
