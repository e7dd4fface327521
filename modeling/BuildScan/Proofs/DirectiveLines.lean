import BuildScan.Proofs.Blanks
import BuildScan.Proofs.Conditions

/-!
# The format of directive lines

A line of the body makes a directive if it is the marker, perhaps a condition that holds, a keyword,
and the payload with blanks around it.  A `Heading` is all of that in front of the payload.
`cgo_format_recognized` says that a line written in this format gives its directive back, and that
no other line gives one.

The recognizer takes a first word for a condition unless a colon ends it, and looks for the keyword
only then.  Behind a condition the payload may touch the keyword.  Without one it may not, unless a
colon ends the word that the two make (`colonClosesFirstWord`): otherwise that word counts as a
condition, and none with a colon in it ever holds.  `cgo?_of_condition` and `cgo?_of_keyword` say
what comes of the two forms of a line, whatever stands behind the keyword, and all else follows from
them.
-/

namespace BuildScan

open BuildScan.Text

/-! ### Conditions that hold -/

theorem exists_mem_splitAt {c separator : Char} (hne : c ≠ separator) {cs : List Char}
    (h : c ∈ cs) :
    ∃ part ∈ splitAt separator cs, c ∈ part := by
  induction cs with
  | nil => cases h
  | cons d cs ih =>
    by_cases hEq : d = separator
    · subst hEq
      obtain ⟨part, hPart, hc⟩ := ih ((List.mem_cons.mp h).resolve_left hne)
      exact ⟨part, by rw [splitAt_self]; exact List.mem_cons_of_mem _ hPart, hc⟩
    · obtain ⟨first, others, hParts, hCons⟩ := splitAt_of_ne hEq cs
      rw [hCons]
      rcases List.mem_cons.mp h with rfl | h
      · exact ⟨_, List.mem_cons_self, List.mem_cons_self⟩
      · obtain ⟨part, hPart, hc⟩ := ih h
        rw [hParts] at hPart
        rcases List.mem_cons.mp hPart with rfl | hPart
        · exact ⟨_, List.mem_cons_self, List.mem_cons_of_mem _ hc⟩
        · exact ⟨part, List.mem_cons_of_mem _ hPart, hc⟩

namespace BuildTags

variable {tags : BuildTags} {t : List Char}

/-- The characters that a condition may be written with. -/
def isConditionChar (c : Char) : Bool := isNameChar c || c == '!' || c == ','

theorem isConditionChar_of_termHolds (h : tags.termHolds t = true) {c : Char} (hc : c ∈ t) :
    isConditionChar c = true := by
  rw [termHolds.eq_def] at h
  split at h
  next name =>
    have hName := (Bool.and_eq_true_iff.mp (Bool.and_eq_true_iff.mp h).1).2
    rcases List.mem_cons.mp hc with rfl | hc
    · rfl
    · simp [isConditionChar, List.all_eq_true.mp hName c hc]
  next =>
    have hName := (Bool.and_eq_true_iff.mp (Bool.and_eq_true_iff.mp h).1).2
    simp [isConditionChar, List.all_eq_true.mp hName c hc]

/-- A condition that holds is written with nothing but names, `!` and commas. -/
theorem isConditionChar_of_holds (h : tags.holds t = true) {c : Char} (hc : c ∈ t) :
    isConditionChar c = true := by
  rw [holds_eq_all] at h
  by_cases hComma : c = ','
  · subst hComma
    rfl
  · obtain ⟨part, hPart, hc⟩ := exists_mem_splitAt hComma hc
    exact isConditionChar_of_termHolds (List.all_eq_true.mp h part hPart) hc

theorem holds_eq_false_of_colon (h : ':' ∈ t) : tags.holds t = false := by
  by_contra hHolds
  have hColon := isConditionChar_of_holds (Bool.not_eq_false _ ▸ hHolds) h
  exact absurd hColon (by decide)

theorem toNat_of_isConditionChar {c : Char} (h : isConditionChar c = true) :
    0x21 ≤ c.toNat ∧ c.toNat < 0x80 := by
  simp only [isConditionChar, isNameChar, Bool.or_eq_true, beq_iff_eq] at h
  rcases h with (((hAlphanum | rfl) | rfl) | rfl) | rfl
  · exact toNat_of_isAlphanum hAlphanum
  · decide
  · decide
  · decide
  · decide

theorem isBlank_of_isConditionChar {c : Char} (h : isConditionChar c = true) :
    isBlank c = false := by
  obtain ⟨hLow, hHigh⟩ := toNat_of_isConditionChar h
  simp only [isBlank, Bool.or_eq_false_iff, Bool.and_eq_false_iff, decide_eq_false_iff_not,
    beq_eq_false_iff_ne]
  omega

/-- A condition that holds is a word, and no colon ends it. -/
theorem isWord_of_holds (h : tags.holds t = true) : IsWord t ∧ t.getLast? ≠ some ':' := by
  refine ⟨⟨?_, fun c hc => isBlank_of_isConditionChar (isConditionChar_of_holds h hc)⟩, ?_⟩
  · rintro rfl
    cases h
  · intro hColon
    exact absurd (isConditionChar_of_holds h (List.mem_of_getLast? hColon)) (by decide)

end BuildTags

/-! ### Headings -/

/-- Some blanks, at least one. -/
structure Gap where
  text : List Char
  nonempty : text ≠ []
  blanks : Blanks text

/-- A single space. -/
def Gap.space : Gap := ⟨[' '], List.cons_ne_nil _ _, by decide⟩

/-- A condition with the gap behind it.  It does not end with a colon: a keyword does. -/
structure Condition where
  word : List Char
  isWord : IsWord word
  noColon : word.getLast? ≠ some ':'
  gap : Gap

def Condition.text (c : Condition) : List Char := c.word ++ c.gap.text

/-- What a line has in front of its payload. -/
structure Heading where
  gap : Gap
  condition : Option Condition
  keyword : String
  kind : DirectiveKind
  known : (keyword, kind) ∈ Directive.keywords

namespace Heading

def text (h : Heading) : List Char :=
  "#cgo".toList ++ (h.gap.text ++ ((h.condition.elim [] Condition.text) ++ h.keyword.toList))

/-- The line has no condition, or one that holds. -/
def holds (tags : BuildTags) (h : Heading) : Bool := h.condition.all fun c => tags.holds c.word

end Heading

namespace Directive

variable {tags : BuildTags} {keyword : String} {kind : DirectiveKind}

theorem isWord_of_mem_keywords (h : (keyword, kind) ∈ keywords) :
    IsWord keyword.toList ∧ keyword.toList.getLast? = some ':' := by
  have hAll : ∀ k ∈ keywords, IsWord k.1.toList ∧ k.1.toList.getLast? = some ':' := by decide
  exact hAll _ h

/-- No keyword begins another one. -/
theorem keyed?_append (h : (keyword, kind) ∈ keywords) (rest : List Char) :
    keyed? (keyword.toList ++ rest) = some (kind, trim rest) := by
  simp only [keywords, List.mem_cons, Prod.mk.injEq, List.not_mem_nil, or_false] at h
  rcases h with ⟨rfl, rfl⟩ | ⟨rfl, rfl⟩ | ⟨rfl, rfl⟩
  · rfl
  · rfl
  · rfl

theorem exists_keyword_of_keyed? {message payload : List Char}
    (h : keyed? message = some (kind, payload)) :
    ∃ keyword rest, (keyword, kind) ∈ keywords ∧ message = keyword.toList ++ rest ∧
      payload = trim rest := by
  obtain ⟨⟨keyword, kind'⟩, hMem, hKeyed⟩ := List.exists_of_findSome?_eq_some h
  obtain ⟨rest, hBehind, hSaid⟩ := Option.map_eq_some_iff.mp hKeyed
  obtain ⟨rfl, rfl⟩ := Prod.mk.inj hSaid
  exact ⟨keyword, rest, hMem, eq_of_behind? hBehind, rfl⟩

theorem cgo?_gap (gap : Gap) (rest : List Char) :
    cgo? tags ("#cgo".toList ++ (gap.text ++ rest)) =
      (unconditional? tags (trim rest)).bind keyed? := by
  rw [cgo?, behind?_append, Option.bind_some,
    if_pos (opensBlank_blanks_append gap.blanks gap.nonempty rest), trim_blanks_append gap.blanks]

theorem unconditional?_condition (c : Condition) {message : List Char}
    (h : trimStart message = message) :
    unconditional? tags (c.text ++ message) = if tags.holds c.word then some message else none := by
  have hOpens := opensBlank_blanks_append c.gap.blanks c.gap.nonempty message
  rw [Condition.text, List.append_assoc, unconditional?, words_append c.isWord hOpens]
  simp only [if_neg c.noColon, List.drop_left]
  rw [trimStart_blanks_append c.gap.blanks, h]

/-- **Behind a condition** a keyword is found whatever follows it. -/
theorem cgo?_of_condition (gap : Gap) (c : Condition) (h : (keyword, kind) ∈ keywords)
    (rest : List Char) :
    cgo? tags ("#cgo".toList ++ (gap.text ++ (c.text ++ (keyword.toList ++ rest)))) =
      if tags.holds c.word then some (kind, trim rest) else none := by
  obtain ⟨hWord, -⟩ := isWord_of_mem_keywords h
  have hTrimmed : Trimmed (c.text ++ keyword.toList) := by
    rw [Condition.text, List.append_assoc]
    exact c.isWord.trimmed.append c.isWord.1 _ hWord.trimmed hWord.1
  have hTrim :
      trim (c.text ++ (keyword.toList ++ rest)) = c.text ++ (keyword.toList ++ trimEnd rest) := by
    rw [← List.append_assoc,
      trim_append_of_trimmed hTrimmed (List.append_ne_nil_of_right_ne_nil _ hWord.1),
      List.append_assoc]
  have hStart : trimStart (keyword.toList ++ trimEnd rest) = keyword.toList ++ trimEnd rest :=
    trimStart_append_of_trimmed hWord.trimmed hWord.1 _
  rw [cgo?_gap, hTrim, unconditional?_condition c hStart]
  split
  · rw [Option.bind_some, keyed?_append h, trim_trimEnd]
  · rfl

/-- A colon ends the first word of a text. -/
def colonClosesFirstWord (cs : List Char) : Bool := (words cs).head?.bind List.getLast? == some ':'

/-- **Without a condition** the keyword is found if a colon ends the word that it opens.  Otherwise
this word counts as a condition, which does not hold for the keyword's own colon. -/
theorem cgo?_of_keyword (gap : Gap) (h : (keyword, kind) ∈ keywords) (rest : List Char) :
    cgo? tags ("#cgo".toList ++ (gap.text ++ (keyword.toList ++ rest))) =
      if colonClosesFirstWord (keyword.toList ++ rest) then some (kind, trim rest) else none := by
  obtain ⟨hWord, hColon⟩ := isWord_of_mem_keywords h
  have hTrim := trim_append_of_trimmed hWord.trimmed hWord.1 rest
  obtain ⟨first, tail, hFirst, hOpens, hSplit⟩ :=
    exists_word_append (hWord.trimmed.not_opensBlank hWord.1 rest)
  have hWords : words (keyword.toList ++ rest) = first :: words tail := by
    rw [hSplit, words_append hFirst hOpens]
  have hShorter : words (keyword.toList ++ trimEnd rest) = first :: words tail := by
    rw [← trimEnd_append_of_trimmed hWord.trimmed hWord.1, words_trimEnd, hWords]
  have hHolds : tags.holds first = false := by
    refine BuildTags.holds_eq_false_of_colon ?_
    exact (hWord.prefix_of_append_eq hOpens hSplit).subset (List.mem_of_getLast? hColon)
  rw [cgo?_gap, hTrim, unconditional?, hShorter, colonClosesFirstWord, hWords]
  by_cases hCloses : first.getLast? = some ':'
  · simp only [Option.bind_some, keyed?_append h, trim_trimEnd, List.head?_cons, hCloses,
      beq_self_eq_true, if_true]
  · simp [hCloses, hHolds]

theorem colonClosesFirstWord_of_opensBlank (h : (keyword, kind) ∈ keywords) {rest : List Char}
    (hOpens : opensBlank rest = true) : colonClosesFirstWord (keyword.toList ++ rest) = true := by
  obtain ⟨hWord, hColon⟩ := isWord_of_mem_keywords h
  rw [colonClosesFirstWord, words_append hWord hOpens, List.head?_cons, Option.bind_some, hColon]
  rfl

/-- A line whose payload does not touch the keyword gives it, if its condition holds. -/
theorem cgo?_heading (head : Heading) {rest : List Char} (hOpens : opensBlank rest = true) :
    cgo? tags (head.text ++ rest) =
      if head.holds tags then some (head.kind, trim rest) else none := by
  obtain ⟨gap, condition, keyword, kind, known⟩ := head
  cases condition with
  | none =>
    have hText : (Heading.mk gap none keyword kind known).text ++ rest =
        "#cgo".toList ++ (gap.text ++ (keyword.toList ++ rest)) := by
      simp only [Heading.text, Option.elim_none, List.nil_append, List.append_assoc]
    rw [hText, cgo?_of_keyword gap known, if_pos (colonClosesFirstWord_of_opensBlank known hOpens)]
    rfl
  | some c =>
    have hText : (Heading.mk gap (some c) keyword kind known).text ++ rest =
        "#cgo".toList ++ (gap.text ++ (c.text ++ (keyword.toList ++ rest))) := by
      simp only [Heading.text, Option.elim_some, List.append_assoc]
    rw [hText, cgo?_of_condition gap c known]
    rfl

/-! ### Lines that give a directive -/

/-- What is left of a text has a condition in front of it that holds, or nothing. -/
theorem exists_condition_of_unconditional? {text message : List Char} (hText : Trimmed text)
    (hMessage : message ≠ []) (h : unconditional? tags text = some message) :
    message = text ∨ ∃ c : Condition, tags.holds c.word = true ∧ text = c.text ++ message := by
  rw [unconditional?] at h
  split at h
  · exact .inl (Option.some.inj h).symm
  next first others hWords =>
    split at h
    · exact .inl (Option.some.inj h).symm
    next hColon =>
      split at h
      next hHolds =>
        obtain ⟨tail, hWord, hOpens, rfl⟩ := hText.exists_append_of_words hWords
        rw [List.drop_left] at h
        obtain rfl := Option.some.inj h
        have hSplit : tail.takeWhile isBlank ++ trimStart tail = tail :=
          List.takeWhile_append_dropWhile
        have hGap : tail.takeWhile isBlank ≠ [] := by
          refine takeWhile_isBlank_ne_nil hOpens ?_
          rintro rfl
          exact hMessage rfl
        refine .inr ⟨⟨first, hWord, hColon, ⟨_, hGap, fun c hc => List.mem_takeWhile_imp hc⟩⟩,
          hHolds, ?_⟩
        rw [Condition.text, List.append_assoc, hSplit]
      next => cases h

/-- **Only lines in the format** give a directive. -/
theorem exists_heading_of_cgo? {line payload : List Char}
    (h : cgo? tags line = some (kind, payload)) :
    ∃ head : Heading, ∃ rest, line = head.text ++ rest ∧ head.kind = kind ∧ head.holds tags = true ∧
      payload = trim rest := by
  obtain ⟨rest, hMarker, hRest⟩ := Option.bind_eq_some_iff.mp h
  obtain rfl := eq_of_behind? hMarker
  split at hRest
  next hOpens =>
    obtain ⟨message, hMessage, hKeyed⟩ := Option.bind_eq_some_iff.mp hRest
    obtain ⟨keyword, more, hKnown, rfl, rfl⟩ := exists_keyword_of_keyed? hKeyed
    obtain ⟨before, behind, hBefore, hBehind, hSplit⟩ := exists_blanks_around rest
    have hNil : keyword.toList ++ more ≠ [] :=
      List.append_ne_nil_of_left_ne_nil (isWord_of_mem_keywords hKnown).1.1 _
    have hCases := exists_condition_of_unconditional? (trimmed_trim rest) hNil hMessage
    have hTrim : trim rest ≠ [] := by
      rcases hCases with hPlain | ⟨c, -, hText⟩
      · exact hPlain ▸ hNil
      · exact hText ▸ List.append_ne_nil_of_right_ne_nil _ hNil
    have hGap : before ≠ [] := by
      rintro rfl
      rw [hSplit] at hOpens
      exact (trimmed_trim rest).not_opensBlank hTrim behind hOpens
    rcases hCases with hPlain | ⟨c, hHolds, hText⟩
    · refine ⟨⟨⟨before, hGap, hBefore⟩, none, keyword, kind, hKnown⟩, more ++ behind, ?_, rfl, rfl,
        (trim_append_blanks hBehind more).symm⟩
      nth_rewrite 1 [hSplit]
      simp only [← hPlain, Heading.text, Option.elim_none, List.nil_append, List.append_assoc]
    · refine ⟨⟨⟨before, hGap, hBefore⟩, some c, keyword, kind, hKnown⟩, more ++ behind, ?_, rfl,
        hHolds, (trim_append_blanks hBehind more).symm⟩
      nth_rewrite 1 [hSplit]
      simp only [hText, Heading.text, Option.elim_some, List.append_assoc]
  next => cases hRest

end Directive

/-! ### The format -/

/-- **The format of directive lines.** A line in it gives its kind and payload, unless it has a
condition that fails.  And a line that gives a kind and a payload is a heading of that kind, whose
condition holds, with the payload behind it; the plain line for them gives both again, whatever the
tags. -/
theorem cgo_format_recognized :
    (∀ (tags : BuildTags) (head : Heading) (gap payload behind : List Char),
      Blanks gap → Trimmed payload → (gap = [] → payload = []) → Blanks behind →
      Directive.cgo? tags (head.text ++ (gap ++ (payload ++ behind))) =
        if head.holds tags then some (head.kind, payload) else none) ∧
    ∀ (tags : BuildTags) (line payload : List Char) (kind : DirectiveKind),
      Directive.cgo? tags line = some (kind, payload) →
      ∃ head : Heading, ∃ rest, line = head.text ++ rest ∧ head.kind = kind ∧
        head.holds tags = true ∧
        payload = trim rest ∧ Trimmed payload ∧ ∀ others : BuildTags,
          Directive.cgo? others ("#cgo ".toList ++ (head.keyword.toList ++ ' ' :: payload)) =
            some (kind, payload) := by
  have hWritten (tags : BuildTags) (head : Heading) (gap payload behind : List Char)
      (hGap : Blanks gap)
      (hPayload : Trimmed payload) (hTouch : gap = [] → payload = []) (hBehind : Blanks behind) :
      Directive.cgo? tags (head.text ++ (gap ++ (payload ++ behind))) =
        if head.holds tags then some (head.kind, payload) else none := by
    have hOpens : opensBlank (gap ++ (payload ++ behind)) = true := by
      by_cases hNil : gap = []
      · rw [hNil, hTouch hNil]
        exact opensBlank_of_blanks hBehind
      · exact opensBlank_blanks_append hGap hNil _
    rw [Directive.cgo?_heading head hOpens, trim_blanks_append hGap, trim_append_blanks hBehind,
      hPayload.trim_eq]
  refine ⟨hWritten, fun tags line payload kind hLine => ?_⟩
  obtain ⟨head, rest, hText, hKind, hHolds, hPayload⟩ := Directive.exists_heading_of_cgo? hLine
  have hTrimmed : Trimmed payload := hPayload ▸ trimmed_trim rest
  refine ⟨head, rest, hText, hKind, hHolds, hPayload, hTrimmed, fun others => ?_⟩
  let plain : Heading := { head with gap := .space, condition := none }
  have hPlain := hWritten others plain [' '] payload [] (by decide) hTrimmed
    (fun hNil => absurd hNil (List.cons_ne_nil _ _)) (List.forall_mem_nil _)
  rw [List.append_nil] at hPlain
  exact hPlain.trans (by rw [← hKind]; rfl)

/-- A payload may look like a condition and a keyword, and end with a colon. -/
theorem cgo_format_recognized_linux :
    Directive.cgo? ⟨["linux"]⟩ "#cgo linux\tLDFLAGS:  -lm CFLAGS: ".toList =
        some (.linkFlags, "-lm CFLAGS:".toList) ∧
      ∃ head : Heading, head.kind = .linkFlags ∧ head.holds ⟨["linux"]⟩ = true := by
  have hLine := cgo_format_recognized.1 ⟨["linux"]⟩
    ⟨.space, some ⟨"linux".toList, by decide, by decide, ⟨['\t'], by decide, by decide⟩⟩,
      "LDFLAGS:", .linkFlags, by decide⟩ "  ".toList "-lm CFLAGS:".toList " ".toList (by decide)
    (by decide) (by decide) (by decide)
  refine ⟨hLine, ?_⟩
  obtain ⟨head, -, -, hKind, hHolds, -⟩ := cgo_format_recognized.2 _ _ _ _ hLine
  exact ⟨head, hKind, hHolds⟩

/-- **A condition that holds** hides no directive, and without it the line gives the same one where
a colon closes the first word behind the marker: so it does where a blank follows the keyword, or
nothing.  Where it does not, the line gives nothing. -/
theorem holding_condition_transparent {tags : BuildTags} {condition : List Char}
    (hHolds : tags.holds condition = true) {keyword : String} {kind : DirectiveKind}
    (hKeyword : (keyword, kind) ∈ Directive.keywords) (rest : List Char) :
    let message := keyword.toList ++ rest
    let conditional := Directive.cgo? tags ("#cgo ".toList ++ (condition ++ ' ' :: message))
    let plain := Directive.cgo? tags ("#cgo ".toList ++ message)
    conditional = some (kind, trim rest) ∧
      plain = (if Directive.colonClosesFirstWord message then conditional else none) ∧
      (opensBlank rest = true → Directive.colonClosesFirstWord message = true) := by
  obtain ⟨hWord, hColon⟩ := BuildTags.isWord_of_holds hHolds
  have hConditional :
      Directive.cgo? tags ("#cgo ".toList ++ (condition ++ ' ' :: (keyword.toList ++ rest))) =
      some (kind, trim rest) := by
    have hFound :=
      @Directive.cgo?_of_condition tags _ _ .space ⟨condition, hWord, hColon, .space⟩ hKeyword
      rest
    rw [if_pos hHolds, Condition.text, List.append_assoc] at hFound
    exact hFound
  have hPlain : Directive.cgo? tags ("#cgo ".toList ++ (keyword.toList ++ rest)) =
      if Directive.colonClosesFirstWord (keyword.toList ++ rest) then some (kind, trim rest)
      else none :=
    Directive.cgo?_of_keyword .space hKeyword rest
  refine ⟨hConditional, ?_, Directive.colonClosesFirstWord_of_opensBlank hKeyword⟩
  rw [hConditional]
  exact hPlain

/-- With the condition the flag is found, without it the line is lost. -/
theorem holding_condition_transparent_touching :
    (⟨["linux"]⟩ : BuildTags).holds "linux".toList = true ∧
      ("CFLAGS:", DirectiveKind.compileFlags) ∈ Directive.keywords ∧
      Directive.cgo? ⟨["linux"]⟩ "#cgo linux CFLAGS:-O2".toList =
        some (.compileFlags, "-O2".toList) ∧
      Directive.cgo? ⟨["linux"]⟩ "#cgo CFLAGS:-O2".toList = none := by
  have hHolds : (⟨["linux"]⟩ : BuildTags).holds "linux".toList = true := by decide
  have hKeyword : ("CFLAGS:", DirectiveKind.compileFlags) ∈ Directive.keywords := by decide
  obtain ⟨hConditional, hPlain, -⟩ := holding_condition_transparent hHolds hKeyword "-O2".toList
  exact ⟨hHolds, hKeyword, hConditional, hPlain⟩

/-- So a condition that holds can make a difference. -/
theorem holding_condition_matters :
    ¬ ∀ (tags : BuildTags) (condition message : List Char), tags.holds condition = true →
      (∃ k ∈ Directive.keywords, k.1.toList <+: message) →
      Directive.cgo? tags ("#cgo ".toList ++ (condition ++ ' ' :: message)) =
        Directive.cgo? tags ("#cgo ".toList ++ message) := by
  intro hSame
  have hLines := hSame ⟨["linux"]⟩ "linux".toList "CFLAGS:-O2".toList (by decide)
    ⟨("CFLAGS:", .compileFlags), by decide, by decide⟩
  revert hLines
  decide

end BuildScan
