import BuildScan.Proofs.Gating
import BuildScan.Proofs.Positions
import Mathlib.Data.List.TakeWhile

/-!
# Directives and the lines that show them

A recognizer only takes text away: it trims a line, drops the marker, a condition and the keyword,
and what is left is the payload.  So the marker, the keyword and the payload stand in the line one
behind the other (`Directive.Shown`).

The lines that a recognizer gets are in turn taken from a comment: with `mem_linesLookedAt` each of
them is inside a line of the comment, and its position says which one.
`exists_line_of_mem_commentDirectives` puts this together for a comment of the header or the body.
-/

namespace BuildScan

open BuildScan.Text BuildScan.Go

/-! ### Trimmed texts and words -/

namespace Text

theorem trimStart_isSuffix (cs : List Char) : trimStart cs <:+ cs := List.dropWhile_suffix _

theorem trimEnd_isPrefix (cs : List Char) : trimEnd cs <+: cs := by
  have hSuffix := List.dropWhile_suffix isBlank (l := cs.reverse)
  rw [← List.reverse_prefix] at hSuffix
  rwa [List.reverse_reverse] at hSuffix

theorem trim_isInfix (cs : List Char) : trim cs <:+: cs :=
  (trimEnd_isPrefix _).isInfix.trans (trimStart_isSuffix cs).isInfix

/-- A trimmed text neither starts nor ends with a blank. -/
def Trimmed (cs : List Char) : Prop :=
  (∀ c, cs.head? = some c → isBlank c = false) ∧ ∀ c, cs.getLast? = some c → isBlank c = false

theorem isBlank_head?_dropWhile {c : Char} {cs : List Char}
    (h : (cs.dropWhile isBlank).head? = some c) : isBlank c = false := by
  have hHead := List.head?_dropWhile_not isBlank cs
  rw [h] at hHead
  simpa using hHead

theorem trimmed_trim (cs : List Char) : Trimmed (trim cs) := by
  constructor
  · intro c hc
    have hPrefix := trimEnd_isPrefix (trimStart cs)
    cases hTrim : trim cs with
    | nil =>
      rw [hTrim] at hc
      cases hc
    | cons d ds =>
      rw [hTrim] at hc
      obtain ⟨rest, hRest⟩ := hPrefix
      have hTrim' : trimEnd (trimStart cs) = d :: ds := hTrim
      rw [hTrim'] at hRest
      have hStart : cs.dropWhile isBlank = d :: (ds ++ rest) := hRest.symm
      have hHead : (cs.dropWhile isBlank).head? = some c := by
        rw [hStart]
        exact hc
      exact isBlank_head?_dropWhile hHead
  · intro c hc
    have hReverse : (trim cs).getLast? = ((trimStart cs).reverse.dropWhile isBlank).head? :=
      List.getLast?_reverse
    rw [hReverse] at hc
    exact isBlank_head?_dropWhile hc

/-- A text that does not open with a blank opens with its first word. -/
theorem prefix_of_words_eq_cons {cs w : List Char} {ws : List (List Char)}
    (hOpen : ¬ opensBlank cs = true) (h : words cs = w :: ws) : w <+: cs := by
  induction cs generalizing w ws with
  | nil => cases h
  | cons c cs ih =>
    have hFirst : ¬ isBlank c = true := hOpen
    rw [words, if_neg hFirst] at h
    split at h
    · obtain ⟨rfl, -⟩ := List.cons.inj h
      exact (List.prefix_cons_inj c).mpr List.nil_prefix
    next hRest =>
      split at h
      · obtain ⟨rfl, -⟩ := List.cons.inj h
        exact (List.prefix_cons_inj c).mpr List.nil_prefix
      next first others hWords =>
        obtain ⟨rfl, -⟩ := List.cons.inj h
        exact (List.prefix_cons_inj c).mpr (ih hRest hWords)

theorem infix_of_words_eq_cons {cs w : List Char} {ws : List (List Char)} (h : words cs = w :: ws) :
    w <:+: cs := by
  induction cs with
  | nil => cases h
  | cons c cs ih =>
    by_cases hBlank : isBlank c = true
    · rw [words, if_pos hBlank] at h
      exact (ih h).trans (List.suffix_cons c cs).isInfix
    · have hOpen : ¬ opensBlank (c :: cs) = true := hBlank
      exact (prefix_of_words_eq_cons hOpen h).isInfix

end Text

/-! ### What a line shows -/

/-- The parts stand in the line one behind the other, with any text before, between and behind
them. -/
def Shows (line : List Char) : List (List Char) → Prop
  | [] => True
  | part :: parts => ∃ before rest, line = before ++ (part ++ rest) ∧ Shows rest parts

/-- More text around a line hides nothing. -/
theorem Shows.of_isInfix {line whole : List Char} {parts : List (List Char)} (h : Shows line parts)
    (hInfix : line <:+: whole) : Shows whole parts := by
  induction parts generalizing line whole with
  | nil => trivial
  | cons part parts ih =>
    obtain ⟨before, rest, rfl, hRest⟩ := h
    obtain ⟨left, right, rfl⟩ := hInfix
    refine ⟨left ++ before, rest ++ right, by simp only [List.append_assoc], ?_⟩
    exact ih hRest (List.prefix_append rest right).isInfix

theorem Shows.cons {line rest : List Char} {parts : List (List Char)} (h : Shows rest parts)
    (part : List Char) (hLine : part ++ rest = line) : Shows line (part :: parts) :=
  ⟨[], rest, hLine.symm, h⟩

theorem shows_singleton {line part : List Char} (h : part <:+: line) : Shows line [part] := by
  obtain ⟨before, rest, rfl⟩ := h
  exact ⟨before, rest, List.append_assoc .., trivial⟩

theorem Shows.infix_of_mem {line part : List Char} {parts : List (List Char)} (h : Shows line parts)
    (hPart : part ∈ parts) : part <:+: line := by
  induction parts generalizing line with
  | nil => cases hPart
  | cons first parts ih =>
    obtain ⟨before, rest, rfl, hRest⟩ := h
    rcases List.mem_cons.mp hPart with rfl | hPart
    · exact ⟨before, rest, List.append_assoc ..⟩
    · have hBehind : rest <:+: before ++ (first ++ rest) :=
        ⟨before ++ first, [], by rw [List.append_nil, List.append_assoc]⟩
      exact (ih hRest hPart).trans hBehind

theorem Shows.ne_nil {line part : List Char} {parts : List (List Char)}
    (h : Shows line (part :: parts)) (hPart : part ≠ []) : line ≠ [] := by
  obtain ⟨before, rest, rfl, -⟩ := h
  simp [hPart]

/-- What stands in front of the payload of a directive. -/
def DirectiveKind.marks : DirectiveKind → List String
  | target => ["target:"]
  | compileFlags => ["#cgo", "CFLAGS:"]
  | linkFlags => ["#cgo", "LDFLAGS:"]
  | pkgConfig => ["#cgo", "pkg-config:"]

namespace Directive

/-- The line says what the directive says: its marks, and the payload behind them. -/
def Shown (d : Directive) (line : List Char) : Prop :=
  Shows line (d.kind.marks.map String.toList ++ [d.payload.toList])

theorem Shown.of_isInfix {d : Directive} {line whole : List Char} (h : d.Shown line)
    (hInfix : line <:+: whole) : d.Shown whole := Shows.of_isInfix h hInfix

theorem Shown.ne_nil {d : Directive} {line : List Char} (h : d.Shown line) : line ≠ [] := by
  obtain ⟨kind, payload, position⟩ := d
  cases kind
  · exact Shows.ne_nil h (by decide)
  · exact Shows.ne_nil h (by decide)
  · exact Shows.ne_nil h (by decide)
  · exact Shows.ne_nil h (by decide)

theorem Shown.payload_isInfix {d : Directive} {line : List Char} (h : d.Shown line) :
    d.payload.toList <:+: line :=
  Shows.infix_of_mem h (List.mem_append_right _ List.mem_cons_self)

theorem marks_of_mem_keywords {keyword : String} {kind : DirectiveKind}
    (h : (keyword, kind) ∈ keywords) : kind.marks = ["#cgo", keyword] := by
  have hAll : ∀ k ∈ keywords, k.2.marks = ["#cgo", k.1] := by decide
  exact hAll _ h

theorem eq_of_behind? {word : String} {cs rest : List Char} (h : behind? word cs = some rest) :
    cs = word.toList ++ rest := by
  rw [behind?] at h
  split at h
  next hPrefix =>
    obtain ⟨tail, rfl⟩ := List.isPrefixOf_iff_prefix.mp hPrefix
    obtain rfl := Option.some.inj h
    have hLength : word.length = word.toList.length := rfl
    rw [hLength, List.drop_left]
  next => cases h

theorem behind?_append (word : String) (rest : List Char) :
    behind? word (word.toList ++ rest) = some rest := by
  have hLength : word.length = word.toList.length := rfl
  rw [behind?, if_pos (List.isPrefixOf_iff_prefix.mpr (List.prefix_append _ _)), hLength,
    List.drop_left]

/-- A target is a word, and its line shows it behind the marker. -/
theorem of_target? {line name : List Char} (h : target? line = some name) :
    Shows line ["target:".toList, name] ∧ name ≠ [] ∧ ∀ c ∈ name, isBlank c = false := by
  obtain ⟨rest, hBehind, hHead⟩ := Option.bind_eq_some_iff.mp h
  obtain ⟨ws, hWords⟩ := List.head?_eq_some_iff.mp hHead
  have hName := mem_words (hWords ▸ List.mem_cons_self)
  exact ⟨(shows_singleton (infix_of_words_eq_cons hWords)).cons _ (eq_of_behind? hBehind).symm,
    hName⟩

/-- A payload is trimmed, and its line shows it behind the keyword. -/
theorem of_keyed? {message payload : List Char} {kind : DirectiveKind}
    (h : keyed? message = some (kind, payload)) :
    (∃ keyword, kind.marks = ["#cgo", keyword] ∧ Shows message [keyword.toList, payload]) ∧
      Trimmed payload := by
  obtain ⟨⟨keyword, kind'⟩, hMem, hKeyed⟩ := List.exists_of_findSome?_eq_some h
  obtain ⟨rest, hBehind, hSaid⟩ := Option.map_eq_some_iff.mp hKeyed
  obtain ⟨rfl, rfl⟩ := Prod.mk.inj hSaid
  refine ⟨⟨keyword, marks_of_mem_keywords hMem, ?_⟩, trimmed_trim rest⟩
  exact (shows_singleton (trim_isInfix rest)).cons _ (eq_of_behind? hBehind).symm

end Directive

theorem conditionOf_isSuffix (rest : List Char) : (conditionOf rest).2 <:+ rest := by
  rw [conditionOf]
  split
  · exact List.suffix_rfl
  · split
    · exact List.suffix_rfl
    · exact (trimStart_isSuffix _).trans (List.drop_suffix _ _)

/-- A line with the form of a directive shows the directive, whose payload is trimmed. -/
theorem Marked.shown_of_ofLine? {line : List Char} {position : Position} {m : Marked}
    (h : Marked.ofLine? line position = some m) :
    m.directive.Shown line ∧ Trimmed m.directive.payload.toList ∧
    m.directive.position = position := by
  obtain ⟨rest, hBehind, hRest⟩ := Option.bind_eq_some_iff.mp h
  split at hRest
  next =>
    obtain ⟨⟨kind, payload⟩, hKeyed, rfl⟩ := Option.map_eq_some_iff.mp hRest
    obtain ⟨⟨keyword, hMarks, hShows⟩, hTrimmed⟩ := Directive.of_keyed? hKeyed
    have hBehindMarker : Shows rest [keyword.toList, payload] :=
      hShows.of_isInfix ((conditionOf_isSuffix _).isInfix.trans (trim_isInfix rest))
    have hLine : Shows line ["#cgo".toList, keyword.toList, payload] :=
      (hBehindMarker.cons _ (Directive.eq_of_behind? hBehind).symm).of_isInfix (trim_isInfix line)
    have hPayload : (String.ofList payload).toList = payload := String.toList_ofList
    refine ⟨?_, hPayload.symm ▸ hTrimmed, rfl⟩
    rw [Directive.Shown, hMarks, hPayload]
    exact hLine
  next => cases hRest

/-- The text of a header's comment shows its target, which is a word. -/
theorem shown_of_mem_headerFindings {text : List Char} {position : Position} {d : Directive}
    (h : d ∈ (View.headerFindings text position).directives) :
    d.Shown text ∧ d.payload ≠ "" ∧ (∀ c ∈ d.payload.toList, isBlank c = false) ∧
      d.position = position := by
  rw [View.headerFindings] at h
  split at h
  next target hTarget =>
    obtain rfl := List.mem_singleton.mp h
    obtain ⟨body, hBehind, hSaid⟩ := Option.bind_eq_some_iff.mp hTarget
    obtain ⟨hShows, hNil, hWord⟩ := Directive.of_target? hSaid
    have hText : Shows text ["target:".toList, target] := by
      refine hShows.of_isInfix ((trim_isInfix body).trans ?_)
      rw [Directive.eq_of_behind? hBehind]
      exact (List.suffix_append _ _).isInfix
    have hPayload : (String.ofList target).toList = target := String.toList_ofList
    refine ⟨?_, ?_, hPayload.symm ▸ hWord, rfl⟩
    · show Shows text ["target:".toList, (String.ofList target).toList]
      rw [hPayload]
      exact hText
    · intro hEmpty
      exact hNil (hPayload.symm.trans (congrArg String.toList hEmpty))
  next => cases h

/-! ### The lines of a comment -/

/-- A comment that goes to the end of its line holds no line end. -/
theorem lineEnd_notMem_of_comment? {body : List Char}
    (h : Lexeme.comment? ("//".toList ++ body) = some ("//".toList ++ body).length) :
    '\n' ∉ "//".toList ++ body := by
  let isInside (c : Char) : Bool := c != '\n' && c != Lexeme.nul
  have hLength : (body.takeWhile isInside).length + 2 = body.length + 2 := Option.some.inj h
  have hAll : body.takeWhile isInside = body :=
    (List.takeWhile_prefix isInside).eq_of_length (Nat.add_right_cancel hLength)
  intro hMem
  rcases List.mem_append.mp hMem with hMark | hBody
  · exact absurd hMark (by decide)
  · rw [← hAll] at hBody
    have hInside := List.mem_takeWhile_imp hBody
    simp [isInside] at hInside

theorem eq_of_blockInside? {text inside : List Char} (h : View.blockInside? text = some inside) :
    text = "/*".toList ++ (inside ++ "*/".toList) := by
  rw [View.blockInside?] at h
  split at h
  next hFits =>
    simp only [Bool.and_eq_true, decide_eq_true_eq] at hFits
    obtain ⟨⟨hLength, hOpens⟩, hCloses⟩ := hFits
    obtain ⟨rest, rfl⟩ := List.isPrefixOf_iff_prefix.mp hOpens
    have hRest : ['*', '/'] <:+ rest := by
      refine List.suffix_of_suffix_length_le (List.isSuffixOf_iff_suffix.mp hCloses)
        (List.suffix_append _ _) ?_
      simp only [List.length_append, List.length_cons, List.length_nil] at hLength ⊢
      omega
    obtain ⟨front, rfl⟩ := hRest
    obtain rfl := Option.some.inj h
    simp
  next => cases h

/-- A line of a comment that is looked at is inside the line of the comment that its position
names. -/
theorem mem_linesLookedAt {text line : List Char} {position q : Position}
    (hComment : Lexeme.comment? text = some text.length)
    (h : (line, q) ∈ linesLookedAt text position) :
    ∃ i part, (splitAt '\n' text)[i]? = some part ∧ line <:+: part ∧ q = below position i := by
  rw [linesLookedAt] at h
  split at h
  next body hBody =>
    obtain ⟨rfl, rfl⟩ := Prod.mk.inj (List.mem_singleton.mp h)
    obtain rfl := Directive.eq_of_behind? hBody
    have hLine := lineEnd_notMem_of_comment? hComment
    exact ⟨0, _, by rw [splitAt_of_notMem hLine]; rfl, (List.suffix_append _ _).isInfix, rfl⟩
  next =>
    split at h
    next inside hInside =>
      obtain rfl := eq_of_blockInside? hInside
      obtain ⟨i, hi, hPair⟩ := List.mem_mapIdx.mp h
      obtain ⟨rfl, rfl⟩ := Prod.mk.inj hPair
      have hTaken := List.prefix_iff_getElem?.mp (List.takeWhile_prefix _) i hi
      obtain ⟨part, hPart, hPrefix⟩ := exists_line_of_mem_lines hTaken
      obtain ⟨whole, hWhole, hInfix⟩ := exists_line_of_isInfix "/*".toList hPart "*/".toList
      have hMark : "/*".toList.count '\n' = 0 := rfl
      rw [hMark, Nat.zero_add] at hWhole
      exact ⟨i, whole, hWhole, hPrefix.isInfix.trans hInfix, rfl⟩
    next => cases h

/-! ### The comments of a file -/

/-- The directives that a comment of a file makes, in the header or behind it. -/
def commentDirectives (source : List Char) (tags : BuildTags) (root n : Node) : List Directive :=
  if inHeader root n then
    (View.headerFindings (n.text source) (Position.ofOffset source n.start)).directives
  else gated tags (markedIn (n.commentLines source))

theorem walk_directives_eq (source : List Char) (functions : Bool) (root : Node)
    (tags : BuildTags) :
    (walk source tags functions root).1.directives =
      (commentsOf root).flatMap (commentDirectives source tags root) :=
  walk_directives source functions root tags

theorem Marked.exists_line_of_mem {tags : BuildTags} {ls : List (List Char × Position)}
    {d : Directive} (h : d ∈ gated tags (markedIn ls)) :
    ∃ line position, (line, position) ∈ ls ∧ ∃ m, Marked.ofLine? line position = some m ∧
      m.directive = d := by
  obtain ⟨m, hm, rfl⟩ := List.mem_map.mp h
  obtain ⟨⟨line, position⟩, hLine, hMarked⟩ := List.mem_filterMap.mp (List.mem_filter.mp hm).1
  exact ⟨line, position, hLine, m, hMarked, rfl⟩

/-- **A directive is shown by the line of its comment that its position names.** -/
theorem exists_line_of_mem_commentDirectives {source : List Char} {tags : BuildTags} {root n : Node}
    (hComment : Lexeme.comment? (n.text source) = some (n.text source).length) {d : Directive}
    (h : d ∈ commentDirectives source tags root n) :
    ∃ i part, (splitAt '\n' (n.text source))[i]? = some part ∧ d.Shown part ∧
      d.position = below (Position.ofOffset source n.start) i := by
  rw [commentDirectives] at h
  split at h
  next =>
    obtain ⟨hShown, -, -, hPosition⟩ := shown_of_mem_headerFindings h
    obtain ⟨body, hBody⟩ : ∃ body, Directive.behind? "//" (n.text source) = some body := by
      rw [View.headerFindings] at h
      cases hBody : Directive.behind? "//" (n.text source) with
      | none =>
        rw [hBody] at h
        cases h
      | some body => exact ⟨body, rfl⟩
    have hLine : '\n' ∉ n.text source := by
      rw [Directive.eq_of_behind? hBody] at hComment ⊢
      exact lineEnd_notMem_of_comment? hComment
    exact ⟨0, n.text source, by rw [splitAt_of_notMem hLine]; rfl, hShown, hPosition⟩
  next =>
    obtain ⟨line, position, hLine, m, hMarked, rfl⟩ := Marked.exists_line_of_mem h
    obtain ⟨hShown, -, hPosition⟩ := Marked.shown_of_ofLine? hMarked
    obtain ⟨i, part, hPart, hInfix, hBelow⟩ := mem_linesLookedAt hComment hLine
    exact ⟨i, part, hPart, hShown.of_isInfix hInfix, hPosition.trans hBelow⟩

end BuildScan
