import BuildScan.Proofs.Boundaries
import BuildScan.Proofs.PlainScan
import BuildScan.Proofs.Blanks

/-!
# Comments are cut between characters

Two texts are cut by their bytes on the way from a comment to its directives: the markers of a block
comment take two bytes at each end, and the condition of a line takes as many bytes as the first
word has.  This file reads lines, comments and files once more with these cuts, each of which may
fail.

None does.  What has the markers at its ends, and four bytes at least, has an inside between them
(`hasMarkers_iff`).  A trimmed text starts with its first word, since the blanks that trimming takes
away are the blanks that part words (`Trimmed.exists_append_of_words`).  So every reading gives what
the plain one gives, up to whole files: `byte_cuts_fit`.
-/

namespace BuildScan

open BuildScan.Text BuildScan.Go

/-! ### Lines -/

namespace Text

theorem standsBetween_append (xs ys : List Char) :
    StandsBetween (xs ++ ys) xs 0 (byteSize xs) ∧
      StandsBetween (xs ++ ys) ys (byteSize xs) (byteSize (xs ++ ys)) :=
  ⟨⟨[], ys, rfl, rfl, (Nat.zero_add _).symm⟩, xs, [], by rw [List.append_nil], rfl,
    byteSize_append xs ys⟩

end Text

namespace Directive

/-- What a line says once its condition holds; the condition is cut off by its bytes. -/
def unconditionalByCuts (tags : BuildTags) (rest : List Char) :
    Except Misfit (Option (List Char)) :=
  match words rest with
  | [] => .ok (some rest)
  | first :: _ =>
    if first.getLast? = some ':' then .ok (some rest)
    else if tags.holds first then
      (cut rest (byteSize first) (byteSize rest)).map fun behind => some (trimStart behind)
    else .ok none

/-- The directive of a trimmed comment line. -/
def cgoByCuts (tags : BuildTags) (line : List Char) :
    Except Misfit (Option (DirectiveKind × List Char)) :=
  match behind? "#cgo" line with
  | none => .ok none
  | some rest =>
    if opensBlank rest then (unconditionalByCuts tags (trim rest)).map fun message =>
      message.bind keyed?
    else .ok none

theorem unconditionalByCuts_eq (tags : BuildTags) {rest : List Char} (hTrimmed : Trimmed rest) :
    unconditionalByCuts tags rest = .ok (unconditional? tags rest) := by
  rw [unconditionalByCuts, unconditional?]
  cases hWords : words rest with
  | nil => rfl
  | cons first others =>
    obtain ⟨behind, -, -, rfl⟩ := hTrimmed.exists_append_of_words hWords
    have hCut := cut_eq_ok_iff.mpr (standsBetween_append first behind).2
    simp only [hCut, List.drop_left]
    split
    · rfl
    · split <;> rfl

/-- Without trimming, the size of the first word may lead into a blank before it. -/
example : unconditionalByCuts ⟨["linux"]⟩ "\u3000\u3000linux".toList =
    .error ⟨"\u3000\u3000linux".toList, 5, 11⟩ := by decide

theorem cgoByCuts_eq (tags : BuildTags) (line : List Char) :
    cgoByCuts tags line = .ok (cgo? tags line) := by
  rw [cgoByCuts, cgo?]
  cases behind? "#cgo" line with
  | none => rfl
  | some rest =>
    simp only [unconditionalByCuts_eq tags (trimmed_trim rest), Option.bind_some]
    split <;> rfl

end Directive

/-! ### Comments -/

namespace View

/-- The markers of a block comment stand at the ends of a text and do not share a byte. -/
def hasMarkers (text : List Char) : Bool :=
  4 ≤ byteSize text && ['/', '*'].isPrefixOf text && ['*', '/'].isSuffixOf text

theorem byteSize_opening : byteSize "/*".toList = 2 := rfl

theorem byteSize_closing : byteSize "*/".toList = 2 := rfl

/-- **What has the markers has an inside between them.** -/
theorem hasMarkers_iff {text : List Char} :
    hasMarkers text = true ↔ ∃ inside, text = "/*".toList ++ (inside ++ "*/".toList) := by
  rw [hasMarkers, Bool.and_eq_true, Bool.and_eq_true, decide_eq_true_eq, List.isPrefixOf_iff_prefix,
    List.isSuffixOf_iff_suffix]
  constructor
  · rintro ⟨⟨hSize, rest, hOpens⟩, front, hCloses⟩
    have hFront : byteSize text = byteSize front + byteSize "*/".toList := by
      rw [← hCloses, byteSize_append]
      rfl
    rw [byteSize_closing] at hFront
    have hOpening : byteSize "/*".toList ≤ byteSize front := by
      rw [byteSize_opening]
      omega
    -- the opening marker is no longer than what stands before the closing one
    obtain ⟨inside, rfl⟩ := prefix_of_byteSize_le hOpens.symm hCloses.symm hOpening
    exact ⟨inside, by rw [← hCloses, List.append_assoc]; rfl⟩
  · rintro ⟨inside, rfl⟩
    refine ⟨⟨?_, List.prefix_append _ _⟩, ?_⟩
    · rw [byteSize_append, byteSize_append, byteSize_opening, byteSize_closing]
      omega
    · rw [← List.append_assoc]
      exact List.suffix_append _ _

/-- The inside of a block comment stands two bytes from both ends. -/
theorem standsBetween_markers (inside : List Char) :
    let text := "/*".toList ++ (inside ++ "*/".toList)
    StandsBetween text inside 2 (byteSize text - 2) := by
  refine ⟨"/*".toList, "*/".toList, rfl, byteSize_opening.symm, ?_⟩
  rw [byteSize_append, byteSize_append, byteSize_opening, byteSize_closing]
  omega

/-- The inside of a block comment, cut out between its markers. -/
def insideByCuts (text : List Char) : Except Misfit (Option (List Char)) :=
  if hasMarkers text then (cut text 2 (byteSize text - 2)).map some else .ok none

theorem insideByCuts_eq (text : List Char) : insideByCuts text = .ok (blockInside? text) := by
  rw [insideByCuts]
  split
  next hMarkers =>
    obtain ⟨inside, rfl⟩ := hasMarkers_iff.mp hMarkers
    rw [cut_eq_ok_iff.mpr (standsBetween_markers inside), blockInside?_markers]
    rfl
  next hNone =>
    cases hInside : blockInside? text with
    | none => rfl
    | some inside => exact absurd (hasMarkers_iff.mpr ⟨inside, eq_of_blockInside? hInside⟩) hNone

variable (v : View)

/-- The directive of one comment line at a place. -/
def lineByCuts (line : List Char) (position : Position) : Except Misfit Findings :=
  (Directive.cgoByCuts v.tags (trim line)).map fun
    | some (kind, payload) => { directives := [⟨kind, String.ofList payload, position⟩] }
    | none => .none

/-- The directives of a block comment's lines from `position` on. -/
def blockByCuts : Position → List (List Char) → Except Misfit Findings
  | _, [] => .ok .none
  | position, line :: rest =>
    if byteSize line > maxCommentLine then
      .ok { log := [⟨.warn, s!"Extra long comment ignored at {position.line}:{position.column}"⟩] }
    else do
      let first ← v.lineByCuts line position
      let others ← blockByCuts ⟨position.line + 1, 1⟩ rest
      return first ++ others

/-- The directives of a comment behind the header. -/
def bodyByCuts (text : List Char) (position : Position) : Except Misfit Findings :=
  match Directive.behind? "//" text with
  | some body => v.lineByCuts body position
  | none => do
    match ← insideByCuts text with
    | some inside => v.blockByCuts position (lines inside)
    | none => return .none

/-- The directives of a comment; in the header nothing is cut by bytes. -/
def commentByCuts (start : Nat) (text : List Char) : Except Misfit Findings :=
  let position := Position.ofOffset v.source start
  if start < v.packageStart then .ok (headerFindings text position) else v.bodyByCuts text position

theorem lineByCuts_eq (line : List Char) (position : Position) :
    v.lineByCuts line position = .ok (v.lineFindings line position) := by
  rw [lineByCuts, Directive.cgoByCuts_eq, lineFindings]
  rfl

theorem blockByCuts_eq (position : Position) (ls : List (List Char)) :
    v.blockByCuts position ls = .ok (v.blockFindings position ls) := by
  induction ls generalizing position with
  | nil => rfl
  | cons line ls ih =>
    rw [blockByCuts, blockFindings, lineByCuts_eq, ih]
    split <;> rfl

theorem bodyByCuts_eq (text : List Char) (position : Position) :
    v.bodyByCuts text position = .ok (v.bodyFindings text position) := by
  rw [bodyByCuts, bodyFindings, insideByCuts_eq]
  cases Directive.behind? "//" text with
  | some body => exact v.lineByCuts_eq body position
  | none =>
    cases blockInside? text with
    | some inside => exact v.blockByCuts_eq position (lines inside)
    | none => rfl

theorem commentByCuts_eq (start : Nat) (text : List Char) :
    v.commentByCuts start text = .ok (v.commentFindings start text) := by
  rw [commentByCuts, commentFindings, bodyByCuts_eq]
  split <;> rfl

end View

/-! ### Files -/

mutual

/-- What a node contributes; only comments are cut by bytes. -/
def View.findingsByCuts (v : View) : Node → Except Misfit Findings
  | .mk kind span missing children =>
    let node := Node.mk kind span missing children
    if kind = .comment then v.commentByCuts span.start (node.text v.source)
    else if kind.isGroup then v.findingsInByCuts children
    else .ok (v.findings node)

/-- What some nodes contribute, one after the other. -/
def View.findingsInByCuts (v : View) : List Node → Except Misfit Findings
  | [] => .ok .none
  | n :: ns => do
    let first ← v.findingsByCuts n
    let others ← v.findingsInByCuts ns
    return first ++ others

end

/-- The facts of a syntax tree. -/
def walkByCuts (source : List Char) (tags : BuildTags) (functions : Bool) (root : Node) :
    Except Misfit (Scanned × Log) :=
  if root.kind = .sourceFile then do
    let found ← (viewOf source tags functions root).findingsInByCuts root.children
    return (⟨String.ofList ((packageName? source root).getD []), found.deps, found.funcs,
      found.directives⟩, found.log)
  else return (.none, [])

/-- Scans one file. -/
def scanByCuts [Go.Parser] (tags : BuildTags) (source : String) (isTest : Bool) :
    Except Misfit (Except BuildError Scanned × Log) :=
  let text := source.toList
  let root := Go.parse text
  match rejection? text isTest root with
  | some e => .ok (.error e, [])
  | none => do
    let result ← walkByCuts text tags isTest root
    return (.ok result.1, result.2)

namespace View

variable (v : View)

theorem findingsInByCuts_eq {ns : List Node}
    (h : ∀ n ∈ ns, v.findingsByCuts n = .ok (v.findings n)) :
    v.findingsInByCuts ns = .ok (v.findingsIn ns) := by
  induction ns with
  | nil => rfl
  | cons n ns ih =>
    obtain ⟨hFirst, hOthers⟩ := List.forall_mem_cons.mp h
    rw [findingsInByCuts, findingsIn, hFirst, ih hOthers]
    rfl

theorem findingsByCuts_eq (n : Node) : v.findingsByCuts n = .ok (v.findings n) := by
  induction n using Node.ind with
  | h kind span missing children ih =>
    rw [findingsByCuts]
    split
    next hComment =>
      subst hComment
      rw [commentByCuts_eq, findings]
    next hOther =>
      split
      next hGroup =>
        have hNode : (Node.mk kind span missing children).kind.isGroup = true := hGroup
        rw [v.findingsInByCuts_eq ih, v.findings_eq, v.contribution_group hNode, if_pos hNode]
        rfl
      next => rfl

end View

theorem walkByCuts_eq (source : List Char) (tags : BuildTags) (functions : Bool) (root : Node) :
    walkByCuts source tags functions root = .ok (walk source tags functions root) := by
  rw [walkByCuts]
  split
  next hFile =>
    rw [View.findingsInByCuts_eq _ fun n _ => View.findingsByCuts_eq _ n, walk_eq hFile]
    rfl
  next hFile =>
    rw [walk_eq_none hFile]
    rfl

theorem scanByCuts_eq [Go.Parser] (tags : BuildTags) (source : String) (isTest : Bool) :
    scanByCuts tags source isTest = .ok (scan tags source isTest) := by
  rw [scanByCuts, scan]
  cases rejection? source.toList isTest (Go.parse source.toList) with
  | some e => rfl
  | none =>
    rw [walkByCuts_eq]
    rfl

/-- **Comments are cut between characters.** Where a text has the markers of a block comment the
offsets two bytes from its ends fit it, and its inside stands between them.  The size of the first
word of a trimmed text is an offset of that text too: the word stands before it, and behind it
stands nothing or a blank.  So with cuts that fail where they do not fit, lines, comments and whole
files are read as they are without: no cut fails. -/
theorem byte_cuts_fit [Go.Parser] :
    (∀ text, View.hasMarkers text = true →
      OffsetsFit text 2 (byteSize text - 2) ∧
        ∃ inside, text = "/*".toList ++ (inside ++ "*/".toList) ∧
          cut text 2 (byteSize text - 2) = .ok inside) ∧
      (∀ cs first others, words (trim cs) = first :: others →
        OffsetsFit (trim cs) (byteSize first) (byteSize (trim cs)) ∧
          cut (trim cs) 0 (byteSize first) = .ok first ∧
          ∃ behind, cut (trim cs) (byteSize first) (byteSize (trim cs)) = .ok behind ∧
            trim cs = first ++ behind ∧ opensBlank behind = true) ∧
      (∀ tags line, Directive.cgoByCuts tags line = .ok (Directive.cgo? tags line)) ∧
      (∀ (v : View) start text, v.commentByCuts start text = .ok (v.commentFindings start text)) ∧
      ∀ tags source isTest, scanByCuts tags source isTest = .ok (scan tags source isTest) := by
  refine ⟨fun text hMarkers => ?_, fun cs first others hWords => ?_, Directive.cgoByCuts_eq,
    View.commentByCuts_eq, scanByCuts_eq⟩
  · obtain ⟨inside, rfl⟩ := View.hasMarkers_iff.mp hMarkers
    have hInside := View.standsBetween_markers inside
    exact ⟨offsetsFit_iff.mpr ⟨inside, hInside⟩, inside, rfl, cut_eq_ok_iff.mpr hInside⟩
  · obtain ⟨behind, -, hBehind, hText⟩ := (trimmed_trim cs).exists_append_of_words hWords
    obtain ⟨hFirst, hRest⟩ := standsBetween_append first behind
    rw [← hText] at hFirst hRest
    exact ⟨offsetsFit_iff.mpr ⟨behind, hRest⟩, cut_eq_ok_iff.mpr hFirst, behind,
      cut_eq_ok_iff.mpr hRest, hText, hBehind⟩

/-- Characters of two and three bytes stand next to the markers and around the first word. -/
theorem byte_cuts_fit_wide :
    (View.hasMarkers "/*é\u3000*/".toList = true ∧ OffsetsFit "/*é\u3000*/".toList 2 7 ∧
      cut "/*é\u3000*/".toList 2 7 = .ok "é\u3000".toList) ∧
    (words (trim "\u2003linux\u3000\u00a0CFLAGS: -Dé\u3000".toList) =
        ["linux".toList, "CFLAGS:".toList, "-Dé".toList] ∧
      OffsetsFit (trim "\u2003linux\u3000\u00a0CFLAGS: -Dé\u3000".toList) 5 22 ∧
      cut (trim "\u2003linux\u3000\u00a0CFLAGS: -Dé\u3000".toList) 5 22 =
        .ok "\u3000\u00a0CFLAGS: -Dé".toList) := by
  -- neither part is about files, so any parser will do
  obtain ⟨hBlocks, hLines, -⟩ := @byte_cuts_fit ⟨.unreadable⟩
  constructor
  · have hMarkers : View.hasMarkers "/*é\u3000*/".toList = true := by decide
    obtain ⟨hFits, inside, hText, hCut⟩ := hBlocks _ hMarkers
    have hParts : "/*".toList ++ ("é\u3000".toList ++ "*/".toList) =
        "/*".toList ++ (inside ++ "*/".toList) := hText
    obtain rfl := List.append_cancel_right (List.append_cancel_left hParts)
    exact ⟨hMarkers, hFits, hCut⟩
  · have hWords : words (trim "\u2003linux\u3000\u00a0CFLAGS: -Dé\u3000".toList) =
        ["linux".toList, "CFLAGS:".toList, "-Dé".toList] := by decide
    have hTrim : trim "\u2003linux\u3000\u00a0CFLAGS: -Dé\u3000".toList =
        "linux".toList ++ "\u3000\u00a0CFLAGS: -Dé".toList := by decide
    obtain ⟨hFits, -, behind, hCut, hText, -⟩ := hLines _ _ _ hWords
    obtain rfl := List.append_cancel_left (hTrim.symm.trans hText)
    exact ⟨hWords, hFits, hCut⟩

/-- What is shorter than both markers is not cut, and could not be. -/
example : View.hasMarkers "/*/".toList = false ∧
    cut "/*/".toList 2 (byteSize "/*/".toList - 2) = .error ⟨"/*/".toList, 2, 1⟩ := by decide

end BuildScan
