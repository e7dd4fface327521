import BuildScan.Proofs.Phases
import BuildScan.Proofs.PlainScan
import Mathlib.Data.List.ReduceOption

/-!
# Block comments line by line

A block comment behind the header is looked at line by line, and given up at the first line that is
too long.  `blockFindings_eq` says what this loop finds: the directives of the lines before that
one, and one warning if there is one.  A line comment is a single line, and it may be as long as it
likes (`bodyFindings_lineComment`).

`block_comment_reads_lines` puts a block comment into its file.  It says what the line comments with
its lines would say, up to the first line that is too long, and nothing changes for the comments
around it.
-/

namespace BuildScan

open BuildScan.Text BuildScan.Go

/-! ### Lines -/

/-- What a directive says, wherever it stands. -/
def Directive.content (d : Directive) : DirectiveKind × String := (d.kind, d.payload)

/-- What a line says does not depend on where it stands. -/
theorem content_lineDirective? (tags : BuildTags) (line : List Char) (p q : Position) :
    (lineDirective? tags line p).map Directive.content =
      (lineDirective? tags line q).map Directive.content := by
  rw [lineDirective?, lineDirective?, Option.map_map, Option.map_map]
  rfl

/-- A line is too long to be looked at. -/
def isOverlong (line : List Char) : Bool := maxCommentLine < byteSize line

/-- The lines before the first one that is too long. -/
def linesBeforeOverlong (ls : List (List Char)) : List (List Char) :=
  ls.takeWhile fun line => !isOverlong line

theorem linesBeforeOverlong_cons {line : List Char} (h : isOverlong line = false)
    (ls : List (List Char)) :
    linesBeforeOverlong (line :: ls) = line :: linesBeforeOverlong ls :=
  List.takeWhile_cons_of_pos (by simp [h])

/-- What is reported of a line that is too long. -/
def overlongWarning (position : Position) : LogEvent :=
  ⟨.warn, s!"Extra long comment ignored at {position.line}:{position.column}"⟩

namespace View

variable (v : View)

/-- **A block comment** gives the directives of its lines up to the first one that is too long, and
one warning for that one. -/
theorem blockFindings_eq (position : Position) (ls : List (List Char)) :
    v.blockFindings position ls =
      { directives := ((linesBeforeOverlong ls).mapIdx fun i line =>
          lineDirective? v.tags line (below position i)).reduceOption
        log :=
          ((ls.findIdx? isOverlong).map fun i => overlongWarning (below position i)).toList } := by
  induction ls generalizing position with
  | nil => rfl
  | cons line ls ih =>
    by_cases hLong : byteSize line > maxCommentLine
    · have hOverlong : isOverlong line = true := decide_eq_true hLong
      rw [blockFindings, if_pos hLong, linesBeforeOverlong, List.findIdx?_cons, hOverlong,
        List.takeWhile_cons_of_neg (by simp [hOverlong])]
      rfl
    · have hShort : isOverlong line = false := decide_eq_false hLong
      rw [blockFindings, if_neg hLong, lineFindings_eq, ih, linesBeforeOverlong_cons hShort,
        List.findIdx?_cons, hShort]
      -- what stands below the second line stands one line farther below the first
      simp only [List.mapIdx_cons, below_succ, Option.map_map, Function.comp_def,
        Bool.false_eq_true, if_false]
      have hFirst : below position 0 = position := rfl
      rw [hFirst]
      cases lineDirective? v.tags line position <;> rfl

theorem commentFindings_lineComment {start : Nat} (hBody : v.packageStart ≤ start)
    (body : List Char) :
    v.commentFindings start ("//".toList ++ body) =
      .ofDirectives (lineDirective? v.tags body (Position.ofOffset v.source start)).toList := by
  rw [commentFindings, if_neg (Nat.not_lt.mpr hBody)]
  exact v.bodyFindings_lineComment body _

theorem findingsOfComment_block {n : Node} {inside : List Char} (hBody : v.packageStart ≤ n.start)
    (hText : n.text v.source = "/*".toList ++ (inside ++ "*/".toList)) :
    v.findingsOfComment n =
      v.blockFindings (Position.ofOffset v.source n.start) (lines inside) := by
  have hBehind : Directive.behind? "//" ("/*".toList ++ (inside ++ "*/".toList)) = none := rfl
  rw [findingsOfComment, commentFindings, if_neg (Nat.not_lt.mpr hBody), hText, bodyFindings,
    hBehind, blockInside?_markers]

end View

/-- What some lines say, read one by one, wherever they stand. -/
theorem content_mapIdx_lineDirective? (tags : BuildTags) (ls : List (List Char))
    (p q : Nat → Position) :
    (ls.mapIdx fun i line => lineDirective? tags line (p i)).reduceOption.map Directive.content =
      (ls.mapIdx fun i line =>
        (lineDirective? tags line (q i)).toList.map Directive.content).flatten := by
  induction ls generalizing p q with
  | nil => rfl
  | cons line ls ih =>
    have hRest := ih (fun i => p (i + 1)) fun i => q (i + 1)
    have hLine := content_lineDirective? tags line (p 0) (q 0)
    rw [List.mapIdx_cons, List.mapIdx_cons, List.flatten_cons, ← hRest]
    cases hLeft : lineDirective? tags line (p 0) with
    | none =>
      rw [hLeft, Option.map_none] at hLine
      rw [Option.map_eq_none_iff.mp hLine.symm]
      rfl
    | some d =>
      rw [hLeft, Option.map_some] at hLine
      obtain ⟨e, hRight, hContent⟩ := Option.map_eq_some_iff.mp hLine.symm
      rw [hRight, List.reduceOption_cons_of_some, List.map_cons, ← hContent]
      rfl

/-- **A block comment is read like line comments**, up to the first line that is too long.  It gives
the directives of its lines before that one, and a warning for that one if there is one; what the
other comments give stays as it is.  Line comments with these lines, wherever they stand behind the
header, say the same, and a line comment may be as long as it likes. -/
theorem block_comment_reads_lines {source inside : List Char} {root n : Node}
    {before behind : List Node}
    (hComments : commentsOf root = before ++ n :: behind) (hBody : inHeader root n = false)
    (hText : n.text source = "/*".toList ++ (inside ++ "*/".toList)) (tags : BuildTags)
    (functions : Bool) :
    let view := viewOf source tags functions root
    let position := Position.ofOffset source n.start
    let looked := linesBeforeOverlong (lines inside)
    let own :=
      (looked.mapIdx fun i line => lineDirective? tags line (below position i)).reduceOption
    let warning :=
      ((lines inside).findIdx? isOverlong).map fun i => overlongWarning (below position i)
    (walk source tags functions root).1.directives =
        before.flatMap (fun m => (view.findingsOfComment m).directives) ++
          (own ++ behind.flatMap fun m => (view.findingsOfComment m).directives) ∧
      (walk source tags functions root).2 =
        before.flatMap (fun m => (view.findingsOfComment m).log) ++
          (warning.toList ++ behind.flatMap fun m => (view.findingsOfComment m).log) ∧
      (∀ starts : Nat → Nat, (∀ i, packageStart root ≤ starts i) →
        own.map Directive.content = (looked.mapIdx fun i line =>
          (view.commentFindings (starts i) ("//".toList ++ line)).directives.map
            Directive.content).flatten) ∧
      ∀ start body, packageStart root ≤ start →
        view.commentFindings start ("//".toList ++ body) =
          .ofDirectives (lineDirective? tags body (Position.ofOffset source start)).toList := by
  intro view position looked own warning
  have hStart : view.packageStart ≤ n.start := Nat.not_lt.mp (of_decide_eq_false hBody)
  have hOwn : view.findingsOfComment n = { directives := own, log := warning.toList } := by
    rw [view.findingsOfComment_block hStart hText, view.blockFindings_eq]
    rfl
  obtain ⟨hDirectives, hLog⟩ := walk_eq_commentsOf source functions root tags
  refine ⟨?_, ?_, fun starts hStarts => ?_, fun start body hBehind => ?_⟩
  · rw [hDirectives, hComments, List.flatMap_append, List.flatMap_cons]
    simp only [view, own, hOwn]
  · rw [hLog, hComments, List.flatMap_append, List.flatMap_cons]
    simp only [view, warning, hOwn]
  · have hLine (i : Nat) (line : List Char) :
        (view.commentFindings (starts i) ("//".toList ++ line)).directives =
          (lineDirective? tags line (Position.ofOffset source (starts i))).toList := by
      rw [view.commentFindings_lineComment (hStarts i)]
      rfl
    simp only [hLine]
    exact content_mapIdx_lineDirective? tags looked _ _
  · exact view.commentFindings_lineComment hBehind body

/-! ### A line that is too long -/

/-- Three lines without an ending behind the last one. -/
def threeLines (above line below : List Char) : List Char :=
  above ++ '\n' :: (line ++ '\n' :: below)

/-- A line between two flags. -/
def betweenFlags (line : List Char) : List Char :=
  threeLines "#cgo LDFLAGS: -la".toList line "#cgo LDFLAGS: -lb".toList

/-- A package clause, and a block comment with the line between the flags. -/
def flagsFile (line : List Char) : List Char :=
  "package p\n".toList ++ ("/*".toList ++ (betweenFlags line ++ "*/".toList) ++ ['\n'])

theorem lines_threeLines {above line below : List Char} (hAbove : OneLine above)
    (hLine : OneLine line) (hBelow : OneLine below) (hNil : below ≠ []) :
    lines (threeLines above line below) = [above, line, below] := by
  rw [threeLines, lines_append hAbove, lines_append hLine, lines_of_oneLine hBelow hNil]

theorem staysInside_threeLines {above line below : List Char}
    (h : [above, line, below].all fun l => l.all (fun c => c != Lexeme.nul && c != '*')) :
    StaysInside (threeLines above line below) := by
  simp only [List.all_cons, List.all_nil, Bool.and_true, Bool.and_eq_true] at h
  refine .of_all ?_
  rw [threeLines, List.all_append, List.all_cons, List.all_append, List.all_cons, h.1, h.2.1, h.2.2]
  rfl

theorem exists_overlong :
    ∃ line, isOverlong line = true ∧ OneLine line ∧
      line.all (fun c => c != Lexeme.nul && c != '*') = true := by
  have hSize (count : Nat) : byteSize (List.replicate count 'x') = count := by
    induction count with
    | zero => rfl
    | succ count ih =>
      rw [List.replicate_succ, byteSize, ih, Nat.add_comm]
      rfl
  have hEach {c : Char} (hc : c ∈ List.replicate (maxCommentLine + 1) 'x') : c = 'x' :=
    List.eq_of_mem_replicate hc
  refine ⟨List.replicate (maxCommentLine + 1) 'x', ?_, fun c hc => ?_,
    List.all_eq_true.mpr fun c hc => ?_⟩
  · rw [isOverlong, hSize]
    exact decide_eq_true (Nat.lt_succ_self _)
  · rw [hEach hc]
    decide
  · rw [hEach hc]
    decide

/-- The flag above the long line is found, the one below it is not. -/
theorem block_comment_reads_lines_overlong :
    ∃ line pieces, isOverlong line = true ∧ Plain.rendered pieces = flagsFile line ∧
      let walked := walk (flagsFile line) ⟨[]⟩ false (Plain.tree pieces)
      walked.1.directives = [⟨.linkFlags, "-la", ⟨2, 1⟩⟩] ∧
        walked.2 = [⟨.warn, "Extra long comment ignored at 3:1"⟩] := by
  obtain ⟨line, hLong, hLine, hAll⟩ := exists_overlong
  let text := "/*".toList ++ (betweenFlags line ++ "*/".toList)
  have hInside : StaysInside (betweenFlags line) := by
    refine staysInside_threeLines ?_
    rw [List.all_cons, List.all_cons, hAll]
    rfl
  have hLines : lines (betweenFlags line) =
      ["#cgo LDFLAGS: -la".toList, line, "#cgo LDFLAGS: -lb".toList] :=
    lines_threeLines (by decide) hLine (by decide) (List.cons_ne_nil _ _)
  let pieces : List Plain.Piece :=
    [PackageName.piece ⟨'p', [], by decide, List.forall_mem_nil _, by decide⟩,
      .ofComment '*' (betweenFlags line ++ "*/".toList)
        (comment?_of_blockRest? (Lexeme.blockRest?_close hInside))]
  have hSource : Plain.rendered pieces = flagsFile line := by
    rw [Plain.rendered_cons, Plain.rendered_cons]
    rfl
  have hText : (Plain.leaf .comment 10 (10 + byteSize text)).text (flagsFile line) = text :=
    slice_of_eq rfl rfl rfl
  have hPosition : Position.ofOffset (flagsFile line) 10 = ⟨2, 1⟩ := Position.ofOffset_of_eq rfl
  have hComments : commentsOf (Plain.tree pieces) =
      [] ++ Plain.leaf .comment 10 (10 + byteSize text) :: [] := rfl
  obtain ⟨hDirectives, hLog, -⟩ := block_comment_reads_lines hComments rfl hText ⟨[]⟩ false
  have hFirst : isOverlong "#cgo LDFLAGS: -la".toList = false := by decide
  refine ⟨line, pieces, hLong, hSource, ?_, ?_⟩
  · rw [hDirectives, hLines, linesBeforeOverlong_cons hFirst, linesBeforeOverlong,
      List.takeWhile_cons_of_neg (by simp [hLong])]
    show [(⟨.linkFlags, "-la", Position.ofOffset (flagsFile line) 10⟩ : Directive)] = _
    rw [hPosition]
  · rw [hLog, hLines, List.findIdx?_cons, hFirst, List.findIdx?_cons, hLong]
    show [overlongWarning (below (Position.ofOffset (flagsFile line) 10) 1)] = _
    rw [hPosition]
    rfl

end BuildScan
