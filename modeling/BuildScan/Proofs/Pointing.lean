import BuildScan.Proofs.PlainFile
import BuildScan.Proofs.Recognizing

/-!
# Positions point at the text they talk about

Lines are counted twice: the tree places a comment in the whole source, and a recognizer counts the
lines inside the comment, with its marks taken off and the `\r` in front of a line end dropped.
`positions_point_at_text` says that the two counts fit.  The line of the source that a directive's
position names shows the directive, and its column is where the comment starts, or the first one on
further lines.  The position of an error is one of the source, too, the place behind the last
character included.
-/

namespace BuildScan

open BuildScan.Text BuildScan.Go

/-! ### Comments -/

theorem mem_nodes_of_visible {root n : Node} {path : List Nat} (h : Visible root path n) :
    n ∈ root.nodes := by
  induction h with
  | root => exact Node.self_mem_nodes root
  | child _ _ hChild ih =>
    exact Node.mem_nodes_trans ih (Node.mem_nodes_of_mem_children (List.mem_of_getElem? hChild))

theorem mem_commentsOf {root n : Node} (h : n ∈ commentsOf root) :
    n ∈ root.nodes ∧ n.kind = .comment := by
  rw [commentsOf] at h
  split at h
  next =>
    obtain ⟨hVisible, hKind⟩ := List.mem_filter.mp h
    obtain ⟨⟨path, m⟩, hPlace, rfl⟩ := List.mem_map.mp hVisible
    exact ⟨mem_nodes_of_visible (mem_visiblePlaces_iff.mp hPlace), of_decide_eq_true hKind⟩
  next => cases h

theorem mem_commentsOf_of_visible {root n : Node} {path : List Nat}
    (hFile : root.kind = .sourceFile)
    (h : Visible root path n) (hKind : n.kind = .comment) : n ∈ commentsOf root := by
  rw [commentsOf, if_pos hFile]
  have hPlace : n ∈ (visiblePlaces root).map Prod.snd :=
    List.mem_map.mpr ⟨_, mem_visiblePlaces_iff.mpr h, rfl⟩
  exact List.mem_filter.mpr ⟨hPlace, decide_eq_true hKind⟩

/-! ### Places of a source -/

/-- The position is one of the text: its column is one of the line that it names, or the place
behind it. -/
def Text.Position.IsIn (p : Position) (text : List Char) : Prop :=
  1 ≤ p.line ∧ 1 ≤ p.column ∧
    ∃ line, (splitAt '\n' text)[p.line - 1]? = some line ∧ p.column ≤ byteSize line + 1

theorem byteSize_le_of_prefix {xs ys : List Char} (h : xs <+: ys) : byteSize xs ≤ byteSize ys := by
  obtain ⟨rest, rfl⟩ := h
  rw [byteSize_append]
  exact Nat.le_add_right _ _

theorem Text.Position.ofOffset_isIn (source : List Char) (offset : Nat) :
    (ofOffset source offset).IsIn source := by
  have hSplit := takeBytes_append_dropBytes offset source
  have hAfter : ofOffset source offset = origin.after (takeBytes offset source) := rfl
  generalize takeBytes offset source = before at hSplit hAfter
  obtain ⟨line, hLine, hPrefix⟩ :=
    exists_line_append_right (getElem?_count_splitAt '\n' before) (dropBytes offset source)
  have hColumn := byteSize_le_of_prefix hPrefix
  rw [hSplit] at hLine
  rw [hAfter, after_origin, length_splitAt]
  exact ⟨Nat.succ_le_succ (Nat.zero_le _), Nat.succ_le_succ (Nat.zero_le _), line, hLine,
    Nat.succ_le_succ hColumn⟩

/-! ### Directives -/

/-- The directive is on some line of the comment.  Its position says which line of the source that
is, and that line shows the directive; its column says where the comment starts, or is the first one
on a further line of the comment.  Lines end at `\n` only. -/
def Directive.PointsAt (source : List Char) (comment : Node) (d : Directive) : Prop :=
  ∃ before rest i line,
    source = before ++ (comment.text source ++ rest) ∧ comment.start = byteSize before ∧
    i < (splitAt '\n' (comment.text source)).length ∧
    d.position.line = (splitAt '\n' before).length + i ∧
    d.position.column = (if i = 0 then byteSize ((splitAt '\n' before).getLastD []) + 1 else 1) ∧
    (splitAt '\n' source)[d.position.line - 1]? = some line ∧ d.Shown line

theorem below_eq (before : List Char) (i : Nat) : below (Position.origin.after before) i =
    ⟨(splitAt '\n' before).length + i,
      if i = 0 then byteSize ((splitAt '\n' before).getLastD []) + 1 else 1⟩ := by
  rw [Position.after_origin, below]
  split
  next hZero =>
    subst hZero
    rfl
  next => rfl

theorem pointsAt_of_mem_commentDirectives {source : List Char} {tags : BuildTags} {root n : Node}
    (hRoot : root.Stands source) (hn : n ∈ commentsOf root) {d : Directive}
    (hd : d ∈ commentDirectives source tags root n) : d.PointsAt source n := by
  obtain ⟨hNode, hKind⟩ := mem_commentsOf hn
  obtain ⟨before, rest, hSource, hStart, -⟩ := hRoot.exists_parts hNode
  obtain ⟨i, part, hPart, hShown, hPosition⟩ :=
    exists_line_of_mem_commentDirectives (hRoot.comments n hNode hKind) hd
  obtain ⟨line, hLine, hInfix⟩ := exists_line_of_isInfix before hPart rest
  have hAt : d.position = below (Position.origin.after before) i := by
    rw [hPosition, hStart, Position.ofOffset_of_eq hSource]
  rw [below_eq] at hAt
  have hIndex : d.position.line - 1 = before.count '\n' + i := by
    have hCount := length_splitAt '\n' before
    rw [hAt]
    show (splitAt '\n' before).length + i - 1 = _
    omega
  refine ⟨before, rest, i, line, hSource, hStart, ?_, by rw [hAt], by rw [hAt], ?_,
    hShown.of_isInfix hInfix⟩
  · exact (List.getElem?_eq_some_iff.mp hPart).1
  · rw [hIndex]
    nth_rewrite 1 [hSource]
    exact hLine

/-! ### Scans -/

theorem eq_walk_of_scan [Go.Parser] {tags : BuildTags} {text : String} {isTest : Bool}
    {scanned : Scanned} (h : (scan tags text isTest).1 = .ok scanned) :
    rejection? text.toList isTest (Go.parse text.toList) = none ∧
      scanned = (walk text.toList tags isTest (Go.parse text.toList)).1 := by
  cases hRejected : rejection? text.toList isTest (Go.parse text.toList) with
  | some e =>
    rw [scan_of_rejected hRejected] at h
    cases h
  | none =>
    rw [scan_of_accepted hRejected] at h
    exact ⟨rfl, (Except.ok.inj h).symm⟩

/-- Every rejection is an error at some offset of the source. -/
theorem eq_parseError_of_rejection? {source : List Char} {wholeFile : Bool} {root : Node}
    {e : BuildError} (h : rejection? source wholeFile root = some e) :
    ∃ offset message, e = parseError source offset message := by
  rw [rejection?] at h
  split at h
  next fault _ => exact ⟨fault.start, fault.faultMessage source, (Option.some.inj h).symm⟩
  next =>
    rw [packageError?] at h
    split at h
    · exact ⟨root.stop, _, (Option.some.inj h).symm⟩
    next first _ =>
      split at h
      · cases h
      · exact ⟨first.start, _, (Option.some.inj h).symm⟩

/-- **Positions point at the text they talk about**: those of directives at a line of a comment that
shows the directive, if the parser is sound, and those of errors into the source. -/
theorem positions_point_at_text [Go.Parser] (tags : BuildTags) (text : String) (isTest : Bool) :
    let source := text.toList
    (Go.Parser.Sound → ∀ scanned, (scan tags text isTest).1 = .ok scanned →
      ∀ d ∈ scanned.directives,
      ∃ comment ∈ commentsOf (Go.parse source), d.PointsAt source comment) ∧
    ∀ e, (scan tags text isTest).1 = .error e →
      ∃ position message, e = .parse position message ∧ position.IsIn source := by
  intro source
  constructor
  · intro hParser scanned hScan d hd
    obtain ⟨-, rfl⟩ := eq_walk_of_scan hScan
    rw [walk_directives_eq] at hd
    obtain ⟨n, hn, hd⟩ := List.mem_flatMap.mp hd
    exact ⟨n, hn, pointsAt_of_mem_commentDirectives (hParser.stands source) hn hd⟩
  · intro e hScan
    cases hRejected : rejection? source isTest (Go.parse source) with
    | none =>
      rw [scan_of_accepted hRejected] at hScan
      cases hScan
    | some e' =>
      rw [scan_of_rejected hRejected] at hScan
      obtain rfl := Except.error.inj hScan
      obtain ⟨offset, message, rfl⟩ := eq_parseError_of_rejection? hRejected
      exact ⟨_, message, rfl, Position.ofOffset_isIn source offset⟩

/-- A target, a package clause and a flag. -/
def flagPieces : List Plain.Piece :=
  [TargetName.piece ⟨['w'], by decide, List.forall_mem_singleton.mpr ⟨rfl, by decide⟩⟩,
    PackageName.piece ⟨'q', ['t'], by decide, List.forall_mem_singleton.mpr rfl, by decide⟩,
    CommentLine.piece ⟨"#cgo LDFLAGS: -lm".toList, by decide, .of_all rfl⟩]

def flagText : String := "// target: w\npackage qt\n//#cgo LDFLAGS: -lm\n"

/-- A comment and nothing else. -/
def lonePieces : List Plain.Piece := [CommentLine.piece ⟨" no".toList, by decide, .of_all rfl⟩]

local instance flagParser : Go.Parser := Plain.parserOf [flagPieces, lonePieces]

theorem scan_flagText : (scan ⟨[]⟩ flagText false).1 =
    .ok ⟨"qt", [], [], [⟨.target, "w", ⟨1, 1⟩⟩, ⟨.linkFlags, "-lm", ⟨3, 1⟩⟩]⟩ := by
  have hText : flagText.toList = Plain.rendered flagPieces := by decide
  have hParse : Go.parse (Plain.rendered flagPieces) = Plain.tree flagPieces :=
    Plain.parse_parserOf_self flagPieces [lonePieces]
  rw [scan, hText, hParse]
  rfl

theorem scan_lonePieces : (scan ⟨[]⟩ "// no\n" false).1 =
    .error (.parse ⟨2, 1⟩ "expected 'package', found EOF") := by
  have hText : "// no\n".toList = Plain.rendered lonePieces := by decide
  have hParse : Go.parse (Plain.rendered lonePieces) = Plain.tree lonePieces :=
    (Plain.parse_parserOf_of_ne (by decide) [lonePieces]).trans
      (Plain.parse_parserOf_self lonePieces [])
  rw [scan, hText, hParse]
  rfl

/-- A target and a flag on their lines, and a file that ends where its package clause is missed. -/
theorem positions_point_at_text_flag : Go.Parser.Sound ∧
    (∃ scanned, (scan ⟨[]⟩ flagText false).1 = .ok scanned ∧ ∀ d ∈ scanned.directives,
      ∃ comment ∈ commentsOf (Go.parse flagText.toList), d.PointsAt flagText.toList comment) ∧
    ∃ e, (scan ⟨[]⟩ "// no\n" false).1 = .error e ∧
      ∃ position message, e = .parse position message ∧ position.IsIn "// no\n".toList :=
  have hParser := Plain.sound_parserOf [flagPieces, lonePieces]
  ⟨hParser,
    ⟨_, scan_flagText, (positions_point_at_text ⟨[]⟩ flagText false).1 hParser _ scan_flagText⟩,
    _, scan_lonePieces, (positions_point_at_text ⟨[]⟩ _ false).2 _ scan_lonePieces⟩

end BuildScan
