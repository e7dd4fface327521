import BuildScan.Proofs.PlainFile
import BuildScan.Proofs.Walk

/-!
# Scanning plain files

`scan_plainFile` says that a scan of a plain file finds the facts that it says and nothing else,
whatever the tags, and as a test unit as well.

A scan tells the header from the body by offsets, and directives are placed by lines, so both are
carried along the text: `LineStart` says that a line with a given number starts behind some part of
the text.  The targets are in the header, since the package clause starts behind all of them
(`findingsIn_targets`), and what follows the clause is not (`findingsIn_items`).
-/

namespace BuildScan

open BuildScan.Text BuildScan.Go

/-! ### What its comments say -/

/-- Only these directives are found. -/
def Findings.ofDirectives (ds : List Directive) : Findings := { directives := ds }

theorem Findings.ofDirectives_append (ds es : List Directive) :
    ofDirectives ds ++ ofDirectives es = ofDirectives (ds ++ es) := rfl

theorem TargetName.headerFindings (t : TargetName) (line : Nat) :
    View.headerFindings t.piece.text ⟨line, 1⟩ = .ofDirectives [t.directive line] := by
  have hBlank : ∀ c ∈ t.text, isBlank c = false := fun c hc => (t.visible c hc).1
  have hBehind : Directive.behind? "//" t.piece.text = some (" target: ".toList ++ t.text) := rfl
  have hStart : trimStart (" target: ".toList ++ t.text) = "target: ".toList ++ t.text := rfl
  have hTrim : trim (" target: ".toList ++ t.text) = "target: ".toList ++ t.text := by
    rw [trim, hStart, trimEnd_append hBlank t.nonempty]
  have hWords : words (' ' :: t.text) = [t.text] := by
    rw [words_cons_of_blank (by decide), words_of_forall hBlank t.nonempty]
  have hTarget : Directive.target? ("target: ".toList ++ t.text) = some t.text := by
    have hRest : Directive.behind? "target:" ("target: ".toList ++ t.text) = some (' ' :: t.text) :=
      rfl
    rw [Directive.target?, hRest, Option.bind_some, hWords, List.head?_cons]
  rw [View.headerFindings, hBehind, Option.bind_some, hTrim, hTarget]
  rfl

/-- The directive that a line of a comment makes at a place. -/
def lineDirective? (tags : BuildTags) (line : List Char) (position : Position) : Option Directive :=
  (Directive.cgo? tags (trim line)).map fun said => ⟨said.1, String.ofList said.2, position⟩

theorem View.lineFindings_eq (v : View) (line : List Char) (position : Position) :
    v.lineFindings line position = .ofDirectives (lineDirective? v.tags line position).toList := by
  rw [View.lineFindings, lineDirective?]
  cases Directive.cgo? v.tags (trim line) <;> rfl

/-- **A line comment** is looked at whatever its length. -/
theorem View.bodyFindings_lineComment (v : View) (body : List Char) (position : Position) :
    v.bodyFindings ("//".toList ++ body) position =
      .ofDirectives (lineDirective? v.tags body position).toList := by
  have hBehind : Directive.behind? "//" ("//".toList ++ body) = some body := rfl
  rw [View.bodyFindings, hBehind]
  exact v.lineFindings_eq body position

theorem CommentLine.lineFindings (v : View) (l : CommentLine) (line : Nat) :
    v.lineFindings l.text ⟨line, 1⟩ = .ofDirectives (l.directive? v.tags line).toList :=
  v.lineFindings_eq l.text ⟨line, 1⟩

theorem CommentLine.bodyFindings (v : View) (l : CommentLine) (line : Nat) :
    v.bodyFindings l.piece.text ⟨line, 1⟩ = .ofDirectives (l.directive? v.tags line).toList :=
  v.bodyFindings_lineComment l.text ⟨line, 1⟩

theorem blockFindings_cons (v : View) (l : BlockLine) (line : Nat) (rest : List (List Char)) :
    v.blockFindings ⟨line, 1⟩ (l.text :: rest) =
      .ofDirectives (l.directive? v.tags line).toList ++ v.blockFindings ⟨line + 1, 1⟩ rest := by
  have hShort : ¬ byteSize l.text > maxCommentLine := Nat.not_lt.mpr l.short
  rw [View.blockFindings, if_neg hShort, l.lineFindings]

theorem directives_blockComment_cons (tags : BuildTags) (l : BlockLine) (ls : List BlockLine)
    (line : Nat) :
    (BodyItem.blockComment (l :: ls)).directives tags line =
      (l.directive? tags line).toList ++ (BodyItem.blockComment ls).directives tags (line + 1) := by
  rw [BodyItem.directives, List.zipIdx_cons, List.filterMap_cons, BodyItem.directives]
  cases l.directive? tags line <;> rfl

theorem directive?_of_empty {tags : BuildTags} {l : CommentLine} (h : l.text = []) (line : Nat) :
    l.directive? tags line = none := by
  rw [CommentLine.directive?, h]
  rfl

theorem blockFindings_lines_joined (v : View) (ls : List BlockLine) (line : Nat) :
    v.blockFindings ⟨line, 1⟩ (lines (joined ls)) =
      .ofDirectives ((BodyItem.blockComment ls).directives v.tags line) := by
  induction ls generalizing line with
  | nil => rfl
  | cons l ls ih =>
    rw [directives_blockComment_cons, ← Findings.ofDirectives_append, ← ih]
    cases ls with
    | nil =>
      rw [joined_singleton]
      by_cases hEmpty : l.text = []
      · -- An empty last line is not among the lines, and makes no directive either.
        rw [directive?_of_empty hEmpty, hEmpty]
        rfl
      · rw [lines_of_oneLine l.oneLine hEmpty, blockFindings_cons]
        rfl
    | cons m ls => rw [joined_cons_cons, lines_append l.oneLine, blockFindings_cons]

theorem blockInside?_markers (inside : List Char) :
    View.blockInside? ("/*".toList ++ (inside ++ "*/".toList)) = some inside := by
  have hLength : ("/*".toList ++ (inside ++ "*/".toList)).length = inside.length + 4 := by
    rw [List.length_append, List.length_append]
    exact Nat.add_comm _ _
  have hSuffix : ['*', '/'].isSuffixOf ("/*".toList ++ (inside ++ "*/".toList)) = true := by
    rw [List.isSuffixOf_iff_suffix, ← List.append_assoc]
    exact List.suffix_append _ _
  have hOpens : ['/', '*'].isPrefixOf ("/*".toList ++ (inside ++ "*/".toList)) = true := rfl
  have hInside : (("/*".toList ++ (inside ++ "*/".toList)).drop 2).take inside.length = inside :=
    List.take_left
  rw [View.blockInside?, hOpens, hSuffix, hLength, decide_eq_true (Nat.le_add_left 4 _),
    Nat.add_sub_cancel, hInside]
  rfl

theorem bodyFindings_blockPiece (v : View) (ls : List BlockLine) (line : Nat) :
    v.bodyFindings (blockPiece ls).text ⟨line, 1⟩ =
      .ofDirectives ((BodyItem.blockComment ls).directives v.tags line) := by
  have hBehind : Directive.behind? "//" (blockPiece ls).text = none := rfl
  have hText : (blockPiece ls).text = "/*".toList ++ (joined ls ++ "*/".toList) := rfl
  rw [View.bodyFindings, hBehind, hText, blockInside?_markers]
  exact blockFindings_lines_joined v ls line

/-! ### From line to line -/

/-- A line with this number starts behind `before`, and `rest` stands on it and below. -/
structure LineStart (source before rest : List Char) (line : Nat) : Prop where
  source_eq : source = before ++ rest
  after_eq : Position.origin.after before = ⟨line, 1⟩

variable {source before rest : List Char} {line : Nat}

theorem LineStart.next {cs : List Char} (h : LineStart source before (cs ++ '\n' :: rest) line) :
    LineStart source (before ++ (cs ++ ['\n'])) rest (line + (cs.count '\n' + 1)) where
  source_eq := by
    rw [h.source_eq, List.append_assoc, List.append_assoc]
    rfl
  after_eq := by
    rw [Position.after_append, h.after_eq, Position.after_lineEnd]
    rfl

theorem count_lineEnd_joined (ls : List BlockLine) :
    (joined ls).count '\n' + 1 = max 1 ls.length := by
  induction ls with
  | nil => rfl
  | cons l ls ih =>
    cases ls with
    | nil =>
      rw [joined_singleton, l.count_lineEnd]
      rfl
    | cons m ls =>
      rw [joined_cons_cons, List.count_append, List.count_cons_self, l.count_lineEnd, ih]
      simp only [List.length_cons]
      omega

/-- An item takes as many lines as it has line ends, the one behind it included. -/
theorem BodyItem.height_eq (i : BodyItem) : i.height = i.text.count '\n' + 1 := by
  cases i with
  | importOf path =>
    have hInside : path.inside.count '\n' = 0 :=
      count_lineEnd_of_forall fun _ hc => path.ne_lineEnd_of_mem hc
    have hText : (importOf path).text = "import \"".toList ++ (path.inside ++ ['"']) := rfl
    rw [hText, List.count_append, List.count_append, hInside]
    rfl
  | lineComment l =>
    have hText : (lineComment l).text = "//".toList ++ l.text := rfl
    rw [hText, List.count_append, l.count_lineEnd]
    rfl
  | blockComment ls =>
    have hText : (blockComment ls).text = "/*".toList ++ joined ls ++ "*/".toList := rfl
    have hOpen : "/*".toList.count '\n' = 0 := rfl
    have hClose : "*/".toList.count '\n' = 0 := rfl
    rw [hText, List.count_append, List.count_append, hOpen, hClose, height, ← count_lineEnd_joined,
      Nat.zero_add, Nat.add_zero]

variable {v : View}

theorem findings_comment_lineStart {p : Plain.Piece}
    (hNode : ∀ offset, p.node offset = Plain.leaf .comment offset (offset + byteSize p.text))
    (hLine : LineStart v.source before (p.text ++ '\n' :: rest) line) :
    v.findings (p.node (byteSize before)) =
      if byteSize before < v.packageStart then View.headerFindings p.text ⟨line, 1⟩
      else v.bodyFindings p.text ⟨line, 1⟩ := by
  have hText : slice v.source (byteSize before) (byteSize before + byteSize p.text) = p.text :=
    slice_of_eq hLine.source_eq rfl rfl
  have hPosition : Position.ofOffset v.source (byteSize before) = ⟨line, 1⟩ := by
    rw [Position.ofOffset_of_eq hLine.source_eq, hLine.after_eq]
  have hFindings :
      v.findings (Plain.leaf .comment (byteSize before) (byteSize before + byteSize p.text)) =
      v.commentFindings (byteSize before)
        (slice v.source (byteSize before) (byteSize before + byteSize p.text)) := rfl
  rw [hNode, hFindings, hText, View.commentFindings, hPosition]

theorem ImportPath.findings (path : ImportPath)
    (hLine : LineStart v.source before (path.piece.text ++ '\n' :: rest) line) :
    v.findings (path.piece.node (byteSize before)) = { deps := [String.ofList path.text] } := by
  have hPiece : path.piece.text = "import ".toList ++ path.text := rfl
  have hSource : v.source = before ++ "import ".toList ++ (path.text ++ '\n' :: rest) := by
    rw [hLine.source_eq, hPiece, List.append_assoc, List.append_assoc]
  have hSize : byteSize path.text = byteSize path.inside + 2 := by
    rw [text, byteSize, byteSize_append]
    exact Nat.add_comm _ _
  have hText :
      slice v.source (byteSize before + 7) (byteSize before + 7 + byteSize path.inside + 2) =
      path.text := by
    refine slice_of_eq hSource ?_ ?_
    · rw [byteSize_append]
      rfl
    · rw [hSize, Nat.add_assoc]
  have hFindings : v.findings (path.piece.node (byteSize before)) =
      { deps := [String.ofList (slice v.source (byteSize before + 7)
        (byteSize before + 7 + byteSize path.inside + 2))] } := rfl
  rw [hFindings, hText]

theorem BodyItem.findings (i : BodyItem)
    (hLine : LineStart v.source before (i.piece.text ++ '\n' :: rest) line)
    (hBody : v.packageStart ≤ byteSize before) :
    v.findings (i.piece.node (byteSize before)) =
      { deps := i.dep?.toList, directives := i.directives v.tags line } := by
  have hBehind : ¬ byteSize before < v.packageStart := Nat.not_lt.mpr hBody
  cases i with
  | importOf path => exact path.findings hLine
  | lineComment l =>
    have hFound := findings_comment_lineStart (p := l.piece) (fun _ => rfl) hLine
    rw [if_neg hBehind, l.bodyFindings] at hFound
    exact hFound
  | blockComment ls =>
    have hFound := findings_comment_lineStart (p := blockPiece ls) (fun _ => rfl) hLine
    rw [if_neg hBehind, bodyFindings_blockPiece] at hFound
    exact hFound

theorem findingsIn_items (is : List BodyItem)
    (hLine : LineStart v.source before (Plain.rendered (is.map BodyItem.piece)) line)
    (hBody : v.packageStart ≤ byteSize before) :
    v.findingsIn (Plain.nodesFrom (byteSize before) (is.map BodyItem.piece)) =
      { deps := is.filterMap BodyItem.dep?,
        directives := BodyItem.directivesFrom v.tags line is } := by
  induction is generalizing before line with
  | nil => rfl
  | cons i is ih =>
    rw [List.map_cons, Plain.rendered_cons] at hLine
    have hHeight : i.height = i.piece.text.count '\n' + 1 := by rw [i.piece_text, i.height_eq]
    have hNext := hLine.next
    rw [← hHeight] at hNext
    have hBelow : v.packageStart ≤ byteSize (before ++ (i.piece.text ++ ['\n'])) := by
      rw [byteSize_append]
      exact Nat.le_add_right_of_le hBody
    have hRest := ih hNext hBelow
    rw [byteSize_append] at hRest
    rw [List.map_cons, Plain.nodesFrom, View.findingsIn, i.findings hLine hBody, hRest,
      List.filterMap_cons, BodyItem.directivesFrom]
    cases i.dep? <;> rfl

theorem TargetName.findings (t : TargetName)
    (hLine : LineStart v.source before (t.piece.text ++ '\n' :: rest) line)
    (hHeader : byteSize before < v.packageStart) :
    v.findings (t.piece.node (byteSize before)) = .ofDirectives [t.directive line] := by
  have hFound := findings_comment_lineStart (p := t.piece) (fun _ => rfl) hLine
  rw [if_pos hHeader, t.headerFindings] at hFound
  exact hFound

theorem TargetName.count_lineEnd (t : TargetName) : t.piece.text.count '\n' = 0 := by
  have hName : t.text.count '\n' = 0 :=
    count_lineEnd_of_forall fun c hc => (t.ne_of_mem (List.mem_append_right _ hc)).1
  have hText : t.piece.text = "// target: ".toList ++ t.text := rfl
  rw [hText, List.count_append, hName]
  rfl

theorem findingsIn_targets (ts : List TargetName)
    (hLine : LineStart v.source before (Plain.rendered (ts.map TargetName.piece) ++ rest) line)
    (hHeader : v.packageStart =
      byteSize before + byteSize (Plain.rendered (ts.map TargetName.piece))) :
    v.findingsIn (Plain.nodesFrom (byteSize before) (ts.map TargetName.piece)) =
        .ofDirectives ((ts.zipIdx line).map fun t => t.1.directive t.2) ∧
      LineStart v.source (before ++ Plain.rendered (ts.map TargetName.piece)) rest
        (line + ts.length) := by
  induction ts generalizing before line with
  | nil =>
    rw [List.map_nil, Plain.rendered, List.flatMap_nil, List.append_nil]
    exact ⟨rfl, hLine⟩
  | cons t ts ih =>
    rw [List.map_cons, Plain.rendered_cons] at hLine hHeader ⊢
    rw [List.append_assoc, List.cons_append] at hLine
    have hAbove : byteSize before < v.packageStart := by
      rw [hHeader, byteSize_append, byteSize]
      have hPos := Char.utf8Size_pos '\n'
      omega
    have hNext := hLine.next
    rw [t.count_lineEnd] at hNext
    have hSplit : before ++ (t.piece.text ++ '\n' :: Plain.rendered (ts.map TargetName.piece)) =
        before ++ (t.piece.text ++ ['\n']) ++ Plain.rendered (ts.map TargetName.piece) := by
      rw [List.append_assoc, List.append_assoc]
      rfl
    rw [← byteSize_append, hSplit, byteSize_append] at hHeader
    obtain ⟨hFound, hEnd⟩ := ih hNext hHeader
    rw [byteSize_append] at hFound
    refine ⟨?_, ?_⟩
    · rw [Plain.nodesFrom, View.findingsIn, t.findings hLine hAbove, hFound]
      rfl
    · rw [hSplit, List.length_cons, Nat.add_comm ts.length, ← Nat.add_assoc]
      exact hEnd

/-! ### The whole file -/

namespace PlainFile

variable (f : PlainFile)

/-- The part above the package clause. -/
def header : List Plain.Piece := f.targets.map TargetName.piece

/-- The part below it. -/
def body : List Plain.Piece := f.items.map BodyItem.piece

/-- Everything in a row. -/
def pieces : List Plain.Piece := f.header ++ f.package.piece :: f.body

/-- The text above the items. -/
def top : List Char := Plain.rendered f.header ++ (f.package.piece.text ++ ['\n'])

theorem text_eq : f.text = Plain.rendered f.header ++
    (f.package.piece.text ++ '\n' :: Plain.rendered f.body) := by
  have hHeader : Plain.rendered f.header =
      f.targets.flatMap fun t => "// target: ".toList ++ t.text ++ ['\n'] := by
    rw [Plain.rendered, header, List.flatMap_map]
    rfl
  have hBody : Plain.rendered f.body = f.items.flatMap fun i => i.text ++ ['\n'] := by
    rw [Plain.rendered, body, List.flatMap_map]
    simp only [BodyItem.piece_text]
  rw [text, hHeader, hBody, List.append_assoc]
  rfl

theorem rendered_pieces : Plain.rendered f.pieces = f.text := by
  rw [text_eq, pieces, Plain.rendered_append, Plain.rendered_cons]

/-- Where the package clause stands. -/
def clause : Node := Plain.packageNode f.package.text (byteSize (Plain.rendered f.header))

/-- The tree is the one that the grammar gives the file. -/
def IsTree (root : Node) : Prop := Plain.IsTree f.pieces root

theorem kind_of_mem_targets {ts : List TargetName} {n : Node} {offset : Nat}
    (h : n ∈ Plain.nodesFrom offset (ts.map TargetName.piece)) : n.kind = .comment := by
  induction ts generalizing offset with
  | nil => cases h
  | cons t ts ih =>
    rcases List.mem_cons.mp h with rfl | hRest
    · rfl
    · exact ih hRest

variable {f} {root : Node}

theorem IsTree.namedChildren_eq (h : f.IsTree root) : root.namedChildren =
    Plain.nodesFrom 0 f.header ++ f.clause :: Plain.nodesFrom (byteSize f.top) f.body := by
  have hTop : byteSize f.top =
      byteSize (Plain.rendered f.header) + byteSize (f.package.piece.text ++ ['\n']) := by
    rw [top, byteSize_append]
  rw [h.namedChildren, pieces, Plain.nodesFrom_append, Plain.nodesFrom, Nat.zero_add, hTop]
  rfl

/-- Whatever passes over comments finds the package clause first. -/
theorem IsTree.find?_namedChildren (h : f.IsTree root) {p : Node → Bool}
    (hSkip : ∀ n : Node, n.kind = .comment → p n = false) (hFind : p f.clause = true) :
    root.namedChildren.find? p = some f.clause := by
  have hHeader : (Plain.nodesFrom 0 f.header).find? p = none := by
    rw [List.find?_eq_none]
    intro n hn
    rw [hSkip n (kind_of_mem_targets hn)]
    exact Bool.false_ne_true
  rw [h.namedChildren_eq, List.find?_append, hHeader, Option.none_or, List.find?_cons_of_pos hFind]

theorem IsTree.rejection?_eq_none (h : f.IsTree root) (source : List Char) (isTest : Bool) :
    rejection? source isTest root = none := by
  have hFault : fatalFault? source isTest root = none := by
    rw [fatalFault?, h.sound]
    rfl
  have hFirst := h.find?_namedChildren (p := fun c => c.kind ≠ .comment)
    (fun n hn => by rw [hn]; rfl) rfl
  rw [rejection?, hFault, packageError?, hFirst]
  rfl

theorem IsTree.packageClause?_eq (h : f.IsTree root) : root.packageClause? = some f.clause :=
  h.find?_namedChildren (fun n hn => by rw [hn]; rfl) rfl

theorem IsTree.packageName?_eq (h : f.IsTree root) :
    packageName? f.text root = some f.package.text := by
  have hPiece : f.package.piece.text = "package ".toList ++ f.package.text := rfl
  have hText : f.text = Plain.rendered f.header ++ "package ".toList ++
      (f.package.text ++ '\n' :: Plain.rendered f.body) := by
    rw [text_eq, hPiece, List.append_assoc, List.append_assoc]
  have hName : slice f.text (byteSize (Plain.rendered f.header) + 8)
      (byteSize (Plain.rendered f.header) + 8 + byteSize f.package.text) = f.package.text := by
    refine slice_of_eq hText ?_ rfl
    rw [byteSize_append]
    rfl
  rw [packageName?, h.packageClause?_eq]
  exact congrArg some hName

theorem IsTree.packageStart_eq (h : f.IsTree root) :
    packageStart root = byteSize (Plain.rendered f.header) := by
  rw [packageStart, h.packageClause?_eq]
  rfl

theorem IsTree.findingsIn_eq (h : f.IsTree root) (tags : BuildTags) (isTest : Bool) :
    (viewOf f.text tags isTest root).findingsIn root.children =
      { deps := (f.facts tags).deps, directives := (f.facts tags).directives } := by
  have hStart : (viewOf f.text tags isTest root).packageStart =
      byteSize (Plain.rendered f.header) := h.packageStart_eq
  generalize hView : viewOf f.text tags isTest root = v at hStart ⊢
  have hSource : v.source = f.text := by rw [← hView]; rfl
  have hTags : v.tags = tags := by rw [← hView]; rfl
  have hFirst : LineStart v.source [] (Plain.rendered f.header ++
      (f.package.piece.text ++ '\n' :: Plain.rendered f.body)) 1 := by
    refine ⟨?_, rfl⟩
    rw [hSource, text_eq]
    rfl
  obtain ⟨hTargets, hClause⟩ :=
    findingsIn_targets f.targets hFirst (hStart.trans (Nat.zero_add _).symm)
  have hHeader : v.findingsIn (Plain.nodesFrom 0 f.header) =
      .ofDirectives ((f.targets.zipIdx 1).map fun t => t.1.directive t.2) := hTargets
  have hItems : LineStart v.source f.top (Plain.rendered f.body) (f.targets.length + 2) := by
    have hNext := hClause.next
    have hCount : 1 + f.targets.length + (0 + 1) = f.targets.length + 2 := by omega
    rw [f.package.count_lineEnd, hCount] at hNext
    exact hNext
  have hBelow : v.packageStart ≤ byteSize f.top := by
    rw [hStart, top, byteSize_append]
    exact Nat.le_add_right _ _
  have hBody : v.findingsIn (Plain.nodesFrom (byteSize f.top) f.body) =
      { deps := f.items.filterMap BodyItem.dep?
        directives := BodyItem.directivesFrom tags (f.targets.length + 2) f.items } := by
    rw [← hTags]
    exact findingsIn_items f.items hItems hBelow
  have hNone : v.findings f.clause = .none := rfl
  rw [← v.findingsIn_namedChildren, h.namedChildren_eq, View.findingsIn_append, View.findingsIn,
    hNone, Findings.none_append, hHeader, hBody]
  rfl

end PlainFile

/-- **A plain file shows what it says**, if the parser gives it the tree that the grammar does. -/
theorem scan_plainFile [Go.Parser] (f : PlainFile) (hTree : f.IsTree (Go.parse f.text))
    (tags : BuildTags) (isTest : Bool) :
    scan tags (String.ofList f.text) isTest = (.ok (f.facts tags), []) := by
  have hText : (String.ofList f.text).toList = f.text := String.toList_ofList
  rw [← hText] at hTree
  have hAccepted := hTree.rejection?_eq_none (String.ofList f.text).toList isTest
  rw [scan_of_accepted hAccepted, walk_eq hTree.kind, hText]
  rw [hText] at hTree
  rw [hTree.findingsIn_eq, hTree.packageName?_eq]
  rfl

/-- A file with something of each kind. -/
def cgoFile : PlainFile where
  targets := [⟨['a'], by decide, List.forall_mem_singleton.mpr ⟨rfl, by decide⟩⟩]
  package := ⟨'p', [], by decide, List.forall_mem_nil _, by decide⟩
  items :=
    [.lineComment ⟨" target: b".toList, by decide, .of_all rfl⟩,
      .blockComment [⟨⟨[], by decide, .of_all rfl⟩, by decide⟩,
        ⟨⟨"#cgo linux CFLAGS: -I.".toList, by decide, .of_all rfl⟩, by decide⟩],
      .importOf ⟨['C'], List.forall_mem_singleton.mpr
        ⟨by decide, by decide, by decide, by decide⟩⟩]

local instance cgoParser : Go.Parser := Plain.parserOf [cgoFile.pieces]

/-- A target is one only above the package clause, and a flag is found on its own line. -/
theorem scan_plainFile_cgoFile :
    cgoFile.IsTree (Go.parse cgoFile.text) ∧
    scan ⟨["linux"]⟩
        "// target: a\npackage p\n// target: b\n/*\n#cgo linux CFLAGS: -I.*/\nimport \"C\"\n" true =
      (.ok ⟨"p", ["\"C\""], [],
        [⟨.target, "a", ⟨1, 1⟩⟩, ⟨.compileFlags, "-I.", ⟨5, 1⟩⟩]⟩, []) := by
  have hTree : cgoFile.IsTree (Go.parse cgoFile.text) := by
    rw [← cgoFile.rendered_pieces, Plain.parse_parserOf_self]
    exact Plain.isTree_tree cgoFile.pieces
  have hText :
      "// target: a\npackage p\n// target: b\n/*\n#cgo linux CFLAGS: -I.*/\nimport \"C\"\n".toList =
        cgoFile.text := by
    decide
  have hFacts : cgoFile.facts ⟨["linux"]⟩ = ⟨"p", ["\"C\""], [],
      [⟨.target, "a", ⟨1, 1⟩⟩, ⟨.compileFlags, "-I.", ⟨5, 1⟩⟩]⟩ := rfl
  have hScan := scan_plainFile cgoFile hTree ⟨["linux"]⟩ true
  rw [← hText, String.ofList_toList, hFacts] at hScan
  exact ⟨hTree, hScan⟩

end BuildScan
