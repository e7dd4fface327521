import BuildScan.Proofs.Lookups
import BuildScan.Proofs.Phases

/-!
# The target that a file overrides

The header of a file may name targets in its line comments, and the last one counts.
`last_header_target_wins` says so for every file that is read, whatever else its comments hold and
whatever a source of flags answers.

The comments of the header are the children of the root that start before the package clause
(`headerComments_eq`).  Those before the clause are no groups, so a walk comes to them and to
nothing below them, and what it comes to from the clause on starts behind.  A root that is a fault
itself is read only if the fault does not count, and then nothing starts before the clause
(`packageClause_start_le_of_error`).
-/

namespace BuildScan

open BuildScan.Text BuildScan.Go

/-! ### Names of targets -/

/-- The target that the text of a comment names: it is a line comment, and opens with the word for
it and then a name. -/
def namedTarget? (text : List Char) : Option String :=
  ((Directive.behind? "//" text).bind fun body => Directive.target? (trim body)).map String.ofList

/-- A comment names a target if it opens with `//`, blanks aside the word comes next, and the name
is the first word behind that. -/
theorem namedTarget?_eq_some_iff {text : List Char} {name : String} :
    namedTarget? text = some name ↔ ∃ body rest, text = "//".toList ++ body ∧
      trim body = "target:".toList ++ rest ∧ (words rest).head? = some name.toList := by
  rw [namedTarget?, Option.map_eq_some_iff]
  constructor
  · rintro ⟨word, hWord, rfl⟩
    obtain ⟨body, hBody, hTarget⟩ := Option.bind_eq_some_iff.mp hWord
    obtain ⟨rest, hRest, hHead⟩ := Option.bind_eq_some_iff.mp hTarget
    exact ⟨body, rest, Directive.eq_of_behind? hBody, Directive.eq_of_behind? hRest,
      by rw [hHead, String.toList_ofList]⟩
  · rintro ⟨body, rest, rfl, hTrim, hHead⟩
    refine ⟨name.toList, ?_, String.ofList_toList⟩
    rw [Directive.behind?_append, Option.bind_some, hTrim, Directive.target?,
      Directive.behind?_append, Option.bind_some, hHead]

/-- The comments of the header. -/
def headerComments (root : Node) : List Node := (commentsOf root).filter (inHeader root)

theorem directives_headerFindings (text : List Char) (position : Position) :
    (View.headerFindings text position).directives =
      ((namedTarget? text).map fun name => ⟨.target, name, position⟩).toList := by
  rw [View.headerFindings, namedTarget?]
  cases (Directive.behind? "//" text).bind fun body => Directive.target? (trim body) <;> rfl

theorem headerTargets_eq (source : List Char) (root : Node) :
    headerTargets source root = (headerComments root).filterMap fun n =>
      (namedTarget? (n.text source)).map fun name =>
        ⟨.target, name, Position.ofOffset source n.start⟩ := by
  rw [headerTargets, headerComments]
  generalize (commentsOf root).filter (inHeader root) = ns
  induction ns with
  | nil => rfl
  | cons n ns ih =>
    rw [List.flatMap_cons, ih, directives_headerFindings, List.filterMap_cons]
    cases namedTarget? (n.text source) <;> rfl

/-- A file resolves to its last target. -/
theorem target_resolve {σ : Type} (flags : FlagSource σ) (scanned : Scanned) (t : Trace σ) :
    ((scanned.resolve flags).result t).target =
      ((scanned.directives.filter fun d => d.kind = .target).map Directive.payload).getLast? := by
  obtain ⟨told, -, -, hResult⟩ := resolve_asks flags scanned t
  rw [hResult, List.getLast?_map]
  rfl

/-! ### Comments of the header -/

variable {source : List Char} {root clause : Node} {before behind : List Node}

/-- From nodes that are no groups a walk does not go down. -/
theorem map_snd_placesIn_append (h : ∀ m ∈ before, m.kind.isGroup = false) (path : List Nat)
    (i : Nat) (ns : List Node) : (placesIn path i (before ++ ns)).map Prod.snd =
      before ++ (placesIn path (i + before.length) ns).map Prod.snd := by
  induction before generalizing i with
  | nil => rfl
  | cons m before ih =>
    obtain ⟨hFirst, hRest⟩ := List.forall_mem_cons.mp h
    rw [List.cons_append, placesIn, placesOf_eq, hFirst, List.map_append, ih hRest,
      List.length_cons, Nat.add_assoc, Nat.add_comm 1]
    rfl

theorem isGroup_of_not_isItem {m : Node} (h : ¬ IsItem m) : m.kind.isGroup = false := by
  by_contra hGroup
  refine h ⟨?_, ?_⟩
  · cases hKind : m.kind <;> simp_all [NodeKind.isGroup, NodeKind.isNamed]
  · intro hComment
    rw [hComment] at hGroup
    exact hGroup rfl

theorem start_le_of_mem_cons (hOrder : root.inOrder = true)
    (hSplit : root.children = before ++ clause :: behind) {c : Node} (hc : c ∈ clause :: behind) :
    clause.start ≤ c.start := by
  have hPairwise := Node.pairwise_of_inOrderWithin (Node.inOrderWithin_children hOrder)
  rw [hSplit] at hPairwise
  rcases List.mem_cons.mp hc with rfl | hBehind
  · exact Nat.le_refl _
  · have hMem : clause ∈ root.children := hSplit ▸ List.mem_append_right _ List.mem_cons_self
    have hSelf := Node.start_le_stop (Node.inOrder_of_mem_children hOrder hMem)
    have hNext := (List.pairwise_cons.mp (List.pairwise_append.mp hPairwise).2.1).1 c hBehind
    omega

theorem start_le_of_mem_placesIn (hOrder : root.inOrder = true)
    (hSplit : root.children = before ++ clause :: behind) {path q : List Nat} {i : Nat} {m : Node}
    (hm : (q, m) ∈ placesIn path i (clause :: behind)) : clause.start ≤ m.start := by
  obtain ⟨j, c, hc, hm⟩ := mem_placesIn.mp hm
  have hMem : c ∈ clause :: behind := List.mem_of_getElem? hc
  have hChild : c.inOrder = true :=
    Node.inOrder_of_mem_children hOrder (hSplit ▸ List.mem_append_right _ hMem)
  have hBelow := Node.within_of_mem_nodes hChild (mem_nodes_of_mem_placesOf hm)
  exact (start_le_of_mem_cons hOrder hSplit hMem).trans hBelow.1

/-- The node is a comment that starts before the clause. -/
def isCommentAbove (clause n : Node) : Bool := n.kind = .comment ∧ n.start < clause.start

theorem filter_isCommentAbove_eq_nil {ns : List Node} (h : ∀ m ∈ ns, clause.start ≤ m.start) :
    ns.filter (isCommentAbove clause) = [] := by
  refine List.filter_eq_nil_iff.mpr fun m hm hAbove => ?_
  exact Nat.not_lt.mpr (h m hm) (of_decide_eq_true hAbove).2

/-- **The comments of the header** of a file are its children before the package clause. -/
theorem headerComments_of_file (hOrder : root.inOrder = true) (hFile : root.kind = .sourceFile)
    (hClause : root.packageClause? = some clause)
    (hSplit : root.children = before ++ clause :: behind) (hBefore : ∀ m ∈ before, ¬ IsItem m) :
    headerComments root = root.children.filter (isCommentAbove clause) := by
  have hSame :
      (fun n => inHeader root n && decide (n.kind = .comment)) = isCommentAbove clause := by
    funext n
    rw [inHeader, packageStart, hClause, isCommentAbove, Bool.and_comm, Bool.decide_and]
    rfl
  have hRoot : ¬ isCommentAbove clause root = true := by
    simp [isCommentAbove, hFile]
  have hChildren : (clause :: behind).filter (isCommentAbove clause) = [] :=
    filter_isCommentAbove_eq_nil fun m hm => start_le_of_mem_cons hOrder hSplit hm
  have hBelow : ((placesIn [] (0 + before.length) (clause :: behind)).map Prod.snd).filter
      (isCommentAbove clause) = [] := by
    refine filter_isCommentAbove_eq_nil fun m hm => ?_
    obtain ⟨⟨q, m⟩, hPlace, rfl⟩ := List.mem_map.mp hm
    exact start_le_of_mem_placesIn hOrder hSplit hPlace
  rw [headerComments, commentsOf, if_pos hFile, List.filter_filter, hSame, visiblePlaces,
    List.map_cons, List.filter_cons_of_neg hRoot, hSplit,
    map_snd_placesIn_append fun m hm => isGroup_of_not_isItem (hBefore m hm), List.filter_append,
    List.filter_append, hChildren, hBelow]

theorem Go.EndsHeader.isItem {n : Node} (h : EndsHeader source n) : IsItem n := by
  rcases h with hBody | ⟨hError, -⟩
  · simp only [List.mem_cons, List.not_mem_nil, or_false] at hBody
    rcases hBody with hKind | hKind | hKind | hKind | hKind <;>
      simp [IsItem, hKind, NodeKind.isNamed]
  · simp [IsItem, hError, NodeKind.isNamed]

/-- A root that is a fault is read only if the fault does not count.  Then its package clause starts
where it starts itself. -/
theorem packageClause_start_le_of_error {isTest : Bool} (hOrder : root.inOrder = true)
    (hKind : root.kind = .error) (hAccepted : rejection? source isTest root = none)
    (hSplit : root.children = before ++ clause :: behind) (hBefore : ∀ m ∈ before, ¬ IsItem m) :
    clause.start ≤ root.start := by
  have hFault : root.isFault = true := by
    rw [Node.isFault, hKind]
    rfl
  have hFatal : fatalFault? source isTest root = none := by
    rw [rejection?] at hAccepted
    split at hAccepted
    · cases hAccepted
    next hNone => exact hNone
  have hLimit : ¬ StartsBefore (faultLimit source isTest root) root := fun hCounts => by
    obtain ⟨f, hf⟩ := (exists_fatalFault?_iff hOrder).mpr
      ⟨root, Node.self_mem_nodes root, hFault, hCounts⟩
    rw [hFatal] at hf
    cases hf
  obtain ⟨stop, hStop, hBehind⟩ :
      ∃ stop, faultLimit source isTest root = some stop ∧ stop ≤ root.start := by
    simpa [StartsBefore] using hLimit
  have hEnd : root.headerEnd? source = some stop := by
    rw [faultLimit] at hStop
    split at hStop
    · cases hStop
    · exact hStop
  -- the declaration that ends the header is an item, so the package clause does not stand behind it
  obtain ⟨n, hEnds, hn, rfl⟩ : ∃ n, EndsHeader source n ∧ n ∈ root.children ∧ n.start = stop := by
    cases headerEnd_iff.mpr hEnd with
    | start hFirst =>
      obtain ⟨hEnds, above, below, hChildren, -⟩ := hFirst
      exact ⟨_, hEnds, hChildren ▸ List.mem_append_right _ List.mem_cons_self, rfl⟩
  rw [hSplit] at hn
  rcases List.mem_append.mp hn with hn | hn
  · exact absurd hEnds.isItem (hBefore n hn)
  · exact (start_le_of_mem_cons hOrder hSplit hn).trans hBehind

/-- The comments of the header are the children of the root that start before the package clause. -/
theorem headerComments_eq {isTest : Bool} (hOrder : root.inOrder = true)
    (hRoot : root.isRoot = true) (hAccepted : rejection? source isTest root = none)
    (hClause : root.packageClause? = some clause) :
    headerComments root = root.children.filter (isCommentAbove clause) := by
  obtain ⟨first, before, behind, hFirst, hSplit, hBefore⟩ := exists_packageClause hAccepted
  obtain rfl := Option.some.inj (hClause.symm.trans hFirst)
  rw [Node.isRoot, Bool.or_eq_true, decide_eq_true_eq, decide_eq_true_eq] at hRoot
  rcases hRoot with hFile | hError
  · exact headerComments_of_file hOrder hFile hClause hSplit hBefore
  · have hStart := packageClause_start_le_of_error hOrder hError hAccepted hSplit hBefore
    have hNone : headerComments root = [] := by
      rw [headerComments, commentsOf, if_neg (by simp [hError])]
      rfl
    rw [hNone, filter_isCommentAbove_eq_nil fun m hm => ?_]
    exact hStart.trans (Node.mem_of_inOrderWithin (Node.inOrderWithin_children hOrder) hm).2.1

/-! ### The last target -/

/-- **The last target of the header** is the one of the file.  The header is what starts above the
package clause, and its line comments are asked for a name, one by one.  Nothing else makes a
target, whatever a source of flags answers. -/
theorem last_header_target_wins [Go.Parser] {tags : BuildTags} {text : String} {isTest : Bool}
    {scanned : Scanned} (hScan : (scan tags text isTest).1 = .ok scanned) :
    let source := text.toList
    let root := Go.parse source
    let header := headerComments root
    let name (n : Node) := namedTarget? (n.text source)
    (Go.Parser.Sound → ∃ clause, root.packageClause? = some clause ∧
      header = root.children.filter (isCommentAbove clause)) ∧
    (∀ n target, name n = some target ↔ ∃ body rest, n.text source = "//".toList ++ body ∧
      trim body = "target:".toList ++ rest ∧ (words rest).head? = some target.toList) ∧
    (∀ (σ : Type) (flags : FlagSource σ) (t : Trace σ), ∃ unit,
      (extract tags text isTest flags).result t = .ok unit ∧
        unit.target = (header.filterMap name).getLast?) ∧
    (scanned.directives.filter fun d => d.kind = .target) = (header.filterMap fun n =>
      (name n).map fun target => ⟨.target, target, Position.ofOffset source n.start⟩) ∧
    (scanned.directives.countP fun d => d.kind = .target) =
      header.countP fun n => (name n).isSome := by
  intro source root header name
  obtain ⟨hAccepted, hScanned⟩ := eq_walk_of_scan hScan
  have hTargets : (scanned.directives.filter fun d => d.kind = .target) = (header.filterMap fun n =>
      (name n).map fun target => ⟨.target, target, Position.ofOffset source n.start⟩) := by
    rw [hScanned, walk_targets]
    exact headerTargets_eq source root
  refine ⟨fun hParser => ?_, fun n target => namedTarget?_eq_some_iff, fun σ flags t => ?_,
    hTargets, ?_⟩
  · obtain ⟨clause, -, -, hClause, -⟩ := exists_packageClause hAccepted
    exact ⟨clause, hClause,
      headerComments_eq (hParser.stands source).ordered (hParser.isRoot source) hAccepted hClause⟩
  · have hPair : scan tags text isTest = (.ok scanned, (scan tags text isTest).2) := by
      rw [← hScan]
    refine ⟨_, (extract_of_scanned flags hPair t).1, ?_⟩
    rw [target_resolve, hTargets, List.map_filterMap]
    simp only [Option.map_map, Function.comp_def, Option.map_id']
  · rw [List.countP_eq_length_filter, hTargets, List.length_filterMap_eq_countP]
    simp only [Option.isSome_map]

/-- Five comments say `target:`.  In the header two of them name one. -/
def overridePieces : List Plain.Piece :=
  [CommentLine.piece ⟨" target: arm".toList, by decide, .of_all rfl⟩,
    blockPiece [⟨⟨" target: mips".toList, by decide, .of_all rfl⟩, by decide⟩],
    CommentLine.piece ⟨"target:amd64 or so".toList, by decide, .of_all rfl⟩,
    CommentLine.piece ⟨" target:".toList, by decide, .of_all rfl⟩,
    PackageName.piece ⟨'o', ['s'], by decide, List.forall_mem_singleton.mpr rfl, by decide⟩,
    CommentLine.piece ⟨" target: wasm".toList, by decide, .of_all rfl⟩]

def overrideText : String :=
  "// target: arm\n/* target: mips*/\n//target:amd64 or so\n// target:\npackage os\n// target: wasm\n"

local instance overrideParser : Go.Parser := Plain.parserOf [overridePieces]

/-- The last name above the clause counts. -/
theorem last_header_target_wins_override : Go.Parser.Sound ∧
    ∃ scanned unit, (scan ⟨[]⟩ overrideText false).1 = .ok scanned ∧
      (scanned.directives.countP fun d => d.kind = .target) = 2 ∧
      (extract ⟨[]⟩ overrideText false (.none (σ := Unit))).result (.start ()) = .ok unit ∧
      unit.target = some "amd64" := by
  have hText : overrideText.toList = Plain.rendered overridePieces := by decide
  have hParse : Go.parse overrideText.toList = Plain.tree overridePieces :=
    hText ▸ Plain.parse_parserOf_self overridePieces []
  have hScan : (scan ⟨[]⟩ overrideText false).1 =
      .ok ⟨"os", [], [], [⟨.target, "arm", ⟨1, 1⟩⟩, ⟨.target, "amd64", ⟨3, 1⟩⟩]⟩ := by
    rw [scan, hParse, hText]
    rfl
  obtain ⟨-, -, hUnit, -⟩ := last_header_target_wins hScan
  obtain ⟨unit, hRun, hTarget⟩ := hUnit Unit .none (.start ())
  refine ⟨Plain.sound_parserOf _, _, unit, hScan, rfl, hRun, ?_⟩
  rw [hTarget, hParse, hText]
  rfl

end BuildScan
