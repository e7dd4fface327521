import BuildScan.Proofs.Phases

/-!
# Comments in groups of declarations

A declaration can have its specs in parentheses, and comments may stand between them.  The trees
differ by the keyword: the specs of constants and types are children of the declaration itself,
those of imports and variables are in a list below it (`HoldsSpecs`).

`comments_in_groups` compares such a comment with one that stands between declarations in another
file, with the same text and on the same line.  Between imports, constants or types nothing is lost:
the same directives are reported, up to the column.  Between variables nothing is reported at all,
since a walk does not look into the list of their specs.

What is reported for a comment is told from the positions (`directivesOn`): those between its start
and its stop are the positions of its own directives and of no others, since comments do not
overlap.  All of this is about trees that can be read from a source.  A sound parser gives such
trees (`readFile_of_scan`), so the same holds of scans (`scan_comments_in_groups`).
-/

namespace BuildScan

open BuildScan.Text BuildScan.Go

/-! ### Groups -/

/-- The keywords of declarations that can be groups. -/
inductive GroupKeyword where
  | ofImport
  | ofConst
  | ofVar
  | ofType
  deriving DecidableEq, Repr

/-- A declaration, and the node below it, or itself, whose children its specs are where they stand
in parentheses. -/
inductive HoldsSpecs : GroupKeyword → Node → Node → Prop
  | ofImport {group holder : Node} : group.kind = .importDeclaration → holder ∈ group.children →
      holder.kind = .importSpecList → HoldsSpecs .ofImport group holder
  | ofConst {group : Node} : group.kind = .constDeclaration → HoldsSpecs .ofConst group group
  | ofVar {group holder : Node} : group.kind = .varDeclaration → holder ∈ group.children →
      holder.kind = .other "var_spec_list" → HoldsSpecs .ofVar group holder
  | ofType {group : Node} : group.kind = .typeDeclaration → HoldsSpecs .ofType group group

/-- A comment directly among the specs of a group at the top level. -/
def AmongSpecs (keyword : GroupKeyword) (root comment : Node) : Prop :=
  comment.kind = .comment ∧
    ∃ group ∈ root.children, ∃ holder, HoldsSpecs keyword group holder ∧ comment ∈ holder.children

/-- A comment at the top level behind some declaration. -/
def AmongDeclarations (root comment : Node) : Prop :=
  comment.kind = .comment ∧ comment ∈ root.children ∧
    ∃ d ∈ root.children, IsItem d ∧ d.stop ≤ comment.start

/-- The tree of a file that is not refused. -/
structure ReadFile (source : List Char) (root : Node) : Prop where
  stands : root.Stands source
  isFile : root.kind = .sourceFile
  accepted : ∃ isTest, rejection? source isTest root = none

/-! ### What is reported for a comment -/

/-- The directive has a position between the start and the stop of the node. -/
def Directive.isOn (source : List Char) (n : Node) (d : Directive) : Bool :=
  !decide (d.position.Before (Position.ofOffset source n.start)) &&
    decide (d.position.Before (Position.ofOffset source n.stop))

/-- What a walk reports for a node. -/
def directivesOn (source : List Char) (tags : BuildTags) (functions : Bool) (root n : Node) :
    List Directive :=
  (walk source tags functions root).1.directives.filter (Directive.isOn source n)

/-- What a directive says, and on which line. -/
def Directive.essence (d : Directive) : DirectiveKind × String × Nat :=
  (d.kind, d.payload, d.position.line)

variable {source : List Char} {root : Node}

/-- A scan that is not refused has read a file, if the root of its tree is one, and reports for a
node what a walk of that tree does. -/
theorem readFile_of_scan [Go.Parser] (hParser : Go.Parser.Sound) {tags : BuildTags} {text : String}
    {isTest : Bool} {scanned : Scanned} (hScan : (scan tags text isTest).1 = .ok scanned)
    (hFile : (Go.parse text.toList).kind = .sourceFile) :
    ReadFile text.toList (Go.parse text.toList) ∧ ∀ n,
      scanned.directives.filter (Directive.isOn text.toList n) =
        directivesOn text.toList tags isTest (Go.parse text.toList) n := by
  obtain ⟨hAccepted, hWalked⟩ := eq_walk_of_scan hScan
  refine ⟨⟨hParser.stands text.toList, hFile, isTest, hAccepted⟩, fun n => ?_⟩
  rw [directivesOn, ← hWalked]

theorem Directive.isOn_iff {n : Node} {d : Directive} : d.isOn source n = true ↔
    ¬ d.position.Before (Position.ofOffset source n.start) ∧
      d.position.Before (Position.ofOffset source n.stop) := by
  rw [isOn, Bool.and_eq_true, Bool.not_eq_true', decide_eq_false_iff_not, decide_eq_true_eq]

/-- The directives of a comment are not on a node that stands apart from it. -/
theorem not_isOn_of_apart (hRoot : root.Stands source) {n k : Node} (hn : n ∈ commentsOf root)
    (hk : k ∈ root.nodes) (hApart : n.stop ≤ k.start ∨ k.stop ≤ n.start) {tags : BuildTags}
    {d : Directive} (hd : d ∈ commentDirectives source tags root n) : ¬ d.isOn source k = true := by
  intro hOn
  rw [Directive.isOn_iff] at hOn
  obtain ⟨hBehind, hBefore⟩ := position_within_comment hRoot hn hd
  have hNode := (mem_commentsOf hn).1
  rcases hApart with hFirst | hLast
  · have hEnd := Position.not_ofOffset_before (hRoot.seamed n hNode).2 (hRoot.seamed k hk).1 hFirst
    exact hOn.1 (hBefore.trans_not hEnd)
  · have hStart := Position.not_ofOffset_before (hRoot.seamed k hk).2 (hRoot.seamed n hNode).1 hLast
    exact hBehind (hOn.2.trans_not hStart)

/-- Where all comments that a walk comes to stand apart from a node, nothing is reported for it. -/
theorem filter_isOn_of_apart (hRoot : root.Stands source) {k : Node} (hk : k ∈ root.nodes)
    {ns : List Node} (h : ∀ n ∈ ns, n ∈ commentsOf root ∧ (n.stop ≤ k.start ∨ k.stop ≤ n.start))
    (tags : BuildTags) :
    (ns.flatMap (commentDirectives source tags root)).filter (Directive.isOn source k) = [] := by
  refine List.filter_eq_nil_iff.mpr fun d hd => ?_
  obtain ⟨n, hn, hd⟩ := List.mem_flatMap.mp hd
  exact not_isOn_of_apart hRoot (h n hn).1 hk (h n hn).2 hd

/-- For a comment that a walk comes to, its own directives are reported. -/
theorem directivesOn_of_mem (hRoot : root.Stands source) {n : Node} (hn : n ∈ commentsOf root)
    (tags : BuildTags) (functions : Bool) :
    directivesOn source tags functions root n = commentDirectives source tags root n := by
  have hNode := (mem_commentsOf hn).1
  have hPairwise := pairwise_commentsOf hRoot.ordered
  obtain ⟨before, behind, hSplit⟩ := List.append_of_mem hn
  have hMem (m : Node) (hm : m ∈ before ∨ m ∈ behind) : m ∈ commentsOf root := by
    rw [hSplit, List.mem_append, List.mem_cons]
    exact hm.imp_right .inr
  have hSelf : (commentDirectives source tags root n).filter (Directive.isOn source n) =
      commentDirectives source tags root n :=
    List.filter_eq_self.mpr fun d hd => Directive.isOn_iff.mpr (position_within_comment hRoot hn hd)
  rw [hSplit, List.pairwise_append] at hPairwise
  obtain ⟨-, hBehind, hBefore⟩ := hPairwise
  have hLeft := filter_isOn_of_apart hRoot hNode
    (fun m hm => ⟨hMem m (.inl hm), .inl (hBefore m hm n List.mem_cons_self)⟩) tags
  have hRight := filter_isOn_of_apart hRoot hNode
    (fun m hm => ⟨hMem m (.inr hm), .inr ((List.pairwise_cons.mp hBehind).1 m hm)⟩) tags
  rw [directivesOn, walk_directives_eq, hSplit, List.flatMap_append, List.flatMap_cons,
    List.filter_append, List.filter_append, hLeft, hSelf, hRight, List.nil_append, List.append_nil]

/-! ### Lines -/

theorem Marked.ofLine?_eq_map (line : List Char) (p q : Position) :
    Marked.ofLine? line q = (Marked.ofLine? line p).map fun m =>
      ⟨m.condition, { m.directive with position := q }⟩ := by
  rw [Marked.ofLine?, Marked.ofLine?, Option.map_bind]
  refine Option.bind_congr fun rest _ => ?_
  by_cases hBlank : opensBlank rest = true
  · rw [if_pos hBlank, Function.comp_apply, if_pos hBlank, Option.map_map]
    rfl
  · rw [if_neg hBlank, Function.comp_apply, if_neg hBlank, Option.map_none]

/-- Two lines with their positions say the same, on lines of the same number. -/
def SameLine (a b : List Char × Position) : Prop := a.1 = b.1 ∧ a.2.line = b.2.line

theorem essence_gated_congr {a b : List Char × Position} (h : SameLine a b) (tags : BuildTags) :
    (gated tags (Marked.ofLine? a.1 a.2).toList).map Directive.essence =
      (gated tags (Marked.ofLine? b.1 b.2).toList).map Directive.essence := by
  obtain ⟨line, p⟩ := a
  obtain ⟨line', q⟩ := b
  obtain ⟨rfl, hLine⟩ : line = line' ∧ p.line = q.line := h
  rw [Marked.ofLine?_eq_map line p q]
  cases hMarked : Marked.ofLine? line p with
  | none => rfl
  | some m =>
    obtain ⟨-, -, hPosition⟩ := Marked.shown_of_ofLine? hMarked
    have hEssence : Directive.essence { m.directive with position := q } = m.directive.essence := by
      rw [Directive.essence, Directive.essence, hPosition, hLine]
    simp only [Option.map_some, Option.toList_some, gated, List.filter_singleton, Marked.holds]
    cases m.condition.all tags.holds with
    | false => rfl
    | true => exact congrArg (fun e => [e]) hEssence.symm

theorem essence_markedIn_congr {ls ks : List (List Char × Position)}
    (h : List.Forall₂ SameLine ls ks)
    (tags : BuildTags) : (gated tags (markedIn ls)).map Directive.essence =
      (gated tags (markedIn ks)).map Directive.essence := by
  induction h with
  | nil => rfl
  | cons hFirst _ ih =>
    rw [markedIn_cons, markedIn_cons, gated_append, gated_append, List.map_append, List.map_append,
      essence_gated_congr hFirst, ih]

/-- The lines of a comment are the same wherever it stands, with numbers that count from its first
line. -/
theorem linesLookedAt_sameLine (text : List Char) {p q : Position} (h : p.line = q.line) :
    List.Forall₂ SameLine (linesLookedAt text p) (linesLookedAt text q) := by
  rw [linesLookedAt, linesLookedAt]
  split
  · exact .cons ⟨rfl, h⟩ .nil
  · split
    · refine List.forall₂_iff_get.mpr ⟨by simp, fun i hp hq => ?_⟩
      simp only [List.get_eq_getElem, List.getElem_mapIdx]
      exact ⟨rfl, by rw [below_line, below_line, h]⟩
    · exact .nil

/-- **Comments with one text on one line say the same**, each in its own file. -/
theorem essence_commentDirectives_eq {source' : List Char} {root' n n' : Node}
    (hHeader : inHeader root n = false) (hHeader' : inHeader root' n' = false)
    (hText : n'.text source' = n.text source)
    (hLine : (Position.ofOffset source' n'.start).line = (Position.ofOffset source n.start).line)
    (tags : BuildTags) :
    (commentDirectives source tags root n).map Directive.essence =
      (commentDirectives source' tags root' n').map Directive.essence := by
  have hBody :
      commentDirectives source tags root n = gated tags (markedIn (n.commentLines source)) := by
    rw [commentDirectives, hHeader]
    rfl
  have hBody' : commentDirectives source' tags root' n' =
      gated tags (markedIn (n'.commentLines source')) := by
    rw [commentDirectives, hHeader']
    rfl
  rw [hBody, hBody', Node.commentLines, Node.commentLines, hText]
  exact essence_markedIn_congr (linesLookedAt_sameLine _ hLine.symm) tags

/-! ### Comments at the top level and in groups -/

theorem packageStart_le {isTest : Bool} (hOrder : root.inOrder = true)
    (hAccepted : rejection? source isTest root = none) {d : Node} (hd : d ∈ root.children)
    (hItem : IsItem d) : packageStart root ≤ d.start := by
  obtain ⟨clause, before, behind, hClause, hSplit, hBefore⟩ := exists_packageClause hAccepted
  have hStart : packageStart root = clause.start := by rw [packageStart, hClause]; rfl
  have hMem : clause ∈ root.children := by
    rw [hSplit]
    exact List.mem_append_right _ List.mem_cons_self
  have hSelf := Node.start_le_stop (Node.inOrder_of_mem_children hOrder hMem)
  have hPairwise := Node.pairwise_of_inOrderWithin (Node.inOrderWithin_children hOrder)
  rw [hSplit] at hd hPairwise
  rcases List.mem_append.mp hd with hd | hd
  · exact absurd hItem (hBefore d hd)
  · rcases List.mem_cons.mp hd with rfl | hd
    · exact Nat.le_of_eq hStart
    · have hBehind := (List.pairwise_cons.mp (List.pairwise_append.mp hPairwise).2.1).1 d hd
      omega

theorem AmongDeclarations.mem_commentsOf (hFile : ReadFile source root) {n : Node}
    (h : AmongDeclarations root n) : n ∈ commentsOf root ∧ inHeader root n = false := by
  obtain ⟨hKind, hn, d, hd, hItem, hBefore⟩ := h
  obtain ⟨isTest, hAccepted⟩ := hFile.accepted
  have hStart := packageStart_le hFile.stands.ordered hAccepted hd hItem
  have hSelf := Node.start_le_stop (Node.inOrder_of_mem_children hFile.stands.ordered hd)
  constructor
  · obtain ⟨i, hi⟩ := List.getElem?_of_mem hn
    have hVisible : Visible root ([] ++ [i]) n := .child .root (.inl rfl) hi
    exact mem_commentsOf_of_visible hFile.isFile hVisible hKind
  · refine decide_eq_false ?_
    omega

theorem HoldsSpecs.isItem {keyword : GroupKeyword} {group holder : Node}
    (h : HoldsSpecs keyword group holder) : IsItem group := by
  have hNamed (kind : NodeKind) (hKind : group.kind = kind) (hName : kind.isNamed = true)
      (hComment : kind ≠ .comment) : IsItem group := by
    rw [IsItem, hKind]
    exact ⟨hName, hComment⟩
  cases h with
  | ofImport hKind _ _ => exact hNamed _ hKind rfl (by decide)
  | ofConst hKind => exact hNamed _ hKind rfl (by decide)
  | ofVar hKind _ _ => exact hNamed _ hKind rfl (by decide)
  | ofType hKind => exact hNamed _ hKind rfl (by decide)

theorem HoldsSpecs.mem_nodes {keyword : GroupKeyword} {group holder : Node}
    (h : HoldsSpecs keyword group holder) : holder ∈ group.nodes := by
  cases h with
  | ofImport _ hHolder _ =>
    exact Node.mem_nodes_of_mem_children hHolder
  | ofConst _ => exact Node.self_mem_nodes group
  | ofVar _ hHolder _ =>
    exact Node.mem_nodes_of_mem_children hHolder
  | ofType _ => exact Node.self_mem_nodes group

/-- A walk comes to what stands among specs, unless they are variables. -/
theorem HoldsSpecs.visible {keyword : GroupKeyword} {group holder n : Node}
    (h : HoldsSpecs keyword group holder) (hKeyword : keyword ≠ .ofVar)
    (hGroup : group ∈ root.children) (hn : n ∈ holder.children) : ∃ path, Visible root path n := by
  obtain ⟨i, hi⟩ := List.getElem?_of_mem hGroup
  have hTop : Visible root ([] ++ [i]) group := .child .root (.inl rfl) hi
  obtain ⟨k, hk⟩ := List.getElem?_of_mem hn
  cases h with
  | ofImport hKind hHolder hList =>
    obtain ⟨j, hj⟩ := List.getElem?_of_mem hHolder
    have hBelow : Visible root ([] ++ [i] ++ [j]) holder :=
      .child hTop (.inr (by rw [hKind]; rfl)) hj
    exact ⟨_, .child hBelow (.inr (by rw [hList]; rfl)) hk⟩
  | ofConst hKind => exact ⟨_, .child hTop (.inr (by rw [hKind]; rfl)) hk⟩
  | ofVar _ _ _ => exact absurd rfl hKeyword
  | ofType hKind => exact ⟨_, .child hTop (.inr (by rw [hKind]; rfl)) hk⟩

theorem AmongSpecs.mem_commentsOf (hFile : ReadFile source root) {keyword : GroupKeyword}
    (hKeyword : keyword ≠ .ofVar) {n : Node} (h : AmongSpecs keyword root n) :
    n ∈ commentsOf root ∧ inHeader root n = false := by
  obtain ⟨hKind, group, hGroup, holder, hHolds, hn⟩ := h
  obtain ⟨isTest, hAccepted⟩ := hFile.accepted
  have hStart := packageStart_le hFile.stands.ordered hAccepted hGroup hHolds.isItem
  have hInGroup := Node.inOrder_of_mem_children hFile.stands.ordered hGroup
  have hBelow : n ∈ group.nodes :=
    Node.mem_nodes_trans hHolds.mem_nodes (Node.mem_nodes_of_mem_children hn)
  have hWithin := Node.within_of_mem_nodes hInGroup hBelow
  constructor
  · obtain ⟨path, hVisible⟩ := hHolds.visible hKeyword hGroup hn
    exact mem_commentsOf_of_visible hFile.isFile hVisible hKind
  · refine decide_eq_false ?_
    omega

/-! ### Variables -/

theorem apart_of_ne {n : Node} (hOrder : n.inOrder = true) {i j : Nat} {a b m k : Node}
    (ha : n.children[i]? = some a) (hb : n.children[j]? = some b) (hne : i ≠ j) (hm : m ∈ a.nodes)
    (hk : k ∈ b.nodes) : m.stop ≤ k.start ∨ k.stop ≤ m.start := by
  have hPairwise := List.pairwise_iff_getElem.mp
    (Node.pairwise_of_inOrderWithin (Node.inOrderWithin_children hOrder))
  have hLeft := Node.within_of_mem_nodes
    (Node.inOrder_of_mem_children hOrder (List.mem_of_getElem? ha)) hm
  have hRight := Node.within_of_mem_nodes
    (Node.inOrder_of_mem_children hOrder (List.mem_of_getElem? hb)) hk
  obtain ⟨hi, rfl⟩ := List.getElem?_eq_some_iff.mp ha
  obtain ⟨hj, rfl⟩ := List.getElem?_eq_some_iff.mp hb
  rcases Nat.lt_or_gt_of_ne hne with hLess | hGreater
  · have := hPairwise i j hi hj hLess
    omega
  · have := hPairwise j i hj hi hGreater
    omega

/-- All comments that a walk comes to stand apart from those among the specs of variables: the way
to them parts from the way to the list of specs, since neither the group nor the list is a comment,
and a walk does not look into the list. -/
theorem apart_of_mem_commentsOf (hFile : ReadFile source root) {comment n : Node}
    (h : AmongSpecs .ofVar root comment) (hn : n ∈ commentsOf root) :
    n.stop ≤ comment.start ∨ comment.stop ≤ n.start := by
  obtain ⟨-, group, hGroup, holder, hHolds, hComment⟩ := h
  have hKind := (mem_commentsOf hn).2
  rw [commentsOf, if_pos hFile.isFile] at hn
  obtain ⟨⟨path, m⟩, hPlace, rfl⟩ := List.mem_map.mp (List.mem_filter.mp hn).1
  have hBelow : comment ∈ holder.nodes := Node.mem_nodes_of_mem_children hComment
  have hInGroup : comment ∈ group.nodes := Node.mem_nodes_trans hHolds.mem_nodes hBelow
  have hOrder := hFile.stands.ordered
  cases hHolds with
  | ofVar hVar hHolder hList =>
    rcases mem_visiblePlaces.mp hPlace with ⟨-, rfl⟩ | ⟨i, c, hc, hPlace⟩
    · exact absurd (hFile.isFile.symm.trans hKind) (by decide)
    obtain ⟨j, hj⟩ := List.getElem?_of_mem hGroup
    by_cases hSame : i = j
    · obtain rfl : c = group := Option.some.inj (hc.symm.trans (hSame ▸ hj))
      rcases mem_placesOf.mp hPlace with ⟨-, rfl⟩ | ⟨-, i', c', hc', hPlace⟩
      · exact absurd (hVar.symm.trans hKind) (by decide)
      obtain ⟨j', hj'⟩ := List.getElem?_of_mem hHolder
      by_cases hSame' : i' = j'
      · obtain rfl : c' = holder := Option.some.inj (hc'.symm.trans (hSame' ▸ hj'))
        rcases mem_placesOf.mp hPlace with ⟨-, rfl⟩ | ⟨hOpen, -⟩
        · exact absurd (hList.symm.trans hKind) (by decide)
        · rw [hList] at hOpen
          cases hOpen
      · have hGroupOrder := Node.inOrder_of_mem_children hOrder hGroup
        exact apart_of_ne hGroupOrder hc' hj' hSame' (mem_nodes_of_mem_placesOf hPlace) hBelow
    · exact apart_of_ne hOrder hc hj hSame (mem_nodes_of_mem_placesOf hPlace) hInGroup

/-- Nothing is reported for a comment among the specs of variables. -/
theorem directivesOn_of_amongVariables (hFile : ReadFile source root) {comment : Node}
    (h : AmongSpecs .ofVar root comment) (tags : BuildTags) (functions : Bool) :
    directivesOn source tags functions root comment = [] := by
  rw [directivesOn, walk_directives_eq]
  refine filter_isOn_of_apart hFile.stands ?_
    (fun n hn => ⟨hn, apart_of_mem_commentsOf hFile h hn⟩) tags
  obtain ⟨-, group, hGroup, holder, hHolds, hComment⟩ := h
  have hBelow : holder ∈ root.nodes :=
    Node.mem_nodes_trans (Node.mem_nodes_of_mem_children hGroup) hHolds.mem_nodes
  exact Node.mem_nodes_trans hBelow (Node.mem_nodes_of_mem_children hComment)

/-! ### What comments in groups report -/

/-- Between imports, constants or types a comment reports what it does between declarations. -/
theorem essence_directivesOn_eq {keyword : GroupKeyword} {comment : Node}
    (hFile : ReadFile source root) (hComment : AmongSpecs keyword root comment)
    (hKeyword : keyword ≠ .ofVar) {source' : List Char} {root' comment' : Node}
    (hFile' : ReadFile source' root') (hComment' : AmongDeclarations root' comment')
    (hText : comment'.text source' = comment.text source)
    (hLine : (Position.ofOffset source' comment'.start).line =
      (Position.ofOffset source comment.start).line)
    (tags : BuildTags) (functions functions' : Bool) :
    (directivesOn source tags functions root comment).map Directive.essence =
      (directivesOn source' tags functions' root' comment').map Directive.essence := by
  obtain ⟨hMem, hHeader⟩ := hComment.mem_commentsOf hFile hKeyword
  obtain ⟨hMem', hHeader'⟩ := hComment'.mem_commentsOf hFile'
  rw [directivesOn_of_mem hFile.stands hMem, directivesOn_of_mem hFile'.stands hMem']
  exact essence_commentDirectives_eq hHeader hHeader' hText hLine tags

/-- **Comments in groups** report what they would report between declarations, on the same line, but
for groups of variables, where they report nothing. -/
theorem comments_in_groups {keyword : GroupKeyword} {comment : Node} (hFile : ReadFile source root)
    (hComment : AmongSpecs keyword root comment) (tags : BuildTags) (functions : Bool) :
    (keyword ≠ .ofVar → ∀ source' root' comment' functions', ReadFile source' root' →
      AmongDeclarations root' comment' → comment'.text source' = comment.text source →
      (Position.ofOffset source' comment'.start).line =
        (Position.ofOffset source comment.start).line →
        (directivesOn source tags functions root comment).map Directive.essence =
          (directivesOn source' tags functions' root' comment').map Directive.essence) ∧
    (keyword = .ofVar → directivesOn source tags functions root comment = []) := by
  constructor
  · intro hKeyword source' root' comment' functions' hFile' hComment' hText hLine
    exact essence_directivesOn_eq hFile hComment hKeyword hFile' hComment' hText hLine tags
      functions functions'
  · rintro rfl
    exact directivesOn_of_amongVariables hFile hComment tags functions

/-- **The same of scans**, if the parser is sound.  Of two files that are accepted, one has a
comment in a group and the other has the same text between declarations, on the same line. -/
theorem scan_comments_in_groups [Go.Parser] (hParser : Go.Parser.Sound) {tags : BuildTags}
    {text text' : String} {isTest isTest' : Bool} {scanned scanned' : Scanned}
    (hScan : (scan tags text isTest).1 = .ok scanned)
    (hScan' : (scan tags text' isTest').1 = .ok scanned')
    (hRoot : (Go.parse text.toList).kind = .sourceFile)
    (hRoot' : (Go.parse text'.toList).kind = .sourceFile)
    {keyword : GroupKeyword} {comment comment' : Node}
    (hComment : AmongSpecs keyword (Go.parse text.toList) comment)
    (hComment' : AmongDeclarations (Go.parse text'.toList) comment')
    (hText : comment'.text text'.toList = comment.text text.toList)
    (hLine : (Position.ofOffset text'.toList comment'.start).line =
      (Position.ofOffset text.toList comment.start).line) :
    let reported := scanned.directives.filter (Directive.isOn text.toList comment)
    let reported' := scanned'.directives.filter (Directive.isOn text'.toList comment')
    (keyword ≠ .ofVar → reported.map Directive.essence = reported'.map Directive.essence) ∧
      (keyword = .ofVar → reported = []) := by
  intro reported reported'
  obtain ⟨hFile, hReported⟩ := readFile_of_scan hParser hScan hRoot
  obtain ⟨hFile', hReported'⟩ := readFile_of_scan hParser hScan' hRoot'
  have hHere : reported = _ := hReported comment
  have hThere : reported' = _ := hReported' comment'
  rw [hHere, hThere]
  constructor
  · intro hKeyword
    exact essence_directivesOn_eq hFile hComment hKeyword hFile' hComment' hText hLine tags isTest
      isTest'
  · rintro rfl
    exact directivesOn_of_amongVariables hFile hComment tags isTest

/-! ### One comment in three files -/

def groupText (keyword : String) : List Char :=
  ("package p\n\n" ++ keyword ++ " (\n\ta = 1\n\t// #cgo LDFLAGS: -lm\n\tb = 2\n)\n").toList

def topText : List Char := "package p\n\nvar a = 1\n\n// #cgo LDFLAGS: -lm\nvar b = 2\n".toList

def clauseNode : Node :=
  .mk .packageClause ⟨0, 9⟩ false
    [Plain.leaf (.token "package") 0 7, Plain.leaf .packageIdentifier 8 9]

/-- Two specs in parentheses with a comment between them; what is inside a spec is left out. -/
def specNodes (title : String) (start : Nat) : List Node :=
  [Plain.leaf (.token "(") start (start + 1), Plain.leaf (.other title) (start + 3) (start + 8),
    Plain.leaf .comment (start + 10) (start + 30),
    Plain.leaf (.other title) (start + 32) (start + 37),
    Plain.leaf (.token ")") (start + 38) (start + 39)]

def varList : Node := .mk (.other "var_spec_list") ⟨15, 54⟩ false (specNodes "var_spec" 15)

def varGroup : Node :=
  .mk .varDeclaration ⟨11, 54⟩ false [Plain.leaf (.token "var") 11 14, varList]

def varTree : Node := .mk .sourceFile ⟨0, 55⟩ false [clauseNode, varGroup]

def constGroup : Node :=
  .mk .constDeclaration ⟨11, 56⟩ false
    (Plain.leaf (.token "const") 11 16 :: specNodes "const_spec" 17)

def constTree : Node := .mk .sourceFile ⟨0, 57⟩ false [clauseNode, constGroup]

def topDeclaration : Node := .mk .varDeclaration ⟨11, 20⟩ false []

def topTree : Node :=
  .mk .sourceFile ⟨0, 53⟩ false
    [clauseNode, topDeclaration, Plain.leaf .comment 22 42, .mk .varDeclaration ⟨43, 52⟩ false []]

theorem readFile_varTree : ReadFile (groupText "var") varTree := ⟨by decide, rfl, true, rfl⟩

theorem readFile_constTree : ReadFile (groupText "const") constTree := ⟨by decide, rfl, true, rfl⟩

theorem readFile_topTree : ReadFile topText topTree := ⟨by decide, rfl, true, rfl⟩

theorem amongSpecs_varTree : AmongSpecs .ofVar varTree (Plain.leaf .comment 25 45) :=
  ⟨rfl, varGroup, .tail _ (.head _), varList, .ofVar rfl (.tail _ (.head _)) rfl,
    .tail _ (.tail _ (.head _))⟩

theorem amongSpecs_constTree : AmongSpecs .ofConst constTree (Plain.leaf .comment 27 47) :=
  ⟨rfl, constGroup, .tail _ (.head _), constGroup, .ofConst rfl,
    .tail _ (.tail _ (.tail _ (.head _)))⟩

theorem amongDeclarations_topTree : AmongDeclarations topTree (Plain.leaf .comment 22 42) :=
  ⟨rfl, .tail _ (.tail _ (.head _)), topDeclaration, .tail _ (.head _), ⟨rfl, by decide⟩, by decide⟩

theorem comment_alike :
    ((Plain.leaf .comment 22 42).text topText =
      (Plain.leaf .comment 27 47).text (groupText "const") ∧
      (Plain.leaf .comment 22 42).text topText =
        (Plain.leaf .comment 25 45).text (groupText "var")) ∧
    (Position.ofOffset topText 22).line = 5 ∧ (Position.ofOffset (groupText "const") 27).line = 5 ∧
      (Position.ofOffset (groupText "var") 25).line = 5 := by
  decide +kernel

theorem essence_topTree :
    (directivesOn topText ⟨[]⟩ false topTree (Plain.leaf .comment 22 42)).map Directive.essence =
      [(.linkFlags, "-lm", 5)] := by
  decide +kernel

/-- Between constants the flag is found, on its own line; between variables it is lost. -/
theorem comments_in_groups_linkFlags :
    (directivesOn (groupText "const") ⟨[]⟩ false constTree (Plain.leaf .comment 27 47)).map
        Directive.essence = [(.linkFlags, "-lm", 5)] ∧
      directivesOn (groupText "var") ⟨[]⟩ false varTree (Plain.leaf .comment 25 45) = [] := by
  obtain ⟨⟨hText, -⟩, hTopLine, hConstLine, -⟩ := comment_alike
  have hLine :
      (Position.ofOffset topText 22).line = (Position.ofOffset (groupText "const") 27).line :=
    hTopLine.trans hConstLine.symm
  refine ⟨?_, (comments_in_groups readFile_varTree amongSpecs_varTree ⟨[]⟩ false).2 rfl⟩
  rw [← essence_topTree]
  exact (comments_in_groups readFile_constTree amongSpecs_constTree ⟨[]⟩ false).1 (by decide)
    topText
    topTree _ false readFile_topTree amongDeclarations_topTree hText hLine

/-- So the keyword of a group makes a difference. -/
theorem group_keyword_matters :
    ¬ ∀ keyword source root comment source' root' comment', ReadFile source root →
      AmongSpecs keyword root comment → ReadFile source' root' → AmongDeclarations root' comment' →
      comment'.text source' = comment.text source →
      (Position.ofOffset source' comment'.start).line =
        (Position.ofOffset source comment.start).line →
      ∀ tags functions, (directivesOn source tags functions root comment).map Directive.essence =
        (directivesOn source' tags functions root' comment').map Directive.essence := by
  intro hAlike
  obtain ⟨⟨-, hText⟩, hTopLine, -, hVarLine⟩ := comment_alike
  have hLine :
      (Position.ofOffset topText 22).line = (Position.ofOffset (groupText "var") 25).line :=
    hTopLine.trans hVarLine.symm
  have hSame := hAlike .ofVar (groupText "var") varTree _ topText topTree _ readFile_varTree
    amongSpecs_varTree readFile_topTree amongDeclarations_topTree hText hLine ⟨[]⟩ false
  rw [directivesOn_of_amongVariables readFile_varTree amongSpecs_varTree, essence_topTree] at hSame
  cases hSame

end BuildScan
