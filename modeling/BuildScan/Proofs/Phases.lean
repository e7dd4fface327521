import BuildScan.Proofs.Pointing
import BuildScan.Proofs.Rejection

/-!
# The order of directives

A walk collects directives comment by comment, and each with a position of its own, real for the
first line of a comment and made up for the others.  `directives_in_order` says that the positions
grow strictly all the same, that the targets of the header come first and lie before the package
clause, and that all other directives lie behind its start.

Comments stand one behind the other, since no comment is a group (`pairwise_commentsOf`).  The
directives of one comment lie on different lines of it (`pairwise_commentDirectives`), at or behind
its start and before its end (`position_within_comment`); so with two comments those of the first
one all come earlier.  The same holds of the lines with the form of a directive whose condition
fails (`pairwise_marked`).
-/

namespace BuildScan

open BuildScan.Text BuildScan.Go

/-! ### Comments -/

theorem mem_nodes_of_mem_placesOf {path q : List Nat} {n m : Node} (h : (q, m) ∈ placesOf path n) :
    m ∈ n.nodes := by
  induction n using Node.ind generalizing path with
  | h kind span missing children ih =>
    rcases mem_placesOf.mp h with ⟨rfl, rfl⟩ | ⟨-, i, c, hc, hm⟩
    · exact Node.self_mem_nodes _
    · have hMem := List.mem_of_getElem? hc
      exact Node.mem_nodes_iff.mpr (.inr ⟨c, hMem, ih c hMem hm⟩)

/-- The comments among some listed nodes. -/
def commentsAmong (places : List (List Nat × Node)) : List Node :=
  (places.map Prod.snd).filter fun n => n.kind = .comment

theorem commentsAmong_append (xs ys : List (List Nat × Node)) :
    commentsAmong (xs ++ ys) = commentsAmong xs ++ commentsAmong ys := by
  rw [commentsAmong, List.map_append, List.filter_append]
  rfl

theorem mem_nodes_of_mem_commentsAmong {path : List Nat} {n m : Node}
    (h : m ∈ commentsAmong (placesOf path n)) : m ∈ n.nodes := by
  obtain ⟨⟨q, m⟩, hPlace, rfl⟩ := List.mem_map.mp (List.mem_filter.mp h).1
  exact mem_nodes_of_mem_placesOf hPlace

/-- The comments below nodes in order are in order if those below each of them are. -/
theorem pairwise_commentsAmong_placesIn {ns : List Node} {start stop : Nat}
    (hOrder : Node.inOrderWithin start stop ns = true)
    (h : ∀ c ∈ ns, ∀ path, (commentsAmong (placesOf path c)).Pairwise fun a b => a.stop ≤ b.start)
    (path : List Nat) (i : Nat) :
    (commentsAmong (placesIn path i ns)).Pairwise fun a b => a.stop ≤ b.start := by
  induction ns generalizing start i with
  | nil => exact List.Pairwise.nil
  | cons n ns ih =>
    obtain ⟨-, hFirst, hRest⟩ := Node.inOrderWithin_cons.mp hOrder
    rw [placesIn, commentsAmong_append, List.pairwise_append]
    refine ⟨h n List.mem_cons_self _, ih hRest (fun c hc => h c (List.mem_cons_of_mem _ hc)) _, ?_⟩
    intro a ha b hb
    have hLeft := Node.within_of_mem_nodes hFirst (mem_nodes_of_mem_commentsAmong ha)
    obtain ⟨⟨q, b⟩, hPlace, rfl⟩ := List.mem_map.mp (List.mem_filter.mp hb).1
    obtain ⟨j, c, hc, hPlace⟩ := mem_placesIn.mp hPlace
    obtain ⟨hChild, hStart, -⟩ := Node.mem_of_inOrderWithin hRest (List.mem_of_getElem? hc)
    have hRight := Node.within_of_mem_nodes hChild (mem_nodes_of_mem_placesOf hPlace)
    show a.stop ≤ b.start
    omega

theorem pairwise_commentsAmong_placesOf (path : List Nat) {n : Node} (hOrder : n.inOrder = true) :
    (commentsAmong (placesOf path n)).Pairwise fun a b => a.stop ≤ b.start := by
  induction n using Node.ind generalizing path with
  | h kind span missing children ih =>
    have hBelow (path : List Nat) (i : Nat) :=
      pairwise_commentsAmong_placesIn (Node.inOrderWithin_children hOrder)
        (fun c hc p => ih c hc p (Node.inOrder_of_mem_children hOrder hc)) path i
    rw [placesOf_eq]
    by_cases hComment : kind = .comment
    · -- a comment is no group, so nothing below it is listed
      subst hComment
      exact List.pairwise_singleton _ _
    · have hSelf (places : List (List Nat × Node)) :
          commentsAmong ((path, .mk kind span missing children) :: places) =
            commentsAmong places := by
        rw [commentsAmong, List.map_cons, List.filter_cons_of_neg]
        · rfl
        · exact fun hKind => hComment (of_decide_eq_true hKind)
      rw [hSelf]
      split
      · exact hBelow path 0
      · exact List.Pairwise.nil

/-- **Comments stand one behind the other.** -/
theorem pairwise_commentsOf {root : Node} (hOrder : root.inOrder = true) :
    (commentsOf root).Pairwise fun a b => a.stop ≤ b.start := by
  rw [commentsOf]
  split
  next hFile =>
    have hAll : ((visiblePlaces root).map Prod.snd).filter (fun n => n.kind = .comment) =
        commentsAmong (placesIn [] 0 root.children) := by
      rw [visiblePlaces, List.map_cons, List.filter_cons_of_neg]
      · rfl
      · simp [hFile]
    rw [hAll]
    refine pairwise_commentsAmong_placesIn (Node.inOrderWithin_children hOrder) ?_ [] 0
    exact fun c hc path =>
      pairwise_commentsAmong_placesOf path (Node.inOrder_of_mem_children hOrder hc)
  next => exact List.Pairwise.nil

/-! ### Directives of one comment -/

theorem below_line (p : Position) (i : Nat) : (below p i).line = p.line + i := by
  rw [below]
  split
  next hZero => rw [hZero, Nat.add_zero]
  next => rfl

theorem below_before_below (p : Position) {i j : Nat} (h : i < j) :
    (below p i).Before (below p j) := by
  refine .inl ?_
  rw [below_line, below_line]
  omega

theorem not_below_before (p : Position) (i : Nat) : ¬ (below p i).Before p := by
  cases i with
  | zero => exact Position.Before.irrefl p
  | succ i =>
    intro hBack
    exact Position.Before.irrefl p ((below_before_below p (Nat.succ_pos i)).trans hBack)

/-- A line with something on it starts before the end of the text. -/
theorem below_before_after {text part : List Char} {i : Nat}
    (hPart : (splitAt '\n' text)[i]? = some part) (hNil : part ≠ []) (p : Position) :
    (below p i).Before (p.after text) := by
  have hBound : i < (splitAt '\n' text).length := (List.getElem?_eq_some_iff.mp hPart).1
  rw [length_splitAt] at hBound
  rcases Nat.lt_or_eq_of_le (Nat.le_of_lt_succ hBound) with hBefore | rfl
  · refine .inl ?_
    rw [below_line, Position.after_line]
    omega
  · -- on the last line the end is farther to the right
    have hSize := byteSize_pos hNil
    refine .inr ⟨by rw [below_line, Position.after_line], ?_⟩
    rw [Position.after_eq p hPart, below]
    split
    · exact Nat.lt_add_of_pos_right hSize
    · exact Nat.lt_add_of_pos_right hSize

theorem pairwise_linesLookedAt (text : List Char) (position : Position) :
    (linesLookedAt text position).Pairwise fun a b => a.2.Before b.2 := by
  rw [linesLookedAt]
  split
  · exact List.pairwise_singleton _ _
  · split
    · refine List.pairwise_iff_getElem.mpr fun i j hi hj hLess => ?_
      rw [List.getElem_mapIdx, List.getElem_mapIdx]
      exact below_before_below position hLess
    · exact List.Pairwise.nil

theorem pairwise_markedIn {ls : List (List Char × Position)}
    (h : ls.Pairwise fun a b => a.2.Before b.2) :
    (markedIn ls).Pairwise fun m k => m.directive.position.Before k.directive.position := by
  refine List.pairwise_filterMap.mpr (h.imp ?_)
  intro a b hab m hm k hk
  rw [(Marked.shown_of_ofLine? hm).2.2, (Marked.shown_of_ofLine? hk).2.2]
  exact hab

theorem pairwise_commentDirectives (source : List Char) (tags : BuildTags) (root n : Node) :
    (commentDirectives source tags root n).Pairwise fun d e => d.position.Before e.position := by
  rw [commentDirectives]
  split
  · rw [View.headerFindings]
    split
    · exact List.pairwise_singleton _ _
    · exact List.Pairwise.nil
  · exact List.pairwise_map.mpr (.filter _ (pairwise_markedIn (pairwise_linesLookedAt _ _)))

variable {source : List Char} {root : Node}

/-- A line of a comment with something on it lies in the comment: not before its start, and before
its end. -/
theorem below_within_comment (hRoot : root.Stands source) {n : Node} (hn : n ∈ commentsOf root)
    {i : Nat} {part : List Char} (hPart : (splitAt '\n' (n.text source))[i]? = some part)
    (hNil : part ≠ []) :
    ¬ (below (Position.ofOffset source n.start) i).Before (Position.ofOffset source n.start) ∧
      (below (Position.ofOffset source n.start) i).Before (Position.ofOffset source n.stop) := by
  obtain ⟨before, rest, hSource, hStart, hStop⟩ := hRoot.exists_parts (mem_commentsOf hn).1
  have hEnd : Position.ofOffset source n.stop =
      (Position.ofOffset source n.start).after (n.text source) := by
    have hBehind : source = before ++ n.text source ++ rest := by rw [List.append_assoc, ← hSource]
    rw [hStop, hStart, ← byteSize_append, Position.ofOffset_of_eq hBehind,
      Position.ofOffset_of_eq hSource, Position.after_append]
  rw [hEnd]
  exact ⟨not_below_before _ i, below_before_after hPart hNil _⟩

/-- The directives of a comment lie in it. -/
theorem position_within_comment (hRoot : root.Stands source) {n : Node} (hn : n ∈ commentsOf root)
    {tags : BuildTags} {d : Directive} (hd : d ∈ commentDirectives source tags root n) :
    ¬ d.position.Before (Position.ofOffset source n.start) ∧
      d.position.Before (Position.ofOffset source n.stop) := by
  obtain ⟨hNode, hKind⟩ := mem_commentsOf hn
  obtain ⟨i, part, hPart, hShown, hPosition⟩ :=
    exists_line_of_mem_commentDirectives (hRoot.comments n hNode hKind) hd
  rw [hPosition]
  exact below_within_comment hRoot hn hPart hShown.ne_nil

/-- So do its lines with the form of a directive, whatever becomes of their conditions. -/
theorem marked_within_comment (hRoot : root.Stands source) {n : Node} (hn : n ∈ commentsOf root)
    {m : Marked} (hm : m ∈ markedIn (n.commentLines source)) :
    ¬ m.directive.position.Before (Position.ofOffset source n.start) ∧
      m.directive.position.Before (Position.ofOffset source n.stop) := by
  obtain ⟨hNode, hKind⟩ := mem_commentsOf hn
  obtain ⟨⟨line, position⟩, hLine, hMarked⟩ := List.mem_filterMap.mp hm
  obtain ⟨hShown, -, hPosition⟩ := Marked.shown_of_ofLine? hMarked
  obtain ⟨i, part, hPart, hInfix, hBelow⟩ := mem_linesLookedAt (hRoot.comments n hNode hKind) hLine
  rw [hPosition, hBelow]
  exact below_within_comment hRoot hn hPart (hShown.of_isInfix hInfix).ne_nil

/-- What lies in a comment lies before what lies in a later one. -/
theorem before_of_within_comments (hRoot : root.Stands source) {a b : Node}
    (ha : a ∈ commentsOf root)
    (hb : b ∈ commentsOf root) (hOrder : a.stop ≤ b.start) {p q : Position}
    (hp : p.Before (Position.ofOffset source a.stop))
    (hq : ¬ q.Before (Position.ofOffset source b.start)) :
    p.Before q := by
  have hBetween : ¬ (Position.ofOffset source b.start).Before (Position.ofOffset source a.stop) :=
    Position.not_ofOffset_before (hRoot.seamed a (mem_commentsOf ha).1).2
      (hRoot.seamed b (mem_commentsOf hb).1).1 hOrder
  exact (hp.trans_not hBetween).trans_not hq

/-! ### Phases -/

/-- Directives of comments in a row have positions that grow. -/
theorem pairwise_directives (hRoot : root.Stands source) (tags : BuildTags) :
    ((commentsOf root).flatMap (commentDirectives source tags root)).Pairwise
      fun d e => d.position.Before e.position := by
  rw [List.pairwise_flatMap]
  refine ⟨fun n _ => pairwise_commentDirectives source tags root n, ?_⟩
  refine (pairwise_commentsOf hRoot.ordered).imp_of_mem ?_
  intro a b ha hb hOrder d hd e he
  exact before_of_within_comments hRoot ha hb hOrder (position_within_comment hRoot ha hd).2
    (position_within_comment hRoot hb he).1

theorem pairwise_marked (hRoot : root.Stands source) :
    (markedIn (bodyLines source root)).Pairwise
      fun m k => m.directive.position.Before k.directive.position := by
  rw [markedIn_bodyLines, List.pairwise_flatMap]
  refine ⟨fun n _ => pairwise_markedIn (pairwise_linesLookedAt _ _), ?_⟩
  refine ((pairwise_commentsOf hRoot.ordered).filter _).imp_of_mem ?_
  intro a b ha hb hOrder m hm k hk
  have ha := List.mem_of_mem_filter ha
  have hb := List.mem_of_mem_filter hb
  exact before_of_within_comments hRoot ha hb hOrder (marked_within_comment hRoot ha hm).2
    (marked_within_comment hRoot hb hk).1

/-- What has a property comes first, if nothing without it comes before. -/
theorem eq_filter_append_filter {α : Type} {p : α → Bool} {xs : List α}
    (h : xs.Pairwise fun a b => p b = true → p a = true) :
    xs = xs.filter p ++ xs.filter fun x => !p x := by
  induction xs with
  | nil => rfl
  | cons x xs ih =>
    obtain ⟨hFirst, hRest⟩ := List.pairwise_cons.mp h
    by_cases hx : p x = true
    · rw [List.filter_cons_of_pos hx, List.filter_cons_of_neg (by simp [hx]), List.cons_append,
        ← ih hRest]
    · have hNone : xs.filter p = [] :=
        List.filter_eq_nil_iff.mpr fun y hy hpy => hx (hFirst y hy hpy)
      have hAll : xs.filter (fun y => !p y) = xs :=
        List.filter_eq_self.mpr fun y hy => by simpa using fun hpy => hx (hFirst y hy hpy)
      rw [List.filter_cons_of_neg hx, List.filter_cons_of_pos (by simp [hx]), hNone, hAll,
        List.nil_append]

theorem commentsOf_eq_append (hOrder : root.inOrder = true) : commentsOf root =
    (commentsOf root).filter (inHeader root) ++
      (commentsOf root).filter fun n => !inHeader root n := by
  refine eq_filter_append_filter ((pairwise_commentsOf hOrder).imp_of_mem ?_)
  intro a b ha _ hab hb
  have hSelf := Node.within_of_mem_nodes hOrder (mem_commentsOf ha).1
  have hStart : b.start < packageStart root := of_decide_eq_true hb
  refine decide_eq_true ?_
  show a.start < packageStart root
  omega

/-- A file that is not refused has a package clause, and no item of the file stands before it. -/
theorem exists_packageClause {wholeFile : Bool} (h : rejection? source wholeFile root = none) :
    ∃ clause before behind, root.packageClause? = some clause ∧
      root.children = before ++ clause :: behind ∧
      ∀ m ∈ before, ¬ IsItem m := by
  have hPackage : packageError? source root = none := by
    rw [rejection?] at h
    split at h
    · cases h
    · exact h
  obtain ⟨clause, ⟨-, before, behind, hSplit, hBefore⟩, hKind⟩ :=
    packageError?_eq_none_iff.mp hPackage
  refine ⟨clause, before, behind, ?_, hSplit, hBefore⟩
  rw [Node.packageClause?, Node.namedChildren, List.find?_filter]
  refine find?_eq_some_iff_isFirst.mpr
    ⟨by simp [hKind, NodeKind.isNamed], before, behind, hSplit, ?_⟩
  intro m hm hClause
  simp only [decide_eq_true_eq] at hClause
  exact hBefore m hm ⟨hClause.1, by simp [hClause.2]⟩

theorem mem_nodes_of_packageClause? {clause : Node} (h : root.packageClause? = some clause) :
    clause ∈ root.nodes :=
  Node.mem_nodes_of_mem_children (List.mem_filter.mp (List.mem_of_find?_eq_some h)).1

theorem of_mem_targets (hRoot : root.Stands source) {clause n : Node} {tags : BuildTags}
    (hClause : root.packageClause? = some clause) (hn : n ∈ commentsOf root)
    (hHeader : inHeader root n = true) {d : Directive}
    (hd : d ∈ commentDirectives source tags root n) :
    d.kind = .target ∧ d.position.Before (Position.ofOffset source clause.start) ∧ d.payload ≠ "" ∧
      ∀ c ∈ d.payload.toList, isBlank c = false := by
  rw [commentDirectives, if_pos hHeader] at hd
  obtain ⟨-, hNonempty, hWord, hPosition⟩ := shown_of_mem_headerFindings hd
  have hStart : n.start < clause.start := by
    have hBefore : n.start < packageStart root := of_decide_eq_true hHeader
    rwa [packageStart, hClause] at hBefore
  refine ⟨kind_of_mem_headerFindings hd, ?_, hNonempty, hWord⟩
  rw [hPosition]
  exact Position.ofOffset_before (hRoot.seamed n (mem_commentsOf hn).1).1
    (hRoot.seamed clause (mem_nodes_of_packageClause? hClause)).1 hStart

theorem of_mem_others (hRoot : root.Stands source) {clause n : Node} {tags : BuildTags}
    (hClause : root.packageClause? = some clause) (hn : n ∈ commentsOf root)
    (hHeader : inHeader root n = false) {d : Directive}
    (hd : d ∈ commentDirectives source tags root n) :
    d.kind ≠ .target ∧ ¬ d.position.Before (Position.ofOffset source clause.start) ∧
      Trimmed d.payload.toList ∧ '\n' ∉ d.payload.toList := by
  obtain ⟨hNode, hKind⟩ := mem_commentsOf hn
  have hWithin := (position_within_comment hRoot hn hd).1
  obtain ⟨i, part, hPart, hShown, -⟩ :=
    exists_line_of_mem_commentDirectives (hRoot.comments n hNode hKind) hd
  have hLine : '\n' ∉ d.payload.toList := fun hMem =>
    notMem_of_mem_splitAt (List.mem_of_getElem? hPart) (hShown.payload_isInfix.subset hMem)
  rw [commentDirectives, if_neg (by simp [hHeader])] at hd
  obtain ⟨line, position, -, m, hMarked, rfl⟩ := Marked.exists_line_of_mem hd
  refine ⟨kind_of_ofLine? hMarked, ?_, (Marked.shown_of_ofLine? hMarked).2.1, hLine⟩
  intro hBefore
  have hStart : clause.start ≤ n.start := by
    have hBehind : ¬ n.start < packageStart root := of_decide_eq_false hHeader
    rw [packageStart, hClause] at hBehind
    exact Nat.not_lt.mp hBehind
  have hPlace :
      ¬ (Position.ofOffset source n.start).Before (Position.ofOffset source clause.start) :=
    Position.not_ofOffset_before (hRoot.seamed clause (mem_nodes_of_packageClause? hClause)).1
      (hRoot.seamed n hNode).1 hStart
  exact hWithin (hBefore.trans_not hPlace)

/-- **The order of directives.** Their positions grow strictly; the targets come first and lie
before the package clause, and all others lie behind its start. -/
theorem directives_in_order [Go.Parser] (hParser : Go.Parser.Sound) (tags : BuildTags)
    (text : String) (isTest : Bool) :
    ∀ scanned, (scan tags text isTest).1 = .ok scanned →
      (scanned.directives.Pairwise fun d e => d.position.Before e.position) ∧
      (scanned.directives.map Directive.position).Nodup ∧
      ∃ clause, (Go.parse text.toList).packageClause? = some clause ∧
        let place := Position.ofOffset text.toList clause.start
        ∃ targets others, scanned.directives = targets ++ others ∧
          (∀ d ∈ targets, d.kind = .target ∧ d.position.Before place ∧ d.payload ≠ "" ∧
            ∀ c ∈ d.payload.toList, isBlank c = false) ∧
          ∀ d ∈ others, d.kind ≠ .target ∧ ¬ d.position.Before place ∧
            Trimmed d.payload.toList ∧ '\n' ∉ d.payload.toList := by
  intro scanned hScan
  obtain ⟨hAccepted, rfl⟩ := eq_walk_of_scan hScan
  have hRoot := hParser.stands text.toList
  generalize Go.parse text.toList = root at hAccepted hRoot ⊢
  obtain ⟨clause, _, _, hClause, -⟩ := exists_packageClause hAccepted
  have hPairwise := pairwise_directives hRoot tags
  rw [walk_directives_eq]
  refine ⟨hPairwise, ?_, clause, hClause, ?_⟩
  · refine List.pairwise_map.mpr (hPairwise.imp ?_)
    intro d e hBefore hSame
    rw [hSame] at hBefore
    exact Position.Before.irrefl _ hBefore
  · refine
      ⟨((commentsOf root).filter (inHeader root)).flatMap (commentDirectives text.toList tags root),
        ((commentsOf root).filter fun n => !inHeader root n).flatMap
          (commentDirectives text.toList tags root), ?_, ?_, ?_⟩
    · rw [← List.flatMap_append, ← commentsOf_eq_append hRoot.ordered]
    · intro d hd
      obtain ⟨n, hn, hd⟩ := List.mem_flatMap.mp hd
      obtain ⟨hn, hHeader⟩ := List.mem_filter.mp hn
      exact of_mem_targets hRoot hClause hn hHeader hd
    · intro d hd
      obtain ⟨n, hn, hd⟩ := List.mem_flatMap.mp hd
      obtain ⟨hn, hHeader⟩ := List.mem_filter.mp hn
      exact of_mem_others hRoot hClause hn (by simpa using hHeader) hd

attribute [local instance] flagParser

/-- A target above the package clause and a flag below it. -/
theorem directives_in_order_flag : Go.Parser.Sound ∧
    ∃ scanned, (scan ⟨[]⟩ flagText false).1 = .ok scanned ∧
      scanned.directives.map Directive.position = [⟨1, 1⟩, ⟨3, 1⟩] ∧
      scanned.directives.Pairwise fun d e => d.position.Before e.position :=
  have hParser := Plain.sound_parserOf [flagPieces, lonePieces]
  ⟨hParser, _, scan_flagText, rfl,
    (directives_in_order hParser ⟨[]⟩ flagText false _ scan_flagText).1⟩

end BuildScan
