import BuildScan.Proofs.Seams
import Mathlib.Data.List.TakeWhile

/-!
# Plain texts

A piece is a text that the grammar reads as one item wherever it stands on lines of its own: a
comment, a package clause, or an import.  `Plain.tree` is the tree of pieces below one another, in
which the node of each piece stands where the piece does, and `Plain.IsTree` says of the tree of a
source that it is this one.  That is all that is asked of a parser about a plain text;
`Plain.parserOf` is one that knows some texts, and it is sound (`sound_parserOf`).

A block comment ends at the first mark that closes one, so its lines must not hold any
(`blockRest?_append`).
-/

namespace BuildScan.Go

open BuildScan.Text

/-! ### Comments -/

theorem Lexeme.comment?_line {cs : List Char} (h : ∀ c ∈ cs, c ≠ '\n' ∧ c ≠ nul) :
    comment? ('/' :: '/' :: cs) = some (cs.length + 2) := by
  have hAll : cs.takeWhile (fun c => c != '\n' && c != nul) = cs := by
    rw [List.takeWhile_eq_self_iff]
    intro c hc
    obtain ⟨hLine, hNul⟩ := h c hc
    rw [Bool.and_eq_true, bne_iff_ne, bne_iff_ne]
    exact ⟨hLine, hNul⟩
  rw [comment?, hAll]

/-- The text neither holds the character NUL nor closes a block comment. -/
structure StaysInside (cs : List Char) : Prop where
  noNul : ∀ c ∈ cs, c ≠ Lexeme.nul
  noClose : ¬ ['*', '/'] <:+: cs

theorem StaysInside.tail {c : Char} {cs : List Char} (h : StaysInside (c :: cs)) :
    StaysInside cs where
  noNul d hd := h.noNul d (List.mem_cons_of_mem _ hd)
  noClose hMid := h.noClose (hMid.trans (List.suffix_cons c cs).isInfix)

/-- Without a star nothing is closed. -/
theorem StaysInside.of_all {cs : List Char}
    (h : cs.all (fun c => c != Lexeme.nul && c != '*') = true) : StaysInside cs := by
  simp only [List.all_eq_true, Bool.and_eq_true, bne_iff_ne] at h
  exact ⟨fun c hc => (h c hc).1, fun hMid => (h '*' (hMid.subset List.mem_cons_self)).2 rfl⟩

theorem Lexeme.blockRest?_append {cs : List Char} (h : StaysInside cs) {mark : Char}
    (hMark : mark ≠ '/') (rest : List Char) :
    blockRest? (cs ++ mark :: rest) = (blockRest? (mark :: rest)).map (· + cs.length) := by
  induction cs with
  | nil => simp only [List.nil_append, List.length_nil, Nat.add_zero, Option.map_id_fun', id_eq]
  | cons c cs ih =>
    have hNul : (c == nul) = false := beq_eq_false_iff_ne.mpr (h.noNul c List.mem_cons_self)
    have hOpen : (c == '*' && (cs ++ mark :: rest).head? == some '/') = false := by
      rw [Bool.and_eq_false_iff, beq_eq_false_iff_ne, beq_eq_false_iff_ne]
      by_cases hStar : c = '*'
      · right
        cases cs with
        | nil =>
          rintro hSlash
          exact hMark (Option.some.inj hSlash)
        | cons d cs =>
          rintro hSlash
          cases hSlash
          exact h.noClose (hStar ▸ ⟨[], cs, rfl⟩)
      · exact .inl hStar
    rw [List.cons_append, blockRest?, hNul, hOpen, ih h.tail, if_neg Bool.false_ne_true,
      if_neg Bool.false_ne_true, Option.map_map, List.length_cons]
    rfl

theorem Lexeme.blockRest?_close {cs : List Char} (h : StaysInside cs) :
    blockRest? (cs ++ "*/".toList) = some (cs.length + 2) := by
  have hClose : blockRest? "*/".toList = some 2 := rfl
  have hOpen : blockRest? (cs ++ "*/".toList) = (blockRest? "*/".toList).map (· + cs.length) :=
    blockRest?_append h (by decide) _
  rw [hOpen, hClose, Option.map_some, Nat.add_comm]

/-! ### Nodes -/

namespace Plain

def leaf (kind : NodeKind) (start stop : Nat) : Node := .mk kind ⟨start, stop⟩ false []

/-- The node of a package clause. -/
def packageNode (name : List Char) (offset : Nat) : Node :=
  let stop := offset + 8 + byteSize name
  .mk .packageClause ⟨offset, stop⟩ false
    [leaf (.token "package") offset (offset + 7), leaf .packageIdentifier (offset + 8) stop]

/-- The node of a string between quotes. -/
def quotedNode (inside : List Char) (start : Nat) : Node :=
  let stop := start + byteSize inside + 2
  let content :=
    if inside.isEmpty then []
    else [leaf (.other "interpreted_string_literal_content") (start + 1) (stop - 1)]
  .mk .interpretedString ⟨start, stop⟩ false
    (leaf (.token "\"") start (start + 1) :: content ++ [leaf (.token "\"") (stop - 1) stop])

/-- The node of an import of a string. -/
def importNode (inside : List Char) (offset : Nat) : Node :=
  let path := quotedNode inside (offset + 7)
  .mk .importDeclaration ⟨offset, path.stop⟩ false
    [leaf (.token "import") offset (offset + 6), .mk .importSpec path.span false [path]]

variable {source : List Char}

theorem stands_leaf {kind : NodeKind} {start stop : Nat} (hKind : kind ≠ .comment)
    (hStart : Seam source start) (hStop : Seam source stop) (h : start ≤ stop) :
    (leaf kind start stop).Stands source :=
  Node.stands_mk hKind hStart hStop (decide_eq_true h) (List.forall_mem_nil _)

/-- A comment stands where its text does. -/
theorem stands_comment {before text rest : List Char} (hSource : source = before ++ (text ++ rest))
    (h : Lexeme.comment? text = some text.length) :
    (leaf .comment (byteSize before) (byteSize before + byteSize text)).Stands source := by
  have hText : slice source (byteSize before) (byteSize before + byteSize text) = text :=
    slice_of_eq hSource rfl rfl
  refine ⟨Node.seamed_mk ⟨before, text ++ rest, hSource, rfl⟩ (seam_of_eq hSource)
    (List.forall_mem_nil _), ?_, ?_⟩
  · simp [leaf, Node.inOrder, Node.inOrderWithin]
  · intro m hm _
    have hSelf : m = leaf .comment (byteSize before) (byteSize before + byteSize text) := by
      simpa [leaf, Node.nodes, Node.nodesIn] using hm
    have hWhole : m.text source = text := hSelf ▸ hText
    rw [hWhole, h]

theorem stands_packageNode {before name tail : List Char}
    (hSource : source = before ++ ("package ".toList ++ (name ++ tail))) :
    (packageNode name (byteSize before)).Stands source := by
  have hSeam (part rest : List Char) (hPart : "package ".toList ++ (name ++ tail) = part ++ rest) :
      Seam source (byteSize before + byteSize part) := seam_of_eq (by rw [hSource, hPart])
  have hStart : Seam source (byteSize before) := hSeam [] _ rfl
  have hKeyword : Seam source (byteSize before + 7) :=
    hSeam "package".toList (' ' :: (name ++ tail)) rfl
  have hName : Seam source (byteSize before + 8) := hSeam "package ".toList (name ++ tail) rfl
  have hStop : Seam source (byteSize before + 8 + byteSize name) := by
    have hAt := hSeam ("package ".toList ++ name) tail (by rw [List.append_assoc])
    rwa [byteSize_append, ← Nat.add_assoc] at hAt
  refine Node.stands_mk (by decide) hStart hStop ?_ (List.forall_mem_cons.mpr
    ⟨stands_leaf (by decide) hStart hKeyword (by omega), List.forall_mem_singleton.mpr
      (stands_leaf (by decide) hName hStop (by omega))⟩)
  simp [leaf, Node.inOrder, Node.inOrderWithin]

/-- A string stands where it does with its quotes; an empty one has nothing between them. -/
theorem stands_quotedNode {before inside tail : List Char}
    (hSource : source = before ++ '"' :: (inside ++ '"' :: tail)) :
    (quotedNode inside (byteSize before)).Stands source := by
  have hSeam (part rest : List Char) (hPart : '"' :: (inside ++ '"' :: tail) = part ++ rest) :
      Seam source (byteSize before + byteSize part) := seam_of_eq (by rw [hSource, hPart])
  have hQuoteSize : byteSize ['"'] = 1 := rfl
  have hOpen : Seam source (byteSize before) := hSeam [] _ rfl
  have hInside : Seam source (byteSize before + 1) := hSeam ['"'] (inside ++ '"' :: tail) rfl
  have hClose : Seam source (byteSize before + byteSize inside + 1) := by
    have hAt := hSeam (['"'] ++ inside) ('"' :: tail) rfl
    rwa [byteSize_append, hQuoteSize, Nat.add_comm 1, ← Nat.add_assoc] at hAt
  have hStop : Seam source (byteSize before + byteSize inside + 2) := by
    have hAt := hSeam ('"' :: (inside ++ ['"'])) tail (by
      rw [List.cons_append, List.append_assoc]
      rfl)
    have hSize : byteSize ('"' :: (inside ++ ['"'])) = byteSize inside + 2 := by
      rw [byteSize, byteSize_append, hQuoteSize, Nat.add_comm]
      rfl
    rwa [hSize, ← Nat.add_assoc] at hAt
  have hQuotes : (leaf (.token "\"") (byteSize before) (byteSize before + 1)).Stands source ∧
      (leaf (.token "\"") (byteSize before + byteSize inside + 1)
        (byteSize before + byteSize inside + 2)).Stands source :=
    ⟨stands_leaf (by decide) hOpen hInside (by omega),
      stands_leaf (by decide) hClose hStop (by omega)⟩
  cases inside with
  | nil =>
    refine Node.stands_mk (by decide) hOpen hStop ?_ (List.forall_mem_cons.mpr
      ⟨hQuotes.1, List.forall_mem_singleton.mpr hQuotes.2⟩)
    simp [leaf, Node.inOrder, Node.inOrderWithin, byteSize]
  | cons c inside =>
    have hContent : (leaf (.other "interpreted_string_literal_content") (byteSize before + 1)
        (byteSize before + byteSize (c :: inside) + 1)).Stands source :=
      stands_leaf (by decide) hInside hClose (by omega)
    refine Node.stands_mk (by decide) hOpen hStop ?_ (List.forall_mem_cons.mpr
      ⟨hQuotes.1, List.forall_mem_cons.mpr ⟨hContent, List.forall_mem_singleton.mpr hQuotes.2⟩⟩)
    simp [leaf, Node.inOrder, Node.inOrderWithin]

theorem stands_importNode {before inside tail : List Char}
    (hSource : source = before ++ ("import \"".toList ++ (inside ++ '"' :: tail))) :
    (importNode inside (byteSize before)).Stands source := by
  have hPath : (quotedNode inside (byteSize before + 7)).Stands source := by
    have hSize : byteSize (before ++ "import ".toList) = byteSize before + 7 := byteSize_append _ _
    rw [← hSize]
    exact stands_quotedNode (hSource.trans (List.append_assoc before "import ".toList _).symm)
  have hWord : source = before ++ ("import".toList ++ ' ' :: '"' :: (inside ++ '"' :: tail)) :=
    hSource
  have hStart : Seam source (byteSize before) := ⟨before, _, hSource, rfl⟩
  have hKeyword : (leaf (.token "import") (byteSize before) (byteSize before + 6)).Stands source :=
    stands_leaf (by decide) hStart (seam_of_eq hWord) (by omega)
  obtain ⟨hOpen, hStop⟩ := hPath.seamed _ (Node.self_mem_nodes _)
  have hSpec : (Node.mk .importSpec (quotedNode inside (byteSize before + 7)).span false
      [quotedNode inside (byteSize before + 7)]).Stands source :=
    Node.stands_mk (by decide) hOpen hStop (Node.inOrderWithin_cons.mpr
      ⟨Nat.le_refl _, hPath.ordered, decide_eq_true (Nat.le_refl _)⟩)
      (List.forall_mem_singleton.mpr hPath)
  refine Node.stands_mk (by decide) hStart hStop ?_
    (List.forall_mem_cons.mpr ⟨hKeyword, List.forall_mem_singleton.mpr hSpec⟩)
  exact Node.inOrderWithin_cons.mpr ⟨Nat.le_refl _, hKeyword.ordered,
    Node.inOrderWithin_cons.mpr ⟨Nat.le_succ _, hSpec.ordered, decide_eq_true (Nat.le_refl _)⟩⟩

/-! ### Pieces -/

/-- A text that the grammar reads as one item wherever it stands on lines of its own. -/
structure Piece where
  text : List Char
  /-- The item, by the offset where the text starts. -/
  node : Nat → Node
  start_eq : ∀ offset, (node offset).start = offset
  stop_eq : ∀ offset, (node offset).stop = offset + byteSize text
  named : ∀ offset, (node offset).kind.isNamed = true
  sound : ∀ offset, (node offset).hasFault = false
  stands : ∀ before rest, (node (byteSize before)).Stands (before ++ (text ++ rest))

/-- A comment as a piece. -/
def Piece.ofComment (mark : Char) (cs : List Char)
    (h : Lexeme.comment? ('/' :: mark :: cs) = some (cs.length + 2)) : Piece where
  text := '/' :: mark :: cs
  node offset := leaf .comment offset (offset + byteSize ('/' :: mark :: cs))
  start_eq _ := rfl
  stop_eq _ := rfl
  named _ := rfl
  sound _ := rfl
  stands _ _ := stands_comment rfl h

/-- A package clause as a piece. -/
def Piece.ofPackage (name : List Char) : Piece where
  text := "package ".toList ++ name
  node := packageNode name
  start_eq _ := rfl
  stop_eq offset := by
    rw [byteSize_append, ← Nat.add_assoc]
    rfl
  named _ := rfl
  sound _ := rfl
  stands before rest := by
    have hSource : before ++ ("package ".toList ++ name ++ rest) =
        before ++ ("package ".toList ++ (name ++ rest)) := by
      rw [List.append_assoc]
    exact stands_packageNode hSource

/-- An import as a piece. -/
def Piece.ofImport (inside : List Char) : Piece where
  text := "import \"".toList ++ (inside ++ ['"'])
  node := importNode inside
  start_eq _ := rfl
  stop_eq offset := by
    have hSize :
        byteSize ("import \"".toList ++ (inside ++ ['"'])) = 8 + (byteSize inside + 1) := by
      rw [byteSize_append, byteSize_append]
      rfl
    have hStop : (importNode inside offset).stop = offset + 7 + byteSize inside + 2 := rfl
    rw [hSize, hStop]
    omega
  named _ := rfl
  sound _ := by cases inside <;> rfl
  stands before rest := by
    have hSource : before ++ ("import \"".toList ++ (inside ++ ['"']) ++ rest) =
        before ++ ("import \"".toList ++ (inside ++ '"' :: rest)) := by
      rw [List.append_assoc, List.append_assoc]
      rfl
    exact stands_importNode hSource

/-- Pieces below one another. -/
def rendered (ps : List Piece) : List Char := ps.flatMap fun p => p.text ++ ['\n']

/-- The items of pieces below one another. -/
def nodesFrom (offset : Nat) : List Piece → List Node
  | [] => []
  | p :: ps => p.node offset :: nodesFrom (offset + byteSize (p.text ++ ['\n'])) ps

theorem rendered_cons (p : Piece) (ps : List Piece) :
    rendered (p :: ps) = p.text ++ '\n' :: rendered ps := by
  rw [rendered, List.flatMap_cons, List.append_assoc]
  rfl

theorem rendered_append (ps qs : List Piece) : rendered (ps ++ qs) = rendered ps ++ rendered qs :=
  List.flatMap_append

theorem nodesFrom_append (offset : Nat) (ps qs : List Piece) :
    nodesFrom offset (ps ++ qs) =
      nodesFrom offset ps ++ nodesFrom (offset + byteSize (rendered ps)) qs := by
  induction ps generalizing offset with
  | nil => rfl
  | cons p ps ih =>
    have hSplit : rendered (p :: ps) = p.text ++ ['\n'] ++ rendered ps := List.flatMap_cons
    rw [List.cons_append, nodesFrom, ih, nodesFrom, hSplit, byteSize_append (p.text ++ ['\n']),
      Nat.add_assoc, List.cons_append]

theorem byteSize_lineEnd (cs : List Char) : byteSize (cs ++ ['\n']) = byteSize cs + 1 := by
  rw [byteSize_append]
  rfl

theorem any_hasFault_nodesFrom {ps : List Piece} {offset : Nat} :
    (nodesFrom offset ps).any Node.hasFault = false := by
  induction ps generalizing offset with
  | nil => rfl
  | cons p ps ih => rw [nodesFrom, List.any_cons, p.sound, ih, Bool.false_or]

theorem all_isNamed_nodesFrom {ps : List Piece} {offset : Nat} :
    ∀ n ∈ nodesFrom offset ps, n.kind.isNamed = true := by
  induction ps generalizing offset with
  | nil => exact List.forall_mem_nil _
  | cons p ps ih => exact List.forall_mem_cons.mpr ⟨p.named offset, ih⟩

/-- Pieces below one another have their nodes one behind the other. -/
theorem nodesFrom_stand {before : List Char} {ps : List Piece}
    (hSource : source = before ++ rendered ps) :
    Node.inOrderWithin (byteSize before) (byteSize source) (nodesFrom (byteSize before) ps) = true ∧
      ∀ n ∈ nodesFrom (byteSize before) ps, n.Stands source := by
  induction ps generalizing before with
  | nil =>
    have hSize : byteSize source = byteSize before := by
      rw [hSource, rendered, List.flatMap_nil, List.append_nil]
    exact ⟨by simp [nodesFrom, Node.inOrderWithin, hSize], List.forall_mem_nil _⟩
  | cons p ps ih =>
    rw [rendered_cons] at hSource
    have hNext : source = before ++ (p.text ++ ['\n']) ++ rendered ps := by
      rw [hSource, List.append_assoc, List.append_assoc]
      rfl
    have hStands : (p.node (byteSize before)).Stands source := hSource ▸ p.stands before _
    obtain ⟨hOrder, hRest⟩ := ih hNext
    rw [byteSize_append] at hOrder hRest
    refine ⟨Node.inOrderWithin_cons.mpr ⟨?_, hStands.ordered, ?_⟩,
      List.forall_mem_cons.mpr ⟨hStands, hRest⟩⟩
    · exact (p.start_eq _).ge
    · refine Node.inOrderWithin_of_le ?_ hOrder
      rw [p.stop_eq, byteSize_append]
      omega

/-! ### Trees -/

/-- The tree of pieces below one another. -/
def tree (ps : List Piece) : Node :=
  .mk .sourceFile ⟨0, byteSize (rendered ps)⟩ false (nodesFrom 0 ps)

theorem stands_tree (ps : List Piece) : (tree ps).Stands (rendered ps) := by
  have hSource : rendered ps = [] ++ rendered ps := rfl
  obtain ⟨hOrder, hStand⟩ := nodesFrom_stand hSource
  exact Node.stands_mk (by decide) (seam_zero _) (seam_byteSize _) hOrder hStand

/-- The tree is the one that the grammar gives pieces below one another: a file without faults,
whose children are the nodes of the pieces.  There may be tokens between them, for the line ends. -/
structure IsTree (ps : List Piece) (root : Node) : Prop where
  kind : root.kind = .sourceFile
  namedChildren : root.namedChildren = nodesFrom 0 ps
  sound : root.hasFault = false

theorem isTree_tree (ps : List Piece) : IsTree ps (tree ps) where
  kind := rfl
  namedChildren := List.filter_eq_self.mpr all_isNamed_nodesFrom
  sound := by
    rw [Node.hasFault_eq]
    exact any_hasFault_nodesFrom

/-! ### A parser of some texts -/

/-- The tree of a source that is one of some plain texts. -/
def treeAmong : List (List Piece) → List Char → Node
  | [], source => .unreadable source
  | ps :: others, source => if source = rendered ps then tree ps else treeAmong others source

/-- A parser that knows the trees of some plain texts and can make nothing of any other source. -/
@[reducible]
def parserOf (known : List (List Piece)) : Parser := ⟨treeAmong known⟩

theorem parse_parserOf_self (ps : List Piece) (others : List (List Piece)) :
    (parserOf (ps :: others)).parse (rendered ps) = tree ps := if_pos rfl

theorem parse_parserOf_of_ne {ps : List Piece} (h : source ≠ rendered ps)
    (others : List (List Piece)) :
    (parserOf (ps :: others)).parse source = (parserOf others).parse source := if_neg h

theorem stands_treeAmong (known : List (List Piece)) (source : List Char) :
    (treeAmong known source).Stands source := by
  induction known with
  | nil => exact Node.stands_unreadable source
  | cons ps others ih =>
    rw [treeAmong]
    split
    next hText => exact hText ▸ stands_tree ps
    next => exact ih

theorem isRoot_treeAmong (known : List (List Piece)) (source : List Char) :
    (treeAmong known source).isRoot = true := by
  induction known with
  | nil => rfl
  | cons ps others ih =>
    rw [treeAmong]
    split
    next => rfl
    next => exact ih

theorem sound_parserOf (known : List (List Piece)) : @Parser.Sound (parserOf known) :=
  @Parser.Sound.mk (parserOf known) (stands_treeAmong known) (isRoot_treeAmong known)

end Plain

end BuildScan.Go
