import BuildScan.Go.Parser
import BuildScan.Proofs.Places
import BuildScan.Proofs.Tree

/-!
# Trees that stand on their sources

A seam of a text is an offset between two of its characters, or at one of its ends.  `Node.Stands`
says what positions rest on: the nodes of a tree start and stop at seams of the source, they stand
in order, and what counts as a comment is one from end to end.

`Parser.Sound` asks this of every tree that a parser gives.  It is all that is ever asked of a
parser for sources of any kind.
-/

namespace BuildScan.Text

theorem byteSize_pos {cs : List Char} (h : cs ≠ []) : 0 < byteSize cs := by
  obtain ⟨c, rest, rfl⟩ := List.exists_cons_of_ne_nil h
  exact Nat.add_pos_left c.utf8Size_pos _

theorem prefix_of_byteSize_le {source left leftRest right rightRest : List Char}
    (hLeft : source = left ++ leftRest) (hRight : source = right ++ rightRest)
    (h : byteSize left ≤ byteSize right) : left <+: right := by
  have hLeftPrefix : left <+: source := ⟨leftRest, hLeft.symm⟩
  have hRightPrefix : right <+: source := ⟨rightRest, hRight.symm⟩
  rcases List.prefix_or_prefix_of_prefix hLeftPrefix hRightPrefix with hPrefix | ⟨part, rfl⟩
  · exact hPrefix
  · by_cases hNil : part = []
    · subst hNil
      exact ⟨[], by simp only [List.append_nil]⟩
    · have hPos := byteSize_pos hNil
      rw [byteSize_append] at h
      omega

/-- The offset does not divide a character of the text. -/
def Seam (text : List Char) (offset : Nat) : Prop :=
  ∃ before rest, text = before ++ rest ∧ offset = byteSize before

theorem takeBytes_append_dropBytes (n : Nat) (cs : List Char) :
    takeBytes n cs ++ dropBytes n cs = cs := by
  induction cs generalizing n with
  | nil => rfl
  | cons c cs ih =>
    rw [takeBytes, dropBytes]
    split
    · rfl
    · rw [List.cons_append, ih]

/-- An offset divides a character if cutting there takes more or less than was asked for. -/
theorem seam_iff {text : List Char} {offset : Nat} :
    Seam text offset ↔ byteSize (takeBytes offset text) = offset := by
  constructor
  · rintro ⟨before, rest, rfl, rfl⟩
    rw [takeBytes_byteSize]
  · intro h
    exact ⟨takeBytes offset text, dropBytes offset text,
      (takeBytes_append_dropBytes offset text).symm, h.symm⟩

instance (text : List Char) (offset : Nat) : Decidable (Seam text offset) :=
  decidable_of_iff _ seam_iff.symm

theorem seam_zero (text : List Char) : Seam text 0 := ⟨[], text, rfl, rfl⟩

theorem seam_byteSize (text : List Char) : Seam text (byteSize text) :=
  ⟨text, [], (List.append_nil text).symm, rfl⟩

theorem seam_of_eq {text before part rest : List Char} (h : text = before ++ (part ++ rest)) :
    Seam text (byteSize before + byteSize part) :=
  ⟨before ++ part, rest, by rw [h, List.append_assoc], (byteSize_append _ _).symm⟩

end BuildScan.Text

namespace BuildScan.Go

open BuildScan.Text

namespace Node

/-- The node and all below it start and stop at seams. -/
def Seamed (source : List Char) (n : Node) : Prop :=
  ∀ m ∈ n.nodes, Seam source m.start ∧ Seam source m.stop

/-- The tree can be read from the source. -/
structure Stands (source : List Char) (root : Node) : Prop where
  seamed : root.Seamed source
  ordered : root.inOrder = true
  comments : ∀ n ∈ root.nodes, n.kind = .comment →
    Lexeme.comment? (n.text source) = some (n.text source).length

variable {source : List Char}

theorem seamed_mk {kind : NodeKind} {span : Span} {missing : Bool} {children : List Node}
    (hStart : Seam source span.start) (hStop : Seam source span.stop)
    (h : ∀ c ∈ children, c.Seamed source) : (mk kind span missing children).Seamed source := by
  intro m hm
  rcases mem_nodes_iff.mp hm with rfl | ⟨c, hc, hm⟩
  · exact ⟨hStart, hStop⟩
  · exact h c hc m hm

/-- A node that is no comment stands if its children do, one behind the other between its ends. -/
theorem stands_mk {kind : NodeKind} {span : Span} {missing : Bool} {children : List Node}
    (hKind : kind ≠ .comment) (hStart : Seam source span.start) (hStop : Seam source span.stop)
    (hOrder : inOrderWithin span.start span.stop children = true)
    (hChildren : ∀ c ∈ children, c.Stands source) :
    (mk kind span missing children).Stands source where
  seamed := seamed_mk hStart hStop fun c hc => (hChildren c hc).seamed
  ordered := by
    rw [inOrder_eq]
    exact hOrder
  comments n hn hComment := by
    rcases mem_nodes_iff.mp hn with rfl | ⟨c, hc, hn⟩
    · exact absurd hComment hKind
    · exact (hChildren c hc).comments n hn hComment

theorem inOrderWithin_of_le {start start' stop : Nat} {ns : List Node} (hStart : start ≤ start')
    (h : inOrderWithin start' stop ns = true) : inOrderWithin start stop ns = true := by
  cases ns with
  | nil =>
    rw [inOrderWithin, decide_eq_true_eq] at h ⊢
    omega
  | cons n ns =>
    obtain ⟨hFirst, hRest⟩ := inOrderWithin_cons.mp h
    exact inOrderWithin_cons.mpr ⟨by omega, hRest⟩

theorem commentsHoldIn_eq_all (ns : List Node) :
    commentsHoldIn source ns = ns.all (commentsHold source) := by
  induction ns with
  | nil => rfl
  | cons n ns ih => rw [commentsHoldIn, ih, List.all_cons]

theorem commentsHold_iff {n : Node} : n.commentsHold source = true ↔
    ∀ m ∈ n.nodes, m.kind = .comment →
      Lexeme.comment? (m.text source) = some (m.text source).length := by
  induction n using ind with
  | h kind span missing children ih =>
    rw [commentsHold, commentsHoldIn_eq_all, Bool.and_eq_true, List.all_eq_true]
    constructor
    · rintro ⟨hSelf, hBelow⟩ m hm hComment
      rcases mem_nodes_iff.mp hm with rfl | ⟨c, hc, hm⟩
      · rcases Bool.or_eq_true_iff.mp hSelf with hOther | hWhole
        · exact absurd hComment (of_decide_eq_true hOther)
        · exact beq_iff_eq.mp hWhole
      · exact (ih c hc).mp (hBelow c hc) m hm hComment
    · intro h
      refine ⟨?_, fun c hc => (ih c hc).mpr fun m hm => h m (mem_nodes_iff.mpr (.inr ⟨c, hc, hm⟩))⟩
      by_cases hKind : kind = .comment
      · have hSelf := h _ (self_mem_nodes _) hKind
        exact Bool.or_eq_true_iff.mpr (.inr (beq_iff_eq.mpr hSelf))
      · simp [hKind]

theorem stands_iff {root : Node} : root.Stands source ↔
    (∀ m ∈ root.nodes, Seam source m.start ∧ Seam source m.stop) ∧ root.inOrder = true ∧
      root.commentsHold source = true := by
  constructor
  · rintro ⟨hSeamed, hOrdered, hComments⟩
    exact ⟨hSeamed, hOrdered, commentsHold_iff.mpr hComments⟩
  · rintro ⟨hSeamed, hOrdered, hComments⟩
    exact ⟨hSeamed, hOrdered, commentsHold_iff.mp hComments⟩

instance (source : List Char) (root : Node) : Decidable (root.Stands source) :=
  decidable_of_iff _ stands_iff.symm

theorem Stands.exists_parts {root : Node} (h : root.Stands source) {n : Node}
    (hn : n ∈ root.nodes) :
    ∃ before rest, source = before ++ (n.text source ++ rest) ∧ n.start = byteSize before ∧
      n.stop = n.start + byteSize (n.text source) := by
  obtain ⟨⟨left, leftRest, hLeft, hStart⟩, ⟨right, rightRest, hRight, hStop⟩⟩ := h.seamed n hn
  have hOrder := (within_of_mem_nodes h.ordered hn).2.1
  obtain ⟨part, rfl⟩ := prefix_of_byteSize_le hLeft hRight (by omega)
  rw [List.append_assoc] at hRight
  have hSize : n.stop = n.start + byteSize part := by rw [hStop, hStart, byteSize_append]
  have hText : n.text source = part := slice_of_eq hRight hStart hSize
  exact ⟨left, rightRest, by rw [hText, ← hRight], hStart, by rw [hText, hSize]⟩

theorem stands_unreadable (source : List Char) : (unreadable source).Stands source := by
  have hAll : inOrderWithin 0 (byteSize source) [] = true := by simp [inOrderWithin]
  have hError : (mk .error ⟨0, byteSize source⟩ false []).Stands source :=
    stands_mk (by decide) (seam_zero source) (seam_byteSize source) hAll (List.forall_mem_nil _)
  refine stands_mk (by decide) (seam_zero source) (seam_byteSize source) ?_
    (List.forall_mem_singleton.mpr hError)
  exact inOrderWithin_cons.mpr ⟨Nat.le_refl 0, hError.ordered, by simp [inOrderWithin, stop, span]⟩

end Node

/-- What is asked of a parser: the tree of every source stands on it, and its root is a file or a
fault. -/
structure Parser.Sound [Parser] : Prop where
  stands (source : List Char) : (parse source).Stands source
  isRoot (source : List Char) : (parse source).isRoot = true

end BuildScan.Go
