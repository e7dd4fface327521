import BuildScan.Go.Reader
import BuildScan.Proofs.Parsing.Run
import BuildScan.Proofs.Seams

/-!
# The parser that runs is sound

The reader's scanner only goes forward from one seam to another (`Numbering.scansOn`), so whatever a
reader makes of a source starts and stops at its seams (`seamed_of_readTree?`).  That the nodes
stand in order and that comments are comments is checked of each tree, and where no tree is taken
there is one node for the whole source.
-/

namespace BuildScan.Go

open BuildScan.Text BuildScan.Parsing

/-! ### The scanner -/

variable {text : List Char}

theorem seam_of_on {p : Place} (h : p.On text) : Seam text p.offset := by
  obtain ⟨before, behind, hText, hOffset⟩ := h
  exact ⟨before, p.rest ++ behind, hText, hOffset⟩

namespace Numbering

variable (n : Numbering)

theorem on_opening {p : Place} (h : p.On text) : (opening p).On text :=
  .ite (Place.advance_on h 1) h

theorem on_behindBlanks (sought : TokenSet) (fuel : Nat) {p : Place} (h : p.On text) :
    (n.behindBlanks sought fuel p).1.On text := by
  induction fuel generalizing p with
  | zero => exact h
  | succ fuel ih =>
    rw [behindBlanks]
    split
    · exact h
    · split
      · exact h
      · split
        · exact ih (Place.advance_on h 1)
        · exact h

/-- What the scanner finds starts and stops on the text. -/
theorem scansOn (text : List Char) (sought : TokenSet) {p : Place} (h : p.On text) :
    (n.scan sought p).On text := by
  have hStart := on_opening h
  have hBehind := n.on_behindBlanks sought ((opening p).rest.length + 1) hStart
  rw [scan]
  generalize hFound : (if (n.adjoining sought (opening p).rest).isThere then
      (opening p, n.adjoining sought (opening p).rest)
    else
      let other := n.behindBlanks sought ((opening p).rest.length + 1) (opening p)
      if other.2.isThere || (n.adjoining sought (opening p).rest).length ≤ other.2.length then other
      else (opening p, n.adjoining sought (opening p).rest)) = found
  have hOn : found.1.On text := by
    rw [← hFound]
    split
    · exact hStart
    · dsimp only
      split
      · exact hBehind
      · exact hStart
  split
  · exact ⟨hOn, Place.advance_on hOn _⟩
  · exact ⟨hOn, Place.advance_on hOn _⟩

end Numbering

theorem languageOf_scansOn (g : Grammar Terminal) (text : List Char) :
    (languageOf g).ScansOn text :=
  fun sought _ hp => (Numbering.ofTerminals g.terminals).scansOn text sought hp

/-! ### Trees -/

/-- The nodes of a reader's tree start and stop where its trees do. -/
theorem seamed_of_mem_nodesOf (kinds : Kinds) {t : Subtree} (h : t.On text) :
    ∀ n ∈ nodesOf kinds t, n.Seamed text := by
  induction h with
  | @mk trunk children hStart hStop _ ih =>
    have hBelow (ts : List Subtree) (hts : ts ⊆ children) :
        ∀ n ∈ nodesOfAll kinds ts, n.Seamed text := by
      induction ts with
      | nil => exact List.forall_mem_nil _
      | cons t ts ihTs =>
        intro n hn
        obtain ⟨hFirst, hRest⟩ := List.cons_subset.mp hts
        rcases List.mem_append.mp hn with hn | hn
        · exact ih t hFirst n hn
        · exact ihTs hRest n hn
    intro n hn
    rw [nodesOf] at hn
    split at hn
    · obtain rfl := List.mem_singleton.mp hn
      exact Node.seamed_mk (seam_of_on hStart) (seam_of_on hStop) (hBelow children fun _ hc => hc)
    · exact hBelow children (fun _ hc => hc) n hn

theorem language_get : language.get = languageOf grammar := by
  have hThunk {α : Type} (f : Unit → α) : (Thunk.mk f).get = f () := rfl
  rw [language, hThunk]

theorem seamed_of_readTree? {source : List Char} {root : Node} (h : readTree? source = some root) :
    root.Seamed source := by
  have hScans := languageOf_scansOn grammar source
  rw [← language_get] at hScans
  -- only the name of the function is unfolded: compared with its body it would evaluate the grammar
  conv at h => lhs; fun; delta readTree?
  generalize language.get = l at h hScans
  generalize Kinds.ofGrammar grammar = kinds at h
  cases hTree : l.parse? source with
  | none =>
    rw [hTree] at h
    cases h
  | some tree =>
    rw [hTree] at h
    exact seamed_of_mem_nodesOf kinds (Language.on_of_parse? hScans hTree) root
      (List.mem_of_head? h)

theorem isSound_iff {source : List Char} {root : Node} : root.isSound source = true ↔
    root.stop ≤ byteSize source ∧ root.inOrder = true ∧ root.commentsHold source = true ∧
      root.isRoot = true := by
  simp only [Node.isSound, Bool.and_eq_true, decide_eq_true_eq, and_assoc]

theorem stands_treeOf {source : List Char} {read : Option Node}
    (hSeamed : ∀ root, read = some root → root.Seamed source) :
    (treeOf source read).Stands source := by
  cases read with
  | none => exact Node.stands_unreadable source
  | some root =>
    rw [treeOf]
    split
    next hSound =>
      obtain ⟨-, hOrder, hComments, -⟩ := isSound_iff.mp hSound
      exact ⟨hSeamed root rfl, hOrder, Node.commentsHold_iff.mp hComments⟩
    next => exact Node.stands_unreadable source

theorem isRoot_treeOf (source : List Char) (read : Option Node) :
    (treeOf source read).isRoot = true := by
  cases read with
  | none => rfl
  | some root =>
    rw [treeOf]
    split
    next hSound => exact (isSound_iff.mp hSound).2.2.2
    next => rfl

/-- **What is asked of a parser holds of the one that runs.** -/
theorem sound_reader : @Parser.Sound reader :=
  @Parser.Sound.mk reader (fun _ => stands_treeOf fun _ h => seamed_of_readTree? h)
    fun source => isRoot_treeOf source (readTree? source)

end BuildScan.Go
