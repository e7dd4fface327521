import BuildScan.Proofs.Tree

/-!
# Which syntax trees are refused

A file is refused for its syntax or for its package clause.  `rejection_rule` says exactly when, for
every tree whose nodes stand in order:

* as a test unit the file is refused for every fault, otherwise only for one that starts before the
  end of its header (`HeaderEnd`);
* the fault that is reported is the first one in the order of the text, and no other starts earlier;
* a file that is not refused for its syntax is refused unless its first node apart from comments is
  the package clause.

Only the first fault is ever looked at.  That is enough because it starts first
(`Node.start_le_of_firstFault?`): if some fault starts before the end of the header, then so does
this one.
-/

namespace BuildScan.Go

open BuildScan.Text

/-- The first of some nodes that has a property. -/
def IsFirst (P : Node → Prop) (ns : List Node) (n : Node) : Prop :=
  P n ∧ ∃ before behind, ns = before ++ n :: behind ∧ ∀ m ∈ before, ¬ P m

theorem find?_eq_some_iff_isFirst {p : Node → Bool} {ns : List Node} {n : Node} :
    ns.find? p = some n ↔ IsFirst (fun m => p m = true) ns n := by
  rw [List.find?_eq_some_iff_append, IsFirst]
  simp

theorem find?_eq_some_iff_isFirst_of_iff {p : Node → Bool} {P : Node → Prop}
    (hP : ∀ m, p m = true ↔ P m) {ns : List Node} {n : Node} :
    ns.find? p = some n ↔ IsFirst P ns n := by
  rw [find?_eq_some_iff_isFirst, funext fun m => propext (hP m)]

/-! ### The end of the header -/

/-- A word stands at the front of a text and is no part of a longer one. -/
def StandsAlone (word : String) (cs : List Char) : Prop :=
  ∃ rest, cs = word.toList ++ rest ∧
    ∀ c, rest.head? = some c → isAlphanumeric c = false ∧ c ≠ '_'

/-- A declaration of the body, or a fault whose text starts with a word that opens such a
declaration. -/
def EndsHeader (source : List Char) (n : Node) : Prop :=
  n.kind ∈ [.functionDeclaration, .methodDeclaration, .typeDeclaration, .varDeclaration,
      .constDeclaration] ∨
    n.kind = .error ∧
      ∃ word ∈ ["func", "type", "var", "const"], StandsAlone word (dropBytes n.start source)

/-- Where the header of a file ends, if it does: the start of the first child of the root that ends
it. -/
inductive HeaderEnd (source : List Char) (root : Node) : Option Nat → Prop
  | never : (∀ n ∈ root.children, ¬ EndsHeader source n) → HeaderEnd source root none
  | start {n : Node} : IsFirst (EndsHeader source) root.children n →
      HeaderEnd source root (some n.start)

theorem opensWith_iff {word : String} {cs : List Char} :
    opensWith word cs = true ↔ StandsAlone word cs := by
  rw [opensWith, StandsAlone, Bool.and_eq_true, List.isPrefixOf_iff_prefix]
  constructor
  · rintro ⟨⟨rest, rfl⟩, hEnd⟩
    refine ⟨rest, rfl, fun c hc => ?_⟩
    rw [← String.length_toList, List.drop_left, hc] at hEnd
    simpa using hEnd
  · rintro ⟨rest, rfl, hEnd⟩
    refine ⟨⟨rest, rfl⟩, ?_⟩
    rw [← String.length_toList, List.drop_left]
    cases hc : rest.head? with
    | none => rfl
    | some c => simp [hEnd c hc]

theorem isBody_iff {kind : NodeKind} :
    kind.isBody = true ↔ kind ∈ [.functionDeclaration, .methodDeclaration, .typeDeclaration,
      .varDeclaration, .constDeclaration] := by
  cases kind <;> simp [NodeKind.isBody]

theorem Node.opensBody_iff {source : List Char} {n : Node} :
    n.opensBody source = true ↔ EndsHeader source n := by
  rw [Node.opensBody, EndsHeader, Bool.or_eq_true, Bool.and_eq_true, isBody_iff, beq_iff_eq,
    List.any_eq_true]
  simp only [opensWith_iff, bodyKeywords]

theorem headerEnd_iff {source : List Char} {root : Node} {stop : Option Nat} :
    HeaderEnd source root stop ↔ root.headerEnd? source = stop := by
  rw [Node.headerEnd?]
  constructor
  · rintro (hNone | hFirst)
    · rw [List.find?_eq_none.mpr fun n hn => mt Node.opensBody_iff.mp (hNone n hn)]
      rfl
    · rw [(find?_eq_some_iff_isFirst_of_iff fun _ => Node.opensBody_iff).mpr hFirst]
      rfl
  · rintro rfl
    cases hFind : root.children.find? (Node.opensBody source) with
    | none =>
      exact .never fun n hn => mt Node.opensBody_iff.mpr (List.find?_eq_none.mp hFind n hn)
    | some n =>
      exact .start ((find?_eq_some_iff_isFirst_of_iff fun _ => Node.opensBody_iff).mp hFind)

/-! ### Faults that count -/

/-- The fault starts before the place where faults stop to count, if there is one. -/
def StartsBefore (limit : Option Nat) (n : Node) : Prop :=
  ∀ stop, limit = some stop → n.start < stop

theorem all_start_lt_iff {limit : Option Nat} {n : Node} :
    (limit.all fun stop => decide (n.start < stop)) = true ↔ StartsBefore limit n := by
  cases limit <;> simp [StartsBefore]

/-- Where faults stop to count. -/
def faultLimit (source : List Char) (wholeFile : Bool) (root : Node) : Option Nat :=
  if wholeFile then none else root.headerEnd? source

theorem fatalFault?_eq_some_iff {source : List Char} {wholeFile : Bool} {root f : Node} :
    fatalFault? source wholeFile root = some f ↔
      root.firstFault? = some f ∧ StartsBefore (faultLimit source wholeFile root) f := by
  by_cases hAny : root.hasFault = true
  · rw [fatalFault?, if_pos hAny, Option.filter_eq_some_iff, ← all_start_lt_iff]
    rfl
  · rw [fatalFault?, if_neg hAny]
    refine ⟨fun h => (nomatch h), fun h => absurd ?_ hAny⟩
    rw [Node.firstFault?_eq_find?] at h
    exact Node.hasFault_iff.mpr ⟨f, List.mem_of_find?_eq_some h.1, List.find?_some h.1⟩

theorem firstFault?_eq_some_iff {root f : Node} :
    root.firstFault? = some f ↔ IsFirst (fun m => m.isFault = true) root.nodes f := by
  rw [Node.firstFault?_eq_find?, find?_eq_some_iff_isFirst]

theorem exists_firstFault? {root n : Node} (hn : n ∈ root.nodes) (hFault : n.isFault = true) :
    ∃ f, root.firstFault? = some f := by
  rw [Node.firstFault?_eq_find?, ← Option.isSome_iff_exists, List.find?_isSome]
  exact ⟨n, hn, hFault⟩

theorem exists_fatalFault?_iff {source : List Char} {wholeFile : Bool} {root : Node}
    (hOrder : root.inOrder = true) :
    (∃ f, fatalFault? source wholeFile root = some f) ↔
      ∃ n ∈ root.nodes, n.isFault = true ∧ StartsBefore (faultLimit source wholeFile root) n := by
  constructor
  · rintro ⟨f, hf⟩
    obtain ⟨hFirst, hCounts⟩ := fatalFault?_eq_some_iff.mp hf
    rw [Node.firstFault?_eq_find?] at hFirst
    exact ⟨f, List.mem_of_find?_eq_some hFirst, List.find?_some hFirst, hCounts⟩
  · rintro ⟨n, hn, hFault, hCounts⟩
    obtain ⟨f, hf⟩ := exists_firstFault? hn hFault
    have hLeast := Node.start_le_of_firstFault? hOrder hf hn hFault
    refine ⟨f, fatalFault?_eq_some_iff.mpr ⟨hf, fun stop hStop => ?_⟩⟩
    exact Nat.lt_of_le_of_lt hLeast (hCounts stop hStop)

/-! ### The rule -/

/-- A node that has a name and is no comment. -/
def IsItem (n : Node) : Prop := n.kind.isNamed = true ∧ n.kind ≠ .comment

theorem find?_item_eq_some_iff {root first : Node} :
    (root.namedChildren.find? fun c => c.kind ≠ .comment) = some first ↔
      IsFirst IsItem root.children first := by
  rw [Node.namedChildren, List.find?_filter]
  exact find?_eq_some_iff_isFirst_of_iff fun m => by simp [IsItem]

/-- Without a fatal fault the first item of the file decides. -/
theorem rejection?_eq_packageError? {source : List Char} {wholeFile : Bool} {root : Node}
    (h : fatalFault? source wholeFile root = none) :
    rejection? source wholeFile root = packageError? source root := by
  rw [rejection?, h]

theorem packageError?_of_isFirst {source : List Char} {root first : Node}
    (h : IsFirst IsItem root.children first) :
    packageError? source root =
      if first.kind = .packageClause then none
      else some (parseError source first.start "expected 'package'") := by
  rw [packageError?, find?_item_eq_some_iff.mpr h]

theorem packageError?_of_forall_not {source : List Char} {root : Node}
    (h : ∀ n ∈ root.children, ¬ IsItem n) :
    packageError? source root =
      some (parseError source root.stop "expected 'package', found EOF") := by
  have hNone : (root.namedChildren.find? fun c => c.kind ≠ .comment) = none := by
    rw [Option.eq_none_iff_forall_ne_some]
    intro n hn
    obtain ⟨hItem, before, behind, hSplit, -⟩ := find?_item_eq_some_iff.mp hn
    exact h n (by rw [hSplit]; simp) hItem
  rw [packageError?, hNone]

theorem exists_isFirst_or_forall_not (root : Node) :
    (∃ first, IsFirst IsItem root.children first) ∨ ∀ n ∈ root.children, ¬ IsItem n := by
  cases hFind : root.namedChildren.find? fun c => c.kind ≠ .comment with
  | some first => exact Or.inl ⟨first, find?_item_eq_some_iff.mp hFind⟩
  | none =>
    refine Or.inr fun n hn hItem => ?_
    have hComment := List.find?_eq_none.mp hFind n (List.mem_filter.mpr ⟨hn, hItem.1⟩)
    simp [hItem.2] at hComment

theorem packageError?_eq_none_iff {source : List Char} {root : Node} :
    packageError? source root = none ↔
      ∃ first, IsFirst IsItem root.children first ∧ first.kind = .packageClause := by
  rcases exists_isFirst_or_forall_not root with ⟨first, hFirst⟩ | hNone
  · rw [packageError?_of_isFirst hFirst]
    constructor
    · intro h
      by_cases hKind : first.kind = .packageClause
      · exact ⟨first, hFirst, hKind⟩
      · simp [hKind] at h
    · rintro ⟨other, hOther, hKind⟩
      obtain rfl := Option.some.inj
        ((find?_item_eq_some_iff.mpr hFirst).symm.trans (find?_item_eq_some_iff.mpr hOther))
      rw [if_pos hKind]
  · rw [packageError?_of_forall_not hNone]
    refine ⟨fun h => (nomatch h), ?_⟩
    rintro ⟨first, ⟨hItem, before, behind, hSplit, -⟩, -⟩
    exact absurd hItem (hNone first (by rw [hSplit]; simp))

/-- **The rule of rejection.**  `stop` is the end of the header. -/
theorem rejection_rule {source : List Char} {root : Node} {stop : Option Nat}
    (hOrder : root.inOrder = true) (hHeader : HeaderEnd source root stop) :
    -- a plain file is refused for the faults of its header, a test unit for all
    ((∃ f, fatalFault? source false root = some f) ↔
      ∃ n ∈ root.nodes, n.isFault = true ∧ StartsBefore stop n) ∧
    ((∃ f, fatalFault? source true root = some f) ↔ ∃ n ∈ root.nodes, n.isFault = true) ∧
    -- the first fault is the one reported, and no other starts earlier
    (∀ wholeFile f, fatalFault? source wholeFile root = some f →
      rejection? source wholeFile root =
          some (parseError source f.start (f.faultMessage source)) ∧
        IsFirst (fun n => n.isFault = true) root.nodes f ∧
        ∀ n ∈ root.nodes, n.isFault = true → f.start ≤ n.start) ∧
    -- otherwise the first item must be the package clause
    (∀ wholeFile, fatalFault? source wholeFile root = none →
      (rejection? source wholeFile root = none ↔
        ∃ first, IsFirst IsItem root.children first ∧ first.kind = .packageClause) ∧
      (∀ first, IsFirst IsItem root.children first → first.kind ≠ .packageClause →
        rejection? source wholeFile root =
          some (parseError source first.start "expected 'package'")) ∧
      ((∀ n ∈ root.children, ¬ IsItem n) →
        rejection? source wholeFile root =
          some (parseError source root.stop "expected 'package', found EOF"))) := by
  refine ⟨?_, ?_, ?_, ?_⟩
  · rw [exists_fatalFault?_iff hOrder, faultLimit, if_neg Bool.false_ne_true,
      headerEnd_iff.mp hHeader]
  · rw [exists_fatalFault?_iff hOrder, faultLimit, if_pos rfl]
    simp [StartsBefore]
  · intro wholeFile f hf
    have hFirst := (fatalFault?_eq_some_iff.mp hf).1
    refine ⟨?_, firstFault?_eq_some_iff.mp hFirst, ?_⟩
    · rw [rejection?, hf]
    · intro n hn hFault
      exact Node.start_le_of_firstFault? hOrder hFirst hn hFault
  · intro wholeFile hNone
    rw [rejection?_eq_packageError? hNone]
    refine ⟨packageError?_eq_none_iff, ?_, packageError?_of_forall_not⟩
    intro first hFirst hKind
    rw [packageError?_of_isFirst hFirst, if_neg hKind]

/-- A file that breaks off in its first function. -/
def brokenText : List Char := "package p\nfunc f(".toList

def brokenFunction : Node := .mk .error ⟨10, 17⟩ false [.mk .identifier ⟨15, 16⟩ false []]

/-- Its tree: the function is a fault. -/
def brokenTree : Node :=
  .mk .sourceFile ⟨0, 17⟩ false
    [.mk .packageClause ⟨0, 9⟩ false [.mk .packageIdentifier ⟨8, 9⟩ false []], brokenFunction]

/-- The broken function ends the header, so the file is refused as a test unit only. -/
theorem rejection_rule_brokenTree :
    brokenTree.inOrder = true ∧ HeaderEnd brokenText brokenTree (some 10) ∧
      rejection? brokenText false brokenTree = none ∧
      rejection? brokenText true brokenTree =
        some (.parse ⟨2, 1⟩ "syntax error near 'func f('") := by
  have hOrder : brokenTree.inOrder = true := by decide
  have hHeader : HeaderEnd brokenText brokenTree (some 10) := headerEnd_iff.mpr (by decide)
  obtain ⟨hPlain, hTest, hReport, hItem⟩ := rejection_rule hOrder hHeader
  refine ⟨hOrder, hHeader, ?_, ?_⟩
  · have hNone : fatalFault? brokenText false brokenTree = none := by
      rw [Option.eq_none_iff_forall_ne_some]
      intro f hf
      obtain ⟨n, hn, hFault, hCounts⟩ := hPlain.mp ⟨f, hf⟩
      have hLate : ∀ n ∈ brokenTree.nodes, n.isFault = true → 10 ≤ n.start := by decide
      have hEarly := hCounts 10 rfl
      have := hLate n hn hFault
      omega
    exact (hItem false hNone).1.mpr
      ⟨_, find?_item_eq_some_iff.mp (by rfl), rfl⟩
  · obtain ⟨f, hf⟩ := hTest.mpr (by decide)
    obtain ⟨hError, hFirst, -⟩ := hReport true f hf
    have hFound : brokenTree.firstFault? = some brokenFunction := by rfl
    obtain rfl : brokenFunction = f :=
      Option.some.inj (hFound.symm.trans (firstFault?_eq_some_iff.mpr hFirst))
    rw [hError]
    rfl

end BuildScan.Go
