import BuildScan.Proofs.Tree
import BuildScan.Proofs.Walk
import Mathlib.Data.List.Forall2

/-!
# What a walk sees of a tree

A node is visible if it is the root, or a child of a visible node that is the root or a group
(`Visible`).  `walk_eq_projection` says that the facts of a file are those of its visible nodes,
each of them once and in the order of the text: import paths, function names, and the directives of
the comments.

The order of the text is that of the ways down from the root, compared place by place
(`InDocumentOrder`).  The recursion that lists the visible nodes with their ways (`visiblePlaces`)
lists each of them once and in this order, and a walk adds up what the listed nodes contribute
(`findings_eq_sum_places`).

Nothing else of a tree matters: trees that look alike (`LooksLike`), where all that stands below a
node of another kind may differ, show the same facts.
-/

namespace BuildScan

open BuildScan.Text BuildScan.Go

/-! ### Visible nodes -/

/-- The node `n` is visible in a tree; `path` is the way down to it, with the place among its
siblings at each step. -/
inductive Visible (root : Node) : List Nat → Node → Prop
  | root : Visible root [] root
  | child {path : List Nat} {n c : Node} {i : Nat} : Visible root path n →
      (path = [] ∨ n.kind.isGroup = true) → n.children[i]? = some c → Visible root (path ++ [i]) c

/-- A list of all visible nodes, each of them once, in the order of the text: a node before what
stands below it, and a child with all below it before the next one. -/
structure InDocumentOrder (root : Node) (places : List (List Nat × Node)) : Prop where
  exact : ∀ path n, (path, n) ∈ places ↔ Visible root path n
  ordered : places.Pairwise fun a b => a.1 < b.1

mutual

/-- What is seen from a node at the end of a way. -/
def placesOf (path : List Nat) : Node → List (List Nat × Node)
  | .mk kind span missing children =>
    (path, .mk kind span missing children) :: if kind.isGroup then placesIn path 0 children else []

/-- What is seen from some siblings, the first of which has the place `i`. -/
def placesIn (path : List Nat) (i : Nat) : List Node → List (List Nat × Node)
  | [] => []
  | n :: ns => placesOf (path ++ [i]) n ++ placesIn path (i + 1) ns

end

/-- The visible nodes of a tree with the ways to them. -/
def visiblePlaces (root : Node) : List (List Nat × Node) :=
  ([], root) :: placesIn [] 0 root.children

theorem placesOf_eq (path : List Nat) (n : Node) :
    placesOf path n = (path, n) :: if n.kind.isGroup then placesIn path 0 n.children else [] := by
  obtain ⟨kind, span, missing, children⟩ := n
  rw [placesOf]
  rfl

theorem mem_placesIn {path q : List Nat} {m : Node} {i : Nat} {ns : List Node} :
    (q, m) ∈ placesIn path i ns ↔
      ∃ j c, ns[j]? = some c ∧ (q, m) ∈ placesOf (path ++ [i + j]) c := by
  induction ns generalizing i with
  | nil => simp [placesIn]
  | cons n ns ih =>
    rw [placesIn, List.mem_append, ih]
    constructor
    · rintro (h | ⟨j, c, hc, h⟩)
      · exact ⟨0, n, rfl, h⟩
      · refine ⟨j + 1, c, hc, ?_⟩
        rwa [Nat.add_assoc, Nat.add_comm 1 j] at h
    · rintro ⟨j, c, hc, h⟩
      cases j with
      | zero =>
        obtain rfl : n = c := Option.some.inj hc
        exact Or.inl h
      | succ j =>
        refine Or.inr ⟨j, c, hc, ?_⟩
        rwa [Nat.add_assoc, Nat.add_comm 1 j]

theorem mem_placesOf {path q : List Nat} {n m : Node} :
    (q, m) ∈ placesOf path n ↔ (q = path ∧ m = n) ∨
      (n.kind.isGroup = true ∧
        ∃ i c, n.children[i]? = some c ∧ (q, m) ∈ placesOf (path ++ [i]) c) := by
  rw [placesOf_eq, List.mem_cons, Prod.mk.injEq]
  by_cases hGroup : n.kind.isGroup = true
  · rw [if_pos hGroup, mem_placesIn]
    simp [hGroup]
  · simp [hGroup]

theorem visible_of_mem_placesOf {root n m : Node} {path q : List Nat} (h : Visible root path n)
    (hm : (q, m) ∈ placesOf path n) : Visible root q m := by
  induction n using Node.ind generalizing path with
  | h kind span missing children ih =>
    rcases mem_placesOf.mp hm with ⟨rfl, rfl⟩ | ⟨hGroup, i, c, hc, hm⟩
    · exact h
    · exact ih c (List.mem_of_getElem? hc) (.child h (Or.inr hGroup) hc) hm

theorem child_mem_placesOf {n m c : Node} {path q : List Nat} {i : Nat}
    (hm : (q, m) ∈ placesOf path n) (hGroup : m.kind.isGroup = true)
    (hc : m.children[i]? = some c) :
    (q ++ [i], c) ∈ placesOf path n := by
  induction n using Node.ind generalizing path with
  | h kind span missing children ih =>
    rcases mem_placesOf.mp hm with ⟨rfl, rfl⟩ | ⟨hTop, j, d, hd, hm⟩
    · exact mem_placesOf.mpr (Or.inr ⟨hGroup, i, c, hc, mem_placesOf.mpr (Or.inl ⟨rfl, rfl⟩)⟩)
    · exact mem_placesOf.mpr
        (Or.inr ⟨hTop, j, d, hd, ih d (List.mem_of_getElem? hd) hm⟩)

theorem prefix_of_mem_placesOf {n m : Node} {path q : List Nat} (hm : (q, m) ∈ placesOf path n) :
    path <+: q := by
  induction n using Node.ind generalizing path with
  | h kind span missing children ih =>
    rcases mem_placesOf.mp hm with ⟨rfl, rfl⟩ | ⟨-, i, c, hc, hm⟩
    · exact List.prefix_rfl
    · exact (List.prefix_append path [i]).trans (ih c (List.mem_of_getElem? hc) hm)

theorem mem_visiblePlaces {root n : Node} {path : List Nat} :
    (path, n) ∈ visiblePlaces root ↔ (path = [] ∧ n = root) ∨
      ∃ i c, root.children[i]? = some c ∧ (path, n) ∈ placesOf [i] c := by
  rw [visiblePlaces, List.mem_cons, Prod.mk.injEq, mem_placesIn]
  simp

theorem mem_visiblePlaces_iff {root n : Node} {path : List Nat} :
    (path, n) ∈ visiblePlaces root ↔ Visible root path n := by
  constructor
  · intro h
    rcases mem_visiblePlaces.mp h with ⟨rfl, rfl⟩ | ⟨i, c, hc, h⟩
    · exact .root
    · exact visible_of_mem_placesOf (.child .root (Or.inl rfl) hc) h
  · intro h
    induction h with
    | root => exact mem_visiblePlaces.mpr (Or.inl ⟨rfl, rfl⟩)
    | @child path n c i _ hOpen hc ih =>
      rcases mem_visiblePlaces.mp ih with ⟨rfl, rfl⟩ | ⟨j, d, hd, hn⟩
      · exact mem_visiblePlaces.mpr (Or.inr ⟨i, c, hc, mem_placesOf.mpr (Or.inl ⟨rfl, rfl⟩)⟩)
      · have hGroup : n.kind.isGroup = true := by
          refine hOpen.resolve_left ?_
          rintro rfl
          simpa using (prefix_of_mem_placesOf hn).length_le
        exact mem_visiblePlaces.mpr (Or.inr ⟨j, d, hd, child_mem_placesOf hn hGroup hc⟩)

/-! ### Order of the text -/

theorem lt_of_child_prefix {path q : List Nat} {i : Nat} (h : path ++ [i] <+: q) : path < q := by
  obtain ⟨rest, rfl⟩ := h
  have hNil : path ++ [] < path ++ ([i] ++ rest) := List.append_left_lt (List.nil_lt_cons i rest)
  rwa [List.append_nil, ← List.append_assoc] at hNil

/-- A way through an earlier child comes before one through a later child. -/
theorem lt_of_sibling_prefix {path q r : List Nat} {i j : Nat} (hij : i < j)
    (hq : path ++ [i] <+: q) (hr : path ++ [j] <+: r) : q < r := by
  obtain ⟨left, rfl⟩ := hq
  obtain ⟨right, rfl⟩ := hr
  rw [List.append_assoc, List.append_assoc]
  exact List.append_left_lt (List.cons_lt_cons_iff.mpr (Or.inl hij))

theorem pairwise_placesIn {path : List Nat} {ns : List Node} {i : Nat}
    (h : ∀ c ∈ ns, ∀ p, (placesOf p c).Pairwise fun a b => a.1 < b.1) :
    (placesIn path i ns).Pairwise fun a b => a.1 < b.1 := by
  induction ns generalizing i with
  | nil => exact List.Pairwise.nil
  | cons n ns ih =>
    rw [placesIn, List.pairwise_append]
    refine ⟨h n List.mem_cons_self _, ih fun c hc => h c (List.mem_cons_of_mem _ hc), ?_⟩
    rintro ⟨q, m⟩ hq ⟨r, k⟩ hr
    obtain ⟨j, c, -, hr⟩ := mem_placesIn.mp hr
    exact lt_of_sibling_prefix (by omega) (prefix_of_mem_placesOf hq) (prefix_of_mem_placesOf hr)

theorem pairwise_cons_placesIn {path : List Nat} {n : Node} {ns : List Node}
    (h : ∀ c ∈ ns, ∀ p, (placesOf p c).Pairwise fun a b => a.1 < b.1) :
    ((path, n) :: placesIn path 0 ns).Pairwise fun a b => a.1 < b.1 := by
  refine List.Pairwise.cons ?_ (pairwise_placesIn h)
  rintro ⟨q, m⟩ hm
  obtain ⟨j, c, -, hm⟩ := mem_placesIn.mp hm
  exact lt_of_child_prefix (prefix_of_mem_placesOf hm)

theorem pairwise_placesOf (path : List Nat) (n : Node) :
    (placesOf path n).Pairwise fun a b => a.1 < b.1 := by
  induction n using Node.ind generalizing path with
  | h kind span missing children ih =>
    rw [placesOf_eq]
    split
    · exact pairwise_cons_placesIn fun c hc p => ih c hc p
    · exact List.pairwise_singleton _ _

/-- The recursion lists the visible nodes, each of them once and in the order of the text. -/
theorem inDocumentOrder_visiblePlaces (root : Node) :
    InDocumentOrder root (visiblePlaces root) where
  exact _ _ := mem_visiblePlaces_iff
  ordered := pairwise_cons_placesIn fun c _ p => pairwise_placesOf p c

/-! ### Walks -/

theorem View.findingsIn_eq_sum_places {v : View} {ns : List Node}
    (h : ∀ c ∈ ns, ∀ p,
      v.findings c = Findings.sum ((placesOf p c).map fun place => v.contribution place.2))
    (path : List Nat) (i : Nat) :
    v.findingsIn ns =
      Findings.sum ((placesIn path i ns).map fun place => v.contribution place.2) := by
  induction ns generalizing i with
  | nil => rw [findingsIn, placesIn, List.map_nil, Findings.sum_nil]
  | cons n ns ih =>
    rw [findingsIn, placesIn, List.map_append, Findings.sum_append,
      ← h n List.mem_cons_self, ← ih fun c hc => h c (List.mem_cons_of_mem _ hc)]

/-- A walk adds up what the listed nodes contribute. -/
theorem View.findings_eq_sum_places (v : View) (path : List Nat) (n : Node) :
    v.findings n = Findings.sum ((placesOf path n).map fun place => v.contribution place.2) := by
  induction n using Node.ind generalizing path with
  | h kind span missing children ih =>
    rw [findings_eq, placesOf_eq, List.map_cons, Findings.sum_cons]
    congr 1
    split
    · exact findingsIn_eq_sum_places (fun c hc p => ih c hc p) path 0
    · rfl

theorem View.findingsIn_children_eq_sum {v : View} {root : Node} (h : root.kind = .sourceFile) :
    v.findingsIn root.children =
      Findings.sum (((visiblePlaces root).map Prod.snd).map v.contribution) := by
  rw [List.map_map, visiblePlaces, List.map_cons, Findings.sum_cons]
  simp only [Function.comp_apply, v.contribution_sourceFile h, Findings.none_append]
  exact findingsIn_eq_sum_places (fun c _ p => v.findings_eq_sum_places p c) [] 0

/-- The facts of a file in terms of its visible nodes. -/
theorem walk_eq_visiblePlaces {source : List Char} {tags : BuildTags} {functions : Bool}
    {root : Node} (hFile : root.kind = .sourceFile) :
    walk source tags functions root =
      let view := viewOf source tags functions root
      let visible := (visiblePlaces root).map Prod.snd
      let comments := visible.filter fun n => n.kind = .comment
      (⟨String.ofList ((packageName? source root).getD []), visible.filterMap (importPath? source),
        if functions then visible.filterMap (functionName? source) else [],
        comments.flatMap fun n => (view.findingsOfComment n).directives⟩,
        comments.flatMap fun n => (view.findingsOfComment n).log) := by
  obtain ⟨hDirectives, hLog⟩ := View.commentOf_sum_contribution (viewOf source tags functions root)
    ((visiblePlaces root).map Prod.snd)
  rw [walk_eq hFile]
  dsimp only
  rw [View.findingsIn_children_eq_sum hFile, View.deps_sum_contribution,
    View.funcs_sum_contribution, hDirectives, hLog]
  rfl

/-! ### Trees that look alike -/

/-- Two nodes of trees of one source look alike: they are of one kind and stand at one place, and
either they are groups with children that look alike, or they are no groups and agree in the path of
an import and the name of a function.  What else stands below them may differ. -/
inductive LooksLike (source : List Char) : Node → Node → Prop
  | group {kind : NodeKind} {span : Span} {missing : Bool} {ns ms : List Node} :
      kind.isGroup = true → List.Forall₂ (LooksLike source) ns ms →
      LooksLike source (.mk kind span missing ns) (.mk kind span missing ms)
  | closed {kind : NodeKind} {span : Span} {missing : Bool} {ns ms : List Node} :
      kind.isGroup = false →
      importPath? source (.mk kind span missing ns) =
        importPath? source (.mk kind span missing ms) →
      functionName? source (.mk kind span missing ns) =
        functionName? source (.mk kind span missing ms) →
      LooksLike source (.mk kind span missing ns) (.mk kind span missing ms)

/-- Two trees of one source look alike: so do the children of their roots, one by one, and their
package clauses give the same name. -/
structure FilesLookAlike (source : List Char) (root other : Node) : Prop where
  kind : other.kind = root.kind
  children : List.Forall₂ (LooksLike source) root.children other.children
  package : packageName? source other = packageName? source root

theorem LooksLike.kind_eq {source : List Char} {n m : Node} (h : LooksLike source n m) :
    m.kind = n.kind := by
  cases h <;> rfl

theorem LooksLike.start_eq {source : List Char} {n m : Node} (h : LooksLike source n m) :
    m.start = n.start := by
  cases h <;> rfl

theorem View.findingsIn_congr {v : View} {R : Node → Node → Prop} {ns ms : List Node}
    (h : List.Forall₂ R ns ms) (hR : ∀ n ∈ ns, ∀ m, R n m → v.findings m = v.findings n) :
    v.findingsIn ms = v.findingsIn ns := by
  induction h with
  | nil => rfl
  | @cons n m ns ms hHead _ ih =>
    rw [findingsIn, findingsIn, hR n List.mem_cons_self m hHead,
      ih fun c hc => hR c (List.mem_cons_of_mem _ hc)]

/-- Nodes that look alike contribute the same, with all that is seen below them. -/
theorem LooksLike.findings_eq {v : View} {n m : Node} (h : LooksLike v.source n m) :
    v.findings m = v.findings n := by
  induction n using Node.ind generalizing m with
  | h kind span missing children ih =>
    cases h with
    | @group _ _ _ _ ms hGroup hChildren =>
      have hLeft : v.contribution (.mk kind span missing ms) = .none := v.contribution_group hGroup
      have hRight : v.contribution (.mk kind span missing children) = .none :=
        v.contribution_group hGroup
      rw [v.findings_eq, v.findings_eq (.mk kind span missing children), hLeft, hRight]
      simp only [Node.kind, hGroup, if_true, Node.children]
      rw [View.findingsIn_congr hChildren fun c hc d hd => ih c hc hd]
    | @closed _ _ _ _ ms hClosed hImport hFunction =>
      rw [v.findings_eq, v.findings_eq (.mk kind span missing children)]
      simp only [Node.kind, hClosed, Bool.false_eq_true, if_false, View.contribution, ← hImport,
        ← hFunction]
      rfl

theorem packageStart_eq_of_forall₂ {source : List Char} {ns ms : List Node}
    (h : List.Forall₂ (LooksLike source) ns ms) (p : NodeKind → Bool) :
    (ms.find? fun c => p c.kind).map Node.start = (ns.find? fun c => p c.kind).map Node.start := by
  induction h with
  | nil => rfl
  | @cons n m ns ms hHead _ ih =>
    rw [List.find?_cons, List.find?_cons, hHead.kind_eq]
    cases p n.kind with
    | true => exact congrArg some hHead.start_eq
    | false => exact ih

theorem FilesLookAlike.packageStart_eq {source : List Char} {root other : Node}
    (h : FilesLookAlike source root other) : packageStart other = packageStart root := by
  rw [packageStart, packageStart, Node.packageClause?, Node.packageClause?, Node.namedChildren,
    Node.namedChildren, List.find?_filter, List.find?_filter]
  exact congrArg (·.getD 0) (packageStart_eq_of_forall₂ h.children
    fun kind => decide (kind.isNamed = true ∧ decide (kind = .packageClause) = true))

/-- Trees that look alike show the same facts. -/
theorem FilesLookAlike.walk_eq {source : List Char} {root other : Node}
    (h : FilesLookAlike source root other) (tags : BuildTags) (functions : Bool) :
    walk source tags functions other = walk source tags functions root := by
  by_cases hKind : root.kind = .sourceFile
  · rw [BuildScan.walk_eq hKind, BuildScan.walk_eq (h.kind.trans hKind), h.package, viewOf,
      h.packageStart_eq]
    rw [View.findingsIn_congr h.children fun n _ m hm => LooksLike.findings_eq (by exact hm)]
    rfl
  · rw [walk_eq_none hKind, walk_eq_none (h.kind ▸ hKind)]

/-- **A walk shows what is visible**, each node once and in the order of the text, and nothing else
of the tree matters. -/
theorem walk_eq_projection {source : List Char} {tags : BuildTags} {functions : Bool} {root : Node}
    (hFile : root.kind = .sourceFile) :
    (∃ places, InDocumentOrder root places ∧
      let visible := places.map Prod.snd
      let comments := visible.filter fun n => n.kind = .comment
      -- a comment is one of the header if it starts before the package clause
      let found (n : Node) : Findings :=
        if n.start < packageStart root then
          View.headerFindings (n.text source) (Position.ofOffset source n.start)
        else
          (viewOf source tags functions root).bodyFindings (n.text source)
            (Position.ofOffset source n.start)
      (walk source tags functions root).1.deps = visible.filterMap (importPath? source) ∧
      (walk source tags functions root).1.funcs =
        (if functions then visible.filterMap (functionName? source) else []) ∧
      (walk source tags functions root).1.directives =
        comments.flatMap (fun n => (found n).directives) ∧
      (walk source tags functions root).2 = comments.flatMap (fun n => (found n).log)) ∧
    ∀ other, FilesLookAlike source root other →
      walk source tags functions other = walk source tags functions root := by
  refine ⟨⟨visiblePlaces root, inDocumentOrder_visiblePlaces root, ?_⟩,
    fun other h => h.walk_eq tags functions⟩
  rw [walk_eq_visiblePlaces hFile]
  exact ⟨rfl, rfl, rfl, rfl⟩

/-- A file with a function. -/
def calledText : List Char := "package p\nimport \"a\"\nfunc f() {g()}".toList

/-- Its tree, with some nodes for the body of the function. -/
def calledTree (body : List Node) : Node :=
  .mk .sourceFile ⟨0, 35⟩ false
    [.mk .packageClause ⟨0, 9⟩ false [.mk .packageIdentifier ⟨8, 9⟩ false []],
      .mk .importDeclaration ⟨10, 20⟩ false
        [.mk .importSpec ⟨17, 20⟩ false [.mk .interpretedString ⟨17, 20⟩ false []]],
      .mk .functionDeclaration ⟨21, 35⟩ false
        [.mk .identifier ⟨26, 27⟩ false [], .mk (.other "block") ⟨30, 35⟩ false body]]

/-- Not even an import or another function is seen in the body of a function. -/
theorem walk_eq_projection_calledTree :
    let body : List Node :=
      [.mk .importSpec ⟨17, 20⟩ false [.mk .interpretedString ⟨17, 20⟩ false []],
        .mk .functionDeclaration ⟨31, 34⟩ false [.mk .identifier ⟨31, 32⟩ false []]]
    (calledTree []).kind = .sourceFile ∧
    FilesLookAlike calledText (calledTree []) (calledTree body) ∧
      walk calledText ⟨[]⟩ true (calledTree body) = (⟨"p", ["\"a\""], ["f"], []⟩, []) := by
  intro body
  have hFile : (calledTree []).kind = .sourceFile := rfl
  have hAlike : FilesLookAlike calledText (calledTree []) (calledTree body) :=
    ⟨rfl, .cons (.closed rfl rfl rfl) (.cons (.group rfl (.cons (.closed rfl rfl rfl) .nil))
      (.cons (.closed rfl rfl rfl) .nil)), rfl⟩
  refine ⟨hFile, hAlike, ?_⟩
  rw [(walk_eq_projection hFile).2 _ hAlike]
  rfl

end BuildScan
