import BuildScan.Scan

/-!
# What the nodes of a tree contribute

The facts of a file are put together from what its nodes contribute.  `View.contribution` is the
share of a single node, without what stands below it, and `View.findings_eq` says that a node yields
its own share and then, if it is a group, that of its children.
-/

namespace BuildScan

open BuildScan.Text BuildScan.Go

/-! ### Putting findings together -/

namespace Findings

@[simp] theorem deps_append (a b : Findings) : (a ++ b).deps = a.deps ++ b.deps := rfl

@[simp] theorem funcs_append (a b : Findings) : (a ++ b).funcs = a.funcs ++ b.funcs := rfl

@[simp] theorem directives_append (a b : Findings) :
    (a ++ b).directives = a.directives ++ b.directives := rfl

@[simp] theorem log_append (a b : Findings) : (a ++ b).log = a.log ++ b.log := rfl

@[simp] theorem deps_none : Findings.none.deps = [] := rfl

@[simp] theorem funcs_none : Findings.none.funcs = [] := rfl

@[simp] theorem directives_none : Findings.none.directives = [] := rfl

@[simp] theorem log_none : Findings.none.log = [] := rfl

theorem ext {a b : Findings} (hDeps : a.deps = b.deps) (hFuncs : a.funcs = b.funcs)
    (hDirectives : a.directives = b.directives) (hLog : a.log = b.log) : a = b := by
  cases a
  cases b
  simp_all

@[simp] theorem none_append (a : Findings) : Findings.none ++ a = a := rfl

@[simp] theorem append_none (a : Findings) : a ++ Findings.none = a :=
  ext (by simp) (by simp) (by simp) (by simp)

theorem append_assoc (a b c : Findings) : a ++ b ++ c = a ++ (b ++ c) :=
  ext (by simp) (by simp) (by simp) (by simp)

/-- Some findings in a row. -/
def sum (fs : List Findings) : Findings := fs.foldr (· ++ ·) .none

@[simp] theorem sum_nil : sum [] = .none := rfl

@[simp] theorem sum_cons (f : Findings) (fs : List Findings) : sum (f :: fs) = f ++ sum fs := rfl

theorem sum_append (fs gs : List Findings) : sum (fs ++ gs) = sum fs ++ sum gs := by
  induction fs with
  | nil => rfl
  | cons f fs ih => rw [List.cons_append, sum_cons, ih, sum_cons, append_assoc]

end Findings

/-! ### Single nodes -/

/-- The path of an import as written, if the node is one with a path. -/
def importPath? (source : List Char) (n : Node) : Option String :=
  if n.kind = .importSpec then n.path?.map fun p => String.ofList (p.text source) else none

/-- The name of a function, if the node is one with a name. -/
def functionName? (source : List Char) (n : Node) : Option String :=
  if n.kind = .functionDeclaration then n.name?.map fun p => String.ofList (p.text source) else none

/-- The directives of a comment, if the node is one. -/
def View.commentOf (v : View) (n : Node) : Findings :=
  if n.kind = .comment then v.commentFindings n.start (n.text v.source) else .none

/-- What a node contributes without the nodes below it. -/
def View.contribution (v : View) (n : Node) : Findings :=
  { deps := (importPath? v.source n).toList
    funcs := if v.functions then (functionName? v.source n).toList else []
    directives := (v.commentOf n).directives
    log := (v.commentOf n).log }

/-- Directives and warnings are all that is found. -/
def Findings.OfComments (f : Findings) : Prop := f.deps = [] ∧ f.funcs = []

theorem Findings.ofComments_append {a b : Findings} (ha : a.OfComments) (hb : b.OfComments) :
    (a ++ b).OfComments := by
  constructor
  · rw [deps_append, ha.1, hb.1]
    rfl
  · rw [funcs_append, ha.2, hb.2]
    rfl

namespace View

variable (v : View)

theorem lineFindings_ofComments (line : List Char) (position : Position) :
    (v.lineFindings line position).OfComments := by
  rw [lineFindings]
  split <;> exact ⟨rfl, rfl⟩

/-- What a comment says depends on the tags, and on where the package clause starts. -/
theorem blockFindings_congr {v w : View} (hTags : v.tags = w.tags) (position : Position)
    (ls : List (List Char)) : v.blockFindings position ls = w.blockFindings position ls := by
  induction ls generalizing position with
  | nil => rfl
  | cons l ls ih => rw [blockFindings, blockFindings, lineFindings, lineFindings, hTags, ih]

theorem commentFindings_congr {v w : View} (hSource : v.source = w.source) (hTags : v.tags = w.tags)
    (hStart : v.packageStart = w.packageStart) (start : Nat) (text : List Char) :
    v.commentFindings start text = w.commentFindings start text := by
  have hBlock := fun position => blockFindings_congr hTags position
  simp only [commentFindings, bodyFindings, lineFindings, hSource, hTags, hStart, hBlock]

theorem blockFindings_ofComments (position : Position) (ls : List (List Char)) :
    (v.blockFindings position ls).OfComments := by
  induction ls generalizing position with
  | nil => exact ⟨rfl, rfl⟩
  | cons l ls ih =>
    rw [blockFindings]
    split
    · exact ⟨rfl, rfl⟩
    · exact Findings.ofComments_append (v.lineFindings_ofComments l position) (ih _)

theorem commentFindings_ofComments (start : Nat) (text : List Char) :
    (v.commentFindings start text).OfComments := by
  rw [commentFindings]
  split
  · rw [headerFindings]
    split <;> exact ⟨rfl, rfl⟩
  · rw [bodyFindings]
    split
    · exact v.lineFindings_ofComments _ _
    · split
      · exact v.blockFindings_ofComments _ _
      · exact ⟨rfl, rfl⟩

theorem contribution_eq_none {n : Node} (hImport : n.kind ≠ .importSpec)
    (hComment : n.kind ≠ .comment)
    (hFunction : n.kind ≠ .functionDeclaration) : v.contribution n = .none := by
  simp [contribution, importPath?, functionName?, commentOf, hImport, hFunction, hComment,
    Findings.none]

theorem contribution_group {n : Node} (h : n.kind.isGroup = true) : v.contribution n = .none := by
  apply contribution_eq_none <;> rintro hKind <;> simp [hKind, NodeKind.isGroup] at h

theorem findings_importSpec (span : Span) (missing : Bool) (children : List Node) :
    v.findings (.mk .importSpec span missing children) =
      v.contribution (.mk .importSpec span missing children) := by
  rw [findings]
  exact Findings.ext rfl (by simp [contribution, functionName?, Node.kind]) rfl rfl

theorem findings_comment (span : Span) (missing : Bool) (children : List Node) :
    v.findings (.mk .comment span missing children) =
      v.contribution (.mk .comment span missing children) := by
  obtain ⟨hDeps, hFuncs⟩ := v.commentFindings_ofComments span.start
    ((Node.mk .comment span missing children).text v.source)
  rw [findings]
  refine Findings.ext hDeps ?_ rfl rfl
  rw [hFuncs]
  simp [contribution, functionName?, Node.kind]

theorem findings_functionDeclaration (span : Span) (missing : Bool) (children : List Node) :
    v.findings (.mk .functionDeclaration span missing children) =
      v.contribution (.mk .functionDeclaration span missing children) := by
  rw [findings]
  cases hFunctions : v.functions <;>
    simp [contribution, importPath?, functionName?, commentOf, Node.kind, hFunctions, Findings.none]

/-- **A node yields its own share and, as a group, that of its children.** -/
theorem findings_eq (n : Node) :
    v.findings n =
      v.contribution n ++ if n.kind.isGroup then v.findingsIn n.children else .none := by
  obtain ⟨kind, span, missing, children⟩ := n
  by_cases hImport : kind = .importSpec
  · subst hImport
    rw [findings_importSpec]
    exact (Findings.append_none _).symm
  by_cases hComment : kind = .comment
  · subst hComment
    rw [findings_comment]
    exact (Findings.append_none _).symm
  by_cases hFunction : kind = .functionDeclaration
  · subst hFunction
    rw [findings_functionDeclaration]
    exact (Findings.append_none _).symm
  have hNone : v.contribution (.mk kind span missing children) = .none :=
    v.contribution_eq_none hImport hComment hFunction
  rw [hNone, Findings.none_append]
  rw [findings] <;> first | rfl | assumption

theorem findingsIn_eq_sum (ns : List Node) :
    v.findingsIn ns = Findings.sum (ns.map v.findings) := by
  induction ns with
  | nil => rw [findingsIn, List.map_nil, Findings.sum_nil]
  | cons n ns ih => rw [findingsIn, ih, List.map_cons, Findings.sum_cons]

theorem findingsIn_append (ms ns : List Node) :
    v.findingsIn (ms ++ ns) = v.findingsIn ms ++ v.findingsIn ns := by
  rw [findingsIn_eq_sum, findingsIn_eq_sum, findingsIn_eq_sum, List.map_append, Findings.sum_append]

theorem findingsIn_namedChildren (n : Node) :
    v.findingsIn n.namedChildren = v.findingsIn n.children := by
  rw [Node.namedChildren]
  induction n.children with
  | nil => rfl
  | cons c cs ih =>
    by_cases hNamed : c.kind.isNamed = true
    · rw [List.filter_cons, if_pos hNamed, findingsIn, findingsIn, ih]
    · have hNone : v.findings c = .none := by
        obtain ⟨kind, span, missing, children⟩ := c
        cases kind with
        | token text => rfl
        | _ => exact absurd rfl hNamed
      rw [List.filter_cons, if_neg hNamed, findingsIn, hNone, Findings.none_append, ih]

theorem contribution_sourceFile {n : Node} (h : n.kind = .sourceFile) :
    v.contribution n = .none := by
  apply contribution_eq_none <;> simp [h]

/-! What some nodes contribute together -/

theorem deps_sum_contribution (ns : List Node) :
    (Findings.sum (ns.map v.contribution)).deps = ns.filterMap (importPath? v.source) := by
  induction ns with
  | nil => rfl
  | cons n ns ih =>
    rw [List.map_cons, Findings.sum_cons, Findings.deps_append, ih, List.filterMap_cons]
    cases hPath : importPath? v.source n <;> simp [contribution, hPath]

theorem funcs_sum_contribution (ns : List Node) :
    (Findings.sum (ns.map v.contribution)).funcs =
      if v.functions then ns.filterMap (functionName? v.source) else [] := by
  induction ns with
  | nil => simp
  | cons n ns ih =>
    rw [List.map_cons, Findings.sum_cons, Findings.funcs_append, ih, List.filterMap_cons]
    cases hFunctions : v.functions
    · simp [contribution, hFunctions]
    · cases hName : functionName? v.source n <;> simp [contribution, hFunctions, hName]

/-- The findings of a comment where it stands. -/
def findingsOfComment (n : Node) : Findings := v.commentFindings n.start (n.text v.source)

theorem commentOf_sum_contribution (ns : List Node) :
    (Findings.sum (ns.map v.contribution)).directives =
        (ns.filter fun n => n.kind = .comment).flatMap
          (fun n => (v.findingsOfComment n).directives) ∧
      (Findings.sum (ns.map v.contribution)).log =
        (ns.filter fun n => n.kind = .comment).flatMap fun n => (v.findingsOfComment n).log := by
  induction ns with
  | nil => exact ⟨rfl, rfl⟩
  | cons n ns ih =>
    rw [List.map_cons, Findings.sum_cons, Findings.directives_append, Findings.log_append, ih.1,
      ih.2, List.filter_cons]
    by_cases hComment : n.kind = .comment
    · simp [contribution, commentOf, findingsOfComment, hComment]
    · simp [contribution, commentOf, hComment]

end View

/-! ### Files -/

/-- Where the package clause of a file starts; comments before it are of the header. -/
def packageStart (root : Node) : Nat := (root.packageClause?.map Node.start).getD 0

/-- The name that the package clause of a file gives, if there is one. -/
def packageName? (source : List Char) (root : Node) : Option (List Char) :=
  (root.packageClause?.bind fun c => c.namedChildren.find? fun n => n.kind = .packageIdentifier).map
    (Node.text source)

/-- How a walk looks at a file. -/
def viewOf (source : List Char) (tags : BuildTags) (functions : Bool) (root : Node) : View :=
  ⟨source, tags, functions, packageStart root⟩

theorem walk_eq {source : List Char} {tags : BuildTags} {functions : Bool} {root : Node}
    (h : root.kind = .sourceFile) :
    walk source tags functions root =
      let found := (viewOf source tags functions root).findingsIn root.children
      (⟨String.ofList ((packageName? source root).getD []), found.deps, found.funcs,
        found.directives⟩, found.log) := by
  rw [walk, if_pos h]
  rfl

theorem walk_eq_none {source : List Char} {tags : BuildTags} {functions : Bool} {root : Node}
    (h : root.kind ≠ .sourceFile) : walk source tags functions root = (.none, []) := by
  rw [walk, if_neg h]

/-! ### Scans -/

variable [Go.Parser] {tags : BuildTags} {source : String} {isTest : Bool}

theorem scan_of_rejected {e : BuildError}
    (h : rejection? source.toList isTest (Go.parse source.toList) = some e) :
    scan tags source isTest = (.error e, []) := by
  simp only [scan, h]

theorem scan_of_accepted (h : rejection? source.toList isTest (Go.parse source.toList) = none) :
    scan tags source isTest =
      (.ok (walk source.toList tags isTest (Go.parse source.toList)).1,
        (walk source.toList tags isTest (Go.parse source.toList)).2) := by
  simp only [scan, h]

end BuildScan
